import CNShell.Client.Exports
import CNShell.Client.Import
import CNShell.Relay.Demo

/-! What an import leaves of what is stored, whichever of its calls fail. -/

namespace CNShell

namespace Client

open Section

variable {host : HostSystem} {os : TargetOs} {faults : Faults} {now minute : String} {uuid : Nat → String}
variable {taken : String → Bool} {desktop next later before : DesktopState} {input : SaveConnectionInput}
variable {connections inputs : List SaveConnectionInput} {position count : Nat} {error : AppError}
variable {undo whole : DesktopState → DesktopState}

/-- From wherever the stores are as they are now, a change leads back to what they were before. -/
def LeadsBack (os : TargetOs) (before desktop : DesktopState) (undo : DesktopState → DesktopState) : Prop :=
  ∀ later, later.stores os = desktop.stores os → (undo later).stores os = before.stores os

theorem LeadsBack.refl (os : TargetOs) (desktop : DesktopState) : LeadsBack os desktop desktop id :=
  fun _ same => same

theorem LeadsBack.comp {middle : DesktopState} {earlier last : DesktopState → DesktopState}
    (first : LeadsBack os before middle earlier) (second : LeadsBack os middle next last) :
    LeadsBack os before next (earlier ∘ last) :=
  fun later same => first (last later) (second later same)

section Credentials

theorem importCredential_error (ran : importCredential host faults input desktop = (.error error, next)) :
    next.stores host.os = desktop.stores host.os := by
  cases given : input.credential with
  | none =>
    simp only [importCredential, given] at ran
    cases ran
  | some secret =>
    simp only [importCredential, given] at ran
    split at ran
    · rcases bind_eq_error.mp ran with unread | ⟨previous, middle, read, ran⟩
      · rw [loadCredential_error unread]
      · obtain ⟨-, same, -⟩ := loadCredential_ok read
        rcases bind_eq_error.mp ran with unsaved | ⟨reference, kept, -, ran⟩
        · rw [← saveCredential_error unsaved, same]
        · cases ran
    · cases ran

theorem importCredential_ok {prepared : Prepared}
    (ran : importCredential host faults input desktop = (.ok prepared, next)) :
    next.stores host.os = (desktop.stores host.os).setCredential input.id
        (importedCredential input (desktop.credential input.id host.os)) ∧
      LeadsBack host.os desktop next prepared.undo := by
  have nothing : (desktop.stores host.os).setCredential input.id (desktop.credential input.id host.os) =
      desktop.stores host.os := Stores.setCredential_self _ _
  cases given : input.credential with
  | none =>
    simp only [importCredential, given] at ran
    cases ran
    rw [importedCredential, if_neg fun keeps => by rw [KeepsCredential, given] at keeps; exact absurd keeps.2.2 (by simp)]
    exact ⟨nothing.symm, LeadsBack.refl _ _⟩
  | some secret =>
    simp only [importCredential, given] at ran
    split at ran
    · next asks =>
      obtain ⟨previous, middle, read, ran⟩ := Section.bind_eq_ok.mp ran
      obtain ⟨reference, kept, saved, ran⟩ := Section.bind_eq_ok.mp ran
      obtain ⟨rfl, same, -⟩ := loadCredential_ok read
      obtain ⟨-, stored⟩ := saveCredential_ok saved
      cases ran
      rw [same] at stored
      have keeps : KeepsCredential input := ⟨asks.1, asks.2, by rw [given]; rfl⟩
      refine ⟨by rw [importedCredential, if_pos keeps, given, stored], fun later left => ?_⟩
      -- The credential of before is written over the imported one.
      rw [stores_restore, left, stored, Stores.setCredential_setCredential]
      exact nothing
    · next spared =>
      cases ran
      rw [importedCredential, if_neg fun keeps => spared ⟨keeps.1, keeps.2.1⟩]
      exact ⟨nothing.symm, LeadsBack.refl _ _⟩

theorem importCredentials_error (back : LeadsBack host.os before desktop undo)
    (ran : importCredentials host faults position inputs undo desktop = (.error error, next)) :
    next.stores host.os = before.stores host.os := by
  induction inputs generalizing position desktop undo with
  | nil => cases ran
  | cons input rest ih =>
    simp only [importCredentials] at ran
    rcases bind_eq_error.mp ran with stopped | ⟨prepared, middle, first, ran⟩
    · obtain ⟨middle, failed, rfl⟩ := undoing_eq_error.mp stopped
      exact back middle (importCredential_error failed)
    · obtain ⟨-, way⟩ := importCredential_ok (undoing_eq_ok.mp first)
      rcases bind_eq_error.mp ran with further | ⟨_, _, _, ran⟩
      · exact ih (back.comp way) further
      · cases ran

theorem importCredentials_ok {entries : List (SaveConnectionInput × Option String)}
    (back : LeadsBack host.os before desktop undo)
    (ran : importCredentials host faults position inputs undo desktop = (.ok (entries, whole), next)) :
    entries.map Prod.fst = inputs ∧
      next.stores host.os = { desktop.stores host.os with
        credentials := updates SaveConnectionInput.id importedCredential inputs (desktop.stores host.os).credentials } ∧
      LeadsBack host.os before next whole := by
  induction inputs generalizing position desktop undo entries with
  | nil =>
    cases ran
    exact ⟨rfl, rfl, back⟩
  | cons input rest ih =>
    simp only [importCredentials] at ran
    obtain ⟨prepared, middle, first, ran⟩ := Section.bind_eq_ok.mp ran
    obtain ⟨⟨others, last⟩, final, second, ran⟩ := Section.bind_eq_ok.mp ran
    obtain ⟨stored, way⟩ := importCredential_ok (undoing_eq_ok.mp first)
    cases ran
    obtain ⟨same, left, done⟩ := ih (back.comp way) second
    refine ⟨by rw [List.map_cons, same], ?_, done⟩
    rw [left, stored]
    rfl

end Credentials

section Files

variable {preserve : Bool} {library : BackupLibrary} {passphrase : Option String} {bytes : List UInt8}

theorem importInputs_ok
    (checked : importInputs host faults taken uuid minute desktop position connections = .ok inputs) :
    inputs = arriving taken uuid minute desktop position connections := by
  induction connections generalizing position inputs with
  | nil => exact (pure_eq_ok.mp checked).symm
  | cons connection rest ih =>
    simp only [importInputs, CNShell.bind_eq_ok, pure_eq_ok] at checked
    obtain ⟨_, -, _, -, others, further, rfl⟩ := checked
    rw [arriving, ih further]

theorem importFile_error
    (ran : importFile host faults now preserve uuid minute connections desktop = (.error error, next)) :
    next.stores host.os = desktop.stores host.os := by
  unfold importFile at ran
  rw [get_bind_apply] at ran
  -- Nothing is written before all requests are checked.
  rcases bind_eq_error.mp ran with unlisted | ⟨taken, _, listed, ran⟩
  · rw [← (Prod.mk.inj unlisted).2]
  obtain ⟨-, rfl⟩ := check_eq_ok.mp listed
  rcases bind_eq_error.mp ran with refused | ⟨inputs, _, checked, ran⟩
  · rw [← (Prod.mk.inj refused).2]
  obtain ⟨-, rfl⟩ := check_eq_ok.mp checked
  rcases bind_eq_error.mp ran with failed | ⟨⟨prepared, undo⟩, middle, stored, ran⟩
  · exact importCredentials_error (LeadsBack.refl _ _) failed
  obtain ⟨-, -, back⟩ := importCredentials_ok (LeadsBack.refl _ _) stored
  rcases bind_eq_error.mp ran with unwritten | ⟨_, _, _, ran⟩
  · obtain ⟨left, stopped, rfl⟩ := undoing_eq_error.mp unwritten
    -- The transaction that failed has changed no row.
    rcases reach_bind_error.mp stopped with ⟨-, rfl⟩ | ⟨-, written⟩
    · exact back middle rfl
    · cases written
  · cases ran

/-- The ids that a sync import takes for used are those of the rows that are not deleted. -/
def used (preserve : Bool) (desktop : DesktopState) (id : String) : Bool := preserve && (desktop.live id).isSome

theorem importFile_ok
    (ran : importFile host faults now preserve uuid minute connections desktop = (.ok count, next)) :
    ∃ entries, entries.map Prod.fst = arriving (used preserve desktop) uuid minute desktop 0 connections ∧
      next.stores host.os = (desktop.stores host.os).afterImport now entries := by
  unfold importFile at ran
  rw [get_bind_apply] at ran
  obtain ⟨taken, listed, ran⟩ := check_bind_eq_ok.mp ran
  have known : taken = used preserve desktop := by
    funext id
    cases preserve with
    | false =>
      obtain rfl := Except.ok.inj listed
      rfl
    | true =>
      cases fault : faults.result .listConnections with
      | error error =>
        rw [if_pos rfl, fault] at listed
        cases listed
      | ok _ =>
        rw [if_pos rfl, fault] at listed
        obtain rfl := Except.ok.inj listed
        rfl
  obtain ⟨inputs, checked, ran⟩ := check_bind_eq_ok.mp ran
  obtain ⟨⟨entries, undo⟩, middle, stored, ran⟩ := Section.bind_eq_ok.mp ran
  obtain ⟨_, last, written, ran⟩ := Section.bind_eq_ok.mp ran
  obtain ⟨same, credentials, -⟩ := importCredentials_ok (LeadsBack.refl _ _) stored
  obtain ⟨-, rows⟩ := reach_bind_ok.mp (undoing_eq_ok.mp written)
  cases rows
  cases ran
  rw [importInputs_ok checked, known] at same
  refine ⟨entries, same, ?_⟩
  have kept : middle.connections = desktop.connections := congrArg Stores.connections credentials
  rw [stores_writeRows, credentials, kept, Stores.afterImport, same, importInputs_ok checked, known]
  rfl

/-- Whatever fails, a backup is imported as a whole, or nothing that was stored is changed. -/
theorem importBackup_atomic (library : BackupLibrary) (host : HostSystem) (faults : Faults) (now : String)
    (uuid : Nat → String) (minute : String) (preserve : Bool) (passphrase : Option String) (bytes : List UInt8)
    (desktop next : DesktopState) (error : AppError)
    (ran : importBackup library host faults now uuid minute preserve passphrase bytes desktop = (.error error, next)) :
    next.connections = desktop.connections ∧ ∀ id, next.credential id host.os = desktop.credential id host.os := by
  have kept : next.stores host.os = desktop.stores host.os := by
    rcases bind_eq_error.mp ran with undecoded | ⟨connections, _, decoded, ran⟩
    · rw [← (Prod.mk.inj undecoded).2]
    · obtain ⟨-, rfl⟩ := check_eq_ok.mp decoded
      exact importFile_error ran
  exact ⟨congrArg Stores.connections kept, congrFun (congrArg Stores.credentials kept)⟩

end Files

section Existing

/-- Every row that was there is as it was, and so is every credential under an id that was in use. -/
structure LeavesExisting (os : TargetOs) (desktop after : DesktopState) : Prop where
  rows : ∀ id, desktop.connections id ≠ none → after.connections id = desktop.connections id
  credentials : ∀ id, desktop.connections id ≠ none ∨ desktop.credential id os ≠ none →
    after.credential id os = desktop.credential id os

def lastSecret (connections : List SaveConnectionInput) (id : String) : Option String :=
  (connections.filter fun connection => connection.id = id ∧ KeepsCredential connection).getLast?.bind
    SaveConnectionInput.credential

/--
A package has no connection of the trash, and for an id that only has a credential no other one than that.
-/
structure Foreign (os : TargetOs) (desktop : DesktopState) (connections : List SaveConnectionInput) : Prop where
  rows : ∀ connection ∈ connections, desktop.live connection.id = none → desktop.connections connection.id = none
  credentials : ∀ id, desktop.connections id = none → desktop.credential id os ≠ none →
    ∀ secret, lastSecret connections id = some secret → desktop.credential id os = some secret

/-- The ids that are drawn are those of no connection and of no credential. -/
def NewIds (uuid : Nat → String) (os : TargetOs) (desktop : DesktopState) : Prop :=
  ∀ position, desktop.connections (uuid position) = none ∧ desktop.credential (uuid position) os = none

variable {id : String}

theorem importedCredential_request {stamp : String} {connection : SaveConnectionInput} :
    importedCredential (sanitizeImportReferences desktop (conflictCopy taken id stamp connection)) =
      importedCredential connection := by
  funext old
  unfold conflictCopy
  split <;> rfl

theorem mem_ids_arriving (free : taken id = false) (member : id ∈ connections.map SaveConnectionInput.id) :
    id ∈ (arriving taken uuid minute desktop position connections).map SaveConnectionInput.id := by
  induction connections generalizing position with
  | nil => cases member
  | cons connection rest ih =>
    rw [arriving, List.map_cons, List.mem_cons]
    rcases List.mem_cons.mp member with rfl | later
    · left
      rw [conflictCopy, if_neg (by simp [free])]
      rfl
    · exact .inr (ih later)

theorem foldl_arriving (free : taken id = false) (drawn : ∀ position, uuid position ≠ id) (old : Option String) :
    ((arriving taken uuid minute desktop position connections).filter fun input => input.id = id).foldl
        (fun old input => importedCredential input old) old =
      (connections.filter fun connection => connection.id = id).foldl
        (fun old connection => importedCredential connection old) old := by
  induction connections generalizing position old with
  | nil => rfl
  | cons connection rest ih =>
    have same : (sanitizeImportReferences desktop (conflictCopy taken (uuid position) minute connection)).id = id ↔
        connection.id = id := by
      unfold conflictCopy
      split
      · next used =>
        constructor
        · exact fun named => absurd named (drawn position)
        · rintro rfl
          rw [free] at used
          cases used
      · exact Iff.rfl
    rw [arriving]
    by_cases here : connection.id = id
    · rw [List.filter_cons_of_pos (by simpa using same.mpr here), List.filter_cons_of_pos (by simpa using here),
        List.foldl_cons, List.foldl_cons, importedCredential_request, ih]
    · rw [List.filter_cons_of_neg (by simpa using fun named => here (same.mp named)),
        List.filter_cons_of_neg (by simpa using here), ih]

theorem foldl_importedCredential (old : Option String) : (connections.filter fun connection => connection.id = id).foldl
        (fun old connection => importedCredential connection old) old =
      (lastSecret connections id).or old := by
  induction connections using List.reverseRecOn with
  | nil => rfl
  | append_singleton rest last ih =>
    rw [List.filter_append, List.foldl_append, ih, lastSecret, lastSecret, List.filter_append]
    by_cases here : last.id = id
    · rw [List.filter_cons_of_pos (by simpa using here)]
      by_cases keeps : KeepsCredential last
      · have held : last.credential.isSome = true := keeps.2.2
        rw [List.filter_cons_of_pos (by simp [here, keeps])]
        simp only [List.filter_nil, List.foldl_cons, List.foldl_nil, importedCredential, if_pos keeps,
          List.getLast?_append, List.getLast?_singleton, Option.some_or, Option.bind_some]
        exact (Option.or_of_isSome held).symm
      · rw [List.filter_cons_of_neg (by simp [keeps])]
        simp [importedCredential, keeps]
    · rw [List.filter_cons_of_neg (by simpa using here), List.filter_cons_of_neg (by simp [here])]
      simp

variable {entries : List (SaveConnectionInput × Option String)}

/-- A sync import leaves what there was exactly when its package is foreign to the device. -/
theorem leavesExisting_iff (new : NewIds uuid os desktop)
    (requests : entries.map Prod.fst = arriving (used true desktop) uuid minute desktop 0 connections)
    (left : next.stores os = (desktop.stores os).afterImport now entries) :
    LeavesExisting os desktop next ↔ Foreign os desktop connections := by
  have rows : next.connections = updates (fun entry => entry.1.id) (importedRow now) entries desktop.connections :=
    congrArg Stores.connections left
  have credentials : ∀ id, next.credential id os = updates SaveConnectionInput.id importedCredential
      (arriving (used true desktop) uuid minute desktop 0 connections) (fun id => desktop.credential id os) id := by
    intro id
    rw [← requests]
    exact congrFun (congrArg Stores.credentials left) id
  have ids : entries.map (fun entry => entry.1.id) =
      (arriving (used true desktop) uuid minute desktop 0 connections).map SaveConnectionInput.id := by
    rw [← requests, List.map_map]
    rfl
  -- A request under an id that was in use is that of a connection that was not live.
  have asked : ∀ id, desktop.connections id ≠ none ∨ desktop.credential id os ≠ none →
      id ∈ (arriving (used true desktop) uuid minute desktop 0 connections).map SaveConnectionInput.id →
      ∃ connection ∈ connections, connection.id = id ∧ desktop.live id = none := by
    intro id there member
    obtain ⟨input, inside, rfl⟩ := List.mem_map.mp member
    rcases id_of_mem_arriving inside with ⟨connection, listed, free, named⟩ | ⟨drawn, -, -, named⟩
    · refine ⟨connection, listed, named.symm, ?_⟩
      rw [named]
      simpa [used] using free
    · rw [named] at there
      exact absurd (new drawn) (by rintro ⟨rowless, bare⟩; simp [rowless, bare] at there)
  constructor
  · intro leaves
    constructor
    · intro connection member dead
      by_contra there
      have revived : ∃ row, next.connections connection.id = some row ∧ row.deletedAt = none := by
        rw [rows]
        refine updates_holds (fun value => ∃ row : ConnectionRow, value = some row ∧ row.deletedAt = none) ?_ ?_
        · intro entry old
          refine ⟨_, rfl, ?_⟩
          cases old <;> rfl
        · rw [ids]
          exact mem_ids_arriving (by simp [used, dead]) (List.mem_map_of_mem member)
      obtain ⟨row, found, alive⟩ := revived
      rw [leaves.rows _ there] at found
      simp [DesktopState.live, found, alive] at dead
    · intro id rowless there secret last
      have kept := leaves.credentials id (.inr there)
      rw [credentials, updates_apply, foldl_arriving, foldl_importedCredential, last] at kept
      · exact kept.symm
      · simp [used, DesktopState.live, rowless]
      · rintro position rfl
        exact there (new position).2
  · intro foreign
    constructor
    · intro id there
      rw [rows]
      refine updates_of_not_mem ?_
      rw [ids]
      intro member
      obtain ⟨connection, listed, rfl, dead⟩ := asked id (.inl there) member
      exact there (foreign.rows connection listed dead)
    · intro id there
      rw [credentials]
      by_cases row : desktop.connections id = none
      · have held : desktop.credential id os ≠ none := there.resolve_left (not_not.mpr row)
        rw [updates_apply, foldl_arriving, foldl_importedCredential]
        · cases last : lastSecret connections id with
          | none => rfl
          | some secret => exact (foreign.credentials id row held secret last).symm
        · simp [used, DesktopState.live, row]
        · rintro position rfl
          exact held (new position).2
      · refine updates_of_not_mem fun member => ?_
        obtain ⟨connection, listed, rfl, dead⟩ := asked id (.inl row) member
        exact row (foreign.rows connection listed dead)

/--
A sync package that is refused leaves everything as it was, and one that is read leaves what there was exactly when
it is foreign to the device.
-/
theorem syncRead_leavesExisting (library : BackupLibrary) (host : HostSystem) (faults : Faults) (now : String)
    (uuid : Nat → String) (minute : String) (folder : SyncFolder) (passphrase : String) (desktop after : DesktopState)
    (result : AppResult SyncResult) (new : NewIds uuid host.os desktop)
    (ran : syncRead library host faults now uuid minute folder passphrase desktop = (result, after)) :
    (∀ error, result = .error error → LeavesExisting host.os desktop after) ∧
      ∀ read, result = .ok read → ∃ bytes connections, folder syncFile = some bytes ∧
        decodeBackup library (some passphrase) bytes = .ok connections ∧
        (LeavesExisting host.os desktop after ↔ Foreign host.os desktop connections) := by
  refine ⟨?_, ?_⟩
  · rintro error rfl
    have kept : after.stores host.os = desktop.stores host.os := by
      rcases bind_eq_error.mp ran with short | ⟨_, _, long, ran⟩
      · rw [← (Prod.mk.inj short).2]
      obtain ⟨-, rfl⟩ := check_eq_ok.mp long
      rcases bind_eq_error.mp ran with missing | ⟨bytes, _, found, ran⟩
      · rw [← (Prod.mk.inj missing).2]
      obtain ⟨-, rfl⟩ := check_eq_ok.mp found
      rcases bind_eq_error.mp ran with failed | ⟨_, _, _, ran⟩
      · rcases bind_eq_error.mp failed with undecoded | ⟨connections, _, decoded, ran⟩
        · rw [← (Prod.mk.inj undecoded).2]
        · obtain ⟨-, rfl⟩ := check_eq_ok.mp decoded
          exact importFile_error ran
      · cases ran
    exact ⟨fun id _ => congrFun (congrArg Stores.connections kept) id,
      fun id _ => congrFun (congrArg Stores.credentials kept) id⟩
  · rintro read rfl
    obtain ⟨_, -, ran⟩ := check_bind_eq_ok.mp ran
    obtain ⟨bytes, found, ran⟩ := check_bind_eq_ok.mp ran
    obtain ⟨count, last, imported, ran⟩ := Section.bind_eq_ok.mp ran
    cases ran
    obtain ⟨connections, decoded, imported⟩ := check_bind_eq_ok.mp imported
    obtain ⟨entries, requests, left⟩ := importFile_ok imported
    exact ⟨bytes, connections, required_eq_ok.mp found, decoded, leavesExisting_iff new requests left⟩

end Existing

namespace Demo

def onePassword : List SaveConnectionInput := [fromProfile passwordRow (some "secret")]

def passwordLibrary : BackupLibrary := backupLibrary onePassword (clearText (fromProfile passwordRow (some "secret")))

def passwordFile : List UInt8 := envelopeBytes (clearText (fromProfile passwordRow (some "secret")))

def passwordFolder : SyncFolder := fun name => if name = syncFile then some passwordFile else none

theorem decodeBackup_passwordFile :
    decodeBackup passwordLibrary (some "passphrase") passwordFile = .ok onePassword := by
  have given : "passphrase" ≠ "" := by decide
  have sealing : sealBackup passwordLibrary backupDraws "passphrase" "" onePassword = .ok passwordFile :=
    sealBackup_backupLibrary
  have sound : passwordLibrary.Sound := backupLibrary_sound _ _
  have fits : passwordFile.length ≤ maxBackupBytes := by
    obtain ⟨json, rendered, short⟩ := length_sealBackup sound sealing
    rw [short]
    have same : passwordLibrary.connectionsJson onePassword =
        .ok (clearText (fromProfile passwordRow (some "secret"))) := by simp [passwordLibrary, backupLibrary]
    obtain rfl := Except.ok.inj (same.symm.trans rendered)
    decide +kernel
  rw [decodeBackup_sealBackup sound given sealing, if_pos fits]

theorem syncRead_passwordFolder {desktop : DesktopState} {uuid : Nat → String}
    (valid : ∀ input ∈ arriving (used true desktop) uuid "" desktop 0 onePassword,
      validateConnection reader.os input = .ok ()) :
    ∃ entries after, syncRead passwordLibrary reader calm "now" uuid "" passwordFolder "passphrase" desktop =
        (.ok ⟨syncFile, none, 1, true⟩, after) ∧
      entries.map Prod.fst = arriving (used true desktop) uuid "" desktop 0 onePassword ∧
      after.stores reader.os = (desktop.stores reader.os).afterImport "now" entries := by
  obtain ⟨entries, after, ran, requests, left⟩ := importFile_calm "now" true rfl valid
  refine ⟨entries, after, ?_, requests, left⟩
  have long : 8 ≤ "passphrase".utf8ByteSize := by decide
  refine check_bind_eq_ok.mpr ⟨(), ensure_of long _, check_bind_eq_ok.mpr ⟨passwordFile, ?_,
    Section.bind_eq_ok.mpr ⟨1, after, check_bind_eq_ok.mpr ⟨onePassword, decodeBackup_passwordFile, ran⟩, rfl⟩⟩⟩
  exact required_eq_ok.mpr (if_pos rfl)

theorem newIds_owning {row : ConnectionRow} (secret : Option String) (short : row.id.utf8ByteSize ≠ 36) :
    NewIds Relay.Demo.uuid .other (owning row secret) := by
  intro position
  have other : Relay.Demo.uuid position ≠ row.id := by
    intro same
    rw [← same] at short
    exact short (Relay.Demo.utf8ByteSize_uuid position)
  exact ⟨if_neg other, if_neg other⟩

def trashedRow : ConnectionRow := { passwordRow with deletedAt := some "2026-01-02T00:00:00+00:00" }

/-- A sync import brings a connection of the trash back, with what the package says of it. -/
theorem trash_overwritten : ¬∀ (library : BackupLibrary) (host : HostSystem) (faults : Faults) (now : String)
    (uuid : Nat → String) (minute : String) (folder : SyncFolder) (passphrase : String) (desktop after : DesktopState)
    (result : AppResult SyncResult), NewIds uuid host.os desktop →
    syncRead library host faults now uuid minute folder passphrase desktop = (result, after) →
    LeavesExisting host.os desktop after := by
  intro always
  have new : NewIds Relay.Demo.uuid .other (owning trashedRow (some "old")) :=
    newIds_owning _ (by decide)
  obtain ⟨entries, after, ran, requests, left⟩ :=
    @syncRead_passwordFolder (owning trashedRow (some "old")) Relay.Demo.uuid (by decide)
  have foreign := (leavesExisting_iff new requests left).mp (always _ _ _ _ _ _ _ _ _ _ _ new ran)
  have dead : (owning trashedRow (some "old")).live "home" = none := by decide
  have gone := foreign.rows (fromProfile passwordRow (some "secret")) List.mem_cons_self dead
  have there : (owning trashedRow (some "old")).connections "home" ≠ none := by decide
  exact there gone

/-- Where a connection with this id is in use, the package is added as a copy. -/
theorem syncRead_leaves_home : ∃ after, syncRead passwordLibrary reader calm "now" Relay.Demo.uuid ""
      passwordFolder "passphrase" (owning passwordRow (some "old")) = (.ok ⟨syncFile, none, 1, true⟩, after) ∧
    LeavesExisting .other (owning passwordRow (some "old")) after := by
  have new : NewIds Relay.Demo.uuid .other (owning passwordRow (some "old")) :=
    newIds_owning _ (by decide)
  obtain ⟨entries, after, ran, -, -⟩ :=
    @syncRead_passwordFolder (owning passwordRow (some "old")) Relay.Demo.uuid (by decide)
  obtain ⟨bytes, connections, found, decoded, exactly⟩ := (syncRead_leavesExisting passwordLibrary reader calm "now"
    Relay.Demo.uuid "" passwordFolder "passphrase" (owning passwordRow (some "old")) after _ new ran).2 _ rfl
  obtain rfl : passwordFile = bytes := Option.some.inj found
  obtain rfl := Except.ok.inj (decodeBackup_passwordFile.symm.trans decoded)
  refine ⟨after, ran, exactly.mpr ⟨fun connection member dead => ?_, fun id rowless there => ?_⟩⟩
  · rw [List.mem_singleton.mp member] at dead
    exact absurd dead (by decide)
  · -- The only credential is that of the row.
    have elsewhere : id ≠ passwordRow.id := by
      rintro rfl
      exact absurd rowless (by decide)
    exact absurd (if_neg elsewhere) there

/-- The calls of a database that is locked. -/
def locked : Faults
  | .importConnections => some (.storage "database is locked")
  | _ => none

/-- A backup that cannot be written takes its credential back. -/
theorem importBackup_locked : ∃ error after, importBackup passwordLibrary reader locked "now" Relay.Demo.uuid ""
      false (some "passphrase") passwordFile (owning passwordRow (some "old")) = (.error error, after) ∧
    after.credential "home" .other = some "old" := by
  have ran : importBackup passwordLibrary reader locked "now" Relay.Demo.uuid "" false (some "passphrase")
      passwordFile (owning passwordRow (some "old")) =
        importFile reader locked "now" false Relay.Demo.uuid "" onePassword (owning passwordRow (some "old")) := by
    unfold importBackup
    simp only [check_bind_apply, decodeBackup_passwordFile]
  have failed : (importFile reader locked "now" false Relay.Demo.uuid "" onePassword
      (owning passwordRow (some "old"))).1.isOk = false := by decide
  generalize imported : importFile reader locked "now" false Relay.Demo.uuid "" onePassword
    (owning passwordRow (some "old")) = outcome at ran failed
  obtain ⟨result, after⟩ := outcome
  cases result with
  | ok count => cases failed
  | error error =>
    have kept := importBackup_atomic passwordLibrary reader locked "now" Relay.Demo.uuid "" false (some "passphrase")
      passwordFile (owning passwordRow (some "old")) after error ran
    exact ⟨error, after, ran, (kept.2 "home").trans (by decide)⟩

end Demo

end Client

end CNShell
