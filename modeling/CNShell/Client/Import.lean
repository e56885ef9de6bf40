import CNShell.Client.Stores
import CNShell.Library.Updates

/-! What an import that no call fails of comes to: which requests it checks, and what it leaves. -/

namespace CNShell

namespace Client

open Section

/-- No call fails. -/
def calm : Faults := fun _ => none

/-- The requests that an import makes of the connections of a backup. -/
def arriving (taken : String → Bool) (uuid : Nat → String) (minute : String) (desktop : DesktopState) :
    Nat → List SaveConnectionInput → List SaveConnectionInput
  | _, [] => []
  | position, connection :: rest =>
    sanitizeImportReferences desktop (conflictCopy taken (uuid position) minute connection) ::
      arriving taken uuid minute desktop (position + 1) rest

/-- Whether an import stores the credential of a request. -/
def KeepsCredential (input : SaveConnectionInput) : Prop :=
  input.protocol = "ssh" ∧ input.authType ∉ agentTypes ∧ input.credential.isSome = true

instance (input : SaveConnectionInput) : Decidable (KeepsCredential input) := inferInstanceAs (Decidable (_ ∧ _))

/-- The credential that is stored for a request after one that was there. -/
def importedCredential (input : SaveConnectionInput) (old : Option String) : Option String :=
  if KeepsCredential input then input.credential else old

def importedRow (now : String) (entry : SaveConnectionInput × Option String) (old : Option ConnectionRow) :
    Option ConnectionRow :=
  some (upsertedRow now old entry.1 entry.2)

def Stores.afterImport (stores : Stores) (now : String) (entries : List (SaveConnectionInput × Option String)) :
    Stores :=
  { stores with
    connections := updates (fun entry => entry.1.id) (importedRow now) entries stores.connections
    credentials := updates SaveConnectionInput.id importedCredential (entries.map Prod.fst) stores.credentials }

section Calm

variable {host : HostSystem} {now : String} {taken : String → Bool} {uuid : Nat → String} {minute : String}
variable {desktop : DesktopState} {connections inputs : List SaveConnectionInput} {position : Nat}

theorem reach_calm_bind {α : Type} {call : Call} {following : Unit → Command α} :
    (reach calm call >>= following) desktop = following () desktop := reach_bind_apply

theorem loadCredential_calm (os : TargetOs) (desktop : DesktopState) (id : String) :
    ∃ next, loadCredential os calm id desktop = (.ok (desktop.credential id os), next) ∧
      next.stores os = desktop.stores os := by
  cases ran : loadCredential os calm id desktop with
  | mk result next =>
    cases result with
    | ok found =>
      obtain ⟨rfl, same, -⟩ := loadCredential_ok ran
      exact ⟨next, rfl, same⟩
    | error error =>
      -- Each call on the way goes through.
      exfalso
      unfold loadCredential at ran
      rw [reach_calm_bind, get_bind_apply] at ran
      cases os with
      | windows | other => cases ran
      | macos =>
        cases vault : desktop.vault id with
        | some secret =>
          simp only [vault] at ran
          cases ran
        | none =>
          simp only [vault, loadLegacyCredential] at ran
          rw [reach_calm_bind, get_bind_apply] at ran
          cases older : desktop.secrets id with
          | none =>
            rw [older] at ran
            cases ran
          | some secret =>
            rw [older] at ran
            simp only [reach_calm_bind] at ran
            cases ran

theorem importInputs_calm : importInputs host calm taken uuid minute desktop position connections = .ok inputs ↔
    inputs = arriving taken uuid minute desktop position connections ∧
      ∀ input ∈ inputs, validateConnection host.os input = .ok () := by
  induction connections generalizing position inputs with
  | nil =>
    simp only [importInputs, arriving, pure_eq_ok]
    constructor
    · rintro rfl
      exact ⟨rfl, by simp⟩
    · rintro ⟨rfl, -⟩
      rfl
  | cons connection rest ih =>
    have calls : (calm.at position).result .sanitizeReferences = .ok () := rfl
    simp only [importInputs, arriving, calls, ok_bind, bind_eq_ok, pure_eq_ok]
    constructor
    · rintro ⟨u, valid, others, further, rfl⟩
      obtain ⟨rfl, all⟩ := ih.mp further
      exact ⟨rfl, List.forall_mem_cons.mpr ⟨valid, all⟩⟩
    · rintro ⟨rfl, all⟩
      obtain ⟨valid, all⟩ := List.forall_mem_cons.mp all
      exact ⟨(), valid, _, ih.mpr ⟨rfl, all⟩, rfl⟩

theorem importCredential_calm (host : HostSystem) (desktop : DesktopState) (input : SaveConnectionInput) :
    ∃ prepared next, importCredential host calm input desktop = (.ok prepared, next) ∧
      next.stores host.os = (desktop.stores host.os).setCredential input.id
        (importedCredential input (desktop.credential input.id host.os)) := by
  have nothing : (desktop.stores host.os).setCredential input.id (desktop.credential input.id host.os) =
      desktop.stores host.os := Stores.setCredential_self _ _
  cases held : input.credential with
  | none =>
    rw [importedCredential, if_neg fun all => by rw [KeepsCredential, held] at all; exact absurd all.2.2 nofun]
    simp only [importCredential, held]
    exact ⟨_, desktop, rfl, nothing.symm⟩
  | some secret =>
    simp only [importCredential, held]
    by_cases kept : input.protocol = "ssh" ∧ input.authType ∉ agentTypes
    · obtain ⟨middle, read, same⟩ := loadCredential_calm host.os desktop input.id
      rw [if_pos kept, importedCredential, if_pos ⟨kept.1, kept.2, by rw [held]; rfl⟩, held]
      refine ⟨⟨some (credentialRef input.id), restoreCredential host.os input.id (desktop.credential input.id host.os)⟩,
        middle.keepCredential host.os input.id secret, ?_, ?_⟩
      · rw [bind_apply_ok read]
        rfl
      · rw [stores_keep, same]
    · rw [if_neg kept, importedCredential, if_neg fun all => kept ⟨all.1, all.2.1⟩]
      exact ⟨_, desktop, rfl, nothing.symm⟩

theorem importCredentials_calm (host : HostSystem) (position : Nat) (desktop : DesktopState)
    (inputs : List SaveConnectionInput) (undo : DesktopState → DesktopState) :
    ∃ entries whole next, importCredentials host calm position inputs undo desktop = (.ok (entries, whole), next) ∧
      entries.map Prod.fst = inputs ∧
      next.stores host.os = { desktop.stores host.os with
        credentials := updates SaveConnectionInput.id importedCredential inputs
          (desktop.stores host.os).credentials } := by
  induction inputs generalizing position undo desktop with
  | nil => exact ⟨[], undo, desktop, rfl, rfl, rfl⟩
  | cons input rest ih =>
    obtain ⟨prepared, middle, first, stored⟩ := importCredential_calm host desktop input
    obtain ⟨entries, whole, next, later, same, left⟩ :=
      ih (position + 1) middle (undo ∘ prepared.undo)
    refine ⟨(input, prepared.reference) :: entries, whole, next, ?_, ?_, ?_⟩
    · have passed : ((importCredential host (calm.at position) input).undoing undo) desktop =
          (.ok prepared, middle) := undoing_eq_ok.mpr first
      simp only [importCredentials]
      rw [bind_apply_ok passed, bind_apply_ok later]
      rfl
    · rw [List.map_cons, same]
    · rw [left, stored]
      rfl

theorem stores_writeRows (os : TargetOs) (entries : List (SaveConnectionInput × Option String)) :
    (entries.foldl (fun desktop entry => desktop.setConnection entry.1.id
        (some (upsertedRow now (desktop.connections entry.1.id) entry.1 entry.2))) desktop).stores os =
      { desktop.stores os with
        connections := updates (fun entry => entry.1.id) (importedRow now) entries desktop.connections } := by
  induction entries generalizing desktop with
  | nil => rfl
  | cons entry rest ih =>
    rw [List.foldl_cons, ih]
    rfl

theorem importConnections_calm (os : TargetOs) (now : String) (desktop : DesktopState)
    (entries : List (SaveConnectionInput × Option String)) :
    ∃ next, importConnections calm now entries desktop = (.ok ⟨⟩, next) ∧
      next.stores os = { desktop.stores os with
        connections := updates (fun entry => entry.1.id) (importedRow now) entries desktop.connections } :=
  ⟨_, reach_calm_bind, stores_writeRows os entries⟩

theorem importFile_calm (now : String) (preserve : Bool)
    (taken_eq : taken = if preserve = true then fun id => (desktop.live id).isSome else fun _ => false)
    (valid : ∀ input ∈ arriving taken uuid minute desktop 0 connections, validateConnection host.os input = .ok ()) :
    ∃ entries next, importFile host calm now preserve uuid minute connections desktop =
        (.ok (arriving taken uuid minute desktop 0 connections).length, next) ∧
      entries.map Prod.fst = arriving taken uuid minute desktop 0 connections ∧
      next.stores host.os = (desktop.stores host.os).afterImport now entries := by
  obtain ⟨entries, whole, middle, stored, same, credentials⟩ :=
    importCredentials_calm host 0 desktop (arriving taken uuid minute desktop 0 connections) id
  obtain ⟨next, written, rows⟩ := importConnections_calm host.os now middle entries
  refine ⟨entries, next, ?_, same, ?_⟩
  · have checked := importInputs_calm.mpr ⟨rfl, valid⟩
    have known : (if preserve = true then (calm.result .listConnections).map fun _ id => (desktop.live id).isSome
        else .ok fun _ => false) = (.ok taken : AppResult (String → Bool)) := by
      rw [taken_eq]
      cases preserve <;> rfl
    simp only [importFile]
    rw [get_bind_apply, known, check_bind_apply]
    dsimp only
    rw [checked, check_bind_apply]
    dsimp only
    rw [bind_apply_ok stored]
    have passed : ((importConnections calm now entries).undoing whole) middle = (.ok ⟨⟩, next) :=
      undoing_eq_ok.mpr written
    rw [bind_apply_ok passed]
    rfl
  · have kept : middle.connections = desktop.connections := congrArg Stores.connections credentials
    rw [rows, credentials, kept, Stores.afterImport, same]
    rfl

theorem importFile_valid_of_ok {preserve : Bool} {count : Nat} {next : DesktopState}
    (taken_eq : taken = if preserve = true then fun id => (desktop.live id).isSome else fun _ => false)
    (ran : importFile host calm now preserve uuid minute connections desktop = (.ok count, next)) :
    ∀ input ∈ arriving taken uuid minute desktop 0 connections, validateConnection host.os input = .ok () := by
  have known : (if preserve = true then (calm.result .listConnections).map fun _ id => (desktop.live id).isSome
      else .ok fun _ => false) = (.ok taken : AppResult (String → Bool)) := by
    rw [taken_eq]
    cases preserve <;> rfl
  simp only [importFile] at ran
  rw [get_bind_apply, known, check_bind_apply] at ran
  obtain ⟨inputs, checked, -⟩ := check_bind_eq_ok.mp ran
  obtain ⟨rfl, all⟩ := importInputs_calm.mp checked
  exact all

variable {input : SaveConnectionInput}

theorem id_of_mem_arriving (member : input ∈ arriving taken uuid minute desktop position connections) :
    (∃ connection ∈ connections, taken connection.id = false ∧ input.id = connection.id) ∨
      ∃ later, position ≤ later ∧ later < position + connections.length ∧ input.id = uuid later := by
  induction connections generalizing position with
  | nil => cases member
  | cons connection rest ih =>
    rcases List.mem_cons.mp member with rfl | behind
    · by_cases known : taken connection.id = true
      · refine .inr ⟨position, Nat.le_refl _, by simp, ?_⟩
        rw [conflictCopy, if_pos known]
        rfl
      · refine .inl ⟨connection, List.mem_cons_self, by simpa using known, ?_⟩
        rw [conflictCopy, if_neg known]
        rfl
    · rcases ih behind with ⟨other, inside, kept⟩ | ⟨later, after, before, named⟩
      · exact .inl ⟨other, List.mem_cons_of_mem _ inside, kept⟩
      · exact .inr ⟨later, by omega, by rw [List.length_cons]; omega, named⟩

theorem nodup_arriving {count : Nat} (distinct : (connections.map SaveConnectionInput.id).Nodup)
    (differ : ∀ first second, first < count → second < count → uuid first = uuid second → first = second)
    (new : ∀ later, later < count → ∀ connection ∈ connections, connection.id ≠ uuid later)
    (room : position + connections.length ≤ count) :
    ((arriving taken uuid minute desktop position connections).map SaveConnectionInput.id).Nodup := by
  induction connections generalizing position with
  | nil => exact List.nodup_nil
  | cons connection rest ih =>
    obtain ⟨alone, distinct⟩ := List.nodup_cons.mp distinct
    rw [List.length_cons] at room
    have others := fun later drawn other inside => new later drawn other (List.mem_cons_of_mem connection inside)
    refine List.nodup_cons.mpr ⟨?_, ih distinct others (by omega)⟩
    intro again
    obtain ⟨input, member, same⟩ := List.mem_map.mp again
    have first : (taken connection.id = false ∧
        (sanitizeImportReferences desktop (conflictCopy taken (uuid position) minute connection)).id = connection.id) ∨
        (sanitizeImportReferences desktop (conflictCopy taken (uuid position) minute connection)).id =
          uuid position := by
      by_cases known : taken connection.id = true
      · right
        rw [conflictCopy, if_pos known]
        rfl
      · left
        rw [conflictCopy, if_neg known]
        exact ⟨by simpa using known, rfl⟩
    rcases id_of_mem_arriving member with ⟨other, inside, -, kept⟩ | ⟨later, after, before, named⟩
    · rcases first with ⟨-, own⟩ | fresh
      · exact alone (List.mem_map.mpr ⟨other, inside, by rw [← kept, same, own]⟩)
      · exact others position (by omega) other inside (by rw [← kept, same, fresh])
    · rcases first with ⟨-, own⟩ | fresh
      · exact new later (by omega) connection List.mem_cons_self (by rw [← named, same, own])
      · have equal := differ position later (by omega) (by omega) (by rw [← named, same, fresh])
        omega

theorem forall₂_arriving {holds : SaveConnectionInput → SaveConnectionInput → Prop}
    (each : ∀ later, ∀ connection ∈ connections,
      holds (sanitizeImportReferences desktop (conflictCopy taken (uuid later) minute connection)) connection) :
    List.Forall₂ holds (arriving taken uuid minute desktop position connections) connections := by
  induction connections generalizing position with
  | nil => exact .nil
  | cons connection rest ih =>
    exact .cons (each position connection List.mem_cons_self)
      (ih fun later other inside => each later other (List.mem_cons_of_mem _ inside))

theorem forall_arriving {holds : SaveConnectionInput → Prop} :
    (∀ input ∈ arriving taken uuid minute desktop position connections, holds input) ↔
      ∀ later connection, connections[later]? = some connection →
        holds (sanitizeImportReferences desktop
          (conflictCopy taken (uuid (position + later)) minute connection)) := by
  induction connections generalizing position with
  | nil => simp [arriving]
  | cons connection rest ih =>
    rw [arriving, List.forall_mem_cons, ih]
    constructor
    · rintro ⟨here, there⟩ (_ | later) other found
      · obtain rfl : connection = other := by simpa using found
        exact here
      · rw [List.getElem?_cons_succ] at found
        have placed := there later other found
        rwa [show position + 1 + later = position + (later + 1) by omega] at placed
    · intro all
      refine ⟨all 0 connection rfl, fun later other found => ?_⟩
      rw [show position + 1 + later = position + (later + 1) by omega]
      exact all (later + 1) other (by rw [List.getElem?_cons_succ]; exact found)

variable {entries : List (SaveConnectionInput × Option String)}

variable {next : DesktopState}

theorem live_afterImport (distinct : ((entries.map Prod.fst).map SaveConnectionInput.id).Nodup)
    (left : next.stores host.os = (desktop.stores host.os).afterImport now entries)
    (member : input ∈ entries.map Prod.fst) :
    ∃ reference, next.live input.id = some (upsertedRow now (desktop.connections input.id) input reference) := by
  obtain ⟨entry, inside, rfl⟩ := List.mem_map.mp member
  have rows : next.connections = updates (fun entry => entry.1.id) (importedRow now) entries desktop.connections :=
    congrArg Stores.connections left
  rw [List.map_map] at distinct
  refine ⟨entry.2, ?_⟩
  have written : updates (fun entry => entry.1.id) (importedRow now) entries desktop.connections entry.1.id =
      importedRow now entry (desktop.connections entry.1.id) := updates_of_mem distinct inside
  rw [DesktopState.live, rows, written]
  unfold importedRow upsertedRow
  cases desktop.connections entry.1.id <;> rfl

theorem live_afterImport_of_not_mem
    (left : next.stores host.os = (desktop.stores host.os).afterImport now entries) {id : String}
    (absent : id ∉ (entries.map Prod.fst).map SaveConnectionInput.id) : next.live id = desktop.live id := by
  have rows : next.connections = updates (fun entry => entry.1.id) (importedRow now) entries desktop.connections :=
    congrArg Stores.connections left
  rw [List.map_map] at absent
  have kept : updates (fun entry => entry.1.id) (importedRow now) entries desktop.connections id =
      desktop.connections id := updates_of_not_mem absent
  rw [DesktopState.live, DesktopState.live, rows, kept]

theorem credential_afterImport (distinct : ((entries.map Prod.fst).map SaveConnectionInput.id).Nodup)
    (left : next.stores host.os = (desktop.stores host.os).afterImport now entries)
    (member : input ∈ entries.map Prod.fst) :
    next.credential input.id host.os = importedCredential input (desktop.credential input.id host.os) := by
  have stored : next.credential input.id host.os = updates SaveConnectionInput.id importedCredential
      (entries.map Prod.fst) (desktop.stores host.os).credentials input.id :=
    congrFun (congrArg Stores.credentials left) input.id
  rw [stored, updates_of_mem distinct member]
  rfl

end Calm

end Client

end CNShell
