import CNShell.Client.Stores

/-! The command that saves a connection changes all of its stores or none. -/

namespace CNShell

namespace Client

open Section

variable {host : HostSystem} {os : TargetOs} {faults : Faults} {now : String} {id : String}
variable {desktop next : DesktopState}

section Preparations

variable {input : SaveConnectionInput} {found : Found} {prepared : Prepared} {error : AppError}

/-- What the checks find besides the row is what is stored. -/
structure Seen (input : SaveConnectionInput) (found : Found) (desktop : DesktopState) : Prop where
  bookmark : found.previousBookmark = desktop.bookmarks input.id
  certificate : found.previousCertificateBookmark = desktop.certificateBookmarks input.id
  existing : ∀ row, found.existing = some row → desktop.connections input.id = some row

def preparedCredential (os : TargetOs) (input : SaveConnectionInput) (found : Found)
    (desktop : DesktopState) : Option String :=
  if usesAgent input then none
  else if authChanged found input = true then secretOf input
  else (secretOf input).or (desktop.credential input.id os)

/-- The reference to a credential that a request brings. -/
def preparedReference (input : SaveConnectionInput) : Option String :=
  if usesAgent input then none else (secretOf input).map fun _ => credentialRef input.id

/-- The stores with a key, a certificate and a credential of one connection as given. -/
def Stores.setOwn (stores : Stores) (id : String) (secret bookmark certificate : Option String) : Stores :=
  ((stores.setCredential id secret).setBookmark id bookmark).setCertificateBookmark id certificate

@[simp] theorem setOwn_setOwn (stores : Stores) (secret bookmark certificate : Option String)
    (secret' bookmark' certificate' : Option String) :
    (stores.setOwn id secret bookmark certificate).setOwn id secret' bookmark' certificate' =
      stores.setOwn id secret' bookmark' certificate' := by
  simp [Stores.setOwn, Stores.setCredential, Stores.setBookmark, Stores.setCertificateBookmark]

@[simp] theorem setOwn_self : (desktop.stores os).setOwn id (desktop.credential id os)
    (desktop.bookmarks id) (desktop.certificateBookmarks id) = desktop.stores os := by
  simp [Stores.setOwn, Stores.setCredential, Stores.setBookmark, Stores.setCertificateBookmark, DesktopState.stores]

/-- What was prepared is taken back wherever the credential is the one that was left. -/
def Reverts (os : TargetOs) (id : String) (before : DesktopState) (left : Option String)
    (undo : DesktopState → DesktopState) : Prop :=
  ∀ later : DesktopState, later.credential id os = left →
    (undo later).stores os = (later.stores os).setCredential id (before.credential id os)

theorem reverts_restore {left : Option String} :
    Reverts os id desktop left (restoreCredential os id (desktop.credential id os)) :=
  fun _ _ => stores_restore

theorem reverts_id : Reverts os id desktop (desktop.credential id os) (fun later => later) := by
  intro later same
  rw [← same]
  exact (Stores.setCredential_self _ _).symm

theorem replaceCredential_ok (secret : ¬usesAgent input)
    (ran : replaceCredential host faults input found desktop = (.ok prepared, next)) :
    next.stores host.os = (desktop.stores host.os).setCredential input.id
        (preparedCredential host.os input found desktop) ∧
      prepared.reference = preparedReference input ∧
      Reverts host.os input.id desktop (preparedCredential host.os input found desktop)
        prepared.undo := by
  unfold replaceCredential at ran
  unfold preparedCredential preparedReference
  rw [if_neg secret, if_neg secret]
  cases brought : secretOf input with
  | some value =>
    simp only [brought] at ran
    obtain ⟨previous, middle, loaded, ran⟩ := Section.bind_eq_ok.mp ran
    obtain ⟨rfl, quiet, -⟩ := loadCredential_ok loaded
    obtain ⟨reference, last, saved, ran⟩ := Section.bind_eq_ok.mp ran
    obtain ⟨rfl, stored⟩ := saveCredential_ok saved
    cases ran
    refine ⟨?_, rfl, reverts_restore⟩
    rw [stored, quiet]
    split <;> rfl
  | none =>
    cases changed : authChanged found input with
    | true =>
      simp only [brought, changed] at ran
      obtain ⟨previous, middle, loaded, ran⟩ := Section.bind_eq_ok.mp ran
      obtain ⟨rfl, quiet, -⟩ := loadCredential_ok loaded
      obtain ⟨_, last, deleted, ran⟩ := Section.bind_eq_ok.mp ran
      obtain ⟨cleared, -⟩ := deleteCredential_ok deleted
      cases ran
      refine ⟨?_, rfl, reverts_restore⟩
      rw [cleared, quiet]
      rfl
    | false =>
      simp only [brought, changed] at ran
      cases ran
      exact ⟨(Stores.setCredential_self _ _).symm, rfl, reverts_id⟩

/-- A request clears the vault of macOS without removing the older item of the credential. -/
structure HalfClears (host : HostSystem) (faults : Faults) (input : SaveConnectionInput) (found : Found)
    (desktop : DesktopState) : Prop where
  macos : host.os = .macos
  clears : usesAgent input ∨ secretOf input = none ∧ authChanged found input = true
  loads : ∃ secret next, loadCredential host.os faults input.id desktop = (.ok secret, next)
  vault : faults .deleteVaultCredential = none
  item : faults .deleteCredential ≠ none

/-- A failure before the row is written changes nothing, unless it leaves the vault alone cleared. -/
def Fails (host : HostSystem) (faults : Faults) (input : SaveConnectionInput) (found : Found)
    (desktop next : DesktopState) : Prop :=
  (¬HalfClears host faults input found desktop ∧ next.stores host.os = desktop.stores host.os) ∨
    (HalfClears host faults input found desktop ∧
      next.stores host.os = (desktop.stores host.os).setCredential input.id (desktop.secrets input.id))

variable {secret : Option String} {middle : DesktopState}

theorem clearCredential_error (clears : usesAgent input ∨ secretOf input = none ∧ authChanged found input = true)
    (loaded : loadCredential host.os faults input.id desktop = (.ok secret, middle))
    (ran : deleteCredential host.os faults input.id middle = (.error error, next)) :
    Fails host faults input found desktop next := by
  obtain ⟨-, quiet, items⟩ := loadCredential_ok loaded
  rcases deleteCredential_error ran with ⟨rfl, spared⟩ | ⟨macos, vault, item, half⟩
  · exact .inl ⟨fun half => spared half.macos half.vault, quiet⟩
  · refine .inr ⟨⟨macos, clears, ⟨_, _, loaded⟩, vault, item⟩, ?_⟩
    rw [half, quiet, items]

theorem loadCredential_fails
    (ran : loadCredential host.os faults input.id desktop = (.error error, next)) :
    Fails host faults input found desktop next := by
  obtain rfl := loadCredential_error ran
  refine .inl ⟨fun half => ?_, rfl⟩
  obtain ⟨secret, last, loaded⟩ := half.loads
  rw [ran] at loaded
  cases loaded

theorem replaceCredential_error (secret : ¬usesAgent input)
    (ran : replaceCredential host faults input found desktop = (.error error, next)) :
    Fails host faults input found desktop next := by
  unfold replaceCredential at ran
  cases brought : secretOf input with
  | some value =>
    simp only [brought] at ran
    rcases bind_eq_error.mp ran with ran | ⟨previous, middle, loaded, ran⟩
    · exact loadCredential_fails ran
    · obtain ⟨rfl, quiet, -⟩ := loadCredential_ok loaded
      rcases bind_eq_error.mp ran with ran | ⟨_, _, _, ran⟩
      · obtain rfl := saveCredential_error ran
        refine .inl ⟨fun half => ?_, quiet⟩
        rcases half.clears with agent | ⟨none, -⟩
        · exact secret agent
        · rw [brought] at none
          cases none
      · cases ran
  | none =>
    cases changed : authChanged found input with
    | true =>
      simp only [brought, changed] at ran
      rcases bind_eq_error.mp ran with ran | ⟨previous, middle, loaded, ran⟩
      · exact loadCredential_fails ran
      · rcases bind_eq_error.mp ran with ran | ⟨_, _, _, ran⟩
        · exact clearCredential_error (.inr ⟨brought, changed⟩) loaded ran
        · cases ran
    | false =>
      simp only [brought, changed] at ran
      cases ran

theorem saveValue_error {call : Call} {put : Option String → DesktopState → DesktopState} {path label : String}
    (ran : saveValue host faults call put path label desktop = (.error error, next)) :
    desktop = next := by
  unfold saveValue at ran
  rw [check_bind_apply] at ran
  split at ran
  · rw [check_bind_apply] at ran
    split at ran
    · rcases reach_bind_error.mp ran with ⟨-, same⟩ | ⟨-, rest⟩
      · exact same
      · cases rest
    · exact (Prod.mk.inj ran).2
  · exact (Prod.mk.inj ran).2

variable {u : Unit}

theorem saveValue_ok {call : Call} {put : Option String → DesktopState → DesktopState} {path label : String}
    (ran : saveValue host faults call put path label desktop = (.ok u, next)) :
    ∃ value, next = put value desktop := by
  obtain ⟨_, -, ran⟩ := check_bind_eq_ok.mp ran
  obtain ⟨encoded, -, ran⟩ := check_bind_eq_ok.mp ran
  obtain ⟨-, ran⟩ := reach_bind_ok.mp ran
  exact ⟨_, (Prod.mk.inj ran).2.symm⟩

theorem replaceBookmark_ok (ran : replaceBookmark host faults input found desktop = (.ok u, next)) :
    ∃ value, next.stores host.os = (desktop.stores host.os).setBookmark input.id value := by
  unfold replaceBookmark at ran
  split at ran
  · cases ran
    refine ⟨desktop.bookmarks input.id, ?_⟩
    simp [Stores.setBookmark, DesktopState.stores]
  split at ran
  · obtain ⟨value, rfl⟩ := saveValue_ok ran
    exact ⟨value, rfl⟩
  · obtain ⟨-, ran⟩ := reach_bind_ok.mp ran
    cases ran
    exact ⟨none, rfl⟩

theorem replaceBookmark_error
    (ran : replaceBookmark host faults input found desktop = (.error error, next)) : desktop = next := by
  unfold replaceBookmark at ran
  split at ran
  · cases ran
  split at ran
  · exact saveValue_error ran
  · rcases reach_bind_error.mp ran with ⟨-, same⟩ | ⟨-, rest⟩
    · exact same
    · cases rest

theorem replaceCertificate_ok (ran : replaceCertificate host faults input found desktop = (.ok u, next)) :
    ∃ value, next.stores host.os = (desktop.stores host.os).setCertificateBookmark input.id value := by
  unfold replaceCertificate at ran
  split at ran
  · cases ran
    refine ⟨desktop.certificateBookmarks input.id, ?_⟩
    simp [Stores.setCertificateBookmark, DesktopState.stores]
  split at ran
  · obtain ⟨_, -, ran⟩ := check_bind_eq_ok.mp ran
    obtain ⟨value, rfl⟩ := saveValue_ok ran
    exact ⟨value, rfl⟩
  · obtain ⟨-, ran⟩ := reach_bind_ok.mp ran
    cases ran
    exact ⟨none, rfl⟩

theorem replaceCertificate_error
    (ran : replaceCertificate host faults input found desktop = (.error error, next)) :
    desktop = next := by
  unfold replaceCertificate at ran
  split at ran
  · cases ran
  split at ran
  · rw [check_bind_apply] at ran
    split at ran
    · exact saveValue_error ran
    · exact (Prod.mk.inj ran).2
  · rcases reach_bind_error.mp ran with ⟨-, same⟩ | ⟨-, rest⟩
    · exact same
    · cases rest

/-- What is left when a request is prepared, and how it is taken back. -/
structure Ready (host : HostSystem) (faults : Faults) (input : SaveConnectionInput) (found : Found)
    (desktop next : DesktopState) (prepared : Prepared) : Prop where
  whole : ¬HalfClears host faults input found desktop
  left : ∃ bookmark certificate, next.stores host.os = (desktop.stores host.os).setOwn input.id
    (preparedCredential host.os input found desktop) bookmark certificate
  reference : prepared.reference = preparedReference input
  undo : ∀ later : DesktopState,
    later.credential input.id host.os = preparedCredential host.os input found desktop →
      (prepared.undo later).stores host.os = (later.stores host.os).setOwn input.id
        (desktop.credential input.id host.os) (desktop.bookmarks input.id)
        (desktop.certificateBookmarks input.id)

theorem credential_of_stores {stores : Stores} {bookmark certificate : Option String}
    (same : next.stores os = stores.setOwn id secret bookmark certificate) : next.credential id os = secret := by
  have found := congrFun (congrArg Stores.credentials same) id
  simpa [Stores.setOwn, Stores.setCredential, Stores.setBookmark, Stores.setCertificateBookmark,
    DesktopState.stores] using found

theorem Ready.back {prepared : Prepared} (ready : Ready host faults input found desktop next prepared)
    {later : DesktopState} {bookmark certificate : Option String}
    (keys : later.stores host.os = (desktop.stores host.os).setOwn input.id
      (preparedCredential host.os input found desktop) bookmark certificate) :
    (prepared.undo later).stores host.os = desktop.stores host.os := by
  rw [ready.undo later (credential_of_stores keys), keys, setOwn_setOwn, setOwn_self]

theorem stores_setOwn {bookmark certificate credential : Option String}
    (replaced : middle.stores os = (desktop.stores os).setCredential id credential) :
    ((middle.stores os).setBookmark id bookmark).setCertificateBookmark id certificate =
      (desktop.stores os).setOwn id credential bookmark certificate := by
  rw [replaced]
  rfl

theorem undo_all {undo : DesktopState → DesktopState} {left : Option String} (seen : Seen input found desktop)
    (reverts : Reverts os input.id desktop left undo) {later : DesktopState}
    (same : later.credential input.id os = left) :
    (undoCertificate input found (undoBookmark input found undo) later).stores os =
      (later.stores os).setOwn input.id (desktop.credential input.id os) (desktop.bookmarks input.id)
        (desktop.certificateBookmarks input.id) := by
  have back := reverts later same
  rw [← seen.bookmark, ← seen.certificate, Stores.setOwn, ← back]
  rfl

theorem replaceCredential_whole (secret : ¬usesAgent input)
    (ran : replaceCredential host faults input found desktop = (.ok prepared, next)) :
    ¬HalfClears host faults input found desktop := by
  intro half
  rcases half.clears with agent | ⟨brought, changed⟩
  · exact secret agent
  · unfold replaceCredential at ran
    simp only [brought, changed] at ran
    obtain ⟨previous, middle, loaded, ran⟩ := Section.bind_eq_ok.mp ran
    obtain ⟨_, last, deleted, ran⟩ := Section.bind_eq_ok.mp ran
    exact half.item (deleteCredential_ok deleted).2

theorem prepareSecret_ok (seen : Seen input found desktop) (secret : ¬usesAgent input)
    (ran : prepareSecret host faults input found desktop = (.ok prepared, next)) :
    Ready host faults input found desktop next prepared := by
  obtain ⟨credential, middle, first, ran⟩ := Section.bind_eq_ok.mp ran
  obtain ⟨replaced, reference, reverts⟩ := replaceCredential_ok secret first
  obtain ⟨_, third, keyed, ran⟩ := Section.bind_eq_ok.mp ran
  obtain ⟨bookmark, key⟩ := replaceBookmark_ok (undoing_eq_ok.mp keyed)
  obtain ⟨_, last, certified, ran⟩ := Section.bind_eq_ok.mp ran
  obtain ⟨certificate, named⟩ := replaceCertificate_ok (undoing_eq_ok.mp certified)
  obtain ⟨made, rfl⟩ := Prod.mk.inj ran
  obtain rfl := Except.ok.inj made
  refine ⟨replaceCredential_whole secret first, ⟨bookmark, certificate, ?_⟩, reference,
    fun later same => undo_all seen reverts same⟩
  rw [named, key, stores_setOwn replaced]

theorem prepareSecret_error (seen : Seen input found desktop) (secret : ¬usesAgent input)
    (ran : prepareSecret host faults input found desktop = (.error error, next)) :
    Fails host faults input found desktop next := by
  rcases bind_eq_error.mp ran with ran | ⟨credential, middle, first, ran⟩
  · exact replaceCredential_error secret ran
  · obtain ⟨replaced, -, reverts⟩ := replaceCredential_ok secret first
    refine .inl ⟨replaceCredential_whole secret first, ?_⟩
    have left : middle.credential input.id host.os = preparedCredential host.os input found desktop := by
      have found := congrFun (congrArg Stores.credentials replaced) input.id
      simpa [Stores.setCredential, DesktopState.stores] using found
    rcases bind_eq_error.mp ran with ran | ⟨_, third, keyed, ran⟩
    · -- Without a new key, the credential and the key are put back.
      obtain ⟨_, stopped, rfl⟩ := undoing_eq_error.mp ran
      obtain rfl := replaceBookmark_error stopped
      have back := reverts middle left
      rw [replaced] at back
      refine (congrArg (Stores.setBookmark · input.id found.previousBookmark) back).trans ?_
      rw [seen.bookmark]
      simp [Stores.setCredential, Stores.setBookmark, DesktopState.stores]
    · obtain ⟨bookmark, key⟩ := replaceBookmark_ok (undoing_eq_ok.mp keyed)
      rcases bind_eq_error.mp ran with ran | ⟨_, _, _, ran⟩
      · -- Without a new certificate, everything is put back.
        obtain ⟨_, stopped, rfl⟩ := undoing_eq_error.mp ran
        obtain rfl := replaceCertificate_error stopped
        have keys : third.stores host.os = (desktop.stores host.os).setOwn input.id
            (preparedCredential host.os input found desktop) bookmark
            (desktop.certificateBookmarks input.id) := by
          rw [key, replaced]
          simp [Stores.setOwn, Stores.setCredential, Stores.setBookmark,
            Stores.setCertificateBookmark, DesktopState.stores]
        rw [undo_all seen reverts (credential_of_stores keys), keys, setOwn_setOwn, setOwn_self]
      · cases ran

theorem prepareAgent_ok (seen : Seen input found desktop) (agent : usesAgent input)
    (ran : prepareAgent host faults input found desktop = (.ok prepared, next)) :
    Ready host faults input found desktop next prepared := by
  obtain ⟨previous, middle, loaded, ran⟩ := Section.bind_eq_ok.mp ran
  obtain ⟨rfl, quiet, -⟩ := loadCredential_ok loaded
  obtain ⟨_, third, deleted, ran⟩ := Section.bind_eq_ok.mp ran
  obtain ⟨cleared, passed⟩ := deleteCredential_ok deleted
  obtain ⟨_, fourth, keyed, ran⟩ := Section.bind_eq_ok.mp ran
  obtain ⟨-, keyed⟩ := reach_bind_ok.mp (undoing_eq_ok.mp keyed)
  obtain ⟨_, last, certified, ran⟩ := Section.bind_eq_ok.mp ran
  obtain ⟨-, certified⟩ := reach_bind_ok.mp (undoing_eq_ok.mp certified)
  obtain ⟨made, rfl⟩ := Prod.mk.inj ran
  obtain rfl := Except.ok.inj made
  have left : preparedCredential host.os input found desktop = none := if_pos agent
  refine ⟨fun half => half.item passed, ⟨none, none, ?_⟩, (if_pos agent).symm, fun later same => ?_⟩
  · cases keyed
    cases certified
    rw [left, ← stores_setOwn (cleared.trans (congrArg (Stores.setCredential · _ none) quiet))]
    rfl
  · exact undo_all seen reverts_restore same

theorem prepareAgent_error (seen : Seen input found desktop) (agent : usesAgent input)
    (ran : prepareAgent host faults input found desktop = (.error error, next)) :
    Fails host faults input found desktop next := by
  rcases bind_eq_error.mp ran with ran | ⟨previous, middle, loaded, ran⟩
  · exact loadCredential_fails ran
  rcases bind_eq_error.mp ran with ran | ⟨_, third, deleted, ran⟩
  · exact clearCredential_error (.inl agent) loaded ran
  obtain ⟨rfl, quiet, -⟩ := loadCredential_ok loaded
  obtain ⟨cleared, passed⟩ := deleteCredential_ok deleted
  rw [quiet] at cleared
  refine .inl ⟨fun half => half.item passed, ?_⟩
  have put := Stores.setCredential_self (desktop.stores host.os) input.id
  rcases bind_eq_error.mp ran with ran | ⟨_, fourth, keyed, ran⟩
  · -- The key is still there, so only the credential is put back.
    obtain ⟨_, stopped, rfl⟩ := undoing_eq_error.mp ran
    rcases reach_bind_error.mp stopped with ⟨-, rfl⟩ | ⟨-, rest⟩
    · rw [undoCredential, stores_restore, cleared, Stores.setCredential_setCredential]
      exact put
    · cases rest
  · obtain ⟨-, keyed⟩ := reach_bind_ok.mp (undoing_eq_ok.mp keyed)
    cases keyed
    rcases bind_eq_error.mp ran with ran | ⟨_, _, _, ran⟩
    · -- The certificate is still there, so the credential and the key are put back.
      obtain ⟨_, stopped, rfl⟩ := undoing_eq_error.mp ran
      rcases reach_bind_error.mp stopped with ⟨-, rfl⟩ | ⟨-, rest⟩
      · have back : (undoCredential host input (desktop.credential input.id host.os)
            (third.setBookmark input.id none)).stores host.os =
            (desktop.stores host.os).setBookmark input.id none := by
          rw [undoCredential, stores_restore]
          refine (congrArg (fun stores : Stores => (stores.setBookmark input.id none).setCredential
            input.id (desktop.credential input.id host.os)) cleared).trans ?_
          simp [Stores.setCredential, Stores.setBookmark, DesktopState.stores]
        refine (congrArg (Stores.setBookmark · input.id found.previousBookmark) back).trans ?_
        rw [seen.bookmark]
        simp [Stores.setBookmark, DesktopState.stores]
      · cases rest
    · cases ran

theorem prepareSave_ok (seen : Seen input found desktop)
    (ran : prepareSave host faults input found desktop = (.ok prepared, next)) :
    Ready host faults input found desktop next prepared := by
  unfold prepareSave at ran
  split at ran
  · exact prepareAgent_ok seen ‹_› ran
  · exact prepareSecret_ok seen ‹_› ran

theorem prepareSave_error (seen : Seen input found desktop)
    (ran : prepareSave host faults input found desktop = (.error error, next)) :
    Fails host faults input found desktop next := by
  unfold prepareSave at ran
  split at ran
  · exact prepareAgent_error seen ‹_› ran
  · exact prepareSecret_error seen ‹_› ran

end Preparations

section Save

variable {input : SaveConnectionInput} {found : Found}

theorem openSave_seen (opened : openSave host faults input desktop = .ok found) :
    Seen input found desktop ∧ validateConnection host.os input = .ok () := by
  simp only [openSave, CNShell.bind_eq_ok, pure_eq_ok] at opened
  obtain ⟨_, valid, _, -, _, -, _, -, rfl⟩ := opened
  refine ⟨⟨rfl, rfl, fun row live => ?_⟩, valid⟩
  obtain ⟨_, -, live⟩ := Option.bind_eq_some_iff.mp live
  exact (Option.filter_eq_some_iff.mp live).1

/-- The row that a request leaves behind. -/
def savedRow (now : String) (input : SaveConnectionInput) (desktop : DesktopState) : ConnectionRow :=
  upsertedRow now (desktop.connections input.id) input (preparedReference input)

/-- A request is prepared, and no fault is due before its row is written. -/
def WritesRow (host : HostSystem) (faults : Faults) (input : SaveConnectionInput) (found : Found)
    (desktop : DesktopState) : Prop :=
  (∃ prepared next, prepareSave host faults input found desktop = (.ok prepared, next)) ∧
    faults .selectCreated = none ∧ faults .writeConnection = none

/-- A request neither brings a credential nor takes one away. -/
def LeavesCredential (input : SaveConnectionInput) (found : Found) : Prop :=
  ¬usesAgent input ∧ secretOf input = none ∧ authChanged found input = false

/-- The reference in the row of a connection, unless the row is authenticated in another way. -/
def heldReference (input : SaveConnectionInput) (desktop : DesktopState) : Option String :=
  (desktop.connections input.id).bind fun row =>
    if row.authType = input.authType then row.credentialRef else none

/--
When a connection is saved with all of its stores or with none.

The vault of macOS must not be cleared alone while the older item says something else. A row that is
written but cannot be read again must be the row that was there. And where a request leaves the credential
alone, the row that was there must refer to one, for the same authentication, exactly when there is one.
-/
structure SavesWhole (host : HostSystem) (faults : Faults) (now : String) (input : SaveConnectionInput)
    (desktop : DesktopState) : Prop where
  vault : ∀ found, openSave host faults input desktop = .ok found →
    HalfClears host faults input found desktop → desktop.credential input.id host.os = desktop.secrets input.id
  readBack : ∀ found, openSave host faults input desktop = .ok found →
    WritesRow host faults input found desktop → faults .readBack ≠ none →
      desktop.connections input.id = some (savedRow now input desktop)
  reference : ∀ found, openSave host faults input desktop = .ok found →
    WritesRow host faults input found desktop → faults .readBack = none →
      LeavesCredential input found →
        (heldReference input desktop).isSome = (desktop.credential input.id host.os).isSome

variable {row : ConnectionRow}

theorem live_setConnection (alive : row.deletedAt = none) :
    (desktop.setConnection id (some row)).live id = some row := by
  simp [DesktopState.live, DesktopState.setConnection, alive]

@[simp] theorem upsertedRow_deletedAt (old : Option ConnectionRow) (reference : Option String) :
    (upsertedRow now old input reference).deletedAt = none := by
  cases old <;> rfl

theorem saveConnection_apply {reference : Option String}
    (valid : validateConnection host.os input = .ok ()) :
    saveConnection host.os faults now input reference desktop =
      match faults .selectCreated, faults .writeConnection, faults .readBack with
      | some error, _, _ | none, some error, _ => (.error error, desktop)
      | none, none, some error => (.error error, desktop.setConnection input.id
          (some (upsertedRow now (desktop.connections input.id) input reference)))
      | none, none, none =>
        (.ok (upsertedRow now (desktop.connections input.id) input reference),
          desktop.setConnection input.id
            (some (upsertedRow now (desktop.connections input.id) input reference))) := by
  unfold saveConnection getConnection
  simp only [check_bind_apply, valid, reach_bind_apply, modify_bind_apply, get_bind_apply,
    check_apply, live_setConnection (upsertedRow_deletedAt _ _), required_some]
  cases faults .selectCreated <;> cases faults .writeConnection <;> cases faults .readBack <;> rfl

theorem savedRow_reference (now : String) (seen : Seen input found desktop) :
    (savedRow now input desktop).credentialRef.isSome = (preparedCredential os input found desktop).isSome ↔
      (LeavesCredential input found →
        (heldReference input desktop).isSome = (desktop.credential input.id os).isSome) := by
  unfold savedRow LeavesCredential heldReference preparedReference preparedCredential
  by_cases agent : usesAgent input
  · -- An agent's connection refers to no credential and has none.
    cases desktop.connections input.id <;> simp [agent, upsertedRow, carriedRef, insertedRow]
  · cases brought : secretOf input with
    | some secret =>
      cases desktop.connections input.id <;>
        simp [agent, upsertedRow, carriedRef, insertedRow] <;> split <;> simp
    | none =>
      cases changed : authChanged found input with
      | true =>
        -- The row that was found is authenticated in another way, and so is the one that is there.
        cases live : found.existing with
        | none => simp [authChanged, live] at changed
        | some row =>
          have other : row.authType ≠ input.authType := by simpa [authChanged, live] using changed
          rw [seen.existing row live]
          simp [agent, upsertedRow, carriedRef, insertedRow, other]
      | false =>
        cases desktop.connections input.id <;>
          simp [agent, upsertedRow, carriedRef, insertedRow]

theorem savesWhole_iff (opened : openSave host faults input desktop = .ok found) :
    SavesWhole host faults now input desktop ↔
      (HalfClears host faults input found desktop → desktop.credential input.id host.os = desktop.secrets input.id) ∧
      (WritesRow host faults input found desktop → faults .readBack ≠ none →
        desktop.connections input.id = some (savedRow now input desktop)) ∧
      (WritesRow host faults input found desktop → faults .readBack = none →
        LeavesCredential input found →
          (heldReference input desktop).isSome = (desktop.credential input.id host.os).isSome) := by
  constructor
  · exact fun whole => ⟨whole.vault found opened, whole.readBack found opened, whole.reference found opened⟩
  · rintro ⟨vault, readBack, reference⟩
    refine ⟨fun other found => ?_, fun other found => ?_, fun other found => ?_⟩
    all_goals
      rw [opened] at found
      obtain rfl := Except.ok.inj found
      assumption

theorem prepareSave_error_atomic {error : AppError}
    (opened : openSave host faults input desktop = .ok found)
    (stopped : prepareSave host faults input found desktop = (.error error, next)) :
    next.stores host.os = desktop.stores host.os ↔ SavesWhole host faults now input desktop := by
  have unwritten : ¬WritesRow host faults input found desktop := by
    rintro ⟨⟨prepared, last, ran⟩, -⟩
    rw [stopped] at ran
    cases ran
  rw [savesWhole_iff opened]
  simp only [unwritten, false_imp_iff, and_true]
  rcases prepareSave_error (openSave_seen opened).1 stopped with ⟨spared, same⟩ | ⟨half, cleared⟩
  · simp [spared, same]
  · -- The vault is empty now, and what is found is the older item.
    rw [cleared, Stores.setCredential_eq_self]
    simp only [half, true_imp_iff]
    rfl

theorem Ready.unwritten {prepared : Prepared}
    (ready : Ready host faults input found desktop next prepared) :
    (prepared.undo next).stores host.os = desktop.stores host.os := by
  obtain ⟨bookmark, certificate, keys⟩ := ready.left
  exact ready.back keys

theorem Ready.written {prepared : Prepared} (ready : Ready host faults input found desktop next prepared) :
    (prepared.undo (next.setConnection input.id (some row))).stores host.os =
      (desktop.stores host.os).setConnection input.id (some row) := by
  obtain ⟨bookmark, certificate, keys⟩ := ready.left
  have left : (next.setConnection input.id (some row)).stores host.os =
      ((desktop.stores host.os).setConnection input.id (some row)).setOwn input.id
        (preparedCredential host.os input found desktop) bookmark certificate :=
    congrArg (Stores.setConnection · input.id (some row)) keys
  rw [ready.undo _ (credential_of_stores left), left, setOwn_setOwn]
  exact congrArg (Stores.setConnection · input.id (some row)) setOwn_self

theorem prepareSave_ok_atomic {prepared : Prepared}
    (opened : openSave host faults input desktop = .ok found)
    (ran : prepareSave host faults input found desktop = (.ok prepared, next)) :
    Atomic host.os input.id desktop
        ((saveConnection host.os faults now input prepared.reference).undoing prepared.undo next) ↔
      SavesWhole host faults now input desktop := by
  obtain ⟨seen, valid⟩ := openSave_seen opened
  have ready := prepareSave_ok seen ran
  obtain ⟨bookmark, certificate, keys⟩ := ready.left
  have rows : next.connections = desktop.connections := congrArg Stores.connections keys
  have credential : next.credential input.id host.os =
      preparedCredential host.os input found desktop := credential_of_stores keys
  rw [savesWhole_iff opened]
  simp only [ready.whole, false_imp_iff, true_and]
  have writes : WritesRow host faults input found desktop ↔
      faults .selectCreated = none ∧ faults .writeConnection = none :=
    ⟨fun writes => writes.2, fun passed => ⟨⟨prepared, next, ran⟩, passed⟩⟩
  have row : upsertedRow now (next.connections input.id) input prepared.reference = savedRow now input desktop := by
    rw [rows, ready.reference]
    rfl
  rw [writes]
  unfold Section.undoing
  rw [saveConnection_apply valid, row]
  cases faults .selectCreated with
  | some error => exact ⟨fun _ => ⟨nofun, nofun⟩, fun _ => ready.unwritten⟩
  | none =>
    cases faults .writeConnection with
    | some error => exact ⟨fun _ => ⟨nofun, nofun⟩, fun _ => ready.unwritten⟩
    | none =>
      cases faults .readBack with
      | some error =>
        -- The row stays written, so it must have been there before.
        show (prepared.undo _).stores host.os = _ ↔ _
        rw [ready.written, Stores.setConnection_eq_self]
        simp only [true_and, ne_eq, reduceCtorEq, not_false_eq_true, forall_const, false_imp_iff,
          implies_true, and_true]
        rfl
      | none =>
        have kept : (next.setConnection input.id (some (savedRow now input desktop))).credential
            input.id host.os = preparedCredential host.os input found desktop := credential
        have reference : (next.setConnection input.id
            (some (savedRow now input desktop))).reference input.id = (savedRow now input desktop).credentialRef := by
          simp [DesktopState.reference, DesktopState.setConnection]
        simp only [true_and, ne_eq, not_true_eq_false, false_imp_iff, implies_true, forall_const]
        rw [← savedRow_reference now seen]
        simp only [Atomic, kept, reference]

theorem connectionSave_atomic (host : HostSystem) (faults : Faults) (now : String)
    (input : SaveConnectionInput) (desktop : DesktopState) :
    Atomic host.os input.id desktop (connectionSave host faults now input desktop) ↔
      SavesWhole host faults now input desktop := by
  unfold connectionSave
  rw [get_bind_apply, check_bind_apply]
  cases opened : openSave host faults input desktop with
  | error error =>
    -- A request that is refused touches nothing.
    exact ⟨fun _ => ⟨by simp [opened], by simp [opened], by simp [opened]⟩, fun _ => rfl⟩
  | ok found =>
    cases ran : prepareSave host faults input found desktop with
    | mk result next =>
      cases result with
      | error error =>
        have stopped : (prepareSave host faults input found >>= fun prepared =>
            (saveConnection host.os faults now input prepared.reference).undoing prepared.undo)
            desktop = (.error error, next) := bind_eq_error.mpr (.inl ran)
        simp only [stopped]
        exact prepareSave_error_atomic opened ran
      | ok prepared =>
        have goes : (prepareSave host faults input found >>= fun prepared =>
            (saveConnection host.os faults now input prepared.reference).undoing prepared.undo)
            desktop = (saveConnection host.os faults now input prepared.reference).undoing
              prepared.undo next := bind_apply_ok ran
        simp only [goes]
        exact prepareSave_ok_atomic opened ran

end Save

end Client

end CNShell
