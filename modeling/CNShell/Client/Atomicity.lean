import CNShell.Client.Saving
import CNShell.Client.Environments

/-! The commands that purge and copy a connection change all of its stores or none. -/

namespace CNShell

namespace Client

open Section

variable {host : HostSystem} {os : TargetOs} {faults : Faults} {now : String} {id : String}
variable {desktop next : DesktopState}

section Purge

/-- A purge clears the vault of macOS without removing the older item of the credential. -/
structure HalfPurges (host : HostSystem) (faults : Faults) (id : String) (desktop : DesktopState) : Prop where
  macos : host.os = .macos
  loads : ∃ secret next, loadCredential host.os faults id desktop = (.ok secret, next)
  bookmark : faults .loadBookmark = none
  certificate : faults .loadCertificateBookmark = none
  drive : faults .loadRdpDriveBookmark = none
  vault : faults .deleteVaultCredential = none
  item : faults .deleteCredential ≠ none

/-- The stores of a connection whose credential and keys are gone. -/
def Stores.setAll (stores : Stores) (id : String) (secret bookmark certificate drive : Option String) : Stores :=
  (stores.setOwn id secret bookmark certificate).setRdpDriveBookmark id drive

@[simp] theorem setAll_setAll (stores : Stores) (secret bookmark certificate drive : Option String)
    (secret' bookmark' certificate' drive' : Option String) :
    (stores.setAll id secret bookmark certificate drive).setAll id secret' bookmark' certificate' drive' =
      stores.setAll id secret' bookmark' certificate' drive' := by
  simp [Stores.setAll, Stores.setOwn, Stores.setCredential, Stores.setBookmark,
    Stores.setCertificateBookmark, Stores.setRdpDriveBookmark]

@[simp] theorem setAll_self : (desktop.stores os).setAll id (desktop.credential id os)
    (desktop.bookmarks id) (desktop.certificateBookmarks id) (desktop.rdpDriveBookmarks id) = desktop.stores os := by
  simp [Stores.setAll, Stores.setOwn, Stores.setCredential, Stores.setBookmark,
    Stores.setCertificateBookmark, Stores.setRdpDriveBookmark, DesktopState.stores]

variable {error : AppError}

theorem purgeConnection_error (ran : purgeConnection faults id desktop = (.error error, next)) : desktop = next := by
  rcases reach_bind_error.mp ran with ⟨-, same⟩ | ⟨-, rest⟩
  · exact same
  · rw [get_bind_apply, check_bind_apply] at rest
    split at rest
    · cases rest
    · exact (Prod.mk.inj rest).2

theorem purgeConnection_ok {u : Unit} (ran : purgeConnection faults id desktop = (.ok u, next)) :
    next.reference id = none ∧ next.credential id os = desktop.credential id os := by
  obtain ⟨-, ran⟩ := reach_bind_ok.mp ran
  rw [get_bind_apply] at ran
  obtain ⟨_, -, ran⟩ := check_bind_eq_ok.mp ran
  cases ran
  refine ⟨?_, rfl⟩
  simp [DesktopState.reference, removeInsertedConnection, DesktopState.setConnection]

theorem unpurge_stores {later found : DesktopState} {secret bookmark certificate drive : Option String}
    (same : found.stores host.os = desktop.stores host.os)
    (left : later.stores host.os = (desktop.stores host.os).setAll id secret bookmark certificate drive) :
    (unpurge host id (desktop.credential id host.os) found later).stores host.os = desktop.stores host.os := by
  have keys : found.bookmarks = desktop.bookmarks := congrArg Stores.bookmarks same
  have certificates : found.certificateBookmarks = desktop.certificateBookmarks :=
    congrArg Stores.certificateBookmarks same
  have drives : found.rdpDriveBookmarks = desktop.rdpDriveBookmarks :=
    congrArg Stores.rdpDriveBookmarks same
  have whole : (unpurge host id (desktop.credential id host.os) found later).stores host.os =
      (later.stores host.os).setAll id (desktop.credential id host.os) (found.bookmarks id)
        (found.certificateBookmarks id) (found.rdpDriveBookmarks id) :=
    congrArg (fun stores : Stores => ((stores.setBookmark id (found.bookmarks id)).setCertificateBookmark
      id (found.certificateBookmarks id)).setRdpDriveBookmark id (found.rdpDriveBookmarks id)) stores_restore
  rw [whole, left, setAll_setAll, keys, certificates, drives, setAll_self]

theorem unpurgeKey_stores {later found : DesktopState} {bookmark : Option String}
    (same : found.stores host.os = desktop.stores host.os)
    (left : later.stores host.os = ((desktop.stores host.os).setCredential id none).setBookmark id bookmark) :
    (unpurgeKey host id (desktop.credential id host.os) found later).stores host.os = desktop.stores host.os := by
  have keys : found.bookmarks = desktop.bookmarks := congrArg Stores.bookmarks same
  have whole : (unpurgeKey host id (desktop.credential id host.os) found later).stores host.os =
      ((later.stores host.os).setCredential id (desktop.credential id host.os)).setBookmark id
        (found.bookmarks id) :=
    congrArg (Stores.setBookmark · id (found.bookmarks id)) stores_restore
  rw [whole, left, keys]
  simp [Stores.setCredential, Stores.setBookmark, DesktopState.stores]

theorem reach_modify_error {call : Call} {change : DesktopState → DesktopState}
    (ran : (reach faults call >>= fun _ => Section.modify change) desktop = (.error error, next)) : desktop = next := by
  rcases reach_bind_error.mp ran with ⟨-, same⟩ | ⟨-, rest⟩
  · exact same
  · cases rest

/-- Once its credential is gone, a connection is purged as a whole or not at all. -/
theorem purgeStored_atomic {third found : DesktopState}
    (same : found.stores host.os = desktop.stores host.os)
    (cleared : third.stores host.os = (desktop.stores host.os).setCredential id none) :
    Atomic host.os id desktop
      (purgeStored host faults id (desktop.credential id host.os) found third) := by
  have keyless : (third.setBookmark id none).stores host.os =
      ((desktop.stores host.os).setCredential id none).setBookmark id none :=
    congrArg (Stores.setBookmark · id none) cleared
  have bare : ((third.setBookmark id none).setCertificateBookmark id none).stores host.os =
      (desktop.stores host.os).setAll id none none none (desktop.rdpDriveBookmarks id) := by
    refine (congrArg (Stores.setCertificateBookmark · id none) keyless).trans ?_
    simp [Stores.setAll, Stores.setOwn, Stores.setCredential, Stores.setBookmark,
      Stores.setCertificateBookmark, Stores.setRdpDriveBookmark, DesktopState.stores]
  have gone : (((third.setBookmark id none).setCertificateBookmark id none).setRdpDriveBookmark id
      none).stores host.os = (desktop.stores host.os).setAll id none none none none := by
    refine (congrArg (Stores.setRdpDriveBookmark · id none) bare).trans ?_
    simp [Stores.setAll, Stores.setRdpDriveBookmark]
  cases ran : purgeStored host faults id (desktop.credential id host.os) found third with
  | mk result last =>
    cases result with
    | error error =>
      show last.stores host.os = desktop.stores host.os
      rcases bind_eq_error.mp ran with ran | ⟨_, _, first, ran⟩
      · obtain ⟨_, stopped, rfl⟩ := undoing_eq_error.mp ran
        obtain rfl := reach_modify_error stopped
        rw [stores_restore, cleared, Stores.setCredential_setCredential]
        exact Stores.setCredential_self _ _
      cases (reach_bind_ok.mp (undoing_eq_ok.mp first)).2
      rcases bind_eq_error.mp ran with ran | ⟨_, _, second, ran⟩
      · obtain ⟨_, stopped, rfl⟩ := undoing_eq_error.mp ran
        obtain rfl := reach_modify_error stopped
        exact unpurgeKey_stores same keyless
      cases (reach_bind_ok.mp (undoing_eq_ok.mp second)).2
      rcases bind_eq_error.mp ran with ran | ⟨_, _, third, ran⟩
      · obtain ⟨_, stopped, rfl⟩ := undoing_eq_error.mp ran
        obtain rfl := reach_modify_error stopped
        exact unpurge_stores same bare
      cases (reach_bind_ok.mp (undoing_eq_ok.mp third)).2
      obtain ⟨_, stopped, rfl⟩ := undoing_eq_error.mp ran
      obtain rfl := purgeConnection_error stopped
      exact unpurge_stores same gone
    | ok done =>
      obtain ⟨_, _, first, ran⟩ := Section.bind_eq_ok.mp ran
      cases (reach_bind_ok.mp (undoing_eq_ok.mp first)).2
      obtain ⟨_, _, second, ran⟩ := Section.bind_eq_ok.mp ran
      cases (reach_bind_ok.mp (undoing_eq_ok.mp second)).2
      obtain ⟨_, _, third, ran⟩ := Section.bind_eq_ok.mp ran
      cases (reach_bind_ok.mp (undoing_eq_ok.mp third)).2
      -- The row is gone, and so is the credential.
      obtain ⟨reference, credential⟩ := purgeConnection_ok (undoing_eq_ok.mp ran)
      have missing := congrFun (congrArg Stores.credentials gone) id
      simp only [Stores.setAll, Stores.setOwn, Stores.setCredential, Stores.setBookmark,
        Stores.setCertificateBookmark, Stores.setRdpDriveBookmark, Function.update_self] at missing
      show (last.reference id).isSome = (last.credential id host.os).isSome
      rw [reference, credential]
      exact (congrArg Option.isSome missing).symm

/-- A deleted connection is purged with all of its stores or not at all, exactly when it may be. -/
theorem connectionPurge_atomic (host : HostSystem) (faults : Faults) (id : String) (desktop : DesktopState) :
    Atomic host.os id desktop (connectionPurge host faults id desktop) ↔
      (HalfPurges host faults id desktop → desktop.credential id host.os = desktop.secrets id) := by
  cases loaded : loadCredential host.os faults id desktop with
  | mk result middle =>
    cases result with
    | error error =>
      obtain rfl := loadCredential_error loaded
      have stopped : connectionPurge host faults id desktop = (.error error, desktop) :=
        bind_eq_error.mpr (.inl loaded)
      rw [stopped]
      refine ⟨fun _ half => ?_, fun _ => rfl⟩
      obtain ⟨_, _, other⟩ := half.loads
      rw [loaded] at other
      cases other
    | ok previous =>
      obtain ⟨rfl, quiet, items⟩ := loadCredential_ok loaded
      unfold connectionPurge
      rw [bind_apply_ok loaded, reach_bind_apply]
      cases bookmark : faults .loadBookmark with
      | some error =>
        exact ⟨fun _ half => absurd half.bookmark (by simp [bookmark]), fun _ => quiet⟩
      | none =>
        simp only [reach_bind_apply]
        cases certificate : faults .loadCertificateBookmark with
        | some error =>
          exact ⟨fun _ half => absurd half.certificate (by simp [certificate]), fun _ => quiet⟩
        | none =>
          cases drive : faults .loadRdpDriveBookmark with
          | some error => exact ⟨fun _ half => absurd half.drive (by simp [drive]), fun _ => quiet⟩
          | none =>
            simp only [get_bind_apply]
            cases deleted : deleteCredential host.os faults id middle with
            | mk result third =>
              cases result with
              | ok done =>
                obtain ⟨cleared, passed⟩ := deleteCredential_ok deleted
                rw [bind_apply_ok deleted]
                rw [quiet] at cleared
                exact ⟨fun _ half => absurd passed half.item, fun _ => purgeStored_atomic quiet cleared⟩
              | error error =>
                rw [bind_apply_error deleted]
                rcases deleteCredential_error deleted with ⟨rfl, spared⟩ | ⟨macos, vault, item, half⟩
                · exact ⟨fun _ half => absurd half.vault (spared half.macos), fun _ => quiet⟩
                · -- The vault is empty now, and what is found is the older item.
                  have whole : HalfPurges host faults id desktop :=
                    ⟨macos, ⟨_, _, loaded⟩, bookmark, certificate, drive, vault, item⟩
                  rw [quiet, items] at half
                  show third.stores host.os = _ ↔ _
                  rw [half, Stores.setCredential_eq_self]
                  simp only [whole, true_imp_iff]
                  rfl

end Purge

section Duplicate

variable {newId : String} {input : SaveConnectionInput} {saved : ConnectionRow} {later : DesktopState}

def Stores.without (stores : Stores) (id : String) : Stores where
  connections := Function.update stores.connections id none
  workspaceState key := if key ∈ optionKeys id then none else stores.workspaceState key
  credentials := Function.update stores.credentials id none
  bookmarks := Function.update stores.bookmarks id none
  certificateBookmarks := Function.update stores.certificateBookmarks id none
  rdpDriveBookmarks := Function.update stores.rdpDriveBookmarks id none

/-- Nothing is stored under an id besides perhaps its row. -/
structure Unused (os : TargetOs) (id : String) (desktop : DesktopState) : Prop where
  options : ∀ key ∈ optionKeys id, desktop.workspaceState key = none
  credential : desktop.credential id os = none
  bookmark : desktop.bookmarks id = none
  certificate : desktop.certificateBookmarks id = none
  drive : desktop.rdpDriveBookmarks id = none

theorem Unused.without (unused : Unused os id desktop) (row : desktop.connections id = none) :
    (desktop.stores os).without id = desktop.stores os := by
  have update {α : Type} (values : String → Option α) (none_there : values id = none) :
      Function.update values id none = values := by
    rw [← none_there, Function.update_eq_self]
  refine Stores.ext (update _ row) (funext fun key => ?_) (update _ unused.credential)
    (update _ unused.bookmark) (update _ unused.certificate) (update _ unused.drive)
  show (if key ∈ optionKeys id then none else desktop.workspaceState key) = desktop.workspaceState key
  split
  · exact (unused.options key ‹_›).symm
  · rfl

theorem removeInserted_stores (credential : later.credential newId os = none)
    (bookmark : later.bookmarks newId = none) (certificate : later.certificateBookmarks newId = none)
    (drive : later.rdpDriveBookmarks newId = none) :
    (removeInsertedConnection newId later).stores os = (later.stores os).without newId := by
  have update (values : String → Option String) (none_there : values newId = none) :
      values = Function.update values newId none := by
    rw [← none_there, Function.update_eq_self]
  exact Stores.ext rfl rfl (update _ credential) (update _ bookmark) (update _ certificate)
    (update _ drive)

theorem without_setBookmark (stores : Stores) (value : Option String) :
    (stores.setBookmark id value).without id = stores.without id := by
  simp [Stores.without, Stores.setBookmark]

theorem without_setCertificateBookmark (stores : Stores) (value : Option String) :
    (stores.setCertificateBookmark id value).without id = stores.without id := by
  simp [Stores.without, Stores.setCertificateBookmark]

theorem without_setRdpDriveBookmark (stores : Stores) (value : Option String) :
    (stores.setRdpDriveBookmark id value).without id = stores.without id := by
  simp [Stores.without, Stores.setRdpDriveBookmark]

theorem without_setCredential (stores : Stores) (value : Option String) :
    (stores.setCredential id value).without id = stores.without id := by
  simp [Stores.without, Stores.setCredential]

theorem without_setConnection (stores : Stores) (row : Option ConnectionRow) :
    (stores.setConnection id row).without id = stores.without id := by
  simp [Stores.without, Stores.setConnection]

/-- Nothing changed but what is stored under one id, where there is no credential. -/
structure Apart (os : TargetOs) (newId : String) (desktop later : DesktopState) : Prop where
  rest : (later.stores os).without newId = desktop.stores os
  credential : later.credential newId os = none

/-- A copy that has a row, and no credential yet. -/
structure Copied (os : TargetOs) (newId : String) (desktop later : DesktopState) : Prop
    extends Apart os newId desktop later where
  row : later.reference newId = none

namespace Apart

variable (copied : Apart os newId desktop later)

include copied

theorem setBookmark (value : Option String) : Apart os newId desktop (later.setBookmark newId value) :=
  ⟨(without_setBookmark _ _).trans copied.rest, copied.credential⟩

theorem setCertificateBookmark (value : Option String) :
    Apart os newId desktop (later.setCertificateBookmark newId value) :=
  ⟨(without_setCertificateBookmark _ _).trans copied.rest, copied.credential⟩

theorem setRdpDriveBookmark (value : Option String) :
    Apart os newId desktop (later.setRdpDriveBookmark newId value) :=
  ⟨(without_setRdpDriveBookmark _ _).trans copied.rest, copied.credential⟩

theorem setState {value : Option String} : Apart os newId desktop (later.setState (rdpKey newId) value) := by
  refine ⟨?_, copied.credential⟩
  rw [← copied.rest]
  refine Stores.ext rfl (funext fun key => ?_) rfl rfl rfl rfl
  show (if key ∈ optionKeys newId then none else Function.update later.workspaceState _ _ key) =
    if key ∈ optionKeys newId then none else later.workspaceState key
  split
  · rfl
  · rename_i other
    rw [Function.update_of_ne]
    rintro rfl
    exact other (by simp [optionKeys, rdpKey])

theorem removed (bookmark : later.bookmarks newId = none)
    (certificate : later.certificateBookmarks newId = none)
    (drive : later.rdpDriveBookmarks newId = none) :
    (removeInsertedConnection newId later).stores os = desktop.stores os :=
  (removeInserted_stores copied.credential bookmark certificate drive).trans copied.rest

theorem key_removed (certificate : later.certificateBookmarks newId = none)
    (drive : later.rdpDriveBookmarks newId = none) :
    (undoKey newId later).stores os = desktop.stores os :=
  (copied.setBookmark none).removed (by simp [DesktopState.setBookmark]) certificate drive

theorem keys_removed (drive : later.rdpDriveBookmarks newId = none) :
    (undoKeys newId later).stores os = desktop.stores os :=
  ((copied.setBookmark none).setCertificateBookmark none).removed
    (by simp [DesktopState.setBookmark, DesktopState.setCertificateBookmark])
    (by simp [DesktopState.setCertificateBookmark]) drive

theorem copies_removed : (undoCopies newId later).stores os = desktop.stores os :=
  (((copied.setBookmark none).setCertificateBookmark none).setRdpDriveBookmark none).removed
    (by simp [DesktopState.setBookmark, DesktopState.setCertificateBookmark, DesktopState.setRdpDriveBookmark])
    (by simp [DesktopState.setCertificateBookmark, DesktopState.setRdpDriveBookmark])
    (by simp [DesktopState.setRdpDriveBookmark])

end Apart

theorem copyValue_ok {call : Call} {value : DesktopState → Option String}
    {put : Option String → DesktopState → DesktopState} {u : Unit}
    (ran : copyValue faults call value put desktop = (.ok u, next)) :
    next = desktop ∨ ∃ found, next = put (some found) desktop := by
  obtain ⟨-, ran⟩ := reach_bind_ok.mp ran
  obtain rfl := (Prod.mk.inj ran).2
  cases held : value desktop with
  | none =>
    left
    simp only [held]
  | some found =>
    right
    simp only [held]
    exact ⟨found, rfl⟩

theorem loadRdpOptions_same {result : AppResult (Option RdpConnectionOptions)}
    (ran : loadRdpOptions host faults id desktop = (result, next)) : desktop = next := by
  have kept : Keeps (fun other => other = desktop) (loadRdpOptions host faults id) := by
    refine .bind (.check _) fun _ _ _ _ => .get_bind fun other _ => ?_
    cases other.workspaceState (rdpKey id) with
    | none => exact .pure _
    | some text => exact .check_bind fun _ _ => .pure _
  have same := kept desktop rfl
  rw [ran] at same
  exact same.symm

theorem saveNamedState_ok {key text : String} {u : Unit}
    (ran : saveNamedState faults key text desktop = (.ok u, next)) :
    next = desktop.setState key (some text) := by
  obtain ⟨_, -, ran⟩ := check_bind_eq_ok.mp ran
  obtain ⟨-, ran⟩ := reach_bind_ok.mp ran
  exact (Prod.mk.inj ran).2.symm

variable {error : AppError}

theorem saveNamedState_error {key text : String}
    (ran : saveNamedState faults key text desktop = (.error error, next)) : desktop = next := by
  unfold saveNamedState at ran
  rw [check_bind_apply] at ran
  split at ran
  · exact reach_modify_error ran
  · exact (Prod.mk.inj ran).2

theorem copyRdpOptions_copied (copied : Copied host.os newId desktop later)
    (drive : later.rdpDriveBookmarks newId = none) {result : AppResult Unit}
    (ran : copyRdpOptions host faults id newId input later = (result, next)) :
    match result with
    | .ok _ => Copied host.os newId desktop next
    | .error _ => next.stores host.os = desktop.stores host.os := by
  unfold copyRdpOptions at ran
  split at ran
  · cases result with
    | ok done =>
      obtain ⟨options, _, loaded, ran⟩ := Section.bind_eq_ok.mp ran
      obtain rfl := loadRdpOptions_same (undoing_eq_ok.mp loaded)
      cases options with
      | none =>
        cases ran
        exact copied
      | some options =>
        obtain ⟨_, middle, given, ran⟩ := Section.bind_eq_ok.mp ran
        have mapped : Copied host.os newId desktop middle := by
          rcases copyValue_ok (undoing_eq_ok.mp given) with rfl | ⟨found, rfl⟩
          · exact copied
          · exact ⟨copied.toApart.setRdpDriveBookmark _, copied.row⟩
        obtain rfl := saveNamedState_ok (undoing_eq_ok.mp ran)
        exact ⟨mapped.toApart.setState, mapped.row⟩
    | error error =>
      rcases bind_eq_error.mp ran with ran | ⟨options, _, loaded, ran⟩
      · obtain ⟨_, stopped, rfl⟩ := undoing_eq_error.mp ran
        obtain rfl := loadRdpOptions_same stopped
        exact copied.keys_removed drive
      obtain rfl := loadRdpOptions_same (undoing_eq_ok.mp loaded)
      cases options with
      | none => cases ran
      | some options =>
        rcases bind_eq_error.mp ran with ran | ⟨_, middle, given, ran⟩
        · obtain ⟨_, stopped, rfl⟩ := undoing_eq_error.mp ran
          obtain rfl := reach_modify_error stopped
          exact copied.keys_removed drive
        · have mapped : Copied host.os newId desktop middle := by
            rcases copyValue_ok (undoing_eq_ok.mp given) with rfl | ⟨found, rfl⟩
            · exact copied
            · exact ⟨copied.toApart.setRdpDriveBookmark _, copied.row⟩
          obtain ⟨_, stopped, rfl⟩ := undoing_eq_error.mp ran
          obtain rfl := saveNamedState_error stopped
          exact mapped.copies_removed
  · cases ran
    exact copied

theorem Copied.quiet (copied : Copied os newId desktop later) {middle : DesktopState}
    (same : middle.stores os = later.stores os) : Copied os newId desktop middle := by
  have rows : middle.connections = later.connections := congrArg Stores.connections same
  have credential : middle.credential newId os = later.credential newId os :=
    congrFun (congrArg Stores.credentials same) newId
  refine ⟨⟨same ▸ copied.rest, credential.trans copied.credential⟩, ?_⟩
  rw [DesktopState.reference, rows]
  exact copied.row

variable {reference : String}

theorem setConnectionCredentialRef_error
    (ran : setConnectionCredentialRef faults now id reference desktop = (.error error, next)) :
    ∃ row, next = desktop.setConnection id row := by
  have self : desktop = desktop.setConnection id (desktop.connections id) := by
    simp [DesktopState.setConnection]
  rcases reach_bind_error.mp ran with ⟨-, rfl⟩ | ⟨-, rest⟩
  · exact ⟨_, self⟩
  rw [get_bind_apply, check_bind_apply] at rest
  split at rest
  · rw [modify_bind_apply] at rest
    unfold getConnection at rest
    rcases reach_bind_error.mp rest with ⟨-, rfl⟩ | ⟨-, last⟩
    · exact ⟨_, rfl⟩
    · exact ⟨_, (Prod.mk.inj last).2.symm⟩
  · obtain rfl := (Prod.mk.inj rest).2
    exact ⟨_, self⟩

theorem setConnectionCredentialRef_ok {row : ConnectionRow}
    (ran : setConnectionCredentialRef faults now id reference desktop = (.ok row, next)) :
    next.reference id = some reference ∧ next.credential id os = desktop.credential id os := by
  obtain ⟨-, ran⟩ := reach_bind_ok.mp ran
  rw [get_bind_apply] at ran
  obtain ⟨old, -, ran⟩ := check_bind_eq_ok.mp ran
  rw [modify_bind_apply] at ran
  obtain ⟨-, ran⟩ := reach_bind_ok.mp ran
  obtain rfl := (Prod.mk.inj ran).2
  refine ⟨?_, rfl⟩
  simp [DesktopState.reference, DesktopState.setConnection]

/-- The credential of a copy is stored with a reference to it, or the copy is removed. -/
theorem copyCredential_atomic (copied : Copied host.os newId desktop later) :
    Atomic host.os newId desktop (copyCredential host faults now id newId saved later) := by
  cases ran : copyCredential host faults now id newId saved later with
  | mk result last =>
    cases result with
    | ok row =>
      show (last.reference newId).isSome = (last.credential newId host.os).isSome
      obtain ⟨secret, middle, loaded, ran⟩ := Section.bind_eq_ok.mp ran
      obtain ⟨-, quiet, -⟩ := loadCredential_ok (undoing_eq_ok.mp loaded)
      cases secret with
      | none =>
        cases ran
        have still := copied.quiet quiet
        rw [still.credential, still.row]
      | some secret =>
        obtain ⟨reference, third, kept, ran⟩ := Section.bind_eq_ok.mp ran
        obtain ⟨-, stored⟩ := saveCredential_ok (undoing_eq_ok.mp kept)
        obtain ⟨named, same⟩ := setConnectionCredentialRef_ok (undoing_eq_ok.mp ran)
        have found : third.credential newId host.os = some secret := by
          have found := congrFun (congrArg Stores.credentials stored) newId
          simpa [Stores.setCredential, DesktopState.stores] using found
        rw [named, same, found]
        rfl
    | error error =>
      show last.stores host.os = desktop.stores host.os
      rcases bind_eq_error.mp ran with ran | ⟨secret, middle, loaded, ran⟩
      · obtain ⟨_, stopped, rfl⟩ := undoing_eq_error.mp ran
        obtain rfl := loadCredential_error stopped
        exact copied.copies_removed
      obtain ⟨-, quiet, -⟩ := loadCredential_ok (undoing_eq_ok.mp loaded)
      have still := copied.quiet quiet
      cases secret with
      | none => cases ran
      | some secret =>
        rcases bind_eq_error.mp ran with ran | ⟨reference, third, kept, ran⟩
        · obtain ⟨_, stopped, rfl⟩ := undoing_eq_error.mp ran
          obtain rfl := saveCredential_error stopped
          exact still.copies_removed
        · -- The credential is dropped again before the row is removed.
          obtain ⟨-, stored⟩ := saveCredential_ok (undoing_eq_ok.mp kept)
          obtain ⟨_, stopped, rfl⟩ := undoing_eq_error.mp ran
          obtain ⟨row, rfl⟩ := setConnectionCredentialRef_error stopped
          have rest : (third.stores host.os).without newId = desktop.stores host.os := by
            rw [stored, without_setCredential]
            exact still.rest
          have changed : ((third.setConnection newId row).stores host.os).without newId =
              (third.stores host.os).without newId :=
            without_setConnection (third.stores host.os) row
          have apart : Apart host.os newId desktop
              ((third.setConnection newId row).dropCredential host.os newId) := by
            refine ⟨?_, ?_⟩
            · rw [stores_drop, without_setCredential, changed, rest]
            · exact credential_drop
          exact apart.copies_removed

theorem copyRest_atomic (copied : Copied host.os newId desktop later)
    (bookmark : later.bookmarks newId = none) (certificate : later.certificateBookmarks newId = none)
    (drive : later.rdpDriveBookmarks newId = none) :
    Atomic host.os newId desktop (copyRest host faults now id newId input saved later) := by
  unfold copyRest
  cases first : (copyBookmark faults id newId).undoing (removeInsertedConnection newId) later with
  | mk result middle =>
    cases result with
    | error error =>
      rw [bind_apply_error first]
      obtain ⟨_, stopped, rfl⟩ := undoing_eq_error.mp first
      obtain rfl := reach_modify_error stopped
      exact copied.removed bookmark certificate drive
    | ok done =>
      rw [bind_apply_ok first]
      have keyed : Copied host.os newId desktop middle ∧
          middle.certificateBookmarks newId = none ∧ middle.rdpDriveBookmarks newId = none := by
        rcases copyValue_ok (undoing_eq_ok.mp first) with rfl | ⟨found, rfl⟩
        · exact ⟨copied, certificate, drive⟩
        · exact ⟨⟨copied.toApart.setBookmark _, copied.row⟩, certificate, drive⟩
      obtain ⟨copied, certificate, drive⟩ := keyed
      cases second : (copyCertificateBookmark faults id newId).undoing (undoKey newId) middle with
      | mk result third =>
        cases result with
        | error error =>
          rw [bind_apply_error second]
          obtain ⟨_, stopped, rfl⟩ := undoing_eq_error.mp second
          obtain rfl := reach_modify_error stopped
          exact copied.key_removed certificate drive
        | ok done =>
          rw [bind_apply_ok second]
          have certified : Copied host.os newId desktop third ∧ third.rdpDriveBookmarks newId = none := by
            rcases copyValue_ok (undoing_eq_ok.mp second) with rfl | ⟨found, rfl⟩
            · exact ⟨copied, drive⟩
            · exact ⟨⟨copied.toApart.setCertificateBookmark _, copied.row⟩, drive⟩
          obtain ⟨copied, drive⟩ := certified
          cases options : copyRdpOptions host faults id newId input third with
          | mk result fourth =>
            have left := copyRdpOptions_copied copied drive options
            cases result with
            | error error =>
              rw [bind_apply_error options]
              exact left
            | ok done =>
              rw [bind_apply_ok options]
              exact copyCredential_atomic left

theorem openDuplicate_ok {newName : String}
    (opened : openDuplicate host faults id newId newName desktop = .ok input) :
    input.id = newId ∧ validateConnection host.os input = .ok () ∧ desktop.connections newId = none := by
  simp only [openDuplicate, CNShell.bind_eq_ok, pure_eq_ok, ensure_eq_ok] at opened
  obtain ⟨_, -, source, -, asked, made, _, valid, _, -, _, free, rfl⟩ := opened
  refine ⟨?_, valid, free⟩
  simp only [duplicateInput, CNShell.bind_eq_ok, pure_eq_ok] at made
  obtain ⟨_, -, _, -, rfl⟩ := made
  rfl

theorem forall_eq_ok {α : Type} {value : α} {holds : α → Prop} :
    (∀ found, (.ok value : AppResult α) = .ok found → holds found) ↔ holds value :=
  ⟨fun each => each value rfl, fun held found same => Except.ok.inj same ▸ held⟩

theorem insertConnection_apply {reference : Option String}
    (valid : validateConnection host.os input = .ok ()) (free : desktop.connections input.id = none) :
    insertConnection host.os faults now input reference desktop =
      match faults .writeConnection, faults .readBack with
      | some error, _ => (.error error, desktop)
      | none, some error =>
        (.error error, desktop.setConnection input.id (some (insertedRow now input reference)))
      | none, none => (.ok (insertedRow now input reference),
          desktop.setConnection input.id (some (insertedRow now input reference))) := by
  have alive : (insertedRow now input reference).deletedAt = none := rfl
  unfold insertConnection getConnection
  simp only [check_bind_apply, valid, reach_bind_apply, get_bind_apply, free,
    ensure_of (rfl : (none : Option ConnectionRow) = none), modify_bind_apply, check_apply,
    live_setConnection alive, required_some]
  cases faults .writeConnection <;> cases faults .readBack <;> rfl

/--
A connection is copied with all of its stores or not at all, exactly when the row of the copy can be read
again, if nothing was left under the id of the copy.
-/
theorem connectionDuplicate_atomic (host : HostSystem) (faults : Faults)
    (now id newId newName : String) (desktop : DesktopState) (unused : Unused host.os newId desktop) :
    Atomic host.os newId desktop (connectionDuplicate host faults now id newId newName desktop) ↔
      ∀ input, openDuplicate host faults id newId newName desktop = .ok input →
        faults .writeConnection = none → faults .readBack = none := by
  unfold connectionDuplicate
  rw [get_bind_apply, check_bind_apply]
  cases opened : openDuplicate host faults id newId newName desktop with
  | error error =>
    refine ⟨fun _ input same => ?_, fun _ => rfl⟩
    cases same
  | ok input =>
    obtain ⟨rfl, valid, free⟩ := openDuplicate_ok opened
    have inserted : insertConnection host.os faults now input none desktop = _ :=
      insertConnection_apply valid free
    simp only [forall_eq_ok]
    cases written : faults .writeConnection with
    | some error =>
      have stopped : (insertConnection host.os faults now input none).mapError insertionError desktop =
          (.error (insertionError error), desktop) := by
        rw [mapError, inserted, written]
        rfl
      simp only [bind_apply_error stopped]
      refine ⟨fun _ untouched => ?_, fun _ => rfl⟩
      cases untouched
    | none =>
      cases read : faults .readBack with
      | some error =>
        -- The row of the copy stays, and nothing removes it.
        have stopped : (insertConnection host.os faults now input none).mapError insertionError desktop =
            (.error (insertionError error), desktop.setConnection input.id (some (insertedRow now input none))) := by
          rw [mapError, inserted, written, read]
          rfl
        simp only [bind_apply_error stopped, reduceCtorEq, imp_false, not_true_eq_false, iff_false]
        intro same
        have row := (Stores.setConnection_eq_self (desktop.stores host.os) input.id _).mp same
        rw [show (desktop.stores host.os).connections input.id = none from free] at row
        cases row
      | none =>
        have goes : (insertConnection host.os faults now input none).mapError insertionError desktop =
            (.ok (insertedRow now input none),
              desktop.setConnection input.id (some (insertedRow now input none))) := by
          rw [mapError, inserted, written, read]
          rfl
        simp only [bind_apply_ok goes, implies_true, iff_true]
        refine copyRest_atomic ⟨⟨?_, unused.credential⟩, ?_⟩ unused.bookmark unused.certificate
          unused.drive
        · exact (without_setConnection (desktop.stores host.os) _).trans (unused.without free)
        · simp [DesktopState.reference, DesktopState.setConnection, insertedRow]

end Duplicate

namespace Demo

/-- The calls of a database whose row cannot be read again once it was written. -/
def unreadable : Faults
  | .readBack => some (.storage "disk I/O error")
  | _ => none

end Demo

end Client

end CNShell
