import CNShell.Client.ConnectionCommands

/-! What is stored for connections, and what the calls on the credentials leave of it. -/

namespace CNShell

namespace Client

open Section

/-- What is stored for connections, wherever macOS keeps a credential. -/
@[ext] structure Stores where
  connections : String → Option ConnectionRow
  workspaceState : String → Option String
  credentials : String → Option String
  bookmarks : String → Option String
  certificateBookmarks : String → Option String
  rdpDriveBookmarks : String → Option String

def DesktopState.stores (desktop : DesktopState) (os : TargetOs) : Stores where
  connections := desktop.connections
  workspaceState := desktop.workspaceState
  credentials id := desktop.credential id os
  bookmarks := desktop.bookmarks
  certificateBookmarks := desktop.certificateBookmarks
  rdpDriveBookmarks := desktop.rdpDriveBookmarks

/-- The credential reference in the row of a connection. -/
def DesktopState.reference (desktop : DesktopState) (id : String) : Option String :=
  (desktop.connections id).bind ConnectionRow.credentialRef

/-- A command that fails changes nothing, and one that does not leaves a reference for a credential. -/
def Atomic {α : Type} (os : TargetOs) (id : String) (before : DesktopState)
    (outcome : AppResult α × DesktopState) : Prop :=
  match outcome.1 with
  | .error _ => outcome.2.stores os = before.stores os
  | .ok _ => (outcome.2.reference id).isSome = (outcome.2.credential id os).isSome

namespace Stores

variable (stores : Stores) (id : String) (value : Option String)

def setConnection (row : Option ConnectionRow) : Stores :=
  { stores with connections := Function.update stores.connections id row }

def setCredential : Stores := { stores with credentials := Function.update stores.credentials id value }

def setBookmark : Stores := { stores with bookmarks := Function.update stores.bookmarks id value }

def setCertificateBookmark : Stores :=
  { stores with certificateBookmarks := Function.update stores.certificateBookmarks id value }

def setRdpDriveBookmark : Stores :=
  { stores with rdpDriveBookmarks := Function.update stores.rdpDriveBookmarks id value }

theorem setCredential_self : stores.setCredential id (stores.credentials id) = stores := by
  simp [setCredential]

theorem setCredential_eq_self : stores.setCredential id value = stores ↔ stores.credentials id = value := by
  constructor
  · intro same
    have found := congrFun (congrArg Stores.credentials same) id
    simpa [setCredential] using found.symm
  · rintro rfl
    exact setCredential_self stores id

theorem setConnection_eq_self (row : Option ConnectionRow) :
    stores.setConnection id row = stores ↔ stores.connections id = row := by
  constructor
  · intro same
    have found := congrFun (congrArg Stores.connections same) id
    simpa [setConnection] using found.symm
  · rintro rfl
    simp [setConnection]

theorem setCredential_setCredential (other : Option String) :
    (stores.setCredential id value).setCredential id other = stores.setCredential id other := by
  simp [setCredential]

end Stores

variable {host : HostSystem} {os : TargetOs} {faults : Faults} {now : String} {id : String}
variable {desktop next : DesktopState}

section Credentials

variable {secret : String} {previous : Option String} {error : AppError}

theorem stores_keep : (desktop.keepCredential os id secret).stores os =
    (desktop.stores os).setCredential id (some secret) := by
  have found : (fun other => (desktop.keepCredential os id secret).credential other os) =
      Function.update (fun other => desktop.credential other os) id (some secret) := by
    funext other
    cases os <;> simp only [DesktopState.keepCredential, DesktopState.credential, DesktopState.setVault,
      DesktopState.setSecret, Function.update_apply] <;> split <;> simp [*]
  cases os <;> exact Stores.ext rfl rfl found rfl rfl rfl

theorem stores_drop : (desktop.dropCredential os id).stores os = (desktop.stores os).setCredential id none := by
  have found : (fun other => (desktop.dropCredential os id).credential other os) =
      Function.update (fun other => desktop.credential other os) id none := by
    funext other
    cases os <;> simp only [DesktopState.dropCredential, DesktopState.credential, DesktopState.setVault,
      DesktopState.setSecret, Function.update_apply] <;> split <;> simp [*]
  cases os <;> exact Stores.ext rfl rfl found rfl rfl rfl

theorem credential_drop : (desktop.dropCredential os id).credential id os = none := by
  cases os <;> simp [DesktopState.dropCredential, DesktopState.credential, DesktopState.setVault, DesktopState.setSecret]

theorem stores_restore : (restoreCredential os id previous desktop).stores os =
    (desktop.stores os).setCredential id previous := by
  cases previous with
  | none => exact stores_drop
  | some secret => exact stores_keep

variable {found : Option String}

theorem loadLegacyCredential_ok (empty : desktop.vault id = none)
    (ran : loadLegacyCredential faults id desktop = (.ok found, next)) :
    found = desktop.credential id .macos ∧ next.stores .macos = desktop.stores .macos ∧
      next.secrets = desktop.secrets := by
  obtain ⟨-, ran⟩ := reach_bind_ok.mp ran
  rw [get_bind_apply] at ran
  cases older : desktop.secrets id with
  | none =>
    rw [older] at ran
    cases ran
    exact ⟨by simp [DesktopState.credential, empty, older], rfl, rfl⟩
  | some secret =>
    rw [older] at ran
    obtain ⟨-, ran⟩ := reach_bind_ok.mp ran
    cases ran
    have same : desktop.credential id .macos = some secret := by
      simp [DesktopState.credential, empty, older]
    refine ⟨same.symm, ?_, rfl⟩
    -- The vault now says what the older item said.
    have moved : (desktop.keepCredential .macos id secret).stores .macos =
        (desktop.stores .macos).setCredential id (some secret) := stores_keep
    rw [← same] at moved
    exact moved.trans (Stores.setCredential_self _ _)

theorem loadCredential_ok (ran : loadCredential os faults id desktop = (.ok found, next)) :
    found = desktop.credential id os ∧ next.stores os = desktop.stores os ∧ next.secrets = desktop.secrets := by
  obtain ⟨-, ran⟩ := reach_bind_ok.mp ran
  rw [get_bind_apply] at ran
  cases os with
  | macos =>
    cases vault : desktop.vault id with
    | some secret =>
      simp only [vault] at ran
      cases ran
      exact ⟨by simp [DesktopState.credential, vault], rfl, rfl⟩
    | none =>
      simp only [vault] at ran
      exact loadLegacyCredential_ok vault ran
  | windows | other =>
    cases ran
    exact ⟨rfl, rfl, rfl⟩

theorem loadLegacyCredential_error
    (ran : loadLegacyCredential faults id desktop = (.error error, next)) : desktop = next := by
  rcases reach_bind_error.mp ran with ⟨-, same⟩ | ⟨-, rest⟩
  · exact same
  · rw [get_bind_apply] at rest
    cases older : desktop.secrets id with
    | none =>
      rw [older] at rest
      cases rest
    | some secret =>
      rw [older] at rest
      rcases reach_bind_error.mp rest with ⟨-, same⟩ | ⟨-, last⟩
      · exact same
      · cases last

theorem loadCredential_error (ran : loadCredential os faults id desktop = (.error error, next)) : desktop = next := by
  rcases reach_bind_error.mp ran with ⟨-, same⟩ | ⟨-, rest⟩
  · exact same
  · rw [get_bind_apply] at rest
    cases os with
    | windows | other => cases rest
    | macos =>
      cases vault : desktop.vault id with
      | some secret =>
        simp only [vault] at rest
        cases rest
      | none =>
        simp only [vault] at rest
        exact loadLegacyCredential_error rest

theorem saveCredential_ok {reference : String}
    (ran : saveCredential os faults id secret desktop = (.ok reference, next)) :
    reference = credentialRef id ∧ next.stores os = (desktop.stores os).setCredential id (some secret) := by
  obtain ⟨-, ran⟩ := reach_bind_ok.mp ran
  cases ran
  exact ⟨rfl, stores_keep⟩

theorem saveCredential_error (ran : saveCredential os faults id secret desktop = (.error error, next)) :
    desktop = next := by
  rcases reach_bind_error.mp ran with ⟨-, same⟩ | ⟨-, rest⟩
  · exact same
  · cases rest

/-- The credential that macOS finds when only its vault was cleared. -/
def HalfDeleted (os : TargetOs) (faults : Faults) (id : String) (desktop next : DesktopState) : Prop :=
  os = .macos ∧ faults .deleteVaultCredential = none ∧ faults .deleteCredential ≠ none ∧
    next.stores os = (desktop.stores os).setCredential id (desktop.secrets id)

theorem deleteCredential_ok {u : Unit} (ran : deleteCredential os faults id desktop = (.ok u, next)) :
    next.stores os = (desktop.stores os).setCredential id none ∧ faults .deleteCredential = none := by
  have dropped : next = desktop.dropCredential os id ∧ faults .deleteCredential = none := by
    cases os with
    | macos =>
      obtain ⟨-, ran⟩ := reach_bind_ok.mp ran
      rw [modify_bind_apply] at ran
      obtain ⟨passed, ran⟩ := reach_bind_ok.mp ran
      cases ran
      exact ⟨rfl, passed⟩
    | windows | other =>
      obtain ⟨passed, ran⟩ := reach_bind_ok.mp ran
      cases ran
      exact ⟨rfl, passed⟩
  rw [dropped.1]
  exact ⟨stores_drop, dropped.2⟩

theorem deleteCredential_error (ran : deleteCredential os faults id desktop = (.error error, next)) :
    (desktop = next ∧ (os = .macos → faults .deleteVaultCredential ≠ none)) ∨
      HalfDeleted os faults id desktop next := by
  cases os with
  | windows | other =>
    rcases reach_bind_error.mp ran with ⟨-, same⟩ | ⟨-, rest⟩
    · exact .inl ⟨same, nofun⟩
    · cases rest
  | macos =>
    rcases reach_bind_error.mp ran with ⟨failed, same⟩ | ⟨passed, rest⟩
    · exact .inl ⟨same, fun _ => by simp [failed]⟩
    · rw [modify_bind_apply] at rest
      rcases reach_bind_error.mp rest with ⟨failed, rfl⟩ | ⟨-, last⟩
      · -- The vault was cleared before the older item could not be removed.
        refine .inr ⟨rfl, passed, by simp [failed], ?_⟩
        refine Stores.ext rfl rfl (funext fun other => ?_) rfl rfl rfl
        simp only [DesktopState.stores, Stores.setCredential, DesktopState.credential, DesktopState.setVault,
          Function.update_apply]
        split <;> simp [*]
      · cases last

end Credentials

end Client

end CNShell
