import CNShell.Client.Backup

/-! The profiles of WebDAV servers with their secrets, and what saving one leaves of them. -/

namespace CNShell

namespace Client

open Section

/-- What the client asks of a parsed address. -/
structure DavUrl where
  scheme : String
  host : Option String
  username : String
  password : Option String
  query : Option String
  fragment : Option String
  path : String
  deriving DecidableEq, Repr

structure StoredWebDavProfile where
  id : String
  name : String
  url : String
  username : String
  syncOnStartup : Bool
  syncOptions : SyncOptions
  deriving DecidableEq, Repr

structure SaveWebDavProfileInput where
  id : String
  name : String
  url : String
  username : String
  password : Option String
  syncOnStartup : Bool
  syncOptions : SyncOptions
  syncPassphrase : Option String
  deriving DecidableEq, Repr

structure WebDavProfile where
  hasCredential : Bool
  hasSyncPassphrase : Bool
  syncOnStartup : Bool
  syncOptions : SyncOptions
  id : String
  name : String
  url : String
  username : String
  deriving DecidableEq, Repr

structure ProfileLibrary where
  parseUrl : String → Option DavUrl
  renderUrl : DavUrl → String
  /-- An address with another path, escaped as it must be. -/
  setPath : DavUrl → String → DavUrl
  parseProfiles : String → Except String (List StoredWebDavProfile)
  renderProfiles : List StoredWebDavProfile → String

/-- The named state of the profiles, and the keychain accounts of the service. -/
structure DavStore where
  profiles : Option String
  accounts : String → Option String

/-- The calls on the database and the keychain that can fail. -/
inductive DavCall
  | savePassword
  | deleteSyncPassphrase
  | saveSyncPassphrase
  | loadNamedState
  | saveNamedState
  | loadPassword
  | loadSyncPassphrase
  deriving DecidableEq

/-- Which calls fail, and what their storage errors say. -/
abbrev DavFaults := DavCall → Option String

/-- What a command does on the profiles; an error keeps what was changed before it. -/
abbrev DavCommand := Section DavStore AppError

def DavStore.setAccount (store : DavStore) (account : String) (secret : Option String) : DavStore :=
  { store with accounts := Function.update store.accounts account secret }

def syncAccount (id : String) : String := id ++ ":sync"

section Checks

variable (library : ProfileLibrary)

def validateIdName (id name : String) : AppResult Unit :=
  ensure (¬(id = "" ∨ 128 < id.utf8ByteSize ∨
      (id.toList.all fun char => char.isAlphanum || char = '-' || char = '_') = false ∨
      trim name = "" ∨ 256 < name.utf8ByteSize))
    (.validation "WebDAV 配置 ID 或名称无效")

/-- The address of a server, which must be a directory. -/
def validateBaseUrl (value : String) : AppResult DavUrl := do
  let url ← required (library.parseUrl (trim value)) (.validation "WebDAV 地址无效")
  let loopback := url.host = some "localhost" ∨ url.host = some "127.0.0.1" ∨ url.host = some "::1"
  ensure (url.scheme = "https" ∨ url.scheme = "http" ∧ loopback)
    (.validation "WebDAV 必须使用 HTTPS；仅本机测试允许 HTTP")
  ensure (url.username = "" ∧ url.password = none ∧ url.query = none ∧ url.fragment = none)
    (.validation "WebDAV 地址不能包含账号、密码、查询参数或片段")
  return if url.path.toList.getLast? = some '/' then url else library.setPath url (url.path ++ "/")

/-- The checks of a request before anything is written, and the address of its server. -/
def validateProfile (input : SaveWebDavProfileInput) : AppResult String := do
  validateIdName input.id input.name
  let url ← validateBaseUrl library input.url
  ensure (¬(trim input.username = "" ∨ 512 < input.username.utf8ByteSize))
    (.validation "WebDAV 用户名不能为空且不能超过 512 字符")
  return library.renderUrl url

end Checks

section Commands

variable (library : ProfileLibrary) (faults : DavFaults)

/-- A call that fails where it must. -/
def attempt (call : DavCall) : DavCommand Unit :=
  Section.check (match faults call with
    | none => .ok ()
    | some message => .error (.storage message))

/-- A password is stored, if there is one. -/
def givePassword (id : String) : Option String → DavCommand Unit
  | none => return ()
  | some password => do
    let _ ← Section.check (ensure (¬(password = "" ∨ 4096 < password.utf8ByteSize))
      (.validation "WebDAV 密码不能为空且不能超过 4096 字符"))
    attempt faults .savePassword
    Section.modify fun store => store.setAccount id (some password)

/-- A sync passphrase is stored, or removed if it is empty. -/
def giveSyncPassphrase (id : String) : Option String → DavCommand Unit
  | none => return ()
  | some passphrase =>
    if passphrase = "" then do
      attempt faults .deleteSyncPassphrase
      Section.modify fun store => store.setAccount (syncAccount id) none
    else do
      let _ ← Section.check (ensure (¬(passphrase.utf8ByteSize < 8 ∨ 4096 < passphrase.utf8ByteSize))
        (.validation "启动同步口令必须为 8～4096 字符"))
      attempt faults .saveSyncPassphrase
      Section.modify fun store => store.setAccount (syncAccount id) (some passphrase)

def loadProfiles : DavCommand (List StoredWebDavProfile) := do
  attempt faults .loadNamedState
  let store ← Section.get
  match store.profiles with
  | none => return []
  | some text => Section.check ((library.parseProfiles text).mapError .storage)

/-- All profiles are stored, if they are not too long. -/
def saveProfiles (profiles : List StoredWebDavProfile) : DavCommand Unit := do
  let _ ← Section.check (ensure ((library.renderProfiles profiles).utf8ByteSize ≤ maxStateBytes)
    (.validation "状态内容不能超过 1 MB"))
  attempt faults .saveNamedState
  Section.modify fun store => { store with profiles := some (library.renderProfiles profiles) }

def placeProfile (profile : StoredWebDavProfile) : List StoredWebDavProfile → List StoredWebDavProfile
  | [] => [profile]
  | first :: rest => if first.id = profile.id then profile :: rest else first :: placeProfile profile rest

def hasAccount (call : DavCall) (account : String) : DavCommand Bool := do
  attempt faults call
  let store ← Section.get
  return (store.accounts account).isSome

def saveProfile (input : SaveWebDavProfileInput) : DavCommand WebDavProfile := do
  let url ← Section.check (validateProfile library input)
  givePassword faults input.id input.password
  giveSyncPassphrase faults input.id input.syncPassphrase
  let profile : StoredWebDavProfile :=
    ⟨input.id, trim input.name, url, input.username, input.syncOnStartup, input.syncOptions⟩
  let profiles ← loadProfiles library faults
  saveProfiles library faults (placeProfile profile profiles)
  let hasCredential ← hasAccount faults .loadPassword profile.id
  let hasSyncPassphrase ← hasAccount faults .loadSyncPassphrase (syncAccount profile.id)
  return ⟨hasCredential, hasSyncPassphrase, profile.syncOnStartup, profile.syncOptions, profile.id,
    profile.name, profile.url, profile.username⟩

end Commands

/-- The profiles, and the password and the sync passphrase of one of them, are as they were. -/
structure SameProfile (id : String) (before after : DavStore) : Prop where
  profiles : after.profiles = before.profiles
  password : after.accounts id = before.accounts id
  syncPassphrase : after.accounts (syncAccount id) = before.accounts (syncAccount id)

def RefusesPassword (input : SaveWebDavProfileInput) : Prop :=
  ∃ password ∈ input.password, password = "" ∨ 4096 < password.utf8ByteSize

def RefusesSyncPassphrase (input : SaveWebDavProfileInput) : Prop :=
  ∃ passphrase ∈ input.syncPassphrase, passphrase ≠ "" ∧ (passphrase.utf8ByteSize < 8 ∨ 4096 < passphrase.utf8ByteSize)

def KeepsPassword (store : DavStore) (input : SaveWebDavProfileInput) : Prop :=
  ∀ password ∈ input.password, store.accounts input.id = some password

def KeepsSyncPassphrase (store : DavStore) (input : SaveWebDavProfileInput) : Prop :=
  ∀ passphrase ∈ input.syncPassphrase,
    store.accounts (syncAccount input.id) = if passphrase = "" then none else some passphrase

/--
A request is refused before anything is written, or what is written before it may be refused is what is stored.
-/
def RefusedInTime (library : ProfileLibrary) (store : DavStore) (input : SaveWebDavProfileInput) : Prop :=
  (∀ url, validateProfile library input ≠ .ok url) ∨ RefusesPassword input ∨
    KeepsPassword store input ∧ (RefusesSyncPassphrase input ∨ KeepsSyncPassphrase store input)

namespace DavStore

variable (store : DavStore) (id : String)

def withPassword : Option String → DavStore
  | none => store
  | some password => store.setAccount id (some password)

def withSyncPassphrase : Option String → DavStore
  | none => store
  | some passphrase => store.setAccount (syncAccount id) (if passphrase = "" then none else some passphrase)

theorem syncAccount_ne : syncAccount id ≠ id := by
  intro same
  have lengths := congrArg String.utf8ByteSize same
  rw [syncAccount, String.utf8ByteSize_append] at lengths
  have five : ":sync".utf8ByteSize = 5 := by decide
  omega

variable {store id} {password passphrase : Option String}

theorem withPassword_sync :
    (store.withPassword id password).accounts (syncAccount id) = store.accounts (syncAccount id) := by
  cases password with
  | none => rfl
  | some secret => exact Function.update_of_ne (syncAccount_ne id) _ _

theorem sameProfile_withPassword : SameProfile id store (store.withPassword id password) ↔
    ∀ secret ∈ password, store.accounts id = some secret := by
  constructor
  · rintro same secret rfl
    have kept := same.password
    simp only [withPassword, setAccount, Function.update_self] at kept
    exact kept.symm
  · intro kept
    cases password with
    | none => exact ⟨rfl, rfl, rfl⟩
    | some secret => exact ⟨rfl, by simp [withPassword, setAccount, kept secret rfl], withPassword_sync⟩

theorem sameProfile_withSecrets :
    SameProfile id store ((store.withPassword id password).withSyncPassphrase id passphrase) ↔
      (∀ secret ∈ password, store.accounts id = some secret) ∧
        ∀ secret ∈ passphrase, store.accounts (syncAccount id) = if secret = "" then none else some secret := by
  have own : ((store.withPassword id password).withSyncPassphrase id passphrase).accounts id =
      (store.withPassword id password).accounts id := by
    cases passphrase with
    | none => rfl
    | some secret => exact Function.update_of_ne (syncAccount_ne id).symm _ _
  constructor
  · intro same
    refine ⟨sameProfile_withPassword.mp ⟨?_, own ▸ same.password, withPassword_sync⟩, ?_⟩
    · cases password <;> rfl
    · rintro secret rfl
      have kept := same.syncPassphrase
      simp only [withSyncPassphrase, setAccount, Function.update_self] at kept
      exact kept.symm
  · rintro ⟨first, second⟩
    refine ⟨?_, own.trans (sameProfile_withPassword.mpr first).password, ?_⟩
    · cases password <;> cases passphrase <;> rfl
    · cases passphrase with
      | none => exact withPassword_sync
      | some secret => simp [withSyncPassphrase, setAccount, second secret rfl]

end DavStore

section Saving

variable {library : ProfileLibrary} {faults : DavFaults} {store next : DavStore} {id message : String} {α : Type}

variable {following : Unit → DavCommand α}

variable {call : DavCall}

theorem attempt_bind_validation : (attempt faults call >>= following) store = (.error (.validation message), next) ↔
      faults call = none ∧ following () store = (.error (.validation message), next) := by
  rw [attempt, check_bind_apply]
  cases faults call <;> simp

theorem attempt_bind_ok {value : α} : (attempt faults call >>= following) store = (.ok value, next) ↔
      faults call = none ∧ following () store = (.ok value, next) := by
  rw [attempt, check_bind_apply]
  cases faults call <;> simp

theorem ensure_bind_validation {condition : Prop} [Decidable condition] {reason : AppError} :
    (Section.check (ensure condition reason) >>= following) store = (.error (.validation message), next) ↔
      (¬condition ∧ reason = .validation message ∧ store = next) ∨
        (condition ∧ following () store = (.error (.validation message), next)) := by
  by_cases holds : condition
  · rw [ensure_of holds]
    show following () store = _ ↔ _
    exact ⟨fun ran => .inr ⟨holds, ran⟩, fun either => either.elim (fun no => absurd holds no.1) And.right⟩
  · rw [ensure_of_not holds, check_bind_apply]
    simp [holds]

theorem givePassword_ok {password : Option String} {u : Unit}
    (ran : givePassword faults id password store = (.ok u, next)) :
    next = store.withPassword id password ∧ ¬∃ secret ∈ password, secret = "" ∨ 4096 < secret.utf8ByteSize := by
  cases password with
  | none => exact ⟨(Prod.mk.inj ran).2.symm, by simp⟩
  | some secret =>
    obtain ⟨_, accepted, ran⟩ := check_bind_eq_ok.mp ran
    obtain ⟨-, ran⟩ := attempt_bind_ok.mp ran
    exact ⟨(Prod.mk.inj ran).2.symm, by simpa using accepted⟩

theorem givePassword_refused {password : Option String}
    (ran : givePassword faults id password store = (.error (.validation message), next)) :
    next = store ∧ ∃ secret ∈ password, secret = "" ∨ 4096 < secret.utf8ByteSize := by
  cases password with
  | none => cases ran
  | some secret =>
    rcases ensure_bind_validation.mp ran with ⟨refused, -, rfl⟩ | ⟨-, ran⟩
    · exact ⟨rfl, secret, rfl, not_not.mp refused⟩
    · cases (attempt_bind_validation.mp ran).2

theorem giveSyncPassphrase_ok {passphrase : Option String} {u : Unit}
    (ran : giveSyncPassphrase faults id passphrase store = (.ok u, next)) :
    next = store.withSyncPassphrase id passphrase ∧
      ¬∃ secret ∈ passphrase, secret ≠ "" ∧ (secret.utf8ByteSize < 8 ∨ 4096 < secret.utf8ByteSize) := by
  cases passphrase with
  | none => exact ⟨(Prod.mk.inj ran).2.symm, by simp⟩
  | some secret =>
    simp only [giveSyncPassphrase] at ran
    split at ran
    · next empty =>
      obtain ⟨-, ran⟩ := attempt_bind_ok.mp ran
      rw [DavStore.withSyncPassphrase, if_pos empty]
      exact ⟨(Prod.mk.inj ran).2.symm, by simp [empty]⟩
    · next filled =>
      obtain ⟨_, accepted, ran⟩ := check_bind_eq_ok.mp ran
      obtain ⟨-, ran⟩ := attempt_bind_ok.mp ran
      rw [DavStore.withSyncPassphrase, if_neg filled]
      refine ⟨(Prod.mk.inj ran).2.symm, ?_⟩
      rintro ⟨_, same, -, refused⟩
      exact ensure_eq_ok.mp accepted (Option.some.inj same ▸ refused)

theorem giveSyncPassphrase_refused {passphrase : Option String}
    (ran : giveSyncPassphrase faults id passphrase store = (.error (.validation message), next)) :
    next = store ∧ ∃ secret ∈ passphrase, secret ≠ "" ∧ (secret.utf8ByteSize < 8 ∨ 4096 < secret.utf8ByteSize) := by
  cases passphrase with
  | none => cases ran
  | some secret =>
    simp only [giveSyncPassphrase] at ran
    split at ran
    · cases (attempt_bind_validation.mp ran).2
    · next filled =>
      rcases ensure_bind_validation.mp ran with ⟨refused, -, rfl⟩ | ⟨-, ran⟩
      · exact ⟨rfl, secret, rfl, filled, not_not.mp refused⟩
      · cases (attempt_bind_validation.mp ran).2

theorem loadProfiles_refuses_not
    (ran : loadProfiles library faults store = (.error (.validation message), next)) : False := by
  have further := (attempt_bind_validation.mp ran).2
  rw [get_bind_apply] at further
  cases stored : store.profiles with
  | none =>
    rw [stored] at further
    cases further
  | some text =>
    simp only [stored, check_apply] at further
    cases parsed : library.parseProfiles text <;> simp [parsed, Except.mapError] at further

variable {profiles : List StoredWebDavProfile}

theorem loadProfiles_ok (ran : loadProfiles library faults store = (.ok profiles, next)) : next = store := by
  have further := (attempt_bind_ok.mp ran).2
  rw [get_bind_apply] at further
  cases stored : store.profiles with
  | none =>
    rw [stored] at further
    exact (Prod.mk.inj further).2.symm
  | some text =>
    rw [stored] at further
    exact (check_eq_ok.mp further).2.symm

theorem saveProfiles_refused
    (ran : saveProfiles library faults profiles store = (.error (.validation message), next)) : next = store := by
  rcases ensure_bind_validation.mp ran with ⟨-, -, rfl⟩ | ⟨-, ran⟩
  · rfl
  · cases (attempt_bind_validation.mp ran).2

theorem hasAccount_refuses_not {call : DavCall} {account : String}
    (ran : hasAccount faults call account store = (.error (.validation message), next)) : False := by
  have further := (attempt_bind_validation.mp ran).2
  cases further

theorem saveProfile_refused {input : SaveWebDavProfileInput}
    (ran : saveProfile library faults input store = (.error (.validation message), next)) :
    (∀ url, validateProfile library input ≠ .ok url) ∧ next = store ∨
      (∃ url, validateProfile library input = .ok url) ∧
        (RefusesPassword input ∧ next = store ∨
          ¬RefusesPassword input ∧
            (RefusesSyncPassphrase input ∧ next = store.withPassword input.id input.password ∨
              ¬RefusesSyncPassphrase input ∧ next =
    (store.withPassword input.id input.password).withSyncPassphrase input.id input.syncPassphrase)) := by
  rcases bind_eq_error.mp ran with refused | ⟨url, _, checked, ran⟩
  · obtain ⟨failed, rfl⟩ := Prod.mk.inj refused
    refine .inl ⟨fun url passed => ?_, rfl⟩
    rw [passed] at failed
    cases failed
  · obtain ⟨passed, rfl⟩ := check_eq_ok.mp checked
    refine .inr ⟨⟨url, passed⟩, ?_⟩
    rcases bind_eq_error.mp ran with refused | ⟨_, first, given, ran⟩
    · obtain ⟨same, why⟩ := givePassword_refused refused
      exact .inl ⟨why, same⟩
    · obtain ⟨rfl, accepted⟩ := givePassword_ok given
      refine .inr ⟨accepted, ?_⟩
      rcases bind_eq_error.mp ran with refused | ⟨_, second, given, ran⟩
      · obtain ⟨same, why⟩ := giveSyncPassphrase_refused refused
        exact .inl ⟨why, same⟩
      · obtain ⟨rfl, accepted⟩ := giveSyncPassphrase_ok given
        -- Only the length of the named state is checked after both secrets are stored.
        refine .inr ⟨accepted, ?_⟩
        rcases bind_eq_error.mp ran with refused | ⟨profiles, third, read, ran⟩
        · exact (loadProfiles_refuses_not refused).elim
        · obtain rfl := loadProfiles_ok read
          rcases bind_eq_error.mp ran with refused | ⟨_, fourth, -, ran⟩
          · exact saveProfiles_refused refused
          · exfalso
            rcases bind_eq_error.mp ran with refused | ⟨_, fifth, -, ran⟩
            · exact hasAccount_refuses_not refused
            · rcases bind_eq_error.mp ran with refused | ⟨_, sixth, -, ran⟩
              · exact hasAccount_refuses_not refused
              · cases ran

/-- A profile that is refused leaves all as it was exactly when it is refused in time. -/
theorem saveProfile_sameProfile_iff (library : ProfileLibrary) (faults : DavFaults) (store next : DavStore)
    (input : SaveWebDavProfileInput) (message : String)
    (ran : saveProfile library faults input store = (.error (.validation message), next)) :
    SameProfile input.id store next ↔ RefusedInTime library store input := by
  rcases saveProfile_refused ran with ⟨refused, rfl⟩ | ⟨⟨url, passed⟩, ⟨refused, rfl⟩ | ⟨accepted, later⟩⟩
  · exact iff_of_true ⟨rfl, rfl, rfl⟩ (.inl refused)
  · exact iff_of_true ⟨rfl, rfl, rfl⟩ (.inr (.inl refused))
  · have goes : RefusedInTime library store input ↔
        KeepsPassword store input ∧ (RefusesSyncPassphrase input ∨ KeepsSyncPassphrase store input) := by
      constructor
      · rintro (refused | refused | kept)
        · exact absurd passed (refused url)
        · exact absurd refused accepted
        · exact kept
      · exact fun kept => .inr (.inr kept)
    rw [goes]
    rcases later with ⟨refused, rfl⟩ | ⟨fits, rfl⟩
    · rw [DavStore.sameProfile_withPassword]
      exact ⟨fun kept => ⟨kept, .inl refused⟩, And.left⟩
    · rw [DavStore.sameProfile_withSecrets]
      exact ⟨fun kept => ⟨kept.1, .inr kept.2⟩, fun kept => ⟨kept.1, kept.2.resolve_left fits⟩⟩

end Saving

namespace Demo

/-- Stand-ins for the libraries, which know one address. -/
def davLibrary : ProfileLibrary where
  parseUrl text := if text = "https://dav.example/" then
    some ⟨"https", some "dav.example", "", none, none, none, "/"⟩ else none
  renderUrl _ := "https://dav.example/"
  setPath url path := { url with path := path }
  parseProfiles _ := .error "expected value at line 1 column 1"
  renderProfiles _ := "[]"

def shortPassphrase (password : Option String) : SaveWebDavProfileInput :=
  ⟨"home", "Home", "https://dav.example/", "me", password, false, ⟨true, false, false⟩, some "short"⟩

def oldPassword : DavStore := ⟨none, fun account => if account = "home" then some "old" else none⟩

def davCalm : DavFaults := fun _ => none

/-- A request whose sync passphrase is refused has changed the password. -/
theorem password_changed : ¬∀ (library : ProfileLibrary) (faults : DavFaults) (store next : DavStore)
    (input : SaveWebDavProfileInput) (message : String),
    saveProfile library faults input store = (.error (.validation message), next) →
    SameProfile input.id store next := by
  intro always
  have ran : saveProfile davLibrary davCalm (shortPassphrase (some "new")) oldPassword =
      (.error (.validation "启动同步口令必须为 8～4096 字符"), oldPassword.setAccount "home" (some "new")) := rfl
  have kept := (always _ _ _ _ _ _ ran).password
  exact absurd kept (by decide)

/-- A request without a password whose sync passphrase is refused changes nothing. -/
theorem short_passphrase_refused :
    saveProfile davLibrary davCalm (shortPassphrase none) oldPassword =
        (.error (.validation "启动同步口令必须为 8～4096 字符"), oldPassword) ∧
      SameProfile "home" oldPassword oldPassword := by
  have ran : saveProfile davLibrary davCalm (shortPassphrase none) oldPassword =
      (.error (.validation "启动同步口令必须为 8～4096 字符"), oldPassword) := rfl
  refine ⟨ran, (saveProfile_sameProfile_iff davLibrary davCalm oldPassword oldPassword (shortPassphrase none) _ ran).mpr ?_⟩
  exact .inr (.inr ⟨nofun, .inl ⟨"short", rfl, by decide, .inl (by decide)⟩⟩)

end Demo

end Client

end CNShell
