import CNShell.Relay.Calls
import CNShell.Relay.Demo

/-! Runs that register numbered accounts and take them into one workspace, to any number. -/

namespace CNShell

namespace Relay

theorem mem_newest {ρ : Type} {time : ρ → Instant} {limit : Nat} {rows : List ρ}
    (few : rows.length ≤ limit) {row : ρ} : row ∈ newest time limit rows ↔ row ∈ rows := by
  rw [newest, List.take_of_length_le (by simpa using few), List.mem_mergeSort]

theorem keptSessions_eq_self {request : SessionRequest} {sessions : Table DeviceSession.id}
    (few : (sessions.rows.filter fun session => session.deviceId = request.deviceId).length ≤
      maxDeviceSessions)
    (fresh : ∀ session ∈ sessions.rows, request.now < session.expiresAt) :
    keptSessions request sessions = sessions := by
  refine Table.delete_eq_self fun session member => ?_
  rw [decide_eq_false_iff_not, not_or]
  refine ⟨Int.not_le.mpr (fresh session member), ?_⟩
  rintro ⟨own, missing⟩
  refine missing (List.mem_map.mpr ⟨session, (mem_newest few).mpr ?_, rfl⟩)
  exact List.mem_filter.mpr ⟨member, by simpa using own⟩

theorem countP_range_ge (low high : Nat) :
    List.countP (fun i => decide (low ≤ i)) (List.range high) = high - low := by
  induction high with
  | zero => rw [Nat.zero_sub]; rfl
  | succ high ih =>
    rw [List.range_succ, List.countP_append, ih, List.countP_singleton]
    split <;> simp_all <;> omega

theorem countP_range_ne_one {n : Nat} (positive : 1 ≤ n) :
    List.countP (fun i => decide (i ≠ 1)) (List.range (n + 1)) = n := by
  induction n, positive using Nat.le_induction with
  | base => rfl
  | succ n positive ih =>
    rw [List.range_succ, List.countP_append, ih, List.countP_singleton, if_pos]
    simp only [decide_eq_true_eq]
    omega

namespace Demo

def account (n : Nat) : Account where
  id := uuid n
  email := email n
  displayName := "Member"
  passwordHash := "$argon2id$salt$correct horse battery"
  status := .active
  emailVerifiedAt := some 0
  emailVerificationSentAt := none

def accountSession (n : Nat) : AccountSession where
  id := uuid n
  accountId := uuid n
  tokenHash := tokenHash platform "account-session" (token n)
  expiresAt := minutes accountSessionMinutes
  revokedAt := none
  createdAt := 0

def workspace (keyEpoch : Int) : Workspace where
  id := uuid 0
  name := "Team"
  keyEpoch
  status := .active

/-- The member with a number: the owner is first, and the second may have been removed. -/
def member (removed : Bool) (n : Nat) : Member where
  id := uuid n
  workspaceId := uuid 0
  accountId := uuid n
  displayName := "Member"
  role := if n = 0 then .owner else .admin
  status := if removed ∧ n = 1 then .removed else .active
  joinedAt := 0

def storedDevice (removed : Bool) (n : Nat) : Device :=
  { registeredDevice (uuid 0) (uuid n) "Laptop" (device n) 0 with
    status := if removed ∧ n = 1 then .revoked else .active }

def deviceSession (removed : Bool) (n : Nat) : DeviceSession where
  id := uuid n
  deviceId := uuid n
  tokenHash := tokenHash platform "device-session" (token n)
  expiresAt := minutes deviceSessionMinutes
  revokedAt := if removed ∧ n = 1 then some 0 else none
  createdAt := 0

/-- The owner's invitation with a number, which is for the account and member after that number. -/
def invitation (accepted n : Nat) : WorkspaceInvitation where
  id := uuid (n + 1)
  workspaceId := uuid 0
  invitedByMemberId := uuid 0
  memberId := uuid (n + 1)
  email := email (n + 1)
  role := .admin
  tokenHash := tokenHash platform "workspace-invitation" (token (n + 1))
  expiresAt := hours workspaceInvitationHours
  acceptedAt := if n < accepted then some 0 else none
  revokedAt := none

/-- The key epoch after some first acceptances and perhaps a removal. -/
def epoch (removed : Bool) (joined : Nat) : Int := joined + 1 + if removed then 1 else 0

/--
The accounts and the staff of one workspace.

Some accounts are registered, some of them were invited, and the first of these joined the owner.
-/
structure Staffed (removed : Bool) (registered invited joined : Nat) (db : Db) : Prop where
  accounts : db.accounts.rows = (List.range registered).map account
  accountSessions : db.accountSessions.rows = (List.range registered).map accountSession
  workspaces : db.workspaces.rows = [workspace (epoch removed joined)]
  members : db.members.rows = (List.range (joined + 1)).map (member removed)
  devices : db.devices.rows = (List.range (joined + 1)).map (storedDevice removed)
  deviceSessions : db.deviceSessions.rows = (List.range (joined + 1)).map (deviceSession removed)
  invitations : db.workspaceInvitations.rows = (List.range invited).map (invitation joined)

/-- The database of one workspace without rooms. -/
structure Stage (removed : Bool) (registered invited joined : Nat) (db : Db) : Prop
    extends Staffed removed registered invited joined db where
  rooms : db.terminalRooms.rows = []
  roomInvitations : db.roomInvitations.rows = []
  roomParticipants : db.roomParticipants.rows = []
  controlLeases : db.controlLeases.rows = []
  relayFrames : db.relayFrames.rows = []

variable {db : Db} {removed : Bool} {registered invited joined : Nat}

/-! ### Accounts -/

/-- The next account registers and gets a session. -/
theorem returns_register (accounts : db.accounts.rows = (List.range registered).map account)
    (sessions : db.accountSessions.rows = (List.range registered).map accountSession)
    (small : registered < 10000) :
    ∃ accounts accountSessions,
      accounts.rows = (List.range (registered + 1)).map account ∧
      accountSessions.rows = (List.range (registered + 1)).map accountSession ∧
      Returns platform (Call.serve platform (draws registered)
          (.registerAccount ⟨email registered, "correct horse battery", "Member"⟩ false)) db ()
        { db with accounts, accountSessions } := by
  have name : cleanName "Member" "显示名称" = .ok "Member" := by decide
  have password : validatePassword "correct horse battery" = .ok () := by decide
  have hashed : required (platform.hashPassword "correct horse battery" (draws registered).salt)
      RelayError.internal = .ok "$argon2id$salt$correct horse battery" := rfl
  obtain ⟨grown, inserted, rows⟩ := Table.insert_numbered accounts fun i below => by
    simp only [account, ne_eq, uuid_inj (by omega : i < 10000) small]
    omega
  obtain ⟨opened, added, sessionRows⟩ := Table.insert_numbered sessions fun i below => by
    simp only [accountSession, ne_eq, uuid_inj (by omega : i < 10000) small]
    omega
  have stored : grown.find? (uuid registered) = some (account registered) :=
    Table.find?_numbered rows (by omega) rfl
  have unused : ∀ held ∈ db.accounts.rows, held.email ≠ (account registered).email := by
    simp only [accounts, List.mem_map, List.mem_range]
    rintro _ ⟨i, below, rfl⟩
    simp only [account, ne_eq, email_inj (by omega : i < 10000) small]
    omega
  have secret : ∀ held ∈ db.accountSessions.rows, held.tokenHash ≠ (accountSession registered).tokenHash := by
    simp only [sessions, List.mem_map, List.mem_range]
    rintro _ ⟨i, below, rfl⟩
    simp only [accountSession, ne_eq, tokenHash_inj (by omega : i < 10000) small]
    omega
  have registers : (Action.insertAccount (account registered)).run platform db =
      .ok ((), { db with accounts := grown }) :=
    insertAccount_eq_ok.mpr ⟨unused, grown, inserted, rfl⟩
  have verified : verifiedEmail (uuid registered) { db with accounts := grown } = .ok (email registered) := by
    simp [verifiedEmail, stored, account]
  have opens : (Action.insertAccountSession (accountSession registered)).run platform
      { db with accounts := grown } = .ok ((), { db with accounts := grown, accountSessions := opened }) :=
    insertAccountSession_eq_ok.mpr ⟨secret, opened, added, by simp [accountSession, stored], rfl⟩
  -- The one session of the account is neither expired nor one too many.
  have kept : (Action.pruneAccountSessions (uuid registered) 0).run platform
      { db with accounts := grown, accountSessions := opened } =
        .ok ((), { db with accounts := grown, accountSessions := opened }) := by
    have alone : (opened.rows.filter fun session =>
        decide (session.accountId = uuid registered)).length ≤ maxAccountSessions := by
      rw [sessionRows]
      refine le_trans (length_filter_numbered registered fun i below => ?_) (show 1 ≤ 16 by decide)
      simp [accountSession, uuid_inj (by omega : i < 10000) small]
    have spared : opened.delete (fun session => session.expiresAt ≤ 0 ∨
        session.accountId = uuid registered ∧ session.id ∉
          (newest AccountSession.createdAt maxAccountSessions
            (opened.rows.filter fun session => session.accountId = uuid registered)).map
              AccountSession.id) = opened := by
      refine Table.delete_eq_self fun session member => ?_
      rw [decide_eq_false_iff_not, not_or]
      constructor
      · simp only [sessionRows, List.mem_map] at member
        obtain ⟨i, -, rfl⟩ := member
        exact Int.not_le.mpr (show 0 < minutes accountSessionMinutes by decide)
      · rintro ⟨own, missing⟩
        refine missing (List.mem_map.mpr ⟨session, (mem_newest alone).mpr ?_, rfl⟩)
        exact List.mem_filter.mpr ⟨member, by simpa using own⟩
    simp only [Action.run, Relay.pruneAccountSessions, spared]
    rfl
  have session : Returns platform (issueAccountSession platform (draws registered) (uuid registered))
      { db with accounts := grown }
      { accountId := uuid registered, email := email registered, token := token registered,
        expiresAt := 0 + minutes accountSessionMinutes }
      { db with accounts := grown, accountSessions := opened } :=
    .select verified (.perform opens (.perform kept (.done _)))
  exact ⟨grown, opened, rows, sessionRows, .discard (.check (cleanEmail_email _) (.check name
    (.check password (.check hashed (.perform registers (.bind session (.done _)))))))⟩

theorem authenticateAccount_eq (accounts : db.accounts.rows = (List.range registered).map account)
    (sessions : db.accountSessions.rows = (List.range registered).map accountSession)
    (small : registered ≤ 10000) {i : Nat} (below : i < registered) :
    authenticateAccount platform (token i) 0 db =
      .ok { accountId := uuid i, email := email i, displayName := "Member" } := by
  have session : (((List.range registered).map accountSession).find? fun session =>
      decide (session.tokenHash = tokenHash platform "account-session" (token i) ∧
        session.revokedAt = none ∧ (0 : Int) < session.expiresAt)) = some (accountSession i) := by
    refine find?_numbered below fun j inside => ?_
    simp [accountSession, tokenHash_inj (by omega : j < 10000) (by omega : i < 10000),
      show (0 : Int) < minutes accountSessionMinutes by decide]
  have held : db.accounts.find? (uuid i) = some (account i) :=
    Table.find?_numbered accounts below rfl
  simp only [authenticateAccount, validateTokenShape_token, sessions, session, ok_bind, required_some]
  simp [accountSession, held, account]

/-! ### Devices and their sessions -/

theorem insertDevice_ok {n : Nat} (devices : db.devices.rows = (List.range n).map (storedDevice removed))
    (small : n < 10000) (kept : ¬(removed = true ∧ n = 1))
    (workspace : db.hasWorkspace (uuid 0) = true) (member : db.hasMember (uuid n) = true) :
    ∃ grown, grown.rows = (List.range (n + 1)).map (storedDevice removed) ∧
      insertDevice (uuid 0) (uuid n) (device n) 0 db = .ok { db with devices := grown } := by
  obtain ⟨grown, inserted, rows⟩ := Table.insert_numbered devices fun i below => by
    simp only [storedDevice, registeredDevice, device, ne_eq, uuid_inj (by omega : i < 10000) small]
    omega
  have stored : storedDevice removed n = registeredDevice (uuid 0) (uuid n) "Laptop" (device n) 0 := by
    simp [storedDevice, registeredDevice, kept]
  refine ⟨grown, rows, insertDevice_eq_ok.mpr ⟨"Laptop", grown, ?_, ?_, workspace, member, rfl⟩⟩
  · show cleanName "Laptop" "设备名称" = .ok "Laptop"
    decide
  · rw [← stored]
    exact inserted

theorem issueDeviceSession_ok {n : Nat} (role : Role) (keyEpoch : Int)
    (sessions : db.deviceSessions.rows = (List.range n).map (deviceSession removed))
    (small : n < 10000) (kept : ¬(removed = true ∧ n = 1))
    (device : db.hasDevice (uuid n) = true) :
    ∃ output grown, grown.rows = (List.range (n + 1)).map (deviceSession removed) ∧
      issueDeviceSession platform
        { workspaceId := uuid 0, memberId := uuid n, deviceId := uuid n, role, keyEpoch,
          sessionId := uuid n, random := random n, now := 0 } db =
        .ok (output, { db with deviceSessions := grown }) := by
  obtain ⟨grown, inserted, rows⟩ := Table.insert_numbered sessions fun i below => by
    simp only [deviceSession, ne_eq, uuid_inj (by omega : i < 10000) small]
    omega
  let request : SessionRequest :=
    { workspaceId := uuid 0, memberId := uuid n, deviceId := uuid n, role, keyEpoch,
      sessionId := uuid n, random := random n, now := 0 }
  have issued : issuedSession platform request = deviceSession removed n := by
    simp [issuedSession, deviceSession, request, kept]
  have secret : ∀ held ∈ db.deviceSessions.rows, held.tokenHash ≠ (issuedSession platform request).tokenHash := by
    simp only [issued, sessions, List.mem_map, List.mem_range]
    rintro _ ⟨i, below, rfl⟩
    simp only [deviceSession, ne_eq, tokenHash_inj (by omega : i < 10000) small]
    omega
  have lasting : keptSessions request grown = grown := by
    refine keptSessions_eq_self ?_ ?_
    · rw [rows]
      refine le_trans (length_filter_numbered n fun i below => ?_) (show 1 ≤ 16 by decide)
      simp [deviceSession, request, uuid_inj (by omega : i < 10000) small]
    · simp only [rows, List.mem_map]
      rintro _ ⟨i, -, rfl⟩
      exact show 0 < minutes deviceSessionMinutes by decide
  refine ⟨_, grown, rows, issueDeviceSession_eq_ok.mpr
    ⟨secret, grown, issued ▸ inserted, device, rfl, ?_⟩⟩
  rw [lasting]

theorem returns_bootstrap {accounts : Table Account.id} {accountSessions : Table AccountSession.id}
    (accountRows : accounts.rows = (List.range 1).map account)
    (sessionRows : accountSessions.rows = (List.range 1).map accountSession) :
    ∃ next, Returns platform (Call.serve platform (draws 0) (.bootstrapWorkspace (token 0)
        ⟨uuid 0, "Team", uuid 0, device 0⟩)) { Db.empty with accounts, accountSessions } () next ∧
      Stage false 1 0 0 next := by
  let base : Db := { Db.empty with accounts, accountSessions }
  have name : cleanName "Team" "工作区名称" = .ok "Team" := by decide
  have known : authenticateAccount platform (token 0) 0 base = _ :=
    authenticateAccount_eq accountRows sessionRows (by decide) Nat.one_pos
  have stored : base.accounts.find? (uuid 0) = some (account 0) :=
    Table.find?_numbered accountRows Nat.one_pos rfl
  obtain ⟨workspaces, opened, workspaceRows⟩ := Table.insert_numbered
    (show base.workspaces.rows = (List.range 0).map fun _ => workspace 1 from rfl) (by simp)
  obtain ⟨members, joined, memberRows⟩ := Table.insert_numbered
    (show base.members.rows = (List.range 0).map (member false) from rfl) (by simp)
  let staffed : Db := { base with workspaces, members }
  have inWorkspace : staffed.hasWorkspace (uuid 0) = true :=
    Option.isSome_iff_exists.mpr ⟨_, Table.find?_numbered workspaceRows Nat.one_pos rfl⟩
  have hasOwner : staffed.hasMember (uuid 0) = true :=
    Option.isSome_iff_exists.mpr ⟨_, Table.find?_numbered memberRows Nat.one_pos rfl⟩
  obtain ⟨devices, deviceRows, registers⟩ := insertDevice_ok
    (show staffed.devices.rows = (List.range 0).map (storedDevice false) from rfl) (by decide)
    (by decide) inWorkspace hasOwner
  let equipped : Db := { staffed with devices }
  have hasDevice : equipped.hasDevice (uuid 0) = true :=
    Option.isSome_iff_exists.mpr ⟨_, Table.find?_numbered deviceRows Nat.one_pos rfl⟩
  obtain ⟨output, deviceSessions, deviceSessionRows, issued⟩ := issueDeviceSession_ok .owner 1
    (show equipped.deviceSessions.rows = (List.range 0).map (deviceSession false) from rfl)
    (by decide) (by decide) hasDevice
  have bootstraps : (Action.bootstrapWorkspace ⟨uuid 0, email 0, "Member"⟩
      ⟨uuid 0, "Team", uuid 0, device 0⟩ "Team" (uuid 0) (random 0) 0 0).run platform base =
        .ok (output, { equipped with deviceSessions }) :=
    bootstrapWorkspace_eq_ok.mpr ⟨show 0 < 32 by decide, workspaces, members, equipped, opened,
      (fun _ held => nomatch held), joined, Option.isSome_iff_exists.mpr ⟨_, stored⟩, registers,
      issued⟩
  refine ⟨{ equipped with deviceSessions }, .select known (.discard (.check (validateUuid_uuid _ _)
    (.check (validateUuid_uuid _ _) (.check (validateDevice_device _) (.check name
      (.last bootstraps)))))), ?_⟩
  exact ⟨⟨accountRows, sessionRows, workspaceRows, memberRows, deviceRows, deviceSessionRows, rfl⟩,
    rfl, rfl, rfl, rfl, rfl⟩

theorem reached_founded : ∃ db, Reached platform Founding db [] ∧ Stage false 1 0 0 db := by
  have unregistered : Db.empty.accounts.rows = (List.range 0).map account := rfl
  obtain ⟨accounts, accountSessions, accountRows, sessionRows, registers⟩ :=
    returns_register unregistered rfl (by decide)
  obtain ⟨next, bootstraps, stage⟩ := returns_bootstrap accountRows sessionRows
  exact ⟨next, (Reached.empty.call (registerAccount_founding _ _) registers).call
    (bootstrapWorkspace_founding _ _) bootstraps, stage⟩

/-! ### Staff -/

/-- What the device of the member with a number is authenticated as. -/
def auth (removed : Bool) (joined i : Nat) : DeviceAuth where
  accountId := uuid i
  workspaceId := uuid 0
  memberId := uuid i
  deviceId := uuid i
  role := if i = 0 then .owner else .admin
  keyEpoch := epoch removed joined

namespace Staffed

theorem find?_workspace (staff : Staffed removed registered invited joined db) :
    db.workspaces.find? (uuid 0) = some (workspace (epoch removed joined)) :=
  Table.find?_eq_some.mpr ⟨staff.workspaces ▸ List.mem_cons_self, rfl⟩

variable {i : Nat}

theorem find?_member (staff : Staffed removed registered invited joined db)
    (inside : i ≤ joined) : db.members.find? (uuid i) = some (member removed i) :=
  Table.find?_numbered staff.members (Nat.lt_succ_of_le inside) rfl

theorem find?_device (staff : Staffed removed registered invited joined db)
    (inside : i ≤ joined) : db.devices.find? (uuid i) = some (storedDevice removed i) :=
  Table.find?_numbered staff.devices (Nat.lt_succ_of_le inside) rfl

theorem authenticates (staff : Staffed removed registered invited joined db) (small : joined < 10000)
    (inside : i ≤ joined) (kept : ¬(removed = true ∧ i = 1)) :
    authenticateDevice platform (token i) 0 db = .ok (auth removed joined i) := by
  have session : (((List.range (joined + 1)).map (deviceSession removed)).find? fun session =>
      decide (session.tokenHash = tokenHash platform "device-session" (token i) ∧
        session.revokedAt = none ∧ (0 : Int) < session.expiresAt)) =
      some (deviceSession removed i) := by
    refine find?_numbered (Nat.lt_succ_of_le inside) fun j below => ?_
    have lasting : (0 : Int) < minutes deviceSessionMinutes := by decide
    simp only [deviceSession, tokenHash_inj (by omega : j < 10000) (by omega : i < 10000), lasting,
      and_true, decide_eq_true_eq]
    constructor
    · exact fun same => same.1
    · rintro rfl
      exact ⟨rfl, if_neg kept⟩
  have device := staff.find?_device inside
  have member := staff.find?_member inside
  simp only [authenticateDevice, validateTokenShape_token, staff.deviceSessions, session, ok_bind, required_some]
  simp [deviceSession, device, storedDevice, registeredDevice, Demo.device, kept, member,
    Demo.member, staff.find?_workspace, workspace, auth]

theorem count_active (staff : Staffed removed registered invited joined db)
    (second : removed = true → 1 ≤ joined) :
    (db.members.count fun row => row.workspaceId = uuid 0 ∧ row.status = .active) =
      if removed then joined else joined + 1 := by
  rw [Table.count, staff.members, List.countP_map]
  cases removed with
  | false =>
    rw [List.countP_eq_length.mpr fun i _ => by simp [member], List.length_range]
    rfl
  | true =>
    refine Eq.trans (List.countP_congr fun i _ => ?_) (countP_range_ne_one (second rfl))
    simp [member]

end Staffed

namespace Stage

theorem register (stage : Stage removed registered invited joined db) (small : registered < 10000) :
    ∃ next, Returns platform (Call.serve platform (draws registered)
        (.registerAccount ⟨email registered, "correct horse battery", "Member"⟩ false)) db () next ∧
      Stage removed (registered + 1) invited joined next := by
  obtain ⟨accounts, accountSessions, accountRows, sessionRows, returns⟩ :=
    returns_register stage.accounts stage.accountSessions small
  exact ⟨_, returns, { stage with accounts := accountRows, accountSessions := sessionRows }⟩

/-- The owner invites the next account as an admin. -/
theorem invite (stage : Stage removed registered invited joined db) (small : invited + 1 < 10000)
    (few : invited - joined < maxWorkspaceInvitations) (order : joined ≤ invited) :
    ∃ next, Returns platform (Call.serve platform (draws (invited + 1)) (.device (token 0)
        (.createWorkspaceInvitation (uuid 0) ⟨email (invited + 1), "admin", uuid (invited + 1)⟩)))
        db () next ∧
      Stage removed registered (invited + 1) joined next := by
  have known := stage.authenticates (by omega) (Nat.zero_le _) (by simp)
  have role : invitedRole (auth removed joined 0) ⟨email (invited + 1), "admin", uuid (invited + 1)⟩ =
      .ok .admin := rfl
  have lasting : db.workspaceInvitations.delete (fun row =>
      row.expiresAt ≤ 0 ∨ row.revokedAt ≠ none) = db.workspaceInvitations := by
    refine Table.delete_eq_self fun row held => ?_
    simp only [stage.invitations, List.mem_map] at held
    obtain ⟨i, -, rfl⟩ := held
    have later : ¬hours workspaceInvitationHours ≤ 0 := by decide
    simp [invitation, later]
  have cleared : (Action.deleteStaleInvitations 0).run platform db = .ok ((), db) := by
    simp only [Action.run, Relay.deleteStaleInvitations, lasting]
    rfl
  have counted : pendingInvitations (uuid 0) db = .ok (invited - joined) := by
    have waiting : (db.workspaceInvitations.count fun row =>
        row.workspaceId = uuid 0 ∧ row.acceptedAt = none ∧ row.revokedAt = none) =
        invited - joined := by
      rw [Table.count, stage.invitations, List.countP_map, ← countP_range_ge]
      exact List.countP_congr fun i _ => by simp [invitation]
    simp only [pendingInvitations, waiting]
    rfl
  obtain ⟨grown, inserted, rows⟩ := Table.insert_numbered stage.invitations fun i below => by
    simp only [invitation, ne_eq, uuid_inj (by omega : i + 1 < 10000) small]
    omega
  have secret : ∀ held ∈ db.workspaceInvitations.rows, held.tokenHash ≠ (invitation joined invited).tokenHash := by
    simp only [stage.invitations, List.mem_map, List.mem_range]
    rintro _ ⟨i, below, rfl⟩
    simp only [invitation, ne_eq, tokenHash_inj (by omega : i + 1 < 10000) small]
    omega
  have invites : (Action.insertWorkspaceInvitation (invitation joined invited)).run platform db =
      .ok ((), { db with workspaceInvitations := grown }) :=
    insertWorkspaceInvitation_eq_ok.mpr ⟨secret, grown, inserted,
      Option.isSome_iff_exists.mpr ⟨_, stage.find?_workspace⟩,
      Option.isSome_iff_exists.mpr ⟨_, stage.find?_member (Nat.zero_le _)⟩, rfl⟩
  have fresh : invitation joined invited =
      { id := uuid (invited + 1), workspaceId := uuid 0, invitedByMemberId := uuid 0,
        memberId := uuid (invited + 1), email := email (invited + 1), role := .admin,
        tokenHash := tokenHash platform "workspace-invitation" (token (invited + 1)),
        expiresAt := 0 + hours workspaceInvitationHours, acceptedAt := none, revokedAt := none } := by
    simp [invitation, order]
  rw [fresh] at invites
  refine ⟨{ db with workspaceInvitations := grown }, .device rfl known (.discard (.check rfl
    (.check rfl (.check (validateUuid_uuid _ _) (.check (cleanEmail_email _) (.check role
      (.perform cleared (.select counted (.check (ensure_of few _) (.perform invites (.done _))))))))))), ?_⟩
  exact { stage with invitations := rows }

/-- The next invited account joins with its device. -/
theorem accept (stage : Stage removed registered invited joined db) (small : registered ≤ 10000)
    (known : joined + 1 < registered) (waiting : joined < invited) (few : invited < 10000)
    (second : removed = true → 1 ≤ joined)
    (room : (if removed then joined else joined + 1) < maxWorkspaceMembers) :
    ∃ next, Returns platform (Call.serve platform (draws (joined + 1))
        (.acceptWorkspaceInvitation (token (joined + 1)) ⟨token (joined + 1), device (joined + 1)⟩))
        db () next ∧
      Stage removed registered invited (joined + 1) next := by
  have kept : ¬(removed = true ∧ joined + 1 = 1) := by
    rintro ⟨gone, first⟩
    have := second gone
    omega
  have account := authenticateAccount_eq stage.accounts stage.accountSessions small known
  have held : db.accounts.find? (uuid (joined + 1)) = some (Demo.account (joined + 1)) :=
    Table.find?_numbered stage.accounts known rfl
  have found : (db.workspaceInvitations.rows.find? fun row =>
      decide (row.tokenHash = tokenHash platform "workspace-invitation" (token (joined + 1)) ∧
        row.revokedAt = none ∧ (0 : Int) < row.expiresAt)) = some (invitation joined joined) := by
    rw [stage.invitations]
    refine find?_numbered waiting fun i below => ?_
    have lasting : (0 : Int) < hours workspaceInvitationHours := by decide
    simp [invitation, lasting, tokenHash_inj (by omega : i + 1 < 10000) (by omega : joined + 1 < 10000)]
  -- The member and the device of the invitation's number join those before.
  have joins : invitedMember (invitation joined joined)
      ⟨uuid (joined + 1), email (joined + 1), "Member"⟩ 0 = member removed (joined + 1) := by
    have present : ¬(removed = true ∧ joined = 0) := fun gone => kept ⟨gone.1, by omega⟩
    simp [invitedMember, invitation, member, present]
  obtain ⟨members, inserted, memberRows⟩ := Table.insert_numbered stage.members fun i below => by
    simp only [member, ne_eq, uuid_inj (by omega : i < 10000) (by omega : joined + 1 < 10000)]
    omega
  have alone : ∀ row ∈ db.members.rows, row.workspaceId = uuid 0 → row.accountId ≠ uuid (joined + 1) := by
    simp only [stage.members, List.mem_map, List.mem_range]
    rintro _ ⟨i, below, rfl⟩ -
    simp only [member, ne_eq, uuid_inj (by omega : i < 10000) (by omega : joined + 1 < 10000)]
    omega
  let staffed : Db := { db with members }
  obtain ⟨devices, deviceRows, registers⟩ := insertDevice_ok
    (show staffed.devices.rows = _ from stage.devices) (by omega) kept
    (Option.isSome_iff_exists.mpr ⟨_, stage.find?_workspace⟩)
    (Option.isSome_iff_exists.mpr ⟨_, Table.find?_numbered memberRows (Nat.lt_succ_self _) rfl⟩)
  let equipped : Db := { staffed with devices }
  let moved : Db := joinedWorkspace (invitation joined joined) 0 equipped
  obtain ⟨output, sessions, sessionRows, issued⟩ := issueDeviceSession_ok .admin
    (epoch removed joined + 1) (show moved.deviceSessions.rows = _ from stage.deviceSessions) (by omega) kept
    (Option.isSome_iff_exists.mpr ⟨_, Table.find?_numbered deviceRows (Nat.lt_succ_self _) rfl⟩)
  have fits : InI64 ((workspace (epoch removed joined)).keyEpoch + 1) := by
    simp only [InI64, workspace, epoch]
    split <;> omega
  let draws : AcceptDraws :=
    { checkedAt := 0, now := 0, issuedAt := 0, sessionId := uuid (joined + 1), random := random (joined + 1) }
  have fresh : acceptFresh platform ⟨uuid (joined + 1), email (joined + 1), "Member"⟩
      (device (joined + 1)) draws (invitation joined joined) db =
        .ok (output, { moved with deviceSessions := sessions }) :=
    acceptFresh_eq_ok.mpr ⟨lt_of_eq_of_lt (stage.count_active second) room, alone, members,
      equipped, workspace (epoch removed joined), joins ▸ inserted,
      Option.isSome_iff_exists.mpr ⟨_, held⟩, registers, stage.find?_workspace, rfl, fits, issued⟩
  have accepts : (Action.acceptWorkspaceInvitation ⟨uuid (joined + 1), email (joined + 1), "Member"⟩
      ⟨token (joined + 1), device (joined + 1)⟩ draws).run platform db =
        .ok (output, { moved with deviceSessions := sessions }) := by
    refine acceptWorkspaceInvitation_eq_ok.mpr ⟨invitation joined joined, found, rfl, ?_⟩
    rw [if_neg (by simp [invitation])]
    exact fresh
  refine ⟨{ moved with deviceSessions := sessions }, .select account (.discard
    (.check (validateDevice_device _) (.check (validateTokenShape_token _) (.last accepts)))), ?_⟩
  have raised : moved.workspaces.rows = [workspace (epoch removed (joined + 1))] := by
    show (db.workspaces.rows.map _) = _
    rw [stage.workspaces]
    simp [workspace, invitation, epoch]
    omega
  have marked : moved.workspaceInvitations.rows = (List.range invited).map (invitation (joined + 1)) := by
    refine Table.update_numbered stage.invitations fun i below => ?_
    -- The number of the invitation that is accepted is the first that was not yet.
    have same : uuid (i + 1) = uuid (joined + 1) ↔ i = joined := by
      rw [uuid_inj (by omega) (by omega)]
      omega
    rcases Nat.lt_trichotomy i joined with before | rfl | after
    · simp [invitation, before, before.ne, Nat.lt_succ_of_lt before, same]
    · simp [invitation]
    · simp [invitation, after.ne', same, Nat.not_lt.mpr after.le, Nat.not_lt.mpr (Nat.succ_le_of_lt after)]
  have closed : moved.terminalRooms.rows = [] := by
    show db.terminalRooms.rows.map _ = _
    rw [stage.rooms]
    rfl
  exact ⟨⟨stage.accounts, stage.accountSessions, raised, memberRows, deviceRows, sessionRows, marked⟩,
    closed, stage.roomInvitations, stage.roomParticipants, stage.controlLeases, stage.relayFrames⟩

/-- The owner removes the second member. -/
theorem remove (stage : Stage false registered invited joined db) (small : joined < 10000)
    (second : 1 ≤ joined) :
    ∃ next, Returns platform (Call.serve platform (draws 0)
        (.device (token 0) (.updateMember (uuid 0) (uuid 1) ⟨"admin", "removed"⟩))) db () next ∧
      Stage true registered invited joined next := by
  have known := stage.authenticates small (Nat.zero_le _) (by simp)
  have others : uuid 1 ≠ uuid 0 := by
    rw [ne_eq, uuid_inj (by decide) (by decide)]
    decide
  have allowed : checkMemberUpdate (auth false joined 0) (uuid 0) .admin .removed (member false 1)
      db = .ok () := by
    simp [checkMemberUpdate, auth, member, others, ensure, pure, Except.pure]
  have fits : InI64 ((workspace (epoch false joined)).keyEpoch + 1) := by
    simp only [InI64, workspace, epoch]
    split <;> omega
  have updates : (Action.updateMember (auth false joined 0) (uuid 0) (uuid 1) .admin .removed 0).run
      platform db = .ok ((workspace (epoch false joined)).keyEpoch + 1,
        closeWorkspaceRooms (uuid 0) 0 (raiseEpoch (uuid 0)
          (applyMemberUpdate (uuid 0) (uuid 1) .admin .removed 0 db))) :=
    updateMember_eq_ok.mpr ⟨member false 1, workspace (epoch false joined),
      stage.find?_member second, rfl, allowed, stage.find?_workspace, rfl, fits,
      Option.isSome_iff_exists.mpr ⟨_, stage.find?_member (Nat.zero_le _)⟩, rfl, rfl⟩
  refine ⟨_, .device rfl known (.discard (.check rfl (.check rfl (.check rfl (.last updates))))), ?_⟩
  have numbered {i : Nat} (below : i < joined + 1) : uuid i = uuid 1 ↔ i = 1 :=
    uuid_inj (by omega) (by decide)
  have owned {i : Nat} (below : i < joined + 1) : uuid i ∈ (db.devices.rows.filter fun device =>
      device.memberId = uuid 1 ∧ device.workspaceId = uuid 0).map Device.id ↔ i = 1 := by
    simp only [stage.devices, List.mem_map, List.mem_filter, List.mem_range, decide_eq_true_eq]
    constructor
    · rintro ⟨_, ⟨⟨k, inside, rfl⟩, own, -⟩, same⟩
      have first : k = 1 := (numbered inside).mp own
      rw [← first]
      exact ((uuid_inj (by omega) (by omega)).mp same).symm
    · rintro rfl
      exact ⟨storedDevice false 1, ⟨⟨1, below, rfl⟩, rfl, rfl⟩, rfl⟩
  refine ⟨⟨stage.accounts, stage.accountSessions, ?workspaces, ?members, ?devices, ?deviceSessions,
    stage.invitations⟩, ?rooms, stage.roomInvitations, stage.roomParticipants, stage.controlLeases,
    stage.relayFrames⟩
  case workspaces =>
    show db.workspaces.rows.map _ = _
    rw [stage.workspaces]
    simp [workspace, epoch]
  case members =>
    refine Table.update_numbered stage.members fun i below => ?_
    by_cases first : i = 1 <;> simp [member, numbered below, first]
  case devices =>
    refine Table.update_numbered stage.devices fun i below => ?_
    by_cases first : i = 1 <;>
      simp [storedDevice, registeredDevice, device, numbered below, first]
  case deviceSessions =>
    refine Table.update_numbered stage.deviceSessions fun i below => ?_
    by_cases first : i = 1
    · rw [if_pos (decide_eq_true ⟨rfl, (owned below).mpr first⟩)]
      simp [deviceSession, first]
    · rw [if_neg fun chosen => first ((owned below).mp (of_decide_eq_true chosen).2)]
      simp [deviceSession, first]
  case rooms =>
    show db.terminalRooms.rows.map _ = _
    rw [stage.rooms]
    rfl

theorem enrol (stage : Stage removed (joined + 1) joined joined db)
    (reached : Reached platform Roomless db []) (small : joined < 1000)
    (second : removed = true → 1 ≤ joined)
    (room : (if removed then joined else joined + 1) < maxWorkspaceMembers) :
    ∃ next, Reached platform Roomless next [] ∧ Stage removed (joined + 2) (joined + 1) (joined + 1) next := by
  obtain ⟨registered, registers, stage⟩ := stage.register (by omega)
  obtain ⟨invited, invites, stage⟩ := stage.invite (by omega)
    (by rw [Nat.sub_self]; decide) (Nat.le_refl _)
  obtain ⟨next, accepts, stage⟩ := stage.accept (by omega) (by omega) (Nat.lt_succ_self _)
    (by omega) second room
  have reached := reached.call ((registerAccount_founding _ _).weaken fun _ _ => (·.roomless))
    registers
  have reached := reached.call (createWorkspaceInvitation_roomless _ _ _) invites
  exact ⟨next, reached.call (acceptWorkspaceInvitation_roomless _ _) accepts, stage⟩

end Stage

theorem reached_staffed {joined : Nat} (room : joined < maxWorkspaceMembers) :
    ∃ db, Reached platform Roomless db [] ∧ Stage false (joined + 1) joined joined db := by
  have bound : joined < 256 := room
  induction joined with
  | zero =>
    obtain ⟨db, reached, stage⟩ := reached_founded
    exact ⟨db, reached.weaken fun _ _ => (·.roomless), stage⟩
  | succ joined ih =>
    obtain ⟨db, reached, stage⟩ := ih (Nat.lt_of_succ_lt room) (by omega)
    exact stage.enrol reached (by omega) (by simp) room

theorem reached_restaffed {joined : Nat} (room : joined < maxWorkspaceMembers) :
    ∃ db, Reached platform Roomless db [] ∧ Stage true (joined + 2) (joined + 1) (joined + 1) db := by
  have bound : joined < 256 := room
  induction joined with
  | zero =>
    obtain ⟨db, reached, stage⟩ := reached_staffed (show 1 < maxWorkspaceMembers by decide)
    obtain ⟨next, removes, stage⟩ := stage.remove (by decide) (Nat.le_refl 1)
    exact ⟨next, reached.call (updateMember_roomless _ _ _ _) removes, stage⟩
  | succ joined ih =>
    obtain ⟨db, reached, stage⟩ := ih (Nat.lt_of_succ_lt room) (by omega)
    exact stage.enrol reached (by omega) (by simp) room

/-! ### Rooms -/

theorem createRoom_ok (auth : DeviceAuth) (input : CreateRoomInput) (now : Instant)
    (rooms : db.terminalRooms.rows = []) (participants : db.roomParticipants.rows = [])
    (workspace : db.hasWorkspace auth.workspaceId = true) (member : db.hasMember auth.memberId = true)
    (device : db.hasDevice auth.deviceId = true) :
    ∃ terminalRooms roomParticipants, terminalRooms.rows = [openedRoom auth input] ∧
      roomParticipants.rows = [hostParticipant auth input.roomId now] ∧
      createRoom auth input now db = .ok (TerminalRoom.view (openedRoom auth input),
        { db with terminalRooms, roomParticipants }) := by
  have trimmed : trimRooms auth.workspaceId db = db := by
    simp [trimRooms, surplusRooms, rooms]
  obtain ⟨terminalRooms, opened, roomRows⟩ := Table.insert_numbered
    (show db.terminalRooms.rows = (List.range 0).map fun _ => openedRoom auth input from rooms)
    (by simp)
  obtain ⟨roomParticipants, hosted, participantRows⟩ := Table.insert_numbered
    (show db.roomParticipants.rows = (List.range 0).map fun _ =>
      hostParticipant auth input.roomId now from participants) (by simp)
  refine ⟨terminalRooms, roomParticipants, roomRows, participantRows, createRoom_eq_ok.mpr ?_⟩
  rw [trimmed]
  refine ⟨?_, terminalRooms, roomParticipants, opened, hosted, workspace, member, device, rfl, rfl⟩
  rw [Table.count, rooms]
  exact show 0 < 64 by decide

def room (removed : Bool) (joined : Nat) : TerminalRoom :=
  openedRoom (auth removed joined 0) ⟨uuid 0, epoch removed joined⟩

theorem Stage.open_room (stage : Stage removed registered invited joined db)
    (small : joined < 10000) :
    ∃ terminalRooms roomParticipants, terminalRooms.rows = [room removed joined] ∧
      roomParticipants.rows = [hostParticipant (auth removed joined 0) (uuid 0) 0] ∧
      Returns platform (Call.serve platform (draws 0)
        (.device (token 0) (.createRoom ⟨uuid 0, epoch removed joined⟩))) db ()
        { db with terminalRooms, roomParticipants } := by
  have known := stage.authenticates small (Nat.zero_le _) (by simp)
  obtain ⟨rooms, participants, roomRows, participantRows, created⟩ := createRoom_ok
    (auth removed joined 0) ⟨uuid 0, epoch removed joined⟩ 0 stage.rooms stage.roomParticipants
    (Option.isSome_iff_exists.mpr ⟨_, stage.find?_workspace⟩)
    (Option.isSome_iff_exists.mpr ⟨_, stage.find?_member (Nat.zero_le _)⟩)
    (Option.isSome_iff_exists.mpr ⟨_, stage.find?_device (Nat.zero_le _)⟩)
  exact ⟨rooms, participants, roomRows, participantRows, .device rfl known (.discard (.check rfl
    (.check (validateUuid_uuid _ _) (.check (ensure_of rfl _) (.last created)))))⟩

theorem hostRoom_ok (rooms : db.terminalRooms.find? (uuid 0) = some (room removed joined))
    (host : db.roomParticipants.find? (uuid 0, uuid 0) = some (hostParticipant (auth removed joined 0) (uuid 0) 0)) :
    hostRoom (auth removed joined 0) (uuid 0) db = .ok (TerminalRoom.view (room removed joined)) :=
  hostRoom_eq_ok.mpr ⟨rfl, authorizeRoom_eq_ok.mpr
    ⟨_, _, rooms, host, rfl, rfl, rfl, rfl, rfl, rfl⟩, rfl, rfl⟩

/-- What is left when the owner updates itself to what it is. -/
def refreshed (db : Db) : Db :=
  closeWorkspaceRooms (uuid 0) 0
    (raiseEpoch (uuid 0) (changeMember (uuid 0) (uuid 0) .owner .active db))

theorem Staffed.find?_refreshed (staff : Staffed removed registered invited joined db) :
    (refreshed db).workspaces.find? (uuid 0) = some (workspace (epoch removed joined + 1)) := by
  refine Table.find?_eq_some.mpr ⟨?_, rfl⟩
  show _ ∈ db.workspaces.rows.map _
  rw [staff.workspaces]
  simp [workspace]

theorem Staffed.refresh (staff : Staffed removed registered invited joined db)
    (small : joined < 10000) :
    Returns platform (Call.serve platform (draws 0)
      (.device (token 0) (.updateMember (uuid 0) (uuid 0) ⟨"owner", "active"⟩))) db ()
      (refreshed db) := by
  have known := staff.authenticates small (Nat.zero_le _) (by simp)
  have allowed : checkMemberUpdate (auth removed joined 0) (uuid 0) .owner .active (member removed 0)
      db = .ok () := by
    simp [checkMemberUpdate, auth, member, ensure, pure, Except.pure]
  have fits : InI64 ((workspace (epoch removed joined)).keyEpoch + 1) := by
    simp only [InI64, workspace, epoch]
    split <;> omega
  have updates : (Action.updateMember (auth removed joined 0) (uuid 0) (uuid 0) .owner .active 0).run
      platform db = .ok ((workspace (epoch removed joined)).keyEpoch + 1, refreshed db) :=
    updateMember_eq_ok.mpr ⟨member removed 0, workspace (epoch removed joined),
      staff.find?_member (Nat.zero_le _), rfl, allowed, staff.find?_workspace, rfl, fits,
      Option.isSome_iff_exists.mpr ⟨_, staff.find?_member (Nat.zero_le _)⟩, rfl, rfl⟩
  exact .device rfl known (.discard (.check rfl (.check rfl (.check rfl (.last updates)))))

end Demo

end Relay

end CNShell
