import Mathlib.Logic.Relation
import CNShell.Relay.Retired
import CNShell.Relay.Staffing

/-! What repeating the acceptance of a workspace invitation returns, after anything that happened in between. -/

namespace CNShell

namespace Relay

variable {platform : Platform} {db next : Db}

def Member.Stems (row old : Member) : Prop :=
  row.id = old.id ∧ row.workspaceId = old.workspaceId ∧ row.accountId = old.accountId

/-- A row of a device that has everything but its status from another one. -/
def Device.Stems (row old : Device) : Prop :=
  row.id = old.id ∧ row.workspaceId = old.workspaceId ∧ row.memberId = old.memberId ∧ row.name = old.name ∧
    row.encryptionPublicKey = old.encryptionPublicKey ∧ row.signingPublicKey = old.signingPublicKey ∧
    row.fingerprint = old.fingerprint

/-- A row of an invitation that has what it is for from another one, and was accepted if that was. -/
def WorkspaceInvitation.Stems (row old : WorkspaceInvitation) : Prop :=
  row.id = old.id ∧ row.workspaceId = old.workspaceId ∧ row.memberId = old.memberId ∧ row.email = old.email ∧
    row.role = old.role ∧ row.tokenHash = old.tokenHash ∧ (old.acceptedAt ≠ none → row.acceptedAt ≠ none)

/-- What an action does to workspaces, members, devices and invitations: rows stem from old ones or are new. -/
structure Stemming (db next : Db) : Prop where
  workspaces : ∀ row ∈ next.workspaces.rows, row.status = .active ∨
    ∃ old ∈ db.workspaces.rows, row.status = old.status
  members : ∀ row ∈ next.members.rows,
    (∃ old ∈ db.members.rows, Member.Stems row old ∧
      (db.hasWorkspace old.workspaceId = true → next.hasWorkspace row.workspaceId = true)) ∨
    (db.members.find? row.id = none ∧ next.hasWorkspace row.workspaceId = true)
  devices : ∀ row ∈ next.devices.rows,
    (∃ old ∈ db.devices.rows, Device.Stems row old) ∨
    (db.devices.find? row.id = none ∧ trim row.name = row.name)
  invitations : ∀ row ∈ next.workspaceInvitations.rows,
    (∃ old ∈ db.workspaceInvitations.rows, WorkspaceInvitation.Stems row old) ∨
    (db.workspaceInvitations.find? row.id = none ∧
      ∀ other ∈ next.workspaceInvitations.rows, other.tokenHash = row.tokenHash → other = row)

/-- What is stored belongs together: workspaces are in use, and members are in one of them. -/
structure Settled (db : Db) : Prop where
  live : ∀ workspace ∈ db.workspaces.rows, workspace.status = .active
  housed : ∀ member ∈ db.members.rows, db.hasWorkspace member.workspaceId = true
  trimmed : ∀ device ∈ db.devices.rows, trim device.name = device.name
  single : ∀ first ∈ db.workspaceInvitations.rows, ∀ second ∈ db.workspaceInvitations.rows,
    first.tokenHash = second.tokenHash → first = second

theorem Settled.stemming (settled : Settled db) (stems : Stemming db next) : Settled next where
  live row member := by
    rcases stems.workspaces row member with active | ⟨old, held, same⟩
    · exact active
    · rw [same]
      exact settled.live old held
  housed row member := by
    rcases stems.members row member with ⟨old, held, -, stays⟩ | ⟨-, has⟩
    · exact stays (settled.housed old held)
    · exact has
  trimmed row member := by
    rcases stems.devices row member with ⟨old, held, -, -, -, name, -⟩ | ⟨-, name⟩
    · rw [name]
      exact settled.trimmed old held
    · exact name
  single first one second two same := by
    rcases stems.invitations first one with ⟨old, held, id, -, -, -, -, hash, -⟩ | ⟨-, alone⟩
    · rcases stems.invitations second two with ⟨other, held', id', -, -, -, -, hash', -⟩ | ⟨-, alone⟩
      · have stored := settled.single old held other held' (by rw [← hash, ← hash', same])
        exact Table.eq_of_key one two (by rw [id, id', stored])
      · exact alone first one same
    · exact (alone second two same.symm).symm

theorem Stemming.congr (workspaces : next.workspaces = db.workspaces) (members : next.members = db.members)
    (devices : next.devices = db.devices) (invitations : next.workspaceInvitations = db.workspaceInvitations) :
    Stemming db next where
  workspaces row member := .inr ⟨row, workspaces ▸ member, rfl⟩
  members row member := .inl ⟨row, members ▸ member, ⟨rfl, rfl, rfl⟩, fun has => by
    rwa [Db.hasWorkspace, workspaces]⟩
  devices row member := .inl ⟨row, devices ▸ member, rfl, rfl, rfl, rfl, rfl, rfl, rfl⟩
  invitations row member := .inl ⟨row, invitations ▸ member, rfl, rfl, rfl, rfl, rfl, rfl, fun accepted => accepted⟩

theorem trim_of_cleanName {value field name : String} (clean : cleanName value field = .ok name) :
    name = trim value := by
  simp only [cleanName, bind_eq_ok, ensure_eq_ok, pure_eq_ok, exists_const] at clean
  exact clean.2.symm

theorem hasWorkspace_insert {workspace : Workspace} {workspaces : Table Workspace.id}
    (added : db.workspaces.insert workspace = some workspaces) (same : next.workspaces = workspaces) {id : String}
    (has : db.hasWorkspace id = true) : next.hasWorkspace id = true := by
  rw [Db.hasWorkspace, same, Table.find?_insert added]
  split
  · rfl
  · exact has

variable {workspaceId : String}

theorem hasWorkspace_raise (db : Db) (same : next.workspaces = (raiseEpoch workspaceId db).workspaces) (id : String) :
    next.hasWorkspace id = db.hasWorkspace id := by
  rw [Db.hasWorkspace, same, raiseEpoch, Table.find?_update, Option.isSome_map]
  rfl

theorem stems_raise (db : Db) (same : next.workspaces = (raiseEpoch workspaceId db).workspaces) {row : Workspace}
    (member : row ∈ next.workspaces.rows) : ∃ old ∈ db.workspaces.rows, row.status = old.status := by
  rw [same] at member
  obtain ⟨old, held, rfl⟩ := Table.mem_update.mp member
  refine ⟨old, held, ?_⟩
  split <;> rfl

theorem stems_insert_device (db : Db) {memberId : String} {device : DeviceRegistration} {now : Instant}
    {name : String} {devices : Table Device.id} (clean : cleanName device.name "设备名称" = .ok name)
    (added : db.devices.insert (registeredDevice workspaceId memberId name device now) = some devices)
    {row : Device} (member : row ∈ devices.rows) : (∃ old ∈ db.devices.rows, Device.Stems row old) ∨
      (db.devices.find? row.id = none ∧ trim row.name = row.name) := by
  rcases (Table.mem_insert added).mp member with old | rfl
  · exact .inl ⟨row, old, rfl, rfl, rfl, rfl, rfl, rfl, rfl⟩
  · refine .inr ⟨Table.find?_eq_none.mpr (Table.insert_eq_some.mp added).1, ?_⟩
    show trim name = name
    rw [trim_of_cleanName clean, trim_trim]

/-- The rows after an action stem from those before it or are new. -/
theorem Action.run_stemming {β : Type} {action : Action β} {value : β}
    (ran : action.run platform db = .ok (value, next)) : Stemming db next := by
  have agree := Action.run_agree ran
  by_cases written : .workspaces ∈ action.writes ∨ .members ∈ action.writes ∨ .devices ∈ action.writes ∨
      .workspaceInvitations ∈ action.writes
  case neg =>
    simp only [not_or] at written
    exact .congr (agree.workspaces written.1) (agree.members written.2.1) (agree.devices written.2.2.1)
      (agree.workspaceInvitations written.2.2.2)
  cases action <;> simp [Action.writes] at written
  case bootstrapWorkspace account input workspaceName sessionId random now issuedAt =>
    obtain ⟨-, workspaces, members, opened, added, -, joined, -, device, issued⟩ := bootstrapWorkspace_eq_ok.mp ran
    obtain ⟨name, devices, clean, registered, -, -, rfl⟩ := insertDevice_eq_ok.mp device
    obtain ⟨-, sessions, -, -, -, rfl⟩ := issueDeviceSession_eq_ok.mp issued
    constructor
    case workspaces =>
      intro row member
      rcases (Table.mem_insert added).mp member with old | rfl
      · exact .inr ⟨row, old, rfl⟩
      · exact .inl rfl
    case members =>
      intro row member
      rcases (Table.mem_insert joined).mp member with old | rfl
      · exact .inl ⟨row, old, ⟨rfl, rfl, rfl⟩, hasWorkspace_insert added rfl⟩
      · refine .inr ⟨Table.find?_eq_none.mpr (Table.insert_eq_some.mp joined).1, ?_⟩
        show (workspaces.find? input.workspaceId).isSome = true
        rw [Table.find?_insert added, if_pos rfl]
        rfl
    case devices => exact fun row member => stems_insert_device db clean registered member
    case invitations => exact fun row member => .inl ⟨row, member, rfl, rfl, rfl, rfl, rfl, rfl, fun kept => kept⟩
  case deleteStaleInvitations now =>
    simp only [Action.run, Relay.deleteStaleInvitations, pure_eq_ok, Prod.mk.injEq] at ran
    obtain ⟨-, rfl⟩ := ran
    have same : Stemming db db := .congr rfl rfl rfl rfl
    refine ⟨same.workspaces, same.members, same.devices, fun row member => ?_⟩
    exact .inl ⟨row, (Table.mem_delete.mp member).1, rfl, rfl, rfl, rfl, rfl, rfl, fun kept => kept⟩
  case insertWorkspaceInvitation invitation =>
    obtain ⟨unused, invitations, added, -, -, rfl⟩ := insertWorkspaceInvitation_eq_ok.mp ran
    have same : Stemming db db := .congr rfl rfl rfl rfl
    refine ⟨same.workspaces, same.members, same.devices, fun row member => ?_⟩
    rcases (Table.mem_insert added).mp member with old | rfl
    · exact .inl ⟨row, old, rfl, rfl, rfl, rfl, rfl, rfl, fun kept => kept⟩
    · refine .inr ⟨Table.find?_eq_none.mpr (Table.insert_eq_some.mp added).1, fun other held alike => ?_⟩
      rcases (Table.mem_insert added).mp held with old | rfl
      · exact absurd alike (unused other old)
      · rfl
  case acceptWorkspaceInvitation account input draws =>
    obtain ⟨invitation, -, ⟨sessions, rfl⟩ | ⟨-, members, name, devices, workspace, sessions, joined, clean, registered, found, rfl⟩⟩ :=
      acceptWorkspaceInvitation_ok ran
    · exact .congr rfl rfl rfl rfl
    · constructor
      case workspaces => exact fun row member => .inr (stems_raise db rfl member)
      case members =>
        intro row member
        rcases (Table.mem_insert joined).mp member with old | rfl
        · exact .inl ⟨row, old, ⟨rfl, rfl, rfl⟩, fun has => (hasWorkspace_raise db rfl _).trans has⟩
        · refine .inr ⟨Table.find?_eq_none.mpr (Table.insert_eq_some.mp joined).1, ?_⟩
          exact (hasWorkspace_raise db rfl _).trans (Option.isSome_iff_exists.mpr ⟨workspace, found⟩)
      case devices => exact fun row member => stems_insert_device db clean registered member
      case invitations =>
        intro row member
        obtain ⟨old, held, rfl⟩ := Table.mem_update.mp member
        refine .inl ⟨old, held, ?_⟩
        split
        · exact ⟨rfl, rfl, rfl, rfl, rfl, rfl, fun _ none => by cases none⟩
        · exact ⟨rfl, rfl, rfl, rfl, rfl, rfl, fun kept => kept⟩
  case deleteWorkspace workspaceId =>
    obtain ⟨-, -, rfl⟩ := deleteWorkspace_eq_ok.mp ran
    constructor
    case workspaces => exact fun row member => .inr ⟨row, (Table.mem_delete.mp member).1, rfl⟩
    case members =>
      intro row member
      obtain ⟨held, spared⟩ := Table.mem_delete.mp member
      refine .inl ⟨row, held, ⟨rfl, rfl, rfl⟩, fun has => ?_⟩
      -- A member that is spared is of another workspace.
      have other : row.workspaceId ≠ workspaceId := by
        intro own
        have chosen : row.id ∈ (db.members.rows.filter fun row => row.workspaceId = workspaceId).map Member.id :=
          List.mem_map.mpr ⟨row, List.mem_filter.mpr ⟨held, decide_eq_true own⟩, rfl⟩
        simp [chosen] at spared
      have kept : (db.workspaces.delete fun row => row.id = workspaceId).find? row.workspaceId =
          db.workspaces.find? row.workspaceId :=
        Table.find?_delete_spared fun workspace named => decide_eq_false (named ▸ other)
      exact (congrArg Option.isSome kept).trans has
    case devices => exact fun row member => .inl ⟨row, (Table.mem_delete.mp member).1, rfl, rfl, rfl, rfl, rfl, rfl, rfl⟩
    case invitations =>
      exact fun row member => .inl ⟨row, (Table.mem_delete.mp member).1, rfl, rfl, rfl, rfl, rfl, rfl, fun kept => kept⟩
  case updateMember auth workspaceId memberId role status now =>
    obtain ⟨_, _, -, -, -, -, -, -, -, -, rfl⟩ := updateMember_eq_ok.mp ran
    have changed : (applyMemberUpdate workspaceId memberId role status now db).workspaces = db.workspaces ∧
        (applyMemberUpdate workspaceId memberId role status now db).members =
          (changeMember workspaceId memberId role status db).members := by
      unfold applyMemberUpdate
      split <;> exact ⟨rfl, rfl⟩
    constructor
    case workspaces =>
      intro row member
      obtain ⟨old, held, same⟩ := stems_raise (applyMemberUpdate workspaceId memberId role status now db) rfl member
      exact .inr ⟨old, changed.1 ▸ held, same⟩
    case members =>
      intro row member
      have updated : row ∈ (changeMember workspaceId memberId role status db).members.rows := changed.2 ▸ member
      obtain ⟨old, held, rfl⟩ := Table.mem_update.mp updated
      refine .inl ⟨old, held, ?_, fun has => ?_⟩
      · split <;> exact ⟨rfl, rfl, rfl⟩
      · have same : (if (decide (old.id = memberId ∧ old.workspaceId = workspaceId)) = true then
            { old with role, status } else old).workspaceId = old.workspaceId := by split <;> rfl
        refine (hasWorkspace_raise (applyMemberUpdate workspaceId memberId role status now db) rfl _).trans ?_
        rw [Db.hasWorkspace, changed.1]
        exact (congrArg (fun id => (db.workspaces.find? id).isSome) same).trans has
    case devices =>
      intro row member
      have devices : row ∈ (applyMemberUpdate workspaceId memberId role status now db).devices.rows := member
      unfold applyMemberUpdate at devices
      split at devices
      · obtain ⟨old, held, rfl⟩ := Table.mem_update.mp devices
        refine .inl ⟨old, held, ?_⟩
        split <;> exact ⟨rfl, rfl, rfl, rfl, rfl, rfl, rfl⟩
      · exact .inl ⟨row, devices, rfl, rfl, rfl, rfl, rfl, rfl, rfl⟩
    case invitations =>
      intro row member
      have held : row ∈ (applyMemberUpdate workspaceId memberId role status now db).workspaceInvitations.rows := member
      unfold applyMemberUpdate at held
      split at held <;> exact .inl ⟨row, held, rfl, rfl, rfl, rfl, rfl, rfl, fun kept => kept⟩
  case revokeDevice auth workspaceId deviceId now =>
    obtain ⟨_, _, -, -, -, -, -, -, -, -, rfl⟩ := revokeDevice_eq_ok.mp ran
    constructor
    case workspaces => exact fun row member => .inr (stems_raise db rfl member)
    case members =>
      exact fun row member => .inl ⟨row, member, ⟨rfl, rfl, rfl⟩, fun has => (hasWorkspace_raise db rfl _).trans has⟩
    case devices =>
      intro row member
      obtain ⟨old, held, rfl⟩ := Table.mem_update.mp member
      refine .inl ⟨old, held, ?_⟩
      split <;> exact ⟨rfl, rfl, rfl, rfl, rfl, rfl, rfl⟩
    case invitations => exact fun row member => .inl ⟨row, member, rfl, rfl, rfl, rfl, rfl, rfl, fun kept => kept⟩

theorem settled_of_reachable (reached : ReachableDb platform db) : Settled db := by
  obtain ⟨threads, trace, run⟩ := reached
  refine Pool.invariant (fun _ _ => True) (fun _ _ => True) Settled (fun program _ => .any program) ?_ ?_ run
    fun _ _ => trivial
  · intro _ opened
    subst opened
    constructor
    case live | housed | trimmed | single => exact fun _ held => (List.not_mem_nil held).elim
  · intro db next β action value _ settled _ ran
    exact settled.stemming (Action.run_stemming ran)

section Enrolment

variable {account : AccountAuth} {invitation : WorkspaceInvitation} {device : DeviceRegistration}

def Stored (invitation : WorkspaceInvitation) (device : DeviceRegistration) (db : Db) : Prop :=
  (db.workspaceInvitations.find? invitation.id).isSome = true ∧ (db.members.find? invitation.memberId).isSome = true ∧
    (db.devices.find? device.id).isSome = true

/-- What an acceptance leaves of the invitation, its member and the device, and what later actions leave of them. -/
structure Enrolled (account : AccountAuth) (invitation : WorkspaceInvitation) (device : DeviceRegistration)
    (db : Db) : Prop where
  invited : ∃ row, db.workspaceInvitations.find? invitation.id = some row ∧
    WorkspaceInvitation.Stems row invitation ∧ row.acceptedAt ≠ none
  member : ∃ row, db.members.find? invitation.memberId = some row ∧ row.workspaceId = invitation.workspaceId ∧
    row.accountId = account.accountId
  device : ∃ row, db.devices.find? device.id = some row ∧ row.memberId = invitation.memberId ∧
    row.workspaceId = invitation.workspaceId ∧ row.name = trim device.name ∧
    row.encryptionPublicKey = device.encryptionPublicKey ∧ row.signingPublicKey = device.signingPublicKey ∧
    row.fingerprint = device.fingerprint

/-- Who is enrolled stays so while the rows are stored. -/
theorem Enrolled.stemming (enrolled : Enrolled account invitation device db) (stems : Stemming db next)
    (stored : Stored invitation device next) : Enrolled account invitation device next := by
  obtain ⟨invited, member, device⟩ := enrolled
  obtain ⟨there, manned, equipped⟩ := stored
  constructor
  case invited =>
    obtain ⟨before, found, stem, accepted⟩ := invited
    obtain ⟨row, later⟩ := Option.isSome_iff_exists.mp there
    obtain ⟨held, same⟩ := Table.find?_some later
    rcases stems.invitations row held with ⟨old, kept, next⟩ | ⟨gone, -⟩
    · have alike : old = before := by
        have named := Table.find?_of_mem kept
        rw [← next.1, same, found] at named
        exact (Option.some.inj named).symm
      subst alike
      obtain ⟨id, workspace, own, email, role, hash, still⟩ := next
      obtain ⟨id', workspace', own', email', role', hash', still'⟩ := stem
      exact ⟨row, later, ⟨id.trans id', workspace.trans workspace', own.trans own', email.trans email', role.trans role',
        hash.trans hash', fun _ => still accepted⟩, still accepted⟩
    · rw [same, found] at gone
      cases gone
  case member =>
    obtain ⟨before, found, workspace, account⟩ := member
    obtain ⟨row, later⟩ := Option.isSome_iff_exists.mp manned
    obtain ⟨held, same⟩ := Table.find?_some later
    rcases stems.members row held with ⟨old, kept, ⟨id, workspace', account'⟩, -⟩ | ⟨gone, -⟩
    · have alike : old = before := by
        have named := Table.find?_of_mem kept
        rw [← id, same, found] at named
        exact (Option.some.inj named).symm
      subst alike
      exact ⟨row, later, workspace'.trans workspace, account'.trans account⟩
    · rw [same, found] at gone
      cases gone
  case device =>
    obtain ⟨before, found, owner, workspace, name, encryption, signing, fingerprint⟩ := device
    obtain ⟨row, later⟩ := Option.isSome_iff_exists.mp equipped
    obtain ⟨held, same⟩ := Table.find?_some later
    rcases stems.devices row held with ⟨old, kept, id, workspace', owner', name', encryption', signing',
      fingerprint'⟩ | ⟨gone, -⟩
    · have alike : old = before := by
        have named := Table.find?_of_mem kept
        rw [← id, same, found] at named
        exact (Option.some.inj named).symm
      subst alike
      exact ⟨row, later, owner'.trans owner, workspace'.trans workspace, name'.trans name, encryption'.trans encryption,
        signing'.trans signing, fingerprint'.trans fingerprint⟩
    · rw [same, found] at gone
      cases gone

def invitationFor (platform : Platform) (token : String) (now : Instant) (db : Db) : Option WorkspaceInvitation :=
  db.workspaceInvitations.rows.find? fun row =>
    row.tokenHash = tokenHash platform "workspace-invitation" token ∧ row.revokedAt = none ∧ now < row.expiresAt

theorem enrolled_of_accepted {input : AcceptWorkspaceInvitationInput} {draws : AcceptDraws}
    {output : DeviceSessionOutput} (settled : Settled db)
    (accepted : acceptWorkspaceInvitation platform account input draws db = .ok (output, next))
    (found : invitationFor platform input.token draws.checkedAt db = some invitation) :
    Enrolled account invitation input.device next := by
  have held := Table.find?_of_mem (List.mem_of_find?_eq_some found)
  obtain ⟨same, found', -, accepted⟩ := acceptWorkspaceInvitation_eq_ok.mp accepted
  obtain rfl := Option.some.inj (found.symm.trans found')
  split at accepted
  · rename_i before
    obtain ⟨member, row, _, there, workspace, account, -, equipped, owner, workspace', name, encryption, signing,
      fingerprint, -, -, -, issued⟩ := acceptAgain_eq_ok.mp accepted
    obtain ⟨-, sessions, -, -, -, rfl⟩ := issueDeviceSession_eq_ok.mp issued
    have trimmed : row.name = trim input.device.name := by
      rw [← name, settled.trimmed row (Table.find?_some equipped).1]
    exact ⟨⟨invitation, held, ⟨rfl, rfl, rfl, rfl, rfl, rfl, fun _ => before⟩, before⟩, ⟨member, there, workspace, account⟩,
      ⟨row, equipped, owner, workspace', trimmed, encryption, signing, fingerprint⟩⟩
  · rename_i first
    obtain ⟨-, -, members, admitted, workspace, joined, -, registers, -, -, -, issued⟩ := acceptFresh_eq_ok.mp accepted
    obtain ⟨name, devices, clean, registered, -, -, rfl⟩ := insertDevice_eq_ok.mp registers
    obtain ⟨-, sessions, -, -, -, rfl⟩ := issueDeviceSession_eq_ok.mp issued
    have unaccepted : invitation.acceptedAt = none := not_not.mp first
    constructor
    case invited =>
      refine ⟨{ invitation with acceptedAt := some draws.now }, ?_, ⟨rfl, rfl, rfl, rfl, rfl, rfl, fun _ none => by cases none⟩,
        fun none => by cases none⟩
      refine Table.find?_update.trans ?_
      rw [held, Option.map_some, if_pos (decide_eq_true ⟨rfl, unaccepted⟩)]
    case member => exact ⟨_, (Table.find?_insert joined).trans (if_pos rfl), rfl, rfl⟩
    case device =>
      exact ⟨_, (Table.find?_insert registered).trans (if_pos rfl), rfl, rfl, trim_of_cleanName clean, rfl, rfl, rfl⟩

/-- Actions that ran after one another, each of them leaving a database with a property. -/
def Meanwhile (platform : Platform) (keeps : Db → Prop) : Db → Db → Prop :=
  Relation.ReflTransGen fun db next =>
    keeps next ∧ ∃ (β : Type) (action : Action β) (value : β), action.run platform db = .ok (value, next)

theorem Settled.meanwhile {keeps : Db → Prop} (settled : Settled db) (between : Meanwhile platform keeps db next) :
    Settled next := by
  induction between with
  | refl => exact settled
  | tail _ step ih =>
    obtain ⟨-, β, action, value, ran⟩ := step
    exact ih.stemming (Action.run_stemming ran)

theorem Enrolled.meanwhile (enrolled : Enrolled account invitation device db)
    (between : Meanwhile platform (Stored invitation device) db next) : Enrolled account invitation device next := by
  induction between with
  | refl => exact enrolled
  | tail _ step ih =>
    obtain ⟨stored, β, action, value, ran⟩ := step
    exact ih.stemming (Action.run_stemming ran) stored

end Enrolment

section Repetition

variable {account : AccountAuth} {input : AcceptWorkspaceInvitationInput} {draws again : Draws}

/-- The values of a request that an acceptance works with. -/
def Draws.accept (draws : Draws) : AcceptDraws where
  checkedAt := draws.clock 0
  now := draws.clock 1
  issuedAt := draws.clock 2
  sessionId := draws.uuid 0
  random := draws.random 0

theorem returns_accept_iff {output : DeviceSessionOutput} :
    Returns platform (acceptWorkspaceInvitationRequest platform draws account input) db output next ↔
      validateDevice platform input.device = .ok () ∧ validateTokenShape platform input.token = .ok () ∧
        acceptWorkspaceInvitation platform account input draws.accept db = .ok (output, next) := by
  constructor
  · intro returned
    simp only [Returns, acceptWorkspaceInvitationRequest] at returned
    cases device : validateDevice platform input.device with
    | error error =>
      rw [device] at returned
      cases returned
    | ok _ =>
      cases token : validateTokenShape platform input.token with
      | error error =>
        rw [device, token] at returned
        cases returned
      | ok _ =>
        rw [device, token] at returned
        have ran : (semantics platform).outcome (.acceptWorkspaceInvitation account input draws.accept) db =
            (.ok output, next) := returned
        refine ⟨rfl, rfl, ?_⟩
        cases accepted : (Action.acceptWorkspaceInvitation account input draws.accept).run platform db with
        | error error =>
          rw [outcome_error accepted] at ran
          cases ran
        | ok result =>
          rw [outcome_ok accepted] at ran
          cases ran
          exact accepted
  · rintro ⟨device, token, accepted⟩
    exact .check device (.check token (.last accepted))

/-- An acceptance that changes no member, device or epoch and returns the current ones. -/
def Repeats (platform : Platform) (draws : Draws) (account : AccountAuth) (input : AcceptWorkspaceInvitationInput)
    (db : Db) : Prop :=
  ∃ output next member device workspace,
    Returns platform (acceptWorkspaceInvitationRequest platform draws account input) db output next ∧
      next.members = db.members ∧ next.devices = db.devices ∧ next.workspaces = db.workspaces ∧
      db.members.find? output.memberId = some member ∧ member.accountId = account.accountId ∧
      db.devices.find? output.deviceId = some device ∧ device.id = input.device.id ∧ device.memberId = member.id ∧
      db.workspaces.find? output.workspaceId = some workspace ∧ output.keyEpoch = workspace.keyEpoch ∧
      output.role = member.role

def sessionOutput (platform : Platform) (request : SessionRequest) : DeviceSessionOutput where
  workspaceId := request.workspaceId
  memberId := request.memberId
  deviceId := request.deviceId
  role := request.role
  keyEpoch := request.keyEpoch
  token := (newToken platform "device-session" request.random).1
  expiresAt := request.now + minutes deviceSessionMinutes

theorem issueDeviceSession_fresh {request : SessionRequest} (device : db.hasDevice request.deviceId = true)
    (fresh : db.deviceSessions.find? request.sessionId = none)
    (secret : ∀ session ∈ db.deviceSessions.rows,
      session.tokenHash ≠ (newToken platform "device-session" request.random).2) :
    ∃ sessions, sessions.rows = db.deviceSessions.rows ++ [issuedSession platform request] ∧
      issueDeviceSession platform request db =
        .ok (sessionOutput platform request, { db with deviceSessions := keptSessions request sessions }) := by
  obtain ⟨sessions, inserted⟩ : ∃ sessions, db.deviceSessions.insert (issuedSession platform request) =
      some sessions := by
    refine Option.ne_none_iff_exists'.mp fun refused => ?_
    obtain ⟨held, member, same⟩ := Table.insert_eq_none.mp refused
    exact Table.find?_eq_none.mp fresh held member same
  exact ⟨sessions, (Table.insert_eq_some.mp inserted).2,
    issueDeviceSession_eq_ok.mpr ⟨secret, sessions, inserted, device, rfl, rfl⟩⟩

theorem Repeats.alike {row : WorkspaceInvitation} {device : Device} (repeated : Repeats platform again account input db)
    (settled : Settled db) (held : row ∈ db.workspaceInvitations.rows)
    (hashed : row.tokenHash = tokenHash platform "workspace-invitation" input.token) (once : row.acceptedAt ≠ none)
    (equipped : db.devices.find? input.device.id = some device) :
    device.name = input.device.name ∧ ∃ member, db.members.find? row.memberId = some member ∧
      row.role = member.role := by
  obtain ⟨output, next, current, used, place, returned, -, -, -, isMember, -, -, -, -, -, -, role⟩ := repeated
  obtain ⟨-, -, returned⟩ := returns_accept_iff.mp returned
  obtain ⟨other, there, -, returned⟩ := acceptWorkspaceInvitation_eq_ok.mp returned
  have found := List.find?_some there
  simp only [decide_eq_true_eq] at found
  obtain rfl := settled.single other (List.mem_of_find?_eq_some there) row held (found.1.trans hashed.symm)
  rw [if_pos once] at returned
  obtain ⟨_, equal, _, -, -, -, -, stored, -, -, raw, -, -, -, -, -, -, issued⟩ := acceptAgain_eq_ok.mp returned
  obtain ⟨-, sessions, -, -, rfl, -⟩ := issueDeviceSession_eq_ok.mp issued
  obtain rfl := Option.some.inj (stored.symm.trans equipped)
  exact ⟨raw, current, isMember, role⟩

/-- An acceptance repeats well exactly when the name had no blanks around it and the role is still the invitation's. -/
theorem accept_repeats_iff {joined later : Db} {output : DeviceSessionOutput} {invitation row : WorkspaceInvitation}
    {member : Member} {device : Device} (reached : ReachableDb platform db)
    (invited : invitationFor platform input.token (draws.clock 0) db = some invitation)
    (accepted : Returns platform (acceptWorkspaceInvitationRequest platform draws account input) db output joined)
    (between : Meanwhile platform (Stored invitation input.device) joined later)
    (kept : later.workspaceInvitations.find? invitation.id = some row) (unrevoked : row.revokedAt = none)
    (unexpired : again.clock 0 < row.expiresAt)
    (manned : later.members.find? invitation.memberId = some member) (works : member.status = .active)
    (equipped : later.devices.find? input.device.id = some device) (usable : device.status = .active)
    (fresh : later.deviceSessions.find? (again.uuid 0) = none)
    (secret : ∀ session ∈ later.deviceSessions.rows,
      session.tokenHash ≠ (newToken platform "device-session" (again.random 0)).2) :
    Repeats platform again account input later ↔
      trim input.device.name = input.device.name ∧ member.role = invitation.role := by
  obtain ⟨deviceOk, tokenOk, accepted⟩ := returns_accept_iff.mp accepted
  have start := settled_of_reachable reached
  have joins : Enrolled account invitation input.device joined := enrolled_of_accepted start accepted invited
  have ran : (Action.acceptWorkspaceInvitation account input draws.accept).run platform db = .ok (output, joined) :=
    accepted
  have enrolled := joins.meanwhile between
  have settled := (start.stemming (Action.run_stemming ran)).meanwhile between
  obtain ⟨⟨row', kept', stem, once⟩, ⟨member', manned', place, own⟩,
    ⟨device', equipped', owner, site, name, encryption, signing, fingerprint⟩⟩ := enrolled
  obtain rfl := Option.some.inj (kept'.symm.trans kept)
  obtain rfl := Option.some.inj (manned'.symm.trans manned)
  obtain rfl := Option.some.inj (equipped'.symm.trans equipped)
  obtain ⟨sameId, sameWorkspace, sameMember, sameEmail, sameRole, sameHash, -⟩ := stem
  have held := (Table.find?_some kept).1
  have stands := List.find?_some invited
  simp only [decide_eq_true_eq] at stands
  have hashed := sameHash.trans stands.1
  have mannedRow : later.members.find? row'.memberId = some member' := sameMember ▸ manned
  constructor
  · intro repeated
    obtain ⟨raw, current, there, role⟩ := repeated.alike settled held hashed once equipped
    obtain rfl := Option.some.inj (there.symm.trans mannedRow)
    exact ⟨name.symm.trans raw, role.symm.trans sameRole⟩
  · rintro ⟨plain, unchanged⟩
    -- The repeated acceptance finds the same invitation.
    have found : invitationFor platform input.token (again.clock 0) later = some row' := by
      obtain ⟨other, there⟩ : ∃ other, invitationFor platform input.token (again.clock 0) later = some other :=
        Option.isSome_iff_exists.mp (List.find?_isSome.mpr ⟨row', held, decide_eq_true ⟨hashed, unrevoked, unexpired⟩⟩)
      have alike := List.find?_some there
      simp only [decide_eq_true_eq] at alike
      rw [there, settled.single other (List.mem_of_find?_eq_some there) row' held (alike.1.trans hashed.symm)]
    obtain ⟨workspace, housed⟩ : ∃ workspace, later.workspaces.find? row'.workspaceId = some workspace := by
      have has := settled.housed member' (Table.find?_some manned).1
      rw [Db.hasWorkspace, place, ← sameWorkspace] at has
      exact Option.isSome_iff_exists.mp has
    obtain ⟨sessions, -, issued⟩ := issueDeviceSession_fresh
      (show later.hasDevice (acceptSession input.device again.accept row' workspace.keyEpoch).deviceId = true from
        Option.isSome_iff_exists.mpr ⟨_, equipped⟩) fresh secret
    have renewed := acceptAgain_eq_ok.mpr ⟨member', device', workspace, mannedRow, place.trans sameWorkspace.symm, own,
      works, equipped, owner.trans sameMember.symm, site.trans sameWorkspace.symm, name.trans plain, encryption, signing,
      fingerprint, usable, housed, settled.live workspace (Table.find?_some housed).1, issued⟩
    have known : row'.email = account.email := by
      obtain ⟨other, there, email, -⟩ := acceptWorkspaceInvitation_eq_ok.mp accepted
      obtain rfl := Option.some.inj (there.symm.trans invited)
      rw [sameEmail, email]
    refine ⟨_, _, member', device', workspace, returns_accept_iff.mpr ⟨deviceOk, tokenOk,
      acceptWorkspaceInvitation_eq_ok.mpr ⟨row', found, known, (if_pos once).mpr renewed⟩⟩, rfl, rfl, rfl, mannedRow, own,
      equipped, (Table.find?_some equipped).2, ?_, housed, rfl, sameRole.trans unchanged.symm⟩
    rw [owner, (Table.find?_some manned).2]

end Repetition

namespace Demo

def joiner : AccountAuth := ⟨uuid 1, email 1, "Member"⟩

def joining : AcceptWorkspaceInvitationInput := ⟨token 1, device 1⟩

theorem Stage.find_invitation (stage : Stage false 2 1 1 db) :
    invitationFor Demo.platform (token 1) 0 db = some (invitation 1 0) := by
  have lasting : (0 : Int) < hours workspaceInvitationHours := by decide
  rw [invitationFor, stage.invitations]
  exact find?_numbered (by decide : 0 < 1) fun i below => by
    obtain rfl : i = 0 := by omega
    simp [invitation, lasting]

theorem Stage.accept_again (stage : Stage false 2 1 1 db) :
    ∃ output sessions, (∀ session ∈ sessions.rows, ∃ n, n ≤ 5 ∧ session.id = uuid n ∧
        session.tokenHash = tokenHash Demo.platform "device-session" (token n)) ∧
      Returns Demo.platform (acceptWorkspaceInvitationRequest Demo.platform (draws 5) joiner joining) db output
        { db with deviceSessions := sessions } := by
  have numbered : ∀ session ∈ db.deviceSessions.rows, ∃ n, n ≤ 1 ∧ session.id = uuid n ∧
      session.tokenHash = tokenHash Demo.platform "device-session" (token n) := by
    simp only [stage.deviceSessions, List.mem_map, List.mem_range]
    rintro _ ⟨n, below, rfl⟩
    exact ⟨n, by omega, rfl, rfl⟩
  let request := acceptSession (device 1) (draws 5).accept (invitation 1 0) (epoch false 1)
  obtain ⟨sessions, rows, issued⟩ := @issueDeviceSession_fresh Demo.platform db request
    (Option.isSome_iff_exists.mpr ⟨_, stage.find?_device (Nat.le_refl 1)⟩)
    (Table.find?_eq_none.mpr fun session held same => by
      obtain ⟨n, small, id, -⟩ := numbered session held
      have := (uuid_inj (by omega) (by decide)).mp (id.symm.trans same)
      omega)
    (fun session held same => by
      obtain ⟨n, small, -, hash⟩ := numbered session held
      have := (tokenHash_inj (by omega) (by decide)).mp (hash.symm.trans same)
      omega)
  refine ⟨_, keptSessions request sessions, ?_, returns_accept_iff.mpr ⟨validateDevice_device _, validateTokenShape_token _,
    acceptWorkspaceInvitation_eq_ok.mpr ⟨invitation 1 0, stage.find_invitation, rfl, (if_pos (by decide)).mpr
      (acceptAgain_eq_ok.mpr ⟨member false 1, storedDevice false 1, workspace (epoch false 1),
        stage.find?_member (Nat.le_refl 1), rfl, rfl, rfl, stage.find?_device (Nat.le_refl 1), rfl, rfl, rfl, rfl, rfl, rfl,
        rfl, stage.find?_workspace, rfl, issued⟩)⟩⟩⟩
  intro session held
  have among : session ∈ db.deviceSessions.rows ++ [issuedSession Demo.platform request] :=
    rows ▸ (Table.mem_delete.mp held).1
  rcases List.mem_append.mp among with old | new
  · obtain ⟨n, small, same⟩ := numbered session old
    exact ⟨n, by omega, same⟩
  · obtain rfl := List.mem_singleton.mp new
    exact ⟨5, Nat.le_refl 5, rfl, rfl⟩

theorem unused_six {sessions : Table DeviceSession.id}
    (numbered : ∀ session ∈ sessions.rows, ∃ n, n ≤ 5 ∧ session.id = uuid n ∧
      session.tokenHash = tokenHash Demo.platform "device-session" (token n)) :
    sessions.find? ((draws 6).uuid 0) = none ∧ ∀ session ∈ sessions.rows,
      session.tokenHash ≠ (newToken Demo.platform "device-session" ((draws 6).random 0)).2 := by
  refine ⟨Table.find?_eq_none.mpr fun session held same => ?_, fun session held same => ?_⟩
  · obtain ⟨n, small, id, -⟩ := numbered session held
    have := (uuid_inj (by omega) (by decide)).mp (id.symm.trans same)
    omega
  · obtain ⟨n, small, -, hash⟩ := numbered session held
    have := (tokenHash_inj (by omega) (by decide)).mp (hash.symm.trans same)
    omega

/-- The member that joined accepts once more, and its acceptance repeats well. -/
theorem accept_repeats_unchanged : ∃ db joined output, ReachableDb Demo.platform db ∧
    Returns Demo.platform (acceptWorkspaceInvitationRequest Demo.platform (draws 5) joiner joining) db output joined ∧
    Repeats Demo.platform (draws 6) joiner joining joined := by
  obtain ⟨db, reached, stage⟩ := reached_staffed (show 1 < maxWorkspaceMembers by decide)
  obtain ⟨output, sessions, numbered, returned⟩ := Stage.accept_again stage
  obtain ⟨fresh, secret⟩ := unused_six numbered
  have kept : db.workspaceInvitations.find? (invitation 1 0).id = some (invitation 1 0) :=
    Table.find?_of_mem (List.mem_of_find?_eq_some (Stage.find_invitation stage))
  have invited : invitationFor Demo.platform joining.token ((draws 5).clock 0) db = some (invitation 1 0) :=
    Stage.find_invitation stage
  have well := accept_repeats_iff reached.reachable invited returned .refl kept rfl (show (draws 6).clock 0 < _ by decide)
    (stage.find?_member (Nat.le_refl 1)) rfl (stage.find?_device (Nat.le_refl 1)) rfl fresh secret
  exact ⟨db, _, output, reached.reachable, returned, well.mpr ⟨show trim "Laptop" = "Laptop" by decide, rfl⟩⟩

/-- A member that was made a viewer accepts once more and is told that it is an admin. -/
theorem repeats_stale_role : ∃ db joined later output row member device, ReachableDb Demo.platform db ∧
    Returns Demo.platform (acceptWorkspaceInvitationRequest Demo.platform (draws 5) joiner joining) db output joined ∧
    Meanwhile Demo.platform (Stored row joining.device) joined later ∧
    later.workspaceInvitations.find? row.id = some row ∧ row.revokedAt = none ∧ (draws 6).clock 0 < row.expiresAt ∧
    later.members.find? row.memberId = some member ∧ member.status = .active ∧
    later.devices.find? joining.device.id = some device ∧ device.status = .active ∧
    later.deviceSessions.find? ((draws 6).uuid 0) = none ∧
    (∀ session ∈ later.deviceSessions.rows,
      session.tokenHash ≠ (newToken Demo.platform "device-session" ((draws 6).random 0)).2) ∧
    ¬Repeats Demo.platform (draws 6) joiner joining later := by
  obtain ⟨db, reached, stage⟩ := reached_staffed (show 1 < maxWorkspaceMembers by decide)
  obtain ⟨output, sessions, numbered, returned⟩ := Stage.accept_again stage
  obtain ⟨fresh, secret⟩ := unused_six numbered
  let joined : Db := { db with deviceSessions := sessions }
  have member : joined.members.find? (uuid 1) = some (member false 1) := stage.find?_member (Nat.le_refl 1)
  have owner : joined.members.find? (uuid 0) = some (Demo.member false 0) := stage.find?_member (Nat.zero_le 1)
  have device : joined.devices.find? (uuid 1) = some (storedDevice false 1) := stage.find?_device (Nat.le_refl 1)
  have kept : joined.workspaceInvitations.find? (uuid 1) = some (invitation 1 0) :=
    Table.find?_of_mem (List.mem_of_find?_eq_some (Stage.find_invitation stage))
  have fits : InI64 ((workspace (epoch false 1)).keyEpoch + 1) := by decide
  have allowed : checkMemberUpdate (auth false 1 0) (uuid 0) .viewer .active (Demo.member false 1) joined = .ok () := by
    simp [checkMemberUpdate, auth, Demo.member, ensure, pure, Except.pure]
  have updates : (Action.updateMember (auth false 1 0) (uuid 0) (uuid 1) .viewer .active 0).run Demo.platform joined =
      .ok (_, _) :=
    updateMember_eq_ok.mpr ⟨Demo.member false 1, workspace (epoch false 1), member, rfl, allowed, stage.find?_workspace,
      rfl, fits, Option.isSome_iff_exists.mpr ⟨_, owner⟩, rfl, rfl⟩
  have changed : (changeMember (uuid 0) (uuid 1) .viewer .active joined).members.find? (uuid 1) =
      some { Demo.member false 1 with role := .viewer } := by
    refine Table.find?_update.trans ?_
    rw [member]
    rfl
  have begun : Settled joined := (settled_of_reachable reached.reachable).stemming (.congr rfl rfl rfl rfl)
  refine ⟨db, joined, _, output, invitation 1 0, { Demo.member false 1 with role := .viewer }, storedDevice false 1,
    reached.reachable, returned, .single ⟨⟨?_, ?_, ?_⟩, _, _, _, updates⟩, kept, rfl, by decide, changed, rfl, device, rfl,
    fresh, secret, fun repeated => ?_⟩
  · exact Option.isSome_iff_exists.mpr ⟨_, kept⟩
  · exact Option.isSome_iff_exists.mpr ⟨_, changed⟩
  · exact Option.isSome_iff_exists.mpr ⟨_, device⟩
  · obtain ⟨-, current, there, role⟩ := repeated.alike (begun.stemming (Action.run_stemming updates))
      (Table.find?_some kept).1 rfl (by decide) device
    obtain rfl := Option.some.inj (there.symm.trans changed)
    cases role

end Demo

end Relay

end CNShell
