import CNShell.Relay.Staffing
import CNShell.Relay.Writes

/-! What the sessions of members other than owners can do to the database. -/

namespace CNShell

namespace Relay

variable {platform : Platform}

/-- The actions that an operation of a session without the owner role can perform. -/
def StaffAction : (β : Type) → Action β → Prop
  | _, .read _ => True
  | _, .deleteStaleInvitations _ => True
  | _, .insertWorkspaceInvitation invitation => invitation.role ≠ .admin
  | _, .updateMember auth _ _ _ _ _ => auth.role ≠ .owner
  | _, .revokeDevice _ _ _ _ => True
  | _, .createRoom _ _ _ => True
  | _, .upsertRoomInvitation _ _ _ => True
  | _, .joinRoom _ _ _ _ => True
  | _, .leaveRoom _ _ _ => True
  | _, .grantControl _ _ _ _ _ _ => True
  | _, .revokeControl _ _ => True
  | _, .closeRoom _ _ _ => True
  | _, .commitFrame _ _ _ _ _ => True
  | _, _ => False

theorem Role.admin_of_manages {role : Role} (staff : role ≠ .owner)
    (manages : role.allows .memberManage = true) : role = .admin := by
  cases role <;> simp_all [Role.allows]

theorem invitedRole_ne_admin {auth : DeviceAuth} {input : CreateWorkspaceInvitationInput}
    {role : Role} (admin : auth.role = .admin) (invited : invitedRole auth input = .ok role) :
    role ≠ .admin := by
  simp only [invitedRole, bind_eq_ok, required_eq_ok, ensure_eq_ok, pure_eq_ok, exists_const]
    at invited
  obtain ⟨_, -, allowed, rfl⟩ := invited
  exact fun same => allowed ⟨admin, same⟩

theorem createWorkspaceInvitationRequest_staff (draws : Draws) (auth : DeviceAuth)
    (staff : auth.role ≠ .owner) (workspaceId : String) (input : CreateWorkspaceInvitationInput) :
    (createWorkspaceInvitationRequest platform draws auth workspaceId input).Only StaffAction := by
  refine .lift_bind fun _ _ => .lift_bind fun _ permitted => .lift_bind fun _ _ =>
    .lift_bind fun email _ => .lift_bind fun role invited => ?_
  simp only [requirePermission, ensure_eq_ok] at permitted
  refine .perform_bind trivial fun _ => .perform_bind trivial fun waiting =>
    .lift_bind fun _ _ => .perform_bind ?_ fun _ => .pure _
  exact invitedRole_ne_admin (Role.admin_of_manages staff permitted) invited

theorem deleteWorkspaceRequest_staff (auth : DeviceAuth) (staff : auth.role ≠ .owner)
    (workspaceId : String) : (deleteWorkspaceRequest auth workspaceId).Only StaffAction :=
  .lift_bind fun _ permitted => absurd (ensure_eq_ok.mp permitted).2 staff

theorem DeviceCall.serve_staff (draws : Draws) (auth : DeviceAuth) (staff : auth.role ≠ .owner)
    (call : DeviceCall) : (call.serve platform draws auth).Only StaffAction := by
  cases call with
  | createWorkspaceInvitation workspaceId input =>
    exact (createWorkspaceInvitationRequest_staff draws auth staff workspaceId input).discard
  | workspaceSnapshot workspaceId =>
    exact .discard (.lift_bind fun _ _ => .lift_bind fun _ _ => .perform_bind trivial fun _ =>
      .perform_bind trivial fun _ => .perform_bind trivial fun _ => .pure _)
  | deleteWorkspace workspaceId confirmation =>
    exact deleteWorkspaceRequest_staff auth staff workspaceId
  | updateMember workspaceId memberId input =>
    exact .discard (.lift_bind fun _ _ => .lift_bind fun _ _ => .lift_bind fun _ _ =>
      .perform staff)
  | revokeDevice | createRoom =>
    exact .discard (.lift_bind fun _ _ => .lift_bind fun _ _ => .lift_bind fun _ _ =>
      .perform trivial)
  | routeInvitation roomId invitation =>
    exact .lift_bind fun _ _ => .perform_bind trivial fun _ => .lift_bind fun _ _ =>
      .perform_bind trivial fun _ => .lift_bind fun _ _ => .perform_bind trivial fun _ =>
      .lift_bind fun _ _ => .perform_bind trivial fun _ => .perform_bind trivial fun _ =>
      .lift_bind fun _ _ => .perform trivial
  | listInvitations => exact .discard (.lift_bind fun _ _ => .perform trivial)
  | joinRoom roomId =>
    exact .discard (.lift_bind fun _ _ => .perform_bind trivial fun _ =>
      .bind (.ignore (.perform trivial)) fun _ => .pure _)
  | leaveRoom roomId =>
    exact .lift_bind fun _ _ => .perform_bind trivial fun _ => .lift_bind fun _ _ =>
      .perform_bind trivial fun _ => .ignore (.perform trivial)
  | grantControl roomId input =>
    exact .discard (.lift_bind fun _ _ => .perform_bind trivial fun _ =>
      .perform_bind trivial fun _ => .lift_bind fun _ _ => .perform trivial)
  | revokeControl | closeRoom => exact .perform_bind trivial fun _ => .perform trivial
  | processFrame frame =>
    exact .lift_bind fun _ _ => .lift_bind fun _ _ => .perform_bind trivial fun _ =>
      .perform_bind trivial fun _ => .lift_bind fun _ _ => .perform trivial

/-- The operations of sessions without the owner role. -/
def StaffRequest (platform : Platform) (program : Request Unit) : Prop :=
  ∃ auth call draws, auth.role ≠ .owner ∧ program = DeviceCall.serve platform draws auth call

/-- The operations of sessions without the owner role, interleaved from any database. -/
def staffService (platform : Platform) (start : Db) :
    System (Pool Action RelayError Db) (Pool.Label Action RelayError) :=
  Pool.system (semantics platform) (StaffRequest platform) fun db => db = start

namespace Demo

def KeepsMembers (β : Type) (action : Action β) : Prop := .members ∉ action.writes

def UpdatesMembers : (β : Type) → Action β → Prop
  | _, .updateMember _ _ _ _ _ _ => True
  | _, _ => False

theorem admin_revokes_owner : ∃ start next keyEpoch, ReachableDb Demo.platform start ∧
    Stage false 2 1 1 start ∧
    revokeDevice (auth false 1 1) (uuid 0) (uuid 0) 0 start = .ok (keyEpoch, next) ∧
    Pool.ReachedBy (semantics Demo.platform) (StaffRequest Demo.platform) (fun db => db = start) KeepsMembers
      ⟨next, []⟩ := by
  obtain ⟨start, reached, stage⟩ := reached_staffed (show 1 < maxWorkspaceMembers by decide)
  have fits : InI64 ((workspace (epoch false 1)).keyEpoch + 1) := by decide
  have revokes : revokeDevice (auth false 1 1) (uuid 0) (uuid 0) 0 start = .ok (_, _) :=
    revokeDevice_eq_ok.mpr ⟨storedDevice false 0, workspace (epoch false 1),
    stage.find?_device (Nat.zero_le _), rfl, rfl, stage.find?_workspace, rfl, fits,
    Option.isSome_iff_exists.mpr ⟨_, stage.find?_member (Nat.le_refl 1)⟩, rfl, rfl⟩
  have serves : Returns Demo.platform ((DeviceCall.revokeDevice (uuid 0) (uuid 0)).serve Demo.platform (draws 0)
      (auth false 1 1)) start () _ :=
    .discard (.check rfl (.check rfl (.check (validateUuid_uuid _ _) (.last revokes))))
  refine ⟨start, _, _, reached.reachable, stage, revokes, ?_⟩
  have begun : Pool.ReachedBy (semantics Demo.platform) (StaffRequest Demo.platform) (fun db => db = start)
      KeepsMembers ⟨start, []⟩ := ⟨[], .start ⟨rfl, rfl⟩, by simp⟩
  have served := begun.call ⟨auth false 1 1, .revokeDevice (uuid 0) (uuid 0), draws 0, by decide, rfl⟩
    (.discard (.lift_bind fun _ _ => .lift_bind fun _ _ => .lift_bind fun _ _ =>
      .perform (by simp [KeepsMembers, Action.writes])))
  rw [serves] at served
  exact served

theorem admin_restores_admin : ∃ start next keyEpoch, ReachableDb Demo.platform start ∧
    Stage true 3 2 2 start ∧
    updateMember (auth true 2 2) (uuid 0) (uuid 1) .admin .active 0 start = .ok (keyEpoch, next) ∧
    Pool.ReachedBy (semantics Demo.platform) (StaffRequest Demo.platform) (fun db => db = start) UpdatesMembers
      ⟨next, []⟩ := by
  obtain ⟨start, reached, stage⟩ := reached_restaffed (show 1 < maxWorkspaceMembers by decide)
  have fits : InI64 ((workspace (epoch true 2)).keyEpoch + 1) := by decide
  have allowed : checkMemberUpdate (auth true 2 2) (uuid 0) .admin .active (member true 1) start = .ok () := by
    simp [checkMemberUpdate, auth, member, ensure, pure, Except.pure]
  have updates : updateMember (auth true 2 2) (uuid 0) (uuid 1) .admin .active 0 start = .ok (_, _) :=
    updateMember_eq_ok.mpr ⟨member true 1, workspace (epoch true 2),
    stage.find?_member (by decide), rfl, allowed, stage.find?_workspace, rfl, fits,
    Option.isSome_iff_exists.mpr ⟨_, stage.find?_member (Nat.le_refl 2)⟩, rfl, rfl⟩
  have serves : Returns Demo.platform ((DeviceCall.updateMember (uuid 0) (uuid 1)
      ⟨"admin", "active"⟩).serve Demo.platform (draws 0) (auth true 2 2)) start () _ :=
    .discard (.check rfl (.check rfl (.check rfl (.last updates))))
  refine ⟨start, _, _, reached.reachable, stage, updates, ?_⟩
  have begun : Pool.ReachedBy (semantics Demo.platform) (StaffRequest Demo.platform) (fun db => db = start)
      UpdatesMembers ⟨start, []⟩ := ⟨[], .start ⟨rfl, rfl⟩, by simp⟩
  have served := begun.call ⟨auth true 2 2, .updateMember (uuid 0) (uuid 1) ⟨"admin", "active"⟩,
    draws 0, by decide, rfl⟩
    (.discard (.lift_bind fun _ _ => .lift_bind fun _ _ => .lift_bind fun _ _ => .perform trivial))
  rw [serves] at served
  exact served

end Demo

end Relay

end CNShell
