import CNShell.Relay.Writes
import CNShell.Team.Roster

/-! The relay's workspaces and members as a roster, on which every action is one step. -/

namespace CNShell

namespace Relay

open Team

variable {platform : Platform} {db next : Db}

def Member.post (member : Member) : Post := ⟨member.workspaceId, member.role, member.status⟩

/-- The key epochs and posts that the relay stores. -/
def Db.roster (db : Db) : Roster where
  epoch workspaceId := (db.workspaces.find? workspaceId).map Workspace.keyEpoch
  post memberId := (db.members.find? memberId).map Member.post

@[simp] theorem epoch_roster (workspaceId : String) :
    (Db.roster db).epoch workspaceId = (db.workspaces.find? workspaceId).map Workspace.keyEpoch := rfl

@[simp] theorem post_roster (memberId : String) :
    (Db.roster db).post memberId = (db.members.find? memberId).map Member.post := rfl

theorem roster_congr (workspaces : next.workspaces = db.workspaces)
    (members : next.members = db.members) : Db.roster next = Db.roster db := by
  simp only [Db.roster, workspaces, members]

variable {workspaceId : String}

variable {workspace : Workspace}

theorem roster_raiseEpoch
    (found : db.workspaces.find? workspaceId = some workspace) (active : workspace.status = .active) :
    Db.roster (raiseEpoch workspaceId db) = (Db.roster db).raise workspaceId (workspace.keyEpoch + 1) := by
  have keyed := (Table.find?_some found).2
  refine Roster.ext (funext fun name => ?_) rfl
  simp only [epoch_roster, Roster.epoch_raise, raiseEpoch, Table.find?_update]
  by_cases same : name = workspaceId
  · subst same
    simp [found, keyed, active]
  · -- Another workspace is not the one selected.
    rw [if_neg same]
    cases other : db.workspaces.find? name with
    | none => simp
    | some row => simp [(Table.find?_some other).2, same]

theorem roster_insert_member (db next : Db) {member : Member} (same : next.workspaces = db.workspaces)
    (inserted : db.members.insert member = some next.members) :
    Db.roster next = (Db.roster db).put member.id (Member.post member) := by
  refine Roster.ext (funext fun name => by simp [same]) (funext fun name => ?_)
  simp only [post_roster, Roster.post_put, Table.find?_insert inserted]
  split <;> rfl

theorem roster_insert_workspace (db next : Db) (same : next.members = db.members)
    (inserted : db.workspaces.insert workspace = some next.workspaces) :
    Db.roster next = (Db.roster db).raise workspace.id workspace.keyEpoch := by
  refine Roster.ext (funext fun name => ?_) (funext fun name => by simp [same])
  simp only [epoch_roster, Roster.epoch_raise, Table.find?_insert inserted]
  split <;> rfl

theorem find?_fresh {ρ : Type} {κ : Type} [DecidableEq κ] {key : ρ → κ} {table inserted : Table key}
    {row : ρ} (wanted : κ) (done : table.insert row = some inserted) (keyed : key row = wanted) :
    table.find? wanted = none :=
  keyed ▸ Table.find?_eq_none.mpr (Table.insert_eq_some.mp done).1

variable {role : Role} {memberId : String}

variable {status : MemberStatus}

theorem roster_changeMember {member : Member} (found : db.members.find? memberId = some member)
    (own : member.workspaceId = workspaceId) :
    Db.roster (changeMember workspaceId memberId role status db) =
      (Db.roster db).put memberId ⟨workspaceId, role, status⟩ := by
  have keyed := (Table.find?_some found).2
  refine Roster.ext rfl (funext fun name => ?_)
  simp only [post_roster, Roster.post_put, changeMember, Table.find?_update]
  by_cases same : name = memberId
  · subst same
    simp [found, keyed, own, Member.post]
  · rw [if_neg same]
    cases other : db.members.find? name with
    | none => simp
    | some row => simp [(Table.find?_some other).2, same]

theorem roster_dropWorkspace (workspaceId : String) :
    Db.roster (db.dropWorkspace workspaceId) = (Db.roster db).drop workspaceId := by
  refine Roster.ext (funext fun name => ?_) (funext fun name => ?_)
  · simp only [Roster.drop, epoch_roster, Db.dropWorkspace, Table.find?_delete]
    cases found : db.workspaces.find? name with
    | none => simp
    | some row =>
      have keyed := (Table.find?_some found).2
      by_cases same : name = workspaceId <;> simp [keyed, same, Option.filter]
  · simp only [Roster.drop, post_roster, Db.dropWorkspace, Table.find?_delete]
    cases found : db.members.find? name with
    | none => simp
    | some row =>
      obtain ⟨stored, keyed⟩ := Table.find?_some found
      -- A stored member is among the deleted ones exactly when it is of the workspace.
      have listed : row.id ∈ (db.members.rows.filter fun row => row.workspaceId = workspaceId).map
          Member.id ↔ row.workspaceId = workspaceId := by
        simp only [List.mem_map, List.mem_filter, decide_eq_true_eq]
        constructor
        · intro given
          obtain ⟨other, ⟨held, own⟩, same⟩ := given
          rwa [← Table.eq_of_key held stored same]
        · exact fun own => ⟨row, ⟨stored, own⟩, rfl⟩
      rw [Option.filter_some, Option.map_some, Option.filter_some]
      by_cases own : row.workspaceId = workspaceId
      · rw [decide_eq_true (listed.mpr own)]
        simp [Member.post, own]
      · rw [decide_eq_false fun here => own (listed.mp here)]
        simp [Member.post, own]

theorem other_owner (several : 1 < db.members.count fun member =>
      member.workspaceId = workspaceId ∧ member.role = .owner ∧ member.status = .active) :
    ∃ other, other ≠ memberId ∧ (Db.roster db).IsOwner workspaceId other := by
  obtain ⟨row, stored, owns, apart⟩ := Table.exists_other memberId several
  simp only [decide_eq_true_eq] at owns
  exact ⟨row.id, apart, by simp [Roster.IsOwner, Table.find?_of_mem stored, Member.post, owns]⟩

theorem checkMemberUpdate_kept {auth : DeviceAuth} {current : Member} {u : Unit}
    (allowed : checkMemberUpdate auth workspaceId role status current db = .ok u)
    (owns : current.role = .owner ∧ current.status = .active) (loses : role ≠ .owner ∨ status ≠ .active) :
    1 < db.members.count fun member =>
      member.workspaceId = workspaceId ∧ member.role = .owner ∧ member.status = .active := by
  simp only [checkMemberUpdate, bind_eq_ok, ensure_eq_ok, exists_const] at allowed
  obtain ⟨-, -, counted⟩ := allowed
  rw [if_pos ⟨owns.1, owns.2, loses⟩] at counted
  exact ensure_eq_ok.mp counted

variable {output : DeviceSessionOutput}

theorem roster_issue {request : SessionRequest} (issued : issueDeviceSession platform request db = .ok (output, next)) :
    Db.roster next = Db.roster db := by
  obtain ⟨-, sessions, -, -, -, rfl⟩ := issueDeviceSession_eq_ok.mp issued
  rfl

variable {draws : AcceptDraws} {account : AccountAuth}

theorem roster_acceptFresh {device : DeviceRegistration} {invitation : WorkspaceInvitation}
    (done : acceptFresh platform account device draws invitation db = .ok (output, next)) :
    ∃ workspace, db.workspaces.find? invitation.workspaceId = some workspace ∧
      db.members.find? invitation.memberId = none ∧
      Db.roster next =
        ((Db.roster db).raise invitation.workspaceId (workspace.keyEpoch + 1)).put
          invitation.memberId ⟨invitation.workspaceId, invitation.role, .active⟩ := by
  obtain ⟨-, -, members, admitted, workspace, joined, -, device, found, active, -, issued⟩ :=
    acceptFresh_eq_ok.mp done
  obtain ⟨_, devices, -, -, -, -, rfl⟩ := insertDevice_eq_ok.mp device
  refine ⟨workspace, found, find?_fresh _ joined rfl, ?_⟩
  have after : ({ db with members, devices } : Db).workspaces.find? invitation.workspaceId = some workspace := found
  -- The member is inserted, then the epoch of its workspace is raised.
  calc Db.roster next
      = Db.roster (joinedWorkspace invitation draws.now { db with members, devices }) :=
        roster_issue issued
    _ = Db.roster (raiseEpoch invitation.workspaceId { db with members, devices }) := rfl
    _ = (Db.roster { db with members, devices }).raise invitation.workspaceId
          (workspace.keyEpoch + 1) := roster_raiseEpoch after active
    _ = _ := by
        rw [roster_insert_member db { db with members, devices } rfl joined]
        rfl

theorem acceptWorkspaceInvitation_step {input : AcceptWorkspaceInvitationInput}
    (done : acceptWorkspaceInvitation platform account input draws db = .ok (output, next)) :
    Roster.Step (Db.roster db) (Db.roster next) := by
  obtain ⟨invitation, -, -, accepted⟩ := acceptWorkspaceInvitation_eq_ok.mp done
  split at accepted
  · obtain ⟨_, issued⟩ := acceptAgain_ok accepted
    rw [roster_issue issued]
    exact .stay
  · obtain ⟨workspace, found, fresh, left⟩ := roster_acceptFresh accepted
    rw [left]
    exact .enrol (by simp [found]) (Int.le_add_one (Int.le_refl _)) (by simp [fresh])

variable {now : Instant}

theorem roster_bootstrapWorkspace {account : AccountAuth} {input : BootstrapWorkspaceInput}
    {workspaceName sessionId : String} {random : List UInt8} {issuedAt : Instant} {output : DeviceSessionOutput}
    (done : bootstrapWorkspace platform account input workspaceName sessionId random now issuedAt db =
      .ok (output, next)) :
    db.workspaces.find? input.workspaceId = none ∧ db.members.find? input.memberId = none ∧
      Db.roster next = ((Db.roster db).raise input.workspaceId 1).put input.memberId
        ⟨input.workspaceId, .owner, .active⟩ := by
  obtain ⟨-, workspaces, members, opened, founded, -, joined, -, device, issued⟩ :=
    bootstrapWorkspace_eq_ok.mp done
  obtain ⟨_, devices, -, -, -, -, rfl⟩ := insertDevice_eq_ok.mp device
  refine ⟨find?_fresh _ founded rfl, find?_fresh _ joined rfl, ?_⟩
  calc Db.roster next
      = Db.roster { db with workspaces, members, devices } := roster_issue issued
    _ = (Db.roster { db with workspaces }).put input.memberId ⟨input.workspaceId, .owner, .active⟩ :=
        roster_insert_member { db with workspaces } { db with workspaces, members, devices } rfl
          joined
    _ = _ := by rw [roster_insert_workspace db { db with workspaces } rfl founded]

variable {epoch : Int} {status : MemberStatus} {auth : DeviceAuth}

theorem roster_updateMember (done : updateMember auth workspaceId memberId role status now db = .ok (epoch, next)) :
    ∃ workspace, db.workspaces.find? workspaceId = some workspace ∧
      Db.roster next = ((Db.roster db).raise workspaceId (workspace.keyEpoch + 1)).put memberId
        ⟨workspaceId, role, status⟩ := by
  obtain ⟨current, workspace, found, own, -, stored, active, -, -, -, rfl⟩ :=
    updateMember_eq_ok.mp done
  refine ⟨workspace, stored, ?_⟩
  have changed : Db.roster (applyMemberUpdate workspaceId memberId role status now db) =
      Db.roster (changeMember workspaceId memberId role status db) := by
    unfold applyMemberUpdate
    split <;> rfl
  have workspaces : (applyMemberUpdate workspaceId memberId role status now db).workspaces = db.workspaces := by
    unfold applyMemberUpdate
    split <;> rfl
  calc Db.roster (closeWorkspaceRooms workspaceId now (raiseEpoch workspaceId
        (applyMemberUpdate workspaceId memberId role status now db)))
      = Db.roster (raiseEpoch workspaceId
          (applyMemberUpdate workspaceId memberId role status now db)) := rfl
    _ = (Db.roster (applyMemberUpdate workspaceId memberId role status now db)).raise workspaceId
          (workspace.keyEpoch + 1) := roster_raiseEpoch (workspaces ▸ stored) active
    _ = _ := by
        rw [changed, roster_changeMember found own]
        rfl

theorem updateMember_step (done : updateMember auth workspaceId memberId role status now db = .ok (epoch, next)) :
    Roster.Step (Db.roster db) (Db.roster next) := by
  obtain ⟨workspace, stored, left⟩ := roster_updateMember done
  obtain ⟨current, _, found, own, allowed, -, -, -, -, -, -⟩ := updateMember_eq_ok.mp done
  have held : (Db.roster db).post memberId = some ⟨workspaceId, current.role, current.status⟩ := by
    simp [found, Member.post, own]
  have there : (Db.roster db).epoch workspaceId = some workspace.keyEpoch := by simp [stored]
  rw [left]
  refine .change held there (Int.le_add_one (Int.le_refl _)) (fun _ => Int.lt_succ _)
    fun owns loses => ?_
  simp only [Roster.IsOwner, held, Option.some.injEq, Post.mk.injEq, true_and] at owns
  exact other_owner (checkMemberUpdate_kept allowed owns loses)

theorem roster_revokeDevice {deviceId : String}
    (done : revokeDevice auth workspaceId deviceId now db = .ok (epoch, next)) :
    ∃ workspace, db.workspaces.find? workspaceId = some workspace ∧
      Db.roster next = (Db.roster db).raise workspaceId (workspace.keyEpoch + 1) := by
  obtain ⟨_, workspace, -, -, -, stored, active, -, -, -, rfl⟩ := revokeDevice_eq_ok.mp done
  have raised : Db.roster (raiseEpoch workspaceId (applyRevocation workspaceId deviceId now db)) =
      (Db.roster db).raise workspaceId (workspace.keyEpoch + 1) := roster_raiseEpoch stored active
  exact ⟨workspace, stored, raised⟩

theorem Action.roster_step {β : Type} {action : Action β} {value : β}
    (ran : action.run platform db = .ok (value, next)) :
    Roster.Step (Db.roster db) (Db.roster next) := by
  have agree := Action.run_agree ran
  -- An action that writes neither table leaves the roster as it is.
  by_cases written : .workspaces ∈ action.writes ∨ .members ∈ action.writes
  case neg =>
    obtain ⟨workspaces, members⟩ := not_or.mp written
    rw [roster_congr (agree.workspaces workspaces) (agree.members members)]
    exact .stay
  cases action <;> simp [Action.writes] at written
  case bootstrapWorkspace account input workspaceName sessionId random now issuedAt =>
    obtain ⟨free, fresh, left⟩ := roster_bootstrapWorkspace ran
    rw [left]
    exact .found (by simp [free]) (by simp [fresh])
  case acceptWorkspaceInvitation account input draws => exact acceptWorkspaceInvitation_step ran
  case deleteWorkspace workspaceId =>
    obtain ⟨-, -, rfl⟩ := deleteWorkspace_eq_ok.mp ran
    rw [roster_dropWorkspace]
    exact .remove workspaceId
  case updateMember auth workspaceId memberId role status now => exact updateMember_step ran
  case revokeDevice auth workspaceId deviceId now =>
    obtain ⟨workspace, stored, left⟩ := roster_revokeDevice ran
    rw [left]
    exact .advance (by simp [stored]) (Int.le_add_one (Int.le_refl _))

/-- A member that is updated to be active was active before, or finds a free place. -/
def ReactivatesWithin (db : Db) (event : Event Action RelayError) : Prop :=
  match event with
  | ⟨.updateMember _ workspaceId memberId _ status _, .ok _⟩ =>
      status = .active →
        (∃ member ∈ db.members.rows, member.id = memberId ∧ member.workspaceId = workspaceId ∧
          member.status = .active) ∨
        (db.members.count fun member =>
          member.workspaceId = workspaceId ∧ member.status = .active) < maxWorkspaceMembers
  | _ => True

theorem encard_active (workspaceId : String) :
    ((Db.roster db).active workspaceId).encard =
      (db.members.count fun member =>
        member.workspaceId = workspaceId ∧ member.status = .active :) :=
  Roster.encard_active post_roster workspaceId

theorem Action.admitsWithin (housed : (Db.roster db).Housed) {β : Type} {action : Action β}
    {value : β} (within : ReactivatesWithin db ⟨action, .ok value⟩)
    (ran : action.run platform db = .ok (value, next)) :
    Roster.AdmitsWithin maxWorkspaceMembers (Db.roster db) (Db.roster next) := by
  have agree := Action.run_agree ran
  by_cases written : .workspaces ∈ action.writes ∨ .members ∈ action.writes
  case neg =>
    obtain ⟨workspaces, members⟩ := not_or.mp written
    rw [roster_congr (agree.workspaces workspaces) (agree.members members)]
    exact fun _ _ here absent => absurd here absent
  cases action <;> simp [Action.writes] at written
  case bootstrapWorkspace account input workspaceName sessionId random now issuedAt =>
    obtain ⟨free, -, left⟩ := roster_bootstrapWorkspace ran
    rw [left]
    -- A workspace that was not there has no member yet.
    refine .put 1 fun _ => .inr ?_
    rw [housed.active_eq_empty (by simp [free]), Set.encard_empty]
    exact ENat.natCast_lt_natCast.mpr (show 0 < 256 by decide)
  case acceptWorkspaceInvitation account input draws =>
    obtain ⟨invitation, -, -, accepted⟩ := acceptWorkspaceInvitation_eq_ok.mp ran
    split at accepted
    · obtain ⟨_, issued⟩ := acceptAgain_ok accepted
      rw [roster_issue issued]
      exact fun _ _ here absent => absurd here absent
    · obtain ⟨workspace, -, -, left⟩ := roster_acceptFresh accepted
      rw [left]
      refine .put _ fun _ => .inr ?_
      rw [encard_active]
      exact Nat.cast_lt.mpr (acceptFresh_eq_ok.mp accepted).1
  case deleteWorkspace workspaceId =>
    obtain ⟨-, -, rfl⟩ := deleteWorkspace_eq_ok.mp ran
    rw [roster_dropWorkspace]
    exact .drop _ workspaceId
  case updateMember auth workspaceId memberId role status now =>
    obtain ⟨workspace, -, left⟩ := roster_updateMember ran
    rw [left]
    refine .put _ fun active => ?_
    rcases within active with ⟨member, stored, rfl, own, before⟩ | room
    · exact .inl ⟨Member.post member, by simp [Table.find?_of_mem stored], own, before⟩
    · rw [encard_active]
      exact .inr (Nat.cast_lt.mpr room)
  case revokeDevice auth workspaceId deviceId now =>
    obtain ⟨workspace, -, left⟩ := roster_revokeDevice ran
    rw [left]
    exact .raise _ _ _

end Relay

end CNShell
