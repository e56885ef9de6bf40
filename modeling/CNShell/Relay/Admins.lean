import CNShell.Relay.Staff

/-! Which members become admins under the operations of sessions without the owner role. -/

namespace CNShell

namespace Relay

variable {platform : Platform} {start db next : Db}

def ActiveAdmin (db : Db) (memberId : String) : Prop :=
  ∃ member ∈ db.members.rows, member.id = memberId ∧ member.role = .admin ∧ member.status = .active

def AdminsWithin (start db : Db) : Prop := ∀ memberId, ActiveAdmin db memberId → ActiveAdmin start memberId

/-- A successful acceptance uses an invitation that was not stored at the start. -/
def AcceptsOwn (platform : Platform) (start : Db) (event : Event Action RelayError) : Prop :=
  match event with
  | ⟨.acceptWorkspaceInvitation _ input _, .ok _⟩ =>
      ∀ invitation ∈ start.workspaceInvitations.rows,
        invitation.tokenHash ≠ tokenHash platform "workspace-invitation" input.token
  | _ => True

/-- A successful update makes only those members active admins that were so at the start. -/
def PromotesNobody (start : Db) (event : Event Action RelayError) : Prop :=
  match event with
  | ⟨.updateMember _ _ memberId role status _, .ok _⟩ =>
      role = .admin → status = .active → ActiveAdmin start memberId
  | _ => True

def AdminInvitationsOld (start db : Db) : Prop :=
  ∀ invitation ∈ db.workspaceInvitations.rows, invitation.role = .admin →
    ∃ old ∈ start.workspaceInvitations.rows, old.tokenHash = invitation.tokenHash

def StaffOrAcceptance : (β : Type) → Action β → Prop
  | _, .acceptWorkspaceInvitation _ _ _ => True
  | β, action => StaffAction β action

variable {β : Type}

theorem StaffAction.orAcceptance {action : Action β} (staff : StaffAction β action) : StaffOrAcceptance β action := by
  cases action <;> first | exact staff | trivial

theorem AdminInvitationsOld.run {β : Type} {action : Action β} {value : β}
    (old : AdminInvitationsOld start db) (permitted : StaffOrAcceptance β action)
    (ran : action.run platform db = .ok (value, next)) : AdminInvitationsOld start next := by
  have agree := Action.run_agree ran
  by_cases written : .workspaceInvitations ∈ action.writes
  case neg =>
    unfold AdminInvitationsOld
    rw [agree.workspaceInvitations written]
    exact old
  cases action <;> simp [Action.writes] at written
  case deleteStaleInvitations now =>
    simp only [Action.run, Relay.deleteStaleInvitations, pure_eq_ok, Prod.mk.injEq] at ran
    obtain ⟨-, rfl⟩ := ran
    exact fun invitation member => old invitation (Table.mem_delete.mp member).1
  case insertWorkspaceInvitation created =>
    obtain ⟨-, invitations, grown, -, -, rfl⟩ := insertWorkspaceInvitation_eq_ok.mp ran
    intro invitation member admin
    rcases (Table.mem_insert grown).mp member with stored | rfl
    · exact old invitation stored admin
    · exact absurd admin permitted
  case acceptWorkspaceInvitation account input draws =>
    obtain ⟨accepted, -, ⟨sessions, rfl⟩ | ⟨-, members, _, devices, _, sessions, -, -, -, -, rfl⟩⟩ :=
      acceptWorkspaceInvitation_ok ran
    · exact old
    · intro invitation member admin
      -- Marking an invitation accepted changes neither its role nor its token.
      obtain ⟨stored, held, same⟩ := Table.mem_update.mp member
      obtain ⟨sameRole, sameToken⟩ : stored.role = invitation.role ∧ stored.tokenHash = invitation.tokenHash := by
        rw [← same]
        split <;> exact ⟨rfl, rfl⟩
      rw [← sameToken]
      exact old stored held (sameRole.trans admin)
  case deleteWorkspace workspaceId => exact permitted.elim

variable {now : Instant}

theorem activeAdmin_applyMemberUpdate {workspaceId memberId : String} {role : Role}
    {status : MemberStatus} {id : String}
    (admin : ActiveAdmin (applyMemberUpdate workspaceId memberId role status now db) id) :
    ActiveAdmin db id ∨ (id = memberId ∧ role = .admin ∧ status = .active) := by
  have members : (applyMemberUpdate workspaceId memberId role status now db).members =
      (changeMember workspaceId memberId role status db).members := by
    unfold applyMemberUpdate
    split <;> rfl
  obtain ⟨member, held, rfl, isAdmin, active⟩ := admin
  rw [members] at held
  simp only [changeMember, Table.mem_update] at held
  obtain ⟨old, stored, rfl⟩ := held
  split at isAdmin
  · rename_i chosen
    rw [if_pos chosen] at active ⊢
    simp only [decide_eq_true_eq] at chosen
    exact .inr ⟨chosen.1, isAdmin, active⟩
  · rename_i other
    rw [if_neg other] at active ⊢
    exact .inl ⟨old, stored, rfl, isAdmin, active⟩

theorem activeAdmin_of_updateMember {auth : DeviceAuth} {workspaceId memberId : String} {epoch : Int}
    (done : updateMember auth workspaceId memberId .admin .active now db = .ok (epoch, next)) :
    ActiveAdmin next memberId := by
  obtain ⟨current, _, found, own, -, -, -, -, -, -, rfl⟩ := updateMember_eq_ok.mp done
  obtain ⟨held, keyed⟩ := Table.find?_some found
  refine ⟨{ current with role := .admin, status := .active }, ?_, keyed, rfl, rfl⟩
  exact Table.mem_update.mpr ⟨current, held, if_pos (by simpa using ⟨keyed, own⟩)⟩

theorem activeAdmin_insert {member : Member} {members : Table Member.id}
    (joined : db.members.insert member = some members) (plain : member.role ≠ .admin)
    (same : next.members = members) {id : String} (admin : ActiveAdmin next id) :
    ActiveAdmin db id := by
  obtain ⟨held, stored, rfl, isAdmin, active⟩ := admin
  rw [same] at stored
  rcases (Table.mem_insert joined).mp stored with old | rfl
  · exact ⟨held, old, rfl, isAdmin, active⟩
  · exact absurd isAdmin plain

theorem AdminsWithin.run {β : Type} {action : Action β} {value : β}
    (within : AdminsWithin start db) (old : AdminInvitationsOld start db)
    (permitted : StaffOrAcceptance β action) (own : AcceptsOwn platform start ⟨action, .ok value⟩)
    (modest : PromotesNobody start ⟨action, .ok value⟩)
    (ran : action.run platform db = .ok (value, next)) : AdminsWithin start next := by
  have agree := Action.run_agree ran
  by_cases written : .members ∈ action.writes
  case neg =>
    unfold AdminsWithin ActiveAdmin
    rw [agree.members written]
    exact within
  cases action <;> simp [Action.writes] at written
  case bootstrapWorkspace | deleteWorkspace => exact permitted.elim
  case acceptWorkspaceInvitation account input draws =>
    obtain ⟨invitation, found, ⟨sessions, rfl⟩ | ⟨-, members, _, devices, _, sessions, joined, -, -, -, rfl⟩⟩ :=
      acceptWorkspaceInvitation_ok ran
    · exact within
    · have token := List.find?_some found
      simp only [decide_eq_true_eq] at token
      -- An invitation that makes an admin is an old one, whose token this acceptance does not use.
      have plain : invitation.role ≠ .admin := by
        intro admin
        obtain ⟨stored, held, same⟩ := old invitation (List.mem_of_find?_eq_some found) admin
        exact own stored held (same.trans token.1)
      exact fun id admin => within id (activeAdmin_insert joined plain rfl admin)
  case updateMember auth workspaceId memberId role status now =>
    obtain ⟨_, _, -, -, -, -, -, -, -, -, rfl⟩ := updateMember_eq_ok.mp ran
    intro id admin
    rcases activeAdmin_applyMemberUpdate admin with before | ⟨rfl, isAdmin, active⟩
    · exact within id before
    · exact modest isAdmin active

variable {action : Action β}

theorem not_adminsWithin_of_promotion {value : β} (promotes : ¬PromotesNobody start ⟨action, .ok value⟩)
    (ran : action.run platform db = .ok (value, next)) : ¬AdminsWithin start next := by
  cases action
  case updateMember auth workspaceId memberId role status now =>
    intro within
    refine promotes fun isAdmin active => ?_
    subst isAdmin active
    exact within memberId (activeAdmin_of_updateMember ran)
  all_goals exact absurd trivial promotes

/-- The operations of sessions without the owner role and acceptances, interleaved from any database. -/
def staffAndInvitees (platform : Platform) (start : Db) :
    System (Pool Action RelayError Db) (Pool.Label Action RelayError) :=
  Pool.system (semantics platform)
    (fun program => StaffRequest platform program ∨
      ∃ account input draws, program = (acceptWorkspaceInvitationRequest platform draws account input).discard)
    fun db => db = start

/-- Along a run: nobody was promoted and the admins are within, or the first promotion is seen. -/
def AdminProgress (platform : Platform) (start : Db) (log : List (Db × Event Action RelayError))
    (db : Db) : Prop :=
  (∀ entry ∈ log, AcceptsOwn platform start entry.2) →
    AdminInvitationsOld start db ∧
      (((∀ entry ∈ log, PromotesNobody start entry.2) ∧
          (∀ entry ∈ log, AdminsWithin start entry.1) ∧ AdminsWithin start db) ∨
        ((∃ entry ∈ log, ¬PromotesNobody start entry.2) ∧
          ((∃ entry ∈ log, ¬AdminsWithin start entry.1) ∨ ¬AdminsWithin start db)))

theorem AdminProgress.step {log : List (Db × Event Action RelayError)} (progress : AdminProgress platform start log db)
    (permitted : StaffOrAcceptance β action) :
    AdminProgress platform start
      (log ++ [(db, ⟨action, ((semantics platform).outcome action db).1⟩)])
      ((semantics platform).outcome action db).2 := by
  intro own
  obtain ⟨earlier, current⟩ := List.forall_mem_append.mp own
  obtain ⟨old, sofar⟩ := progress earlier
  have current := current _ List.mem_cons_self
  -- What was seen before stays seen, whatever the new step does.
  have seen (entry : Db × Event Action RelayError) (after : Db)
      (bad : (∃ spot ∈ log, ¬PromotesNobody start spot.2) ∧
        ((∃ spot ∈ log, ¬AdminsWithin start spot.1) ∨ ¬AdminsWithin start db))
      (first : entry.1 = db) :
      (∃ spot ∈ log ++ [entry], ¬PromotesNobody start spot.2) ∧
        ((∃ spot ∈ log ++ [entry], ¬AdminsWithin start spot.1) ∨ ¬AdminsWithin start after) := by
    obtain ⟨⟨promotion, member, promotes⟩, visible⟩ := bad
    refine ⟨⟨promotion, List.mem_append.mpr (.inl member), promotes⟩, .inl ?_⟩
    rcases visible with ⟨spot, listed, beyond⟩ | beyond
    · exact ⟨spot, List.mem_append.mpr (.inl listed), beyond⟩
    · exact ⟨entry, List.mem_append.mpr (.inr List.mem_cons_self), first ▸ beyond⟩
  cases ran : action.run platform db with
  | error error =>
    rw [outcome_error ran] at current ⊢
    have modest : PromotesNobody start ⟨action, .error error⟩ := by cases action <;> trivial
    refine ⟨old, ?_⟩
    rcases sofar with ⟨plain, visited, within⟩ | bad
    · exact .inl ⟨List.forall_mem_append.mpr ⟨plain, by simpa using modest⟩,
        List.forall_mem_append.mpr ⟨visited, by simpa using within⟩, within⟩
    · exact .inr (seen _ _ bad rfl)
  | ok result =>
    rw [outcome_ok ran] at current ⊢
    refine ⟨old.run permitted ran, ?_⟩
    rcases sofar with ⟨plain, visited, within⟩ | bad
    · by_cases modest : PromotesNobody start ⟨action, .ok result.1⟩
      · exact .inl ⟨List.forall_mem_append.mpr ⟨plain, by simpa using modest⟩,
          List.forall_mem_append.mpr ⟨visited, by simpa using within⟩,
          within.run old permitted current modest ran⟩
      · exact .inr ⟨⟨_, List.mem_append.mpr (.inr List.mem_cons_self), modest⟩,
          .inr (not_adminsWithin_of_promotion modest ran)⟩
    · exact .inr (seen _ _ bad rfl)

/--
In a run of operations without the owner role that only accepts its own invitations, the active
admins stay within those of the start in every state exactly when no update promotes anybody else.
-/
theorem adminsWithin_iff
    {trace : List (Pool Action RelayError Db × Pool.Label Action RelayError)}
    {pool : Pool Action RelayError Db} (run : (staffAndInvitees platform start).Run trace pool)
    (own : ∀ entry ∈ Pool.events trace, AcceptsOwn platform start entry.2) :
    ((∀ entry ∈ Pool.events trace, AdminsWithin start entry.1) ∧ AdminsWithin start pool.store) ↔
      ∀ entry ∈ Pool.events trace, PromotesNobody start entry.2 := by
  have reached : AdminProgress platform start (Pool.events trace) pool.store := by
    refine (Pool.history StaffOrAcceptance (fun _ _ => True) (AdminProgress platform start) ?_ ?_ ?_
      run fun _ _ => trivial).1
    · rintro _ (⟨auth, call, draws, staff, rfl⟩ | ⟨account, input, draws, rfl⟩)
      · exact (DeviceCall.serve_staff draws auth staff call).weaken
          fun _ _ permitted => permitted.orAcceptance
      · exact .discard (.lift_bind fun _ _ => .lift_bind fun _ _ => .perform trivial)
    · rintro _ rfl -
      exact ⟨fun invitation held _ => ⟨invitation, held, rfl⟩, .inl ⟨by simp, by simp, fun _ admin => admin⟩⟩
    · intro log db β action permitted progress _
      exact progress.step permitted
  obtain ⟨-, ⟨modest, visited, within⟩ | ⟨⟨entry, member, promotes⟩, beyond⟩⟩ := reached own
  · exact ⟨fun _ => modest, fun _ => ⟨visited, within⟩⟩
  · constructor
    · rintro ⟨visited, within⟩
      rcases beyond with ⟨spot, listed, outside⟩ | outside
      · exact absurd (visited spot listed) outside
      · exact absurd within outside
    · exact fun modest => absurd (modest entry member) promotes

/-- From a reachable database, an admin may make a removed admin an admin again. -/
theorem admin_restored : ∃ start, ReachableDb Demo.platform start ∧
    ∃ trace pool, (staffAndInvitees Demo.platform start).Run trace pool ∧
      (∀ entry ∈ Pool.events trace, AcceptsOwn Demo.platform start entry.2) ∧
      ¬AdminsWithin start pool.store := by
  obtain ⟨start, next, keyEpoch, reachable, stage, updates, reached⟩ := Demo.admin_restores_admin
  obtain ⟨trace, run, met⟩ := Pool.ReachedBy.widen reached fun _ staff => Or.inl staff
  refine ⟨start, reachable, trace, _, run, fun entry member => ?_, fun within => ?_⟩
  · obtain ⟨store, ⟨action, outcome⟩⟩ := entry
    have allowed := met _ member
    cases action <;> trivial
  · -- The member was removed at the start.
    obtain ⟨row, held, same, -, active⟩ := within _ (activeAdmin_of_updateMember updates)
    obtain ⟨stored, keyed⟩ := Table.find?_some (stage.find?_member (show 1 ≤ 2 by decide))
    obtain rfl : row = Demo.member true 1 := Table.eq_of_key held stored (same.trans keyed.symm)
    cases active

/-- Nobody becomes an admin while an admin revokes the owner's device. -/
theorem adminsWithin_revoked : ∃ start next keyEpoch, Demo.Stage false 2 1 1 start ∧
    revokeDevice (Demo.auth false 1 1) (Demo.uuid 0) (Demo.uuid 0) 0 start = .ok (keyEpoch, next) ∧
    AdminsWithin start next := by
  obtain ⟨start, next, keyEpoch, -, stage, revokes, reached⟩ := Demo.admin_revokes_owner
  obtain ⟨trace, run, met⟩ := Pool.ReachedBy.widen reached fun _ staff => Or.inl staff
  have unwritten {β : Type} {action : Action β} {outcome : Except RelayError β} {store : Db}
      (member : (store, (⟨action, outcome⟩ : Event Action RelayError)) ∈ Pool.events trace) :
      .members ∉ action.writes := met _ member
  refine ⟨start, next, keyEpoch, stage, revokes, ((adminsWithin_iff run fun entry member => ?_).mpr
    fun entry member => ?_).2⟩
  all_goals
    obtain ⟨store, ⟨action, outcome⟩⟩ := entry
    have untouched := unwritten member
    cases action <;> first | trivial | exact absurd (by simp [Action.writes]) untouched

end Relay

end CNShell
