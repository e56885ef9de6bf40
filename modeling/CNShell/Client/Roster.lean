import CNShell.Client.Team
import CNShell.Library.Transition
import CNShell.Team.Roster

/-! The client's local teams as a roster, on which every call is one step. -/

namespace CNShell

namespace Client

open Team

variable {platform : Platform} {db next : LocalDb}

/-- The calls that open a local workspace and manage its members. -/
inductive TeamCall
  | createWorkspace (input : CreateTeamWorkspaceInput) (workspaceId ownerId : String)
  | saveMember (input : SaveTeamMemberInput) (random : String)
  | removeMember (workspaceId memberId : String)

def TeamCall.run (platform : Platform) (db : LocalDb) : TeamCall → AppResult LocalDb
  | .createWorkspace input workspaceId ownerId => do
    return (← Client.createWorkspace input workspaceId ownerId db).2
  | .saveMember input random => do return (← Client.saveMember platform input random db).2
  | .removeMember workspaceId memberId => do
    return (← Client.removeMember platform workspaceId memberId db).2

/-- The successful calls of a client one after the other, from a given database. -/
def teamCalls (platform : Platform) (start : LocalDb) : System LocalDb TeamCall where
  initial db := db = start
  step db call next := call.run platform db = .ok next

def TeamMember.post (member : TeamMember) : Post := ⟨member.workspaceId, member.role, member.status⟩

/-- The key epochs and posts that the client stores. -/
def LocalDb.roster (db : LocalDb) : Roster where
  epoch workspaceId := (db.teamWorkspaces.find? workspaceId).map TeamWorkspace.keyEpoch
  post memberId := (db.teamMembers.find? memberId).map TeamMember.post

@[simp] theorem epoch_roster (workspaceId : String) :
    (LocalDb.roster db).epoch workspaceId = (db.teamWorkspaces.find? workspaceId).map TeamWorkspace.keyEpoch := rfl

@[simp] theorem post_roster (memberId : String) :
    (LocalDb.roster db).post memberId = (db.teamMembers.find? memberId).map TeamMember.post := rfl

variable {workspaceId : String}

theorem localMember_eq_ok {workspace : TeamWorkspace} {member : TeamMember} :
    localMember platform workspaceId db = .ok (workspace, member) ↔
      validUuid platform workspaceId = true ∧
        db.teamWorkspaces.find? workspaceId = some workspace ∧
        db.teamMembers.find? workspace.localMemberId = some member ∧
        member.workspaceId = workspace.id ∧ member.status = .active := by
  simp only [localMember, bind_eq_ok, ensure_eq_ok, required_eq_ok, pure_eq_ok, exists_const,
    Option.filter_eq_some_iff, decide_eq_true_eq, Prod.mk.injEq]
  constructor
  · intro given
    obtain ⟨valid, _, stored, _, ⟨found, own, active⟩, rfl, rfl⟩ := given
    exact ⟨valid, stored, found, own, active⟩
  · intro given
    obtain ⟨valid, stored, found, own, active⟩ := given
    exact ⟨valid, workspace, stored, member, ⟨found, own, active⟩, rfl, rfl⟩

variable {input : SaveTeamMemberInput}

theorem saveMember_ok {random : String} {saved : TeamMember}
    (done : saveMember platform input random db = .ok (saved, next)) :
    ∃ workspace actorRole, db.teamWorkspaces.find? saved.workspaceId = some workspace ∧
      saved.status = .active ∧
      (∀ held, db.teamMembers.find? saved.id = some held → held.workspaceId = saved.workspaceId) ∧
      checkSave saved.workspaceId actorRole saved.role (db.teamMembers.find? saved.id) db = .ok () ∧
      next = if roleChanged (db.teamMembers.find? saved.id) saved.role then
          raiseLocalEpoch saved.workspaceId (putMember saved db)
        else putMember saved db := by
  simp only [saveMember, localAuthorization, bind_eq_ok, ensure_eq_ok, required_eq_ok, pure_eq_ok,
    exists_const, Prod.exists, Prod.mk.injEq] at done
  obtain ⟨role, -, name, -, _, actorRole, ⟨workspace, member, authorized, -⟩, _, -, -, own, _, allowed,
    rfl, rfl⟩ := done
  refine ⟨workspace, actorRole, (localMember_eq_ok.mp authorized).2.1, rfl, fun held found => ?_, allowed, rfl⟩
  dsimp only at found
  rw [found] at own
  simpa using own

theorem saveMember_saves {random : String} {saved : TeamMember}
    (done : saveMember platform input random db = .ok (saved, next)) :
    saved.id = input.memberId.getD random ∧ saved.workspaceId = input.workspaceId := by
  simp only [saveMember, bind_eq_ok, pure_eq_ok, Prod.mk.injEq] at done
  obtain ⟨role, -, name, -, actor, -, _, -, _, -, _, -, _, -, rfl, -⟩ := done
  exact ⟨rfl, rfl⟩

variable {u : Unit}

theorem checkSave_places {actorRole role : Role} (allowed : checkSave workspaceId actorRole role none db = .ok u) :
    countMembers workspaceId (fun _ => true) db < maxMembers := by
  simp only [checkSave, bind_eq_ok] at allowed
  obtain ⟨_, -, _, room, -⟩ := allowed
  simpa [checkPlaces] using room

theorem checkSave_kept {actorRole role : Role} {held : TeamMember}
    (allowed : checkSave workspaceId actorRole role (some held) db = .ok u)
    (owns : held.role = .owner ∧ held.status = .active) (demoted : role ≠ .owner) :
    keepsOwner workspaceId db = .ok () := by
  simp only [checkSave, bind_eq_ok] at allowed
  obtain ⟨_, -, _, -, kept⟩ := allowed
  rwa [checkLastOwner, if_pos (by simp [owns, demoted])] at kept

variable {memberId : String}

theorem other_owner (kept : keepsOwner workspaceId db = .ok u) :
    ∃ other, other ≠ memberId ∧ (LocalDb.roster db).IsOwner workspaceId other := by
  simp only [keepsOwner, ensure_eq_ok, Nat.not_le] at kept
  obtain ⟨row, stored, owns, apart⟩ := Table.exists_other memberId kept
  simp only [decide_eq_true_eq] at owns
  exact ⟨row.id, apart, by simp [Roster.IsOwner, Table.find?_of_mem stored, TeamMember.post, owns]⟩

variable {workspace : TeamWorkspace}

theorem roster_raiseLocalEpoch (found : db.teamWorkspaces.find? workspaceId = some workspace) :
    LocalDb.roster (raiseLocalEpoch workspaceId db) =
      (LocalDb.roster db).raise workspaceId (workspace.keyEpoch + 1) := by
  have keyed := (Table.find?_some found).2
  refine Roster.ext (funext fun name => ?_) rfl
  simp only [epoch_roster, Roster.epoch_raise, raiseLocalEpoch, Table.find?_update]
  by_cases same : name = workspaceId
  · subst same
    simp [found, keyed]
  · rw [if_neg same]
    cases other : db.teamWorkspaces.find? name with
    | none => simp
    | some row => simp [(Table.find?_some other).2, same]

theorem roster_putMember {member : TeamMember} (active : member.status = .active)
    (own : ∀ held, db.teamMembers.find? member.id = some held → held.workspaceId = member.workspaceId) :
    LocalDb.roster (putMember member db) =
      (LocalDb.roster db).put member.id ⟨member.workspaceId, member.role, .active⟩ := by
  refine Roster.ext rfl (funext fun name => ?_)
  simp only [post_roster, Roster.post_put, putMember, Table.find?_upsert]
  split
  · rename_i same
    subst same
    cases found : db.teamMembers.find? member.id with
    | none => simp [TeamMember.post, active]
    | some held => simp [TeamMember.post, own held found]
  · rfl

theorem roster_dropMember {target : TeamMember} (found : db.teamWorkspaces.find? workspaceId = some workspace)
    (held : db.teamMembers.find? memberId = some target) (own : target.workspaceId = workspaceId) :
    LocalDb.roster (dropMember workspaceId memberId db) =
      ((LocalDb.roster db).raise workspaceId (workspace.keyEpoch + 1)).put memberId
        ⟨workspaceId, target.role, .removed⟩ := by
  have keyed := (Table.find?_some held).2
  rw [dropMember]
  refine (roster_raiseLocalEpoch ?_).trans (Roster.ext rfl (funext fun name => ?_))
  case refine_1 => exact found
  simp only [post_roster, Roster.post_raise, Roster.post_put, Table.find?_update]
  by_cases same : name = memberId
  · subst same
    simp [held, keyed, own, TeamMember.post]
  · rw [if_neg same]
    cases other : db.teamMembers.find? name with
    | none => simp
    | some row => simp [(Table.find?_some other).2, same]

theorem roster_createWorkspace {input : CreateTeamWorkspaceInput} {ownerId : String}
    (done : createWorkspace input workspaceId ownerId db = .ok (u, next)) :
    db.teamWorkspaces.find? workspaceId = none ∧ db.teamMembers.find? ownerId = none ∧
      LocalDb.roster next = ((LocalDb.roster db).raise workspaceId 1).put ownerId
        ⟨workspaceId, .owner, .active⟩ := by
  simp only [createWorkspace, bind_eq_ok, ensure_eq_ok, required_eq_ok, pure_eq_ok, exists_const,
    Prod.mk.injEq, true_and] at done
  obtain ⟨name, -, ownerName, -, -, workspaces, founded, members, joined, rfl⟩ := done
  refine ⟨Table.find?_eq_none.mpr (Table.insert_eq_some.mp founded).1,
    Table.find?_eq_none.mpr (Table.insert_eq_some.mp joined).1,
    Roster.ext (funext fun other => ?_) (funext fun other => ?_)⟩
  · simp only [epoch_roster, Roster.epoch_put, Roster.epoch_raise, Table.find?_insert founded]
    split <;> rfl
  · simp only [post_roster, Roster.post_put, Roster.post_raise, Table.find?_insert joined]
    split <;> rfl

variable {saved : TeamMember} {random : String}

theorem saveMember_step (done : saveMember platform input random db = .ok (saved, next)) :
    Roster.Step (LocalDb.roster db) (LocalDb.roster next) := by
  obtain ⟨workspace, actorRole, stored, active, own, allowed, rfl⟩ := saveMember_ok done
  have placed := roster_putMember active own
  have there : (LocalDb.roster db).epoch saved.workspaceId = some workspace.keyEpoch := by simp [stored]
  cases found : db.teamMembers.find? saved.id with
  | none =>
    -- A new member is enrolled under the key epoch there is.
    rw [if_neg (by simp [roleChanged]), placed]
    have enrolled : Roster.Step (LocalDb.roster db) (((LocalDb.roster db).raise saved.workspaceId
        workspace.keyEpoch).put saved.id ⟨saved.workspaceId, saved.role, .active⟩) :=
      .enrol there (Int.le_refl _) (by simp [found])
    rwa [Roster.raise_self there] at enrolled
  | some held =>
    have place := own held found
    have post : (LocalDb.roster db).post saved.id = some ⟨saved.workspaceId, held.role, held.status⟩ := by
      simp [found, TeamMember.post, place]
    have kept : (LocalDb.roster db).IsOwner saved.workspaceId saved.id →
        (saved.role ≠ .owner ∨ MemberStatus.active ≠ .active) →
        ∃ other, other ≠ saved.id ∧ (LocalDb.roster db).IsOwner saved.workspaceId other := by
      intro owns loses
      simp only [Roster.IsOwner, post, Option.some.injEq, Post.mk.injEq, true_and] at owns
      rw [found] at allowed
      exact other_owner (checkSave_kept allowed owns (by simpa using loses))
    split
    · -- The role or the status changes, and the key epoch rises with it.
      have raised : LocalDb.roster (raiseLocalEpoch saved.workspaceId (putMember saved db)) =
          (LocalDb.roster (putMember saved db)).raise saved.workspaceId (workspace.keyEpoch + 1) :=
        roster_raiseLocalEpoch stored
      rw [raised, placed]
      exact .change post there (Int.le_add_one (Int.le_refl _)) (fun _ => Int.lt_succ _) kept
    · rename_i same
      rw [placed]
      have changed := Roster.Step.change post there (Int.le_refl _) (fun differs => absurd (by
        simpa [roleChanged] using differs) same) kept
      rwa [Roster.raise_self there] at changed

theorem removeMember_ok (done : removeMember platform workspaceId memberId db = .ok (u, next)) :
    next = db ∨ ∃ workspace target, db.teamWorkspaces.find? workspaceId = some workspace ∧
      db.teamMembers.find? memberId = some target ∧ target.workspaceId = workspaceId ∧
      target.status = .active ∧ (target.role = .owner → keepsOwner workspaceId db = .ok ()) ∧
      next = dropMember workspaceId memberId db := by
  simp only [removeMember, localAuthorization, bind_eq_ok, ensure_eq_ok, required_eq_ok, pure_eq_ok,
    exists_const, Prod.exists, Prod.mk.injEq, Option.filter_eq_some_iff, decide_eq_true_eq] at done
  obtain ⟨-, _, actorRole, ⟨workspace, member, authorized, -⟩, _, -, -, target, ⟨found, own⟩, removed⟩ :=
    done
  have stored := (localMember_eq_ok.mp authorized).2.1
  split at removed
  · obtain ⟨-, rfl⟩ := Prod.mk.injEq .. ▸ pure_eq_ok.mp removed
    exact .inl rfl
  · rename_i active
    simp only [bind_eq_ok, pure_eq_ok, Prod.mk.injEq, true_and] at removed
    obtain ⟨_, allowed, rfl⟩ := removed
    refine .inr ⟨workspace, target, stored, found, own, not_not.mp active, fun owner => ?_, rfl⟩
    rw [checkRemoval, if_pos owner] at allowed
    simp only [bind_eq_ok] at allowed
    obtain ⟨_, -, kept⟩ := allowed
    exact kept

theorem removeMember_step (done : removeMember platform workspaceId memberId db = .ok (u, next)) :
    Roster.Step (LocalDb.roster db) (LocalDb.roster next) := by
  rcases removeMember_ok done with rfl | ⟨workspace, target, stored, found, own, -, kept, rfl⟩
  · exact .stay
  · have post : (LocalDb.roster db).post memberId = some ⟨workspaceId, target.role, target.status⟩ := by
      simp [found, TeamMember.post, own]
    have there : (LocalDb.roster db).epoch workspaceId = some workspace.keyEpoch := by simp [stored]
    rw [roster_dropMember stored found own]
    refine .change post there (Int.le_add_one (Int.le_refl _)) (fun _ => Int.lt_succ _)
      fun owns loses => ?_
    simp only [Roster.IsOwner, post, Option.some.injEq, Post.mk.injEq, true_and] at owns
    exact other_owner (kept owns.1)

variable {call : TeamCall}

theorem TeamCall.roster_step (ran : call.run platform db = .ok next) :
    Roster.Step (LocalDb.roster db) (LocalDb.roster next) := by
  cases call with
  | createWorkspace input workspaceId ownerId =>
    simp only [TeamCall.run, bind_eq_ok, pure_eq_ok] at ran
    obtain ⟨⟨u, left⟩, done, rfl⟩ := ran
    obtain ⟨free, fresh, same⟩ := roster_createWorkspace done
    dsimp only
    rw [same]
    exact .found (by simp [free]) (by simp [fresh])
  | saveMember input random =>
    simp only [TeamCall.run, bind_eq_ok, pure_eq_ok] at ran
    obtain ⟨⟨saved, left⟩, done, rfl⟩ := ran
    exact saveMember_step done
  | removeMember workspaceId memberId =>
    simp only [TeamCall.run, bind_eq_ok, pure_eq_ok] at ran
    obtain ⟨⟨u, left⟩, done, rfl⟩ := ran
    exact removeMember_step done

/-- A stored member that a save makes active again finds a free place. -/
def SavesWithin (db : LocalDb) : TeamCall → Prop
  | .saveMember input random =>
      ∀ held, db.teamMembers.find? (input.memberId.getD random) = some held →
        held.status = .active ∨ countMembers input.workspaceId (fun _ => true) db < maxMembers
  | _ => True

theorem encard_active (workspaceId : String) :
    ((LocalDb.roster db).active workspaceId).encard = countMembers workspaceId (fun _ => true) db := by
  rw [Roster.encard_active post_roster workspaceId, countMembers]
  refine congrArg Nat.cast (congrArg (Table.count _) (funext fun row => ?_))
  exact decide_eq_decide.mpr (by simp [TeamMember.post])

theorem saveMember_admitsWithin (within : SavesWithin db (.saveMember input random))
    (done : saveMember platform input random db = .ok (saved, next)) :
    Roster.AdmitsWithin maxMembers (LocalDb.roster db) (LocalDb.roster next) := by
  obtain ⟨workspace, actorRole, stored, active, own, allowed, left⟩ := saveMember_ok done
  obtain ⟨named, placed⟩ := saveMember_saves done
  simp only [SavesWithin, ← named, ← placed] at within
  have there : (LocalDb.roster db).epoch saved.workspaceId = some workspace.keyEpoch := by simp [stored]
  -- Whichever epoch it leaves, the save replaces the one post.
  obtain ⟨epoch, same⟩ : ∃ epoch, LocalDb.roster next =
      ((LocalDb.roster db).raise saved.workspaceId epoch).put saved.id
        ⟨saved.workspaceId, saved.role, .active⟩ := by
    rw [left]
    split
    · have raised : LocalDb.roster (raiseLocalEpoch saved.workspaceId (putMember saved db)) =
          (LocalDb.roster (putMember saved db)).raise saved.workspaceId (workspace.keyEpoch + 1) :=
        roster_raiseLocalEpoch stored
      rw [raised, roster_putMember active own]
      exact ⟨_, rfl⟩
    · exact ⟨workspace.keyEpoch, by rw [Roster.raise_self there, roster_putMember active own]⟩
  rw [same]
  refine .put _ fun _ => ?_
  cases found : db.teamMembers.find? saved.id with
  | none =>
    rw [found] at allowed
    have free := checkSave_places allowed
    rw [encard_active]
    exact .inr (Nat.cast_lt.mpr free)
  | some held =>
    rcases within held found with before | free
    · exact .inl ⟨TeamMember.post held, by simp [found], own held found, before⟩
    · rw [encard_active]
      exact .inr (Nat.cast_lt.mpr free)

theorem TeamCall.admitsWithin (housed : (LocalDb.roster db).Housed)
    (within : SavesWithin db call) (ran : call.run platform db = .ok next) :
    Roster.AdmitsWithin maxMembers (LocalDb.roster db) (LocalDb.roster next) := by
  cases call with
  | createWorkspace input workspaceId ownerId =>
    simp only [TeamCall.run, bind_eq_ok, pure_eq_ok] at ran
    obtain ⟨⟨u, left⟩, done, rfl⟩ := ran
    obtain ⟨free, -, same⟩ := roster_createWorkspace done
    dsimp only
    rw [same]
    -- A workspace that was not there has no member yet.
    refine .put 1 fun _ => .inr ?_
    rw [housed.active_eq_empty (by simp [free]), Set.encard_empty]
    exact ENat.natCast_lt_natCast.mpr (show 0 < 256 by decide)
  | saveMember input random =>
    simp only [TeamCall.run, bind_eq_ok, pure_eq_ok] at ran
    obtain ⟨⟨saved, left⟩, done, rfl⟩ := ran
    exact saveMember_admitsWithin within done
  | removeMember workspaceId memberId =>
    simp only [TeamCall.run, bind_eq_ok, pure_eq_ok] at ran
    obtain ⟨⟨u, left⟩, done, rfl⟩ := ran
    rcases removeMember_ok done with rfl | ⟨workspace, target, stored, found, own, -, -, rfl⟩
    · exact fun _ _ here absent => absurd here absent
    · dsimp only
      rw [roster_dropMember stored found own]
      exact .put _ fun active => by cases active

end Client

end CNShell
