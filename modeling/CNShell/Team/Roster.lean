import Mathlib.Data.Set.Card
import CNShell.Library.Table
import CNShell.Relay.Models

/-! What a team store is for: who belongs to which workspace, as what, and under which key epoch. -/

namespace CNShell

namespace Team

/-- What a member is to its workspace. -/
structure Post where
  workspace : String
  role : Role
  status : MemberStatus

/-- The key epoch of every workspace and the post of every member. -/
@[ext] structure Roster where
  /-- The key epoch of a workspace, if there is one of that name. -/
  epoch : String → Option Int
  /-- The post of a member, if there is one of that name. -/
  post : String → Option Post

namespace Roster

def raise (roster : Roster) (workspace : String) (epoch : Int) : Roster :=
  { roster with epoch := Function.update roster.epoch workspace (some epoch) }

def put (roster : Roster) (member : String) (post : Post) : Roster :=
  { roster with post := Function.update roster.post member (some post) }

def drop (roster : Roster) (workspace : String) : Roster where
  epoch name := if name = workspace then none else roster.epoch name
  post member := (roster.post member).filter fun post => post.workspace ≠ workspace

def IsOwner (roster : Roster) (workspace member : String) : Prop :=
  roster.post member = some ⟨workspace, .owner, .active⟩

def active (roster : Roster) (workspace : String) : Set String :=
  {member | ∃ post, roster.post member = some post ∧ post.workspace = workspace ∧ post.status = .active}

/-- What may happen to a roster at once. -/
inductive Step (roster : Roster) : Roster → Prop
  | stay : Step roster roster
  | found {workspace owner : String} (free : roster.epoch workspace = none)
      (new : roster.post owner = none) :
      Step roster ((roster.raise workspace 1).put owner ⟨workspace, .owner, .active⟩)
  | enrol {workspace member : String} {role : Role} {old next : Int}
      (there : roster.epoch workspace = some old) (grows : old ≤ next)
      (new : roster.post member = none) :
      Step roster ((roster.raise workspace next).put member ⟨workspace, role, .active⟩)
  | change {member : String} {post : Post} {role : Role} {status : MemberStatus} {old next : Int}
      (held : roster.post member = some post) (there : roster.epoch post.workspace = some old)
      (grows : old ≤ next) (rises : post.role ≠ role ∨ post.status ≠ status → old < next)
      (kept : roster.IsOwner post.workspace member → (role ≠ .owner ∨ status ≠ .active) →
        ∃ other, other ≠ member ∧ roster.IsOwner post.workspace other) :
      Step roster ((roster.raise post.workspace next).put member ⟨post.workspace, role, status⟩)
  | advance {workspace : String} {old next : Int} (there : roster.epoch workspace = some old)
      (grows : old ≤ next) : Step roster (roster.raise workspace next)
  | remove (workspace : String) : Step roster (roster.drop workspace)

/-- Every workspace has an active owner. -/
def Owned (roster : Roster) : Prop :=
  ∀ workspace, roster.epoch workspace ≠ none → ∃ member, roster.IsOwner workspace member

/-- Every member has a workspace. -/
def Housed (roster : Roster) : Prop :=
  ∀ member post, roster.post member = some post → roster.epoch post.workspace ≠ none

/-- Key epochs do not fall, and the one of a member whose role or status changed rises. -/
structure EpochRises (roster next : Roster) : Prop where
  grows : ∀ workspace old new, roster.epoch workspace = some old → next.epoch workspace = some new → old ≤ new
  rises : ∀ member post now, roster.post member = some post → next.post member = some now →
    (post.role ≠ now.role ∨ post.status ≠ now.status) →
    ∃ old new, roster.epoch post.workspace = some old ∧ next.epoch post.workspace = some new ∧ old < new

/-- No workspace has more active members than the limit. -/
def Limited (limit : ℕ) (roster : Roster) : Prop := ∀ workspace, (roster.active workspace).encard ≤ limit

/-- A member that becomes active finds a free place in its workspace. -/
def AdmitsWithin (limit : ℕ) (roster next : Roster) : Prop :=
  ∀ member workspace, member ∈ next.active workspace → member ∉ roster.active workspace →
    (roster.active workspace).encard < limit

variable {roster next : Roster}

@[simp] theorem epoch_raise (workspace name : String) (epoch : Int) :
    (roster.raise workspace epoch).epoch name = if name = workspace then some epoch else roster.epoch name :=
  Function.update_apply ..

@[simp] theorem post_raise (workspace : String) (epoch : Int) :
    (roster.raise workspace epoch).post = roster.post := rfl

@[simp] theorem epoch_put (member : String) (post : Post) : (roster.put member post).epoch = roster.epoch := rfl

@[simp] theorem post_put (member name : String) (post : Post) :
    (roster.put member post).post name = if name = member then some post else roster.post name :=
  Function.update_apply ..

variable {workspace : String}

theorem raise_self {epoch : Int} (there : roster.epoch workspace = some epoch) :
    roster.raise workspace epoch = roster := by
  refine Roster.ext (funext fun name => ?_) rfl
  rw [epoch_raise]
  split
  · rename_i same
    rw [same, there]
  · rfl

theorem Owned.raise (owned : Owned roster) {old : Int} (there : roster.epoch workspace = some old) (next : Int) :
    Owned (roster.raise workspace next) := by
  intro name named
  refine owned name fun absent => named ?_
  -- The raised workspace was there before, so no workspace is new.
  have other : name ≠ workspace := fun same => by simp [← same, absent] at there
  simp [other, absent]

theorem Owned.step (owned : Owned roster) (step : Step roster next) : Owned next := by
  intro name named
  cases step with
  | stay => exact owned name named
  | @found workspace owner free new =>
    by_cases founded : name = workspace
    · exact ⟨owner, by simp [IsOwner, founded]⟩
    · -- The owner of another workspace is not the new member.
      obtain ⟨member, owns⟩ := owned name (by simpa [founded] using named)
      have other : member ≠ owner := fun same => by simp [IsOwner, same, new] at owns
      exact ⟨member, by simpa [IsOwner, other] using owns⟩
  | @enrol workspace member role old next there grows new =>
    obtain ⟨owner, owns⟩ := owned.raise there next name named
    have other : owner ≠ member := fun same => by simp [IsOwner, same, new] at owns
    exact ⟨owner, by simpa [IsOwner, other] using owns⟩
  | @change member post role status old next held there grows rises kept =>
    obtain ⟨owner, owns⟩ := owned.raise there next name named
    by_cases same : owner = member
    · -- The changed member owned the workspace: it still does, or another owner was counted.
      subst same
      have owns : roster.IsOwner name owner := owns
      obtain rfl : post = ⟨name, .owner, .active⟩ := Option.some.inj (held.symm.trans owns)
      by_cases remains : role = .owner ∧ status = .active
      · exact ⟨owner, by simp [IsOwner, remains]⟩
      · obtain ⟨other, apart, also⟩ := kept owns (Decidable.not_and_iff_not_or_not.mp remains)
        exact ⟨other, by simpa [IsOwner, apart] using also⟩
    · exact ⟨owner, by simpa [IsOwner, same] using owns⟩
  | advance there grows => exact owned.raise there _ name named
  | remove workspace =>
    -- A workspace that is still there keeps the owner it had.
    have other : name ≠ workspace := fun same => named (by simp [Roster.drop, same])
    obtain ⟨member, owns⟩ := owned name (by simpa [Roster.drop, other] using named)
    have owns : roster.post member = _ := owns
    exact ⟨member, by simp [IsOwner, Roster.drop, owns, Option.filter, other]⟩

theorem Housed.raise (housed : Housed roster) (workspace : String) (next : Int) :
    Housed (roster.raise workspace next) := by
  intro member post held
  rw [epoch_raise]
  split
  · simp
  · exact housed member post held

theorem Housed.put (housed : Housed roster) {post : Post}
    (there : roster.epoch post.workspace ≠ none) (member : String) :
    Housed (roster.put member post) := by
  intro name now held
  rw [post_put] at held
  split at held
  · obtain rfl := Option.some.inj held
    exact there
  · exact housed name now held

theorem Housed.step (housed : Housed roster) (step : Step roster next) : Housed next := by
  cases step with
  | stay => exact housed
  | found | enrol | change => exact (housed.raise _ _).put (by simp) _
  | advance there grows => exact housed.raise _ _
  | remove workspace =>
    intro member post held
    simp only [Roster.drop, Option.filter_eq_some_iff, decide_eq_true_eq] at held
    obtain ⟨held, other⟩ := held
    simp only [Roster.drop, if_neg other]
    exact housed member post held

theorem EpochRises.refl (roster : Roster) : EpochRises roster roster := by
  constructor
  · intro workspace old new before after
    have same := Option.some.inj (before.symm.trans after)
    omega
  · intro member post now before after differs
    obtain rfl := Option.some.inj (before.symm.trans after)
    simp at differs

theorem grows_raise {name : String} {old new epoch : Int}
    (larger : ∀ held, roster.epoch workspace = some held → held ≤ epoch) (before : roster.epoch name = some old)
    (after : (roster.raise workspace epoch).epoch name = some new) : old ≤ new := by
  rw [epoch_raise] at after
  split at after
  · rename_i same
    obtain rfl := Option.some.inj after
    exact larger old (same ▸ before)
  · have same := Option.some.inj (before.symm.trans after)
    omega

theorem EpochRises.of_step (step : Step roster next) : EpochRises roster next := by
  constructor
  case grows =>
    intro workspace old new before after
    -- Only one workspace's epoch is replaced, and never by a smaller one.
    cases step with
    | stay =>
      have same := Option.some.inj (before.symm.trans after)
      omega
    | found free new =>
      exact grows_raise (fun held there => by simp [free] at there) before after
    | enrol there grows new =>
      exact grows_raise (fun held same => by simp_all) before after
    | change held there grows rises kept =>
      exact grows_raise (fun held same => by simp_all) before after
    | advance there grows => exact grows_raise (fun held same => by simp_all) before after
    | remove gone =>
      -- A workspace that is still there was not the one that is gone.
      simp only [Roster.drop] at after
      split at after
      · cases after
      · have same := Option.some.inj (before.symm.trans after)
        omega
  case rises =>
    intro member post now before after differs
    cases step with
    | stay =>
      obtain rfl := Option.some.inj (before.symm.trans after)
      simp at differs
    | found | enrol => grind [post_put, post_raise]
    | @change changed held role status old next stored there grows rises kept =>
      by_cases same : member = changed
      · subst same
        obtain rfl := Option.some.inj (stored.symm.trans before)
        obtain rfl : _ = now := by simpa using after
        exact ⟨old, next, there, by simp, rises differs⟩
      · have unchanged : roster.post member = some now := by simpa [same] using after
        obtain rfl := Option.some.inj (before.symm.trans unchanged)
        simp at differs
    | advance there grows =>
      obtain rfl := Option.some.inj (before.symm.trans after)
      simp at differs
    | remove gone =>
      simp only [Roster.drop, Option.filter_eq_some_iff] at after
      obtain rfl := Option.some.inj (before.symm.trans after.1)
      simp at differs

theorem Step.active_subset (step : Step roster next) :
    ∃ member, ∀ workspace, next.active workspace ⊆ insert member (roster.active workspace) := by
  cases step with
  | stay => exact ⟨"", fun workspace => Set.subset_insert _ _⟩
  | @found workspace owner free new =>
    refine ⟨owner, fun name member => ?_⟩
    simp only [active, post_put, post_raise, Set.mem_ofPred_eq, Set.mem_insert_iff]
    grind
  | @enrol workspace enrolled role old next there grows new =>
    refine ⟨enrolled, fun name member => ?_⟩
    simp only [active, post_put, post_raise, Set.mem_ofPred_eq, Set.mem_insert_iff]
    grind
  | @change changed post role status old next held there grows rises kept =>
    refine ⟨changed, fun name member => ?_⟩
    simp only [active, post_put, post_raise, Set.mem_ofPred_eq, Set.mem_insert_iff]
    grind
  | advance there grows => exact ⟨"", fun workspace => Set.subset_insert _ _⟩
  | remove gone =>
    refine ⟨"", fun name member here => Set.mem_insert_of_mem _ ?_⟩
    obtain ⟨post, held, own, active⟩ := here
    simp only [Roster.drop, Option.filter_eq_some_iff] at held
    exact ⟨post, held.1, own, active⟩

theorem Limited.step {limit : ℕ} (limited : Limited limit roster) (step : Step roster next)
    (admits : AdmitsWithin limit roster next) : Limited limit next := by
  intro workspace
  obtain ⟨member, subset⟩ := step.active_subset
  have subset := subset workspace
  by_cases joins : member ∈ next.active workspace ∧ member ∉ roster.active workspace
  · -- The one member that joined took a free place.
    have room := admits member workspace joins.1 joins.2
    calc (next.active workspace).encard
        ≤ (insert member (roster.active workspace)).encard := Set.encard_le_encard subset
      _ ≤ (roster.active workspace).encard + 1 := Set.encard_insert_le _ _
      _ ≤ limit := Order.add_one_le_of_lt room
  · -- Otherwise nobody joined.
    refine le_trans (Set.encard_le_encard fun name here => ?_) (limited workspace)
    rcases Set.mem_insert_iff.mp (subset here) with rfl | old
    · by_contra absent
      exact joins ⟨here, absent⟩
    · exact old

theorem AdmitsWithin.raise (limit : ℕ) (workspace : String) (epoch : Int) :
    AdmitsWithin limit roster (roster.raise workspace epoch) :=
  fun _ _ here absent => absurd here absent

theorem AdmitsWithin.drop (limit : ℕ) (workspace : String) : AdmitsWithin limit roster (roster.drop workspace) := by
  intro member name here absent
  obtain ⟨post, held, own, active⟩ := here
  simp only [Roster.drop, Option.filter_eq_some_iff] at held
  exact absurd ⟨post, held.1, own, active⟩ absent

theorem AdmitsWithin.put {limit : ℕ} {member : String} {role : Role} {status : MemberStatus} (epoch : Int)
    (room : status = .active → member ∈ roster.active workspace ∨ (roster.active workspace).encard < limit) :
    AdmitsWithin limit roster
      ((roster.raise workspace epoch).put member ⟨workspace, role, status⟩) := by
  intro name place here absent
  obtain ⟨post, held, own, active⟩ := here
  rw [post_put] at held
  split at held
  · -- The replaced post is the one that became active.
    obtain rfl := Option.some.inj held
    obtain rfl : workspace = place := own
    rename_i same
    subst same
    exact (room active).resolve_left absent
  · exact absurd ⟨post, held, own, active⟩ absent

theorem encard_active {ρ : Type} {key : ρ → String} {table : Table key} {posted : ρ → Post}
    (reads : ∀ member, roster.post member = (table.find? member).map posted) (workspace : String) :
    (roster.active workspace).encard =
      (table.count fun row => (posted row).workspace = workspace ∧ (posted row).status = .active :) := by
  let chosen (row : ρ) : Bool := (posted row).workspace = workspace ∧ (posted row).status = .active
  have nodup : ((table.rows.filter chosen).map key).Nodup :=
    table.unique.sublist (List.filter_sublist.map key)
  have same : roster.active workspace = ((table.rows.filter chosen).map key).toFinset := by
    ext member
    simp only [active, Set.mem_ofPred_eq, reads, Option.map_eq_some_iff, List.coe_toFinset,
      List.mem_map, List.mem_filter]
    constructor
    · intro given
      obtain ⟨post, ⟨row, found, posts⟩, own, active⟩ := given
      obtain ⟨stored, keyed⟩ := Table.find?_some found
      exact ⟨row, ⟨stored, by simp [chosen, posts, own, active]⟩, keyed⟩
    · intro given
      obtain ⟨row, ⟨stored, hit⟩, keyed⟩ := given
      simp only [chosen, decide_eq_true_eq] at hit
      exact ⟨posted row, ⟨row, Table.find?_eq_some.mpr ⟨stored, keyed⟩, rfl⟩, hit⟩
  rw [same, Set.encard_coe_eq_coe_finsetCard, List.toFinset_card_of_nodup nodup, List.length_map,
    Table.count, List.countP_eq_length_filter]

theorem Housed.active_eq_empty (housed : Housed roster)
    (absent : roster.epoch workspace = none) : roster.active workspace = ∅ := by
  refine Set.eq_empty_of_forall_notMem fun member here => ?_
  obtain ⟨post, held, own, -⟩ := here
  exact housed member post held (own ▸ absent)

end Roster

end Team

end CNShell
