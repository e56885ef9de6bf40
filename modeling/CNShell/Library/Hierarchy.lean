import Mathlib.Logic.Hydra
import Mathlib.Data.Fintype.Card
import Mathlib.Data.Set.Finite.Basic

/-! Values that stand at the top or under one another, and the search for what stands below. -/

namespace CNShell

namespace Hierarchy

variable {κ : Type u}

/-- A value stands right under another one. -/
def Under (up : κ → Option (Option κ)) (value above : κ) : Prop := up value = some (some above)

/-- The way up from a value comes to the top. -/
inductive Rooted (up : κ → Option (Option κ)) : κ → Prop
  | top {value : κ} (there : up value = some none) : Rooted up value
  | under {value above : κ} (there : Under up value above) (rooted : Rooted up above) :
      Rooted up value

/-- The way up from every value that is there comes to the top. -/
def Forest (up : κ → Option (Option κ)) : Prop := ∀ value, (up value).isSome = true → Rooted up value

variable {up : κ → Option (Option κ)}

theorem Rooted.isSome {value : κ} (rooted : Rooted up value) : (up value).isSome = true := by
  cases rooted with
  | top there => simp [there]
  | under there _ => simp [show up value = _ from there]

theorem Rooted.acyclic {value : κ} (rooted : Rooted up value) : ¬Relation.TransGen (Under up) value value := by
  induction rooted with
  | top there =>
    intro round
    obtain ⟨above, first, -⟩ := Relation.TransGen.head'_iff.mp round
    cases there.symm.trans first
  | @under value above there rooted ih =>
    intro round
    obtain ⟨other, first, back⟩ := Relation.TransGen.head'_iff.mp round
    -- The value is under one value only, which would then be above itself as well.
    obtain rfl : above = other := by
      have same := there.symm.trans first
      simpa using same
    exact ih (Relation.TransGen.tail' back there)

theorem Forest.irrefl (forest : Forest up) (value : κ) : ¬Under up value value := by
  intro itself
  have there : (up value).isSome = true := by simp [show up value = _ from itself]
  exact (forest value there).acyclic (.single itself)

section Changes

variable [DecidableEq κ]

theorem Forest.top (forest : Forest up) (value : κ) : Forest (Function.update up value (some none)) := by
  have kept : ∀ other, Rooted up other → Rooted (Function.update up value (some none)) other := by
    intro other rooted
    induction rooted with
    | @top other there =>
      by_cases same : other = value
      · exact .top (by simp [same])
      · exact .top (by simp [same, there])
    | @under other above there _ ih =>
      by_cases same : other = value
      · exact .top (by simp [same])
      · exact .under (by simpa [Under, same] using there) ih
  intro other there
  by_cases same : other = value
  · exact .top (by simp [same])
  · exact kept other (forest other (by simpa [same] using there))

theorem not_rooted_update {value above other : κ}
    (way : Relation.ReflTransGen (Under up) above value)
    (below : Relation.ReflTransGen (Under up) other value) :
    ¬Rooted (Function.update up value (some (some above))) other := by
  intro rooted
  -- The induction is on the way up, which goes round through the value for ever.
  induction rooted with
  | @top other there =>
    by_cases same : other = value
    · simp [same] at there
    · obtain rfl | ⟨next, first, -⟩ := below.cases_head
      · exact same rfl
      · simp [same, show up other = _ from first] at there
  | @under other next there _ ih =>
    by_cases same : other = value
    · obtain rfl : above = next := by simpa [Under, same] using there
      exact ih way
    · obtain rfl | ⟨onward, first, rest⟩ := below.cases_head
      · exact same rfl
      · obtain rfl : onward = next := by
          simpa [Under, same, show up other = _ from first] using there
        exact ih rest

theorem Forest.update_iff (forest : Forest up) {value above : κ} :
    Forest (Function.update up value (some (some above))) ↔
      (up above).isSome = true ∧ ¬Relation.ReflTransGen (Under up) above value := by
  constructor
  · intro after
    have rooted := after value (by simp)
    have apart : ¬Relation.ReflTransGen (Under up) above value := fun way =>
      not_rooted_update way .refl rooted
    refine ⟨?_, apart⟩
    have differs : above ≠ value := fun same => apart (same ▸ .refl)
    cases rooted with
    | top there => simp at there
    | @under value next there rooted =>
      obtain rfl : above = next := by simpa [Under] using there
      simpa [differs] using rooted.isSome
  · rintro ⟨there, apart⟩
    let moved := Function.update up value (some (some above))
    -- What does not stand below the value keeps its way up.
    have kept : ∀ other, Rooted up other → ¬Relation.ReflTransGen (Under up) other value → Rooted moved other := by
      intro other rooted beside
      induction rooted with
      | @top other there =>
        have differs : other ≠ value := fun same => beside (same ▸ .refl)
        exact .top (by simp [moved, differs, there])
      | @under other next there _ ih =>
        have differs : other ≠ value := fun same => beside (same ▸ .refl)
        refine .under (by simpa [moved, Under, differs] using there) (ih fun rest => ?_)
        exact beside (.head there rest)
    have placed : Rooted moved value := .under (by simp [moved, Under]) (kept above (forest above there) apart)
    -- What stands below it goes on from there.
    have all : ∀ other, Rooted up other → Rooted moved other := by
      intro other rooted
      induction rooted with
      | @top other there =>
        by_cases same : other = value
        · exact same ▸ placed
        · exact .top (by simp [moved, same, there])
      | @under other next there _ ih =>
        by_cases same : other = value
        · exact same ▸ placed
        · exact .under (by simpa [moved, Under, same] using there) ih
    intro other held
    by_cases same : other = value
    · subst same
      exact placed
    · exact all other (forest other (by simpa [same] using held))

end Changes

theorem Forest.remove (forest : Forest up) {removed : κ → Prop} [DecidablePred removed]
    (closed : ∀ value above, Under up value above → removed above → removed value) :
    Forest fun value => if removed value then none else up value := by
  have kept : ∀ value, Rooted up value → ¬removed value →
      Rooted (fun value => if removed value then none else up value) value := by
    intro value rooted stays
    induction rooted with
    | top there => exact .top (by simp [stays, there])
    | @under value above there _ ih =>
      refine .under (by simpa [Under, stays] using there) (ih fun gone => ?_)
      exact stays (closed value above there gone)
  intro value there
  by_cases gone : removed value
  · simp [gone] at there
  · exact kept value (forest value (by simpa [gone] using there)) gone

section Search

variable {children : κ → List κ}

/--
The values found when each value of a queue is taken out in turn and its children are added.

There are none where the queue is not empty after so many values.
-/
def drain (children : κ → List κ) : Nat → List κ → Option (List κ)
  | _, [] => some []
  | 0, _ :: _ => none
  | n + 1, value :: queue => (drain children n (queue ++ children value)).map (value :: ·)

theorem mem_drain {n : Nat} {queue found : List κ} (drained : drain children n queue = some found)
    {value : κ} :
    value ∈ found ↔
      ∃ start ∈ queue, Relation.ReflTransGen (fun lower upper => lower ∈ children upper) value start := by
  induction n generalizing queue found with
  | zero =>
    cases queue with
    | nil =>
      obtain rfl : [] = found := by simpa [drain] using drained
      simp
    | cons first queue => simp [drain] at drained
  | succ n ih =>
    cases queue with
    | nil =>
      obtain rfl : [] = found := by simpa [drain] using drained
      simp
    | cons first queue =>
      simp only [drain, Option.map_eq_some_iff] at drained
      obtain ⟨rest, drained, rfl⟩ := drained
      rw [List.mem_cons, ih drained]
      constructor
      · rintro (rfl | ⟨start, member, way⟩)
        · exact ⟨_, List.mem_cons_self, .refl⟩
        · rcases List.mem_append.mp member with old | child
          · exact ⟨start, List.mem_cons_of_mem _ old, way⟩
          · exact ⟨first, List.mem_cons_self, way.tail child⟩
      · rintro ⟨start, member, way⟩
        rcases List.mem_cons.mp member with rfl | old
        · -- The way down from the value at hand starts with one of its children.
          obtain rfl | ⟨child, way, below⟩ := Relation.ReflTransGen.cases_tail way
          · exact .inl rfl
          · exact .inr ⟨child, List.mem_append_right _ below, way⟩
        · exact .inr ⟨start, List.mem_append_left _ old, way⟩

theorem drain_ends (irrefl : ∀ value, value ∉ children value) {queue : List κ}
    (bounded : ∀ value ∈ queue, Acc (fun lower upper => lower ∈ children upper) value) :
    ∃ n found, drain children n queue = some found := by
  have : Std.Irrefl fun lower upper : κ => lower ∈ children upper := ⟨irrefl⟩
  have ends : Acc (Relation.CutExpand fun lower upper => lower ∈ children upper)
      (queue : Multiset κ) :=
    Relation.acc_of_singleton fun value member => (bounded value member).cutExpand
  -- The queue loses a value for others that all stand below it.
  generalize same : (queue : Multiset κ) = heads at ends
  clear bounded
  induction ends generalizing queue with
  | intro heads _ ih =>
    subst same
    cases queue with
    | nil => exact ⟨0, [], rfl⟩
    | cons value queue =>
      have cut : Relation.CutExpand (fun lower upper => lower ∈ children upper)
          ((queue ++ children value : List κ) : Multiset κ) ((value :: queue : List κ) : Multiset κ) := by
        refine ⟨(children value : Multiset κ), value, by simp, ?_⟩
        rw [← Multiset.coe_add, ← Multiset.cons_coe, ← Multiset.singleton_add, add_right_comm,
          add_comm (queue : Multiset κ)]
      obtain ⟨n, found, drained⟩ := ih _ cut rfl
      exact ⟨n + 1, value :: found, by simp [drain, drained]⟩

theorem Forest.acc (forest : Forest up) (finite : {value | (up value).isSome = true}.Finite) (value : κ) :
    Acc (Under up) value := by
  let There := {value // (up value).isSome = true}
  have : Finite There := finite
  let lower (first second : There) : Prop := Relation.TransGen (Under up) first second
  have : IsTrans There lower := ⟨fun _ _ _ one two => one.trans two⟩
  have : Std.Irrefl lower := ⟨fun value => (forest value value.2).acyclic⟩
  have wellFounded : WellFounded lower := Finite.wellFounded_of_trans_of_irrefl lower
  have present : ∀ value : There, Acc (Under up) value := by
    intro value
    induction value using wellFounded.induction with
    | h value ih =>
      refine .intro _ fun child below => ?_
      have there : (up child).isSome = true := by simp [show up child = _ from below]
      exact ih ⟨child, there⟩ (.single below)
  refine .intro _ fun child below => ?_
  have there : (up child).isSome = true := by simp [show up child = _ from below]
  exact present ⟨child, there⟩

theorem Forest.drain_ends (forest : Forest up) (finite : {value | (up value).isSome = true}.Finite)
    (spec : ∀ value child, child ∈ children value ↔ Under up child value) (queue : List κ) :
    ∃ n found, drain children n queue = some found := by
  have same : (fun lower upper : κ => lower ∈ children upper) = Under up := by
    funext lower upper
    exact propext (spec upper lower)
  refine Hierarchy.drain_ends (fun value itself => ?_) fun value _ => ?_
  · exact forest.irrefl value ((spec value value).mp itself)
  · rw [same]
    exact forest.acc finite value

end Search

end Hierarchy

end CNShell
