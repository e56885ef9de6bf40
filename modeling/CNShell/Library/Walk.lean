import Mathlib.Data.List.Basic

/-! Walks along references, from each value to at most one next one, and the keys they come back to. -/

namespace CNShell

namespace Walk

variable {α : Type u} {κ : Type v} {next : α → Option α} {key : α → κ}

/-- Where some number of references lead. -/
def hop (next : α → Option α) : Nat → α → Option α
  | 0, value => some value
  | n + 1, value => (next value).bind (hop next n)

/-- A walk that has been at some keys comes back to one of its keys. -/
inductive Returns (next : α → Option α) (key : α → κ) : List κ → α → Prop
  | here {visited : List κ} {value : α} (again : key value ∈ visited) : Returns next key visited value
  | onward {visited : List κ} {value onto : α} (new : key value ∉ visited)
      (leads : next value = some onto) (later : Returns next key (visited ++ [key value]) onto) :
      Returns next key visited value

/-- Two numbers of references lead to values of one key. -/
def Cyclic (next : α → Option α) (key : α → κ) (value : α) : Prop :=
  ∃ i j first second, i < j ∧ hop next i value = some first ∧ hop next j value = some second ∧ key first = key second

variable {value : α}

variable {visited : List κ}

theorem returns_onward_iff {onto : α} (new : key value ∉ visited) (leads : next value = some onto) :
    Returns next key visited value ↔ Returns next key (visited ++ [key value]) onto := by
  constructor
  · intro returns
    cases returns with
    | here again => exact absurd again new
    | onward _ there later =>
      obtain rfl : onto = _ := Option.some.inj (leads.symm.trans there)
      exact later
  · exact .onward new leads

theorem not_returns (new : key value ∉ visited) (ends : next value = none) : ¬Returns next key visited value := by
  intro returns
  cases returns with
  | here again => exact new again
  | onward _ leads later => cases ends.symm.trans leads

theorem returns_iff :
    Returns next key visited value ↔
      ∃ n reached, hop next n value = some reached ∧
        (key reached ∈ visited ∨ ∃ i < n, ∃ earlier, hop next i value = some earlier ∧
          key earlier = key reached) := by
  constructor
  · intro returns
    induction returns with
    | here again => exact ⟨0, _, rfl, .inl again⟩
    | @onward visited value onto new leads later ih =>
      obtain ⟨n, reached, there, was⟩ := ih
      have further : ∀ i, hop next (i + 1) value = hop next i onto := fun i => by
        simp [hop, leads]
      refine ⟨n + 1, reached, (further n).trans there, ?_⟩
      rcases was with member | ⟨i, below, earlier, met, same⟩
      · -- The key it was at is one from before, or that of the value it just left.
        rcases List.mem_append.mp member with old | last
        · exact .inl old
        · exact .inr ⟨0, n.succ_pos, value, rfl, (List.mem_singleton.mp last).symm⟩
      · exact .inr ⟨i + 1, Nat.succ_lt_succ below, earlier, (further i).trans met, same⟩
  · rintro ⟨n, reached, there, was⟩
    -- The induction is on the number of references; the visited keys grow by one at each.
    induction n generalizing visited value with
    | zero =>
      obtain rfl : value = reached := Option.some.inj there
      rcases was with member | ⟨i, below, -⟩
      · exact .here member
      · exact absurd below (Nat.not_lt_zero i)
    | succ n ih =>
      by_cases new : key value ∈ visited
      · exact .here new
      obtain ⟨onto, leads, rest⟩ := Option.bind_eq_some_iff.mp there
      refine .onward new leads (ih rest ?_)
      rcases was with member | ⟨i, below, earlier, met, same⟩
      · exact .inl (List.mem_append_left _ member)
      · cases i with
        | zero =>
          obtain rfl : value = earlier := Option.some.inj met
          exact .inl (List.mem_append_right _ (List.mem_singleton.mpr same.symm))
        | succ i =>
          have met : hop next i onto = some earlier := by simpa [hop, leads] using met
          exact .inr ⟨i, Nat.lt_of_succ_lt_succ below, earlier, met, same⟩

theorem returns_nil_iff : Returns next key [] value ↔ Cyclic next key value := by
  rw [returns_iff]
  constructor
  · rintro ⟨n, reached, there, member | ⟨i, below, earlier, met, same⟩⟩
    · simp at member
    · exact ⟨i, n, earlier, reached, below, met, there, same⟩
  · rintro ⟨i, j, first, second, below, met, there, same⟩
    exact ⟨j, second, there, .inr ⟨i, below, first, met, same⟩⟩

variable [DecidableEq κ]

/-- How many keys of some, and of the value at hand, a walk has not been at. -/
def unvisited (key : α → κ) (keys visited : List κ) (value : α) : Nat :=
  (keys.filter fun other => other ∉ visited).length + if key value ∈ keys then 0 else 1

theorem unvisited_lt {keys visited : List κ} {value onto : α} (new : key value ∉ visited)
    (there : key onto ∈ keys) :
    unvisited key keys (visited ++ [key value]) onto < unvisited key keys visited value := by
  -- What is still not visited was not visited before.
  have split : (keys.filter fun other => other ∉ visited ++ [key value]) =
      (keys.filter fun other => other ∉ visited).filter fun other => other ≠ key value := by
    rw [List.filter_filter]
    exact List.filter_congr fun other _ => by
      simp only [List.mem_append, List.mem_singleton, not_or, ne_eq, Bool.decide_and, Bool.and_comm]
  simp only [unvisited, split, if_pos there]
  split
  · -- The key of the value is one of them, and is visited now.
    next known =>
    have here : key value ∈ keys.filter fun other => other ∉ visited := by simp [known, new]
    have fewer := List.length_filter_lt_length_iff_exists
      (p := fun other => decide (other ≠ key value)).mpr ⟨key value, here, by simp⟩
    omega
  · have most := List.length_filter_le (fun other => decide (other ≠ key value))
      (keys.filter fun other => other ∉ visited)
    omega

end Walk

end CNShell
