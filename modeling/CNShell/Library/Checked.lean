import Mathlib.Data.List.Forall2

/-! Checks that stop a fallible computation, and the rules that read a successful run backwards. -/

namespace CNShell

/-- A check that stops the computation with the given error when the condition fails. -/
def ensure {ε : Type u} (condition : Prop) [Decidable condition] (error : ε) : Except ε Unit :=
  if condition then .ok () else .error error

/-- The value of an option, or the given error when there is none. -/
def required {ε : Type u} {α : Type v} (value : Option α) (error : ε) : Except ε α :=
  match value with
  | some found => .ok found
  | none => .error error

section Rules

variable {ε : Type u} {α β : Type v}

variable {error : ε} {condition : Prop}

@[simp] theorem ensure_eq_ok [Decidable condition] {u : Unit} : ensure condition error = .ok u ↔ condition := by
  -- Both branches of the check are closed terms.
  unfold ensure
  split <;> simp [*]

theorem ensure_of [Decidable condition] (holds : condition) (error : ε) : ensure condition error = .ok () := by
  simp [ensure, holds]

theorem ensure_of_not [Decidable condition] (fails : ¬condition) (error : ε) :
    ensure condition error = .error error := by
  simp [ensure, fails]

@[simp] theorem required_eq_ok {value : Option α} {found : α} :
    required value error = .ok found ↔ value = some found := by
  cases value <;> simp [required]

@[simp] theorem required_some (found : α) (error : ε) : required (some found) error = .ok found := rfl

@[simp] theorem required_none (error : ε) : required (none : Option α) error = .error error := rfl

variable {result : β}

variable {first : Except ε α}

@[simp] theorem bind_eq_ok {second : α → Except ε β} :
    (first >>= second) = .ok result ↔ ∃ value, first = .ok value ∧ second value = .ok result := by
  cases first <;> simp [Bind.bind, Except.bind]

@[simp] theorem pure_eq_ok {value result : α} : (pure value : Except ε α) = .ok result ↔ value = result := by
  simp [pure, Except.pure]

@[simp] theorem map_eq_ok {change : α → β} :
    change <$> first = .ok result ↔ ∃ value, first = .ok value ∧ change value = result := by
  cases first <;> simp [Functor.map, Except.map]

@[simp] theorem ok_bind (value : α) (second : α → Except ε β) : (Except.ok value >>= second) = second value := rfl

@[simp] theorem error_bind (error : ε) (second : α → Except ε β) :
    (Except.error error >>= second) = .error error := rfl

variable {ε' : Type w}

@[simp] theorem mapError_eq_ok {first : Except ε α} {words : ε → ε'} {result : α} :
    first.mapError words = .ok result ↔ first = .ok result := by
  cases first <;> simp [Except.mapError]

variable {failure : ε}

theorem ensure_fails_iff [Decidable condition] :
    ensure condition error = .error failure ↔ ¬condition ∧ error = failure := by
  unfold ensure
  split <;> simp [*]

variable {first : Except ε α}

theorem bind_fails_iff {second : α → Except ε β} : (first >>= second) = .error failure ↔
      first = .error failure ∨ ∃ value, first = .ok value ∧ second value = .error failure := by
  cases first <;> simp [Bind.bind, Except.bind]

theorem mapError_fails_iff {words : ε → ε'} {failure : ε'} :
    first.mapError words = .error failure ↔ ∃ error, first = .error error ∧ words error = failure := by
  cases first <;> simp [Except.mapError]

theorem pure_not_fails {value : α} : (pure value : Except ε α) ≠ .error failure := by
  simp [pure, Except.pure]

variable {ι : Type w}

theorem mapM_fails {step : ι → Except ε β} {items : List ι}
    (failed : items.mapM step = .error failure) : ∃ item ∈ items, step item = .error failure := by
  induction items with
  | nil => exact absurd failed pure_not_fails
  | cons item items ih =>
    rw [List.mapM_cons, bind_fails_iff] at failed
    rcases failed with here | ⟨result, -, failed⟩
    · exact ⟨item, List.mem_cons_self, here⟩
    · rcases bind_fails_iff.mp failed with later | ⟨results, -, failed⟩
      · obtain ⟨other, member, there⟩ := ih later
        exact ⟨other, List.mem_cons_of_mem _ member, there⟩
      · exact absurd failed pure_not_fails

variable {results : List β}

theorem mapM_eq_ok {step : ι → Except ε β} {items : List ι} :
    items.mapM step = .ok results ↔ List.Forall₂ (fun item result => step item = .ok result) items results := by
  induction items generalizing results with
  | nil =>
    rw [List.mapM_nil, pure_eq_ok, List.forall₂_nil_left_iff]
    exact eq_comm
  | cons item items ih =>
    simp only [List.mapM_cons, bind_eq_ok, pure_eq_ok, List.forall₂_cons_left_iff, ih]
    constructor
    · rintro ⟨result, first, rest, others, rfl⟩
      exact ⟨result, rest, first, others, rfl⟩
    · rintro ⟨result, rest, first, others, rfl⟩
      exact ⟨result, first, rest, others, rfl⟩

theorem mapM_comes {step : ι → Except ε β} {items : List ι}
    (done : items.mapM step = .ok results) (member : result ∈ results) : ∃ item ∈ items, step item = .ok result := by
  have steps := (mapM_eq_ok.mp done).flip
  obtain ⟨i, below, rfl⟩ := List.mem_iff_getElem.mp member
  have other : i < items.length := steps.length_eq ▸ below
  exact ⟨items[i], List.getElem_mem other, steps.get below other⟩

theorem mapM_leads {step : ι → Except ε β} {items : List ι}
    (done : items.mapM step = .ok results) {item : ι} (member : item ∈ items) :
    ∃ result ∈ results, step item = .ok result := by
  have steps := mapM_eq_ok.mp done
  obtain ⟨i, below, rfl⟩ := List.mem_iff_getElem.mp member
  have other : i < results.length := steps.length_eq ▸ below
  exact ⟨results[i], List.getElem_mem other, steps.get below other⟩

section Folds

variable {σ κ : Type v} {ρ : Type w} {step : σ → α → Except ε σ} {items : List α}
variable {store next : σ}

theorem foldlM_cons_ok {item : α} :
    (item :: items).foldlM step store = .ok next ↔
      ∃ between, step store item = .ok between ∧ items.foldlM step between = .ok next := by
  rw [List.foldlM_cons, bind_eq_ok]

theorem foldlM_distinct {key : α → κ} {good : α → Prop} {step : List κ → α → Except ε (List κ)}
    (spec : ∀ seen item seen', step seen item = .ok seen' ↔
      good item ∧ key item ∉ seen ∧ seen' = key item :: seen) {seen seen' : List κ} :
    items.foldlM step seen = .ok seen' ↔
      (∀ item ∈ items, good item) ∧ (items.map key).Nodup ∧ (∀ item ∈ items, key item ∉ seen) ∧
        seen' = (items.map key).reverse ++ seen := by
  induction items generalizing seen with
  | nil =>
    have unchanged : ([] : List α).foldlM step seen = .ok seen' ↔ seen = seen' := pure_eq_ok
    rw [unchanged]
    simp [eq_comm]
  | cons item items ih =>
    rw [foldlM_cons_ok]
    simp only [spec, ih, List.forall_mem_cons, List.map_cons, List.nodup_cons, List.reverse_cons,
      List.append_assoc, List.singleton_append]
    constructor
    · intro given
      obtain ⟨_, ⟨passed, fresh, rfl⟩, goods, distinct, apart, rfl⟩ := given
      refine ⟨⟨passed, goods⟩, ⟨?_, distinct⟩, ⟨fresh, fun other later => ?_⟩, rfl⟩
      · intro repeated
        obtain ⟨other, later, same⟩ := List.mem_map.mp repeated
        exact apart other later (by simp [same])
      · exact fun held => apart other later (List.mem_cons_of_mem _ held)
    · intro given
      obtain ⟨⟨passed, goods⟩, ⟨once, distinct⟩, ⟨fresh, apart⟩, rfl⟩ := given
      refine ⟨_, ⟨passed, fresh, rfl⟩, goods, distinct, fun other later => ?_, rfl⟩
      intro held
      rcases List.mem_cons.mp held with same | before
      · exact once (List.mem_map.mpr ⟨other, later, same⟩)
      · exact apart other later before

end Folds

end Rules

end CNShell
