import Mathlib.Data.List.Nodup
import Mathlib.Data.List.Count

/-! Tables of rows with a primary key, and the statements that insert, change and delete rows. -/

namespace CNShell

/-- A list of rows in insertion order, no two of which share their primary key. -/
structure Table {ρ : Type u} {κ : Type v} (key : ρ → κ) where
  /-- The stored rows, oldest first. -/
  rows : List ρ
  /-- No two rows carry the same primary key. -/
  unique : (rows.map key).Nodup

/-- A change of rows that leaves their primary keys alone. -/
structure Change {ρ : Type u} {κ : Type v} (key : ρ → κ) where
  /-- The changed row. -/
  apply : ρ → ρ
  /-- The key stays what it was. -/
  keeps : ∀ row, key (apply row) = key row

namespace Table

variable {ρ : Type u} {κ : Type v} {key : ρ → κ}

@[ext] theorem ext {first second : Table key} (same : first.rows = second.rows) : first = second := by
  cases first
  cases second
  simp_all

/-- The table without rows. -/
def empty : Table key := ⟨[], by simp⟩

@[simp] theorem rows_empty : (empty : Table key).rows = [] := rfl

/-- The rows left by a deletion of every row the predicate selects. -/
def delete (table : Table key) (selected : ρ → Bool) : Table key where
  rows := table.rows.filter fun row => !selected row
  unique := table.unique.sublist (List.filter_sublist.map key)

/-- A change of every selected row that leaves all primary keys alone. -/
def update (table : Table key) (selected : ρ → Bool) (change : Change key) : Table key where
  rows := table.rows.map fun row => if selected row then change.apply row else row
  unique := by
    -- The change leaves the key alone, so the list of keys is the list it was.
    have same : (table.rows.map fun row => if selected row then change.apply row else row).map key
        = table.rows.map key := by
      simp only [List.map_map]
      refine List.map_congr_left fun row _ => ?_
      simp only [Function.comp_apply]
      split
      · exact change.keeps row
      · rfl
    rw [same]
    exact table.unique

/-- How many rows the predicate selects. -/
def count (table : Table key) (selected : ρ → Bool) : Nat := table.rows.countP selected

theorem eq_of_key {table : Table key} {first second : ρ} (one : first ∈ table.rows) (other : second ∈ table.rows)
    (same : key first = key second) : first = second :=
  List.inj_on_of_nodup_map table.unique one other same

variable {row : ρ} {selected : ρ → Bool}

@[simp] theorem mem_delete {table : Table key} :
    row ∈ (table.delete selected).rows ↔ row ∈ table.rows ∧ selected row = false := by
  simp [delete]

variable {change : Change key}

theorem mem_update {table : Table key} :
    row ∈ (table.update selected change).rows ↔
      ∃ old ∈ table.rows, (if selected old then change.apply old else old) = row := by
  simp [update]

theorem origin_update {table : Table key} (related : ρ → ρ → Prop) (same : ∀ row, related row row)
    (changed : ∀ row ∈ table.rows, selected row = true → related row (change.apply row))
    (member : row ∈ (table.update selected change).rows) : ∃ old ∈ table.rows, related old row := by
  obtain ⟨old, held, rfl⟩ := mem_update.mp member
  refine ⟨old, held, ?_⟩
  split
  · rename_i chosen
    exact changed old held chosen
  · exact same old

theorem delete_eq_self {table : Table key}
    (spared : ∀ row ∈ table.rows, selected row = false) : table.delete selected = table := by
  refine Table.ext (List.filter_eq_self.mpr fun row member => ?_)
  simp [spared row member]

theorem update_numbered {table : Table key} {numbered changed : ℕ → ρ} {n : ℕ}
    (rows : table.rows = (List.range n).map numbered) (same : ∀ i < n,
      (if selected (numbered i) then change.apply (numbered i) else numbered i) = changed i) :
    (table.update selected change).rows = (List.range n).map changed := by
  show (table.rows.map fun row => if selected row then change.apply row else row) = _
  rw [rows, List.map_map]
  exact List.map_congr_left fun i member => same i (List.mem_range.mp member)

variable [DecidableEq κ]

/-- The row stored under a primary key. -/
def find? (table : Table key) (wanted : κ) : Option ρ := table.rows.find? fun row => decide (key row = wanted)

/-- A new last row, refused when its primary key is taken. -/
def insert (table : Table key) (row : ρ) : Option (Table key) :=
  if fresh : key row ∈ table.rows.map key then none
  else some
    { rows := table.rows ++ [row]
      unique := by
        rw [List.map_append, List.nodup_append]
        refine ⟨table.unique, by simp, ?_⟩
        rintro a held b last rfl
        simp only [List.map_cons, List.map_nil, List.mem_singleton] at last
        exact fresh (last ▸ held) }

/-- An insertion that changes the row already stored under the same primary key instead. -/
def upsert (table : Table key) (row : ρ) (change : Change key) : Table key :=
  match table.insert row with
  | some inserted => inserted
  | none => table.update (fun held => decide (key held = key row)) change

/-- The row stored under its primary key, in the place of the one that was there. -/
def put (table : Table key) (row : ρ) : Table key :=
  table.upsert row
    ⟨fun held => if key held = key row then row else held, fun held => by split <;> simp [*]⟩

section Rules

variable {table : Table key}

variable {row : ρ} {wanted : κ}

theorem find?_some (found : table.find? wanted = some row) : row ∈ table.rows ∧ key row = wanted :=
  ⟨List.mem_of_find?_eq_some found, by simpa using List.find?_some found⟩

theorem find?_of_mem (held : row ∈ table.rows) : table.find? (key row) = some row := by
  -- Some row with this key is found, and injectivity on the rows makes it this one.
  have present : (table.find? (key row)).isSome := by
    simp only [find?, List.find?_isSome, decide_eq_true_eq]
    exact ⟨row, held, rfl⟩
  obtain ⟨other, found⟩ := Option.isSome_iff_exists.mp present
  have ⟨member, same⟩ := find?_some found
  rw [found, List.inj_on_of_nodup_map table.unique member held same]

theorem find?_eq_some : table.find? wanted = some row ↔ row ∈ table.rows ∧ key row = wanted := by
  constructor
  · exact find?_some
  · rintro ⟨held, rfl⟩
    exact find?_of_mem held

theorem find?_eq_none : table.find? wanted = none ↔ ∀ row ∈ table.rows, key row ≠ wanted := by
  simp [find?, List.find?_eq_none]

variable {inserted : Table key}

theorem insert_eq_some :
    table.insert row = some inserted ↔
      (∀ held ∈ table.rows, key held ≠ key row) ∧ inserted.rows = table.rows ++ [row] := by
  unfold insert
  split
  · rename_i taken
    obtain ⟨held, member, same⟩ := List.mem_map.mp taken
    constructor
    · intro impossible
      cases impossible
    · rintro ⟨fresh, -⟩
      exact absurd same (fresh held member)
  · rename_i fresh
    simp only [List.mem_map, not_exists, not_and] at fresh
    constructor
    · intro same
      cases same
      exact ⟨fresh, rfl⟩
    · rintro ⟨-, same⟩
      exact congrArg some (Table.ext same.symm)

theorem insert_eq_none : table.insert row = none ↔ ∃ held ∈ table.rows, key held = key row := by
  unfold insert
  split
  · rename_i taken
    simpa using List.mem_map.mp taken
  · rename_i fresh
    simpa using fresh

theorem mem_insert {other : ρ} (done : table.insert row = some inserted) :
    other ∈ inserted.rows ↔ other ∈ table.rows ∨ other = row := by
  rw [(insert_eq_some.mp done).2]
  simp

variable {change : Change key}

theorem rows_upsert_fresh (fresh : ∀ held ∈ table.rows, key held ≠ key row) :
    (table.upsert row change).rows = table.rows ++ [row] := by
  -- The insertion cannot have been refused, since a refusal names a row with this key.
  unfold upsert
  cases done : table.insert row with
  | none =>
    obtain ⟨held, member, same⟩ := insert_eq_none.mp done
    exact absurd same (fresh held member)
  | some inserted => exact (insert_eq_some.mp done).2

theorem upsert_taken {held : ρ} (member : held ∈ table.rows) (same : key held = key row) :
    table.upsert row change = table.update (fun held => decide (key held = key row)) change := by
  have refused : table.insert row = none := insert_eq_none.mpr ⟨held, member, same⟩
  simp [upsert, refused]

theorem mem_upsert {other : ρ} :
    other ∈ (table.upsert row change).rows ↔
      (other ∈ table.rows ∧ key other ≠ key row) ∨
      (∃ held ∈ table.rows, key held = key row ∧ other = change.apply held) ∨
      ((∀ held ∈ table.rows, key held ≠ key row) ∧ other = row) := by
  by_cases taken : ∃ held ∈ table.rows, key held = key row
  · -- The key is taken, so the upsert is an update of the row that holds it.
    obtain ⟨held, member, same⟩ := taken
    rw [upsert_taken member same, mem_update]
    constructor
    · rintro ⟨old, kept, rfl⟩
      by_cases this : key old = key row
      · exact .inr (.inl ⟨old, kept, this, by simp [this]⟩)
      · exact .inl (by simp [this, kept])
    · rintro (⟨kept, differs⟩ | ⟨old, kept, this, rfl⟩ | ⟨fresh, -⟩)
      · exact ⟨other, kept, by simp [differs]⟩
      · exact ⟨old, kept, by simp [this]⟩
      · exact absurd same (fresh held member)
  · -- The key is free, so the upsert is an insertion.
    have fresh : ∀ held ∈ table.rows, key held ≠ key row := fun held member same =>
      taken ⟨held, member, same⟩
    rw [rows_upsert_fresh fresh]
    constructor
    · intro member
      rcases List.mem_append.mp member with kept | last
      · exact .inl ⟨kept, fresh other kept⟩
      · exact .inr (.inr ⟨fresh, by simpa using last⟩)
    · rintro (⟨kept, -⟩ | ⟨old, kept, this, -⟩ | ⟨-, rfl⟩)
      · exact List.mem_append.mpr (.inl kept)
      · exact absurd this (fresh old kept)
      · simp

variable {selected : ρ → Bool}

theorem find?_delete : (table.delete selected).find? wanted =
      (table.find? wanted).filter fun row => !selected row := by
  -- Keys are unique, so the only candidate is the row the table already held.
  cases found : table.find? wanted with
  | none =>
    rw [find?_eq_none] at found
    simp only [Option.filter_none]
    exact find?_eq_none.mpr fun row member => found row (mem_delete.mp member).1
  | some row =>
    obtain ⟨member, same⟩ := find?_some found
    by_cases gone : selected row
    · simp only [Option.filter_some, gone, Bool.not_true, Bool.false_eq_true, ↓reduceIte]
      refine find?_eq_none.mpr fun other left sameKey => ?_
      obtain ⟨held, spared⟩ := mem_delete.mp left
      rw [eq_of_key held member (sameKey.trans same.symm)] at spared
      simp [gone] at spared
    · simp only [Option.filter_some, gone, Bool.not_false, ↓reduceIte]
      exact find?_eq_some.mpr ⟨mem_delete.mpr ⟨member, by simpa using gone⟩, same⟩

variable {change : Change key}

theorem find?_update : (table.update selected change).find? wanted =
      (table.find? wanted).map fun row => if selected row then change.apply row else row := by
  -- The change keys, so the row found after it comes from the row found before.
  have keyed : ∀ row, key (if selected row then change.apply row else row) = key row := by
    intro row
    split
    · exact change.keeps row
    · rfl
  cases found : table.find? wanted with
  | none =>
    rw [find?_eq_none] at found
    refine find?_eq_none.mpr fun row member => ?_
    obtain ⟨old, held, rfl⟩ := mem_update.mp member
    rw [keyed]
    exact found old held
  | some row =>
    obtain ⟨member, same⟩ := find?_some found
    exact find?_eq_some.mpr ⟨mem_update.mpr ⟨row, member, rfl⟩, (keyed row).trans same⟩

theorem find?_delete_chosen (chosen : ∀ row, key row = wanted → selected row = true) :
    (table.delete selected).find? wanted = none := by
  rw [find?_delete, Option.filter_eq_none_iff]
  intro row found
  simp [chosen row (find?_some found).2]

theorem find?_delete_spared (spared : ∀ row, key row = wanted → selected row = false) :
    (table.delete selected).find? wanted = table.find? wanted := by
  rw [find?_delete]
  cases found : table.find? wanted with
  | none => rfl
  | some row => simp [spared row (find?_some found).2]

theorem find?_update_spared (spared : ∀ row, key row = wanted → selected row = false) :
    (table.update selected change).find? wanted = table.find? wanted := by
  rw [find?_update]
  cases found : table.find? wanted with
  | none => rfl
  | some row => simp [spared row (find?_some found).2]

theorem count_eq_one (keyed : ∀ row, selected row = true → key row = wanted) :
    table.count selected = 1 ↔ ∃ row, table.find? wanted = some row ∧ selected row = true := by
  -- The selected rows all carry one key, and keys are unique, so there is at most one of them.
  have single : table.count selected ≤ 1 := by
    have keys : ((table.rows.filter selected).map key) = List.replicate (table.count selected) wanted := by
      refine List.eq_replicate_iff.mpr ⟨by simp [count, List.countP_eq_length_filter], ?_⟩
      simp only [List.mem_map, List.mem_filter, forall_exists_index, and_imp]
      rintro _ row _ chosen rfl
      exact keyed row chosen
    have distinct : ((table.rows.filter selected).map key).Nodup :=
      table.unique.sublist (List.filter_sublist.map key)
    rw [keys] at distinct
    exact List.nodup_replicate.mp distinct
  have some_iff : 0 < table.count selected ↔ ∃ row ∈ table.rows, selected row = true :=
    List.countP_pos_iff
  constructor
  · intro one
    obtain ⟨row, member, chosen⟩ := some_iff.mp (by omega)
    exact ⟨row, find?_eq_some.mpr ⟨member, keyed row chosen⟩, chosen⟩
  · rintro ⟨row, found, chosen⟩
    have := some_iff.mpr ⟨row, (find?_some found).1, chosen⟩
    omega

theorem exists_other (wanted : κ) (several : 1 < table.count selected) :
    ∃ row ∈ table.rows, selected row = true ∧ key row ≠ wanted := by
  by_contra alone
  -- All selected rows carry the one key, and no two rows share it.
  have nodup := table.unique.sublist ((List.filter_sublist (p := selected)).map key)
  have single : (table.rows.filter selected).length ≤ 1 := by
    rw [← List.length_map key]
    have subset : (table.rows.filter selected).map key ⊆ [wanted] := by
      intro name listed
      obtain ⟨row, chosen, rfl⟩ := List.mem_map.mp listed
      obtain ⟨stored, hit⟩ := List.mem_filter.mp chosen
      by_contra apart
      exact alone ⟨row, stored, hit, by simpa using apart⟩
    exact (List.subperm_of_subset nodup subset).length_le
  rw [count, List.countP_eq_length_filter] at several
  omega

theorem find?_insert (done : table.insert row = some inserted) :
    inserted.find? wanted = if wanted = key row then some row else table.find? wanted := by
  obtain ⟨fresh, rows⟩ := insert_eq_some.mp done
  split
  · rename_i this
    exact find?_eq_some.mpr ⟨(mem_insert done).mpr (.inr rfl), this.symm⟩
  · rename_i differs
    cases found : table.find? wanted with
    | none =>
      rw [find?_eq_none] at found ⊢
      intro other member same
      rcases (mem_insert done).mp member with held | rfl
      · exact found other held same
      · exact differs same.symm
    | some other =>
      obtain ⟨held, same⟩ := find?_some found
      exact find?_eq_some.mpr ⟨(mem_insert done).mpr (.inl held), same⟩

theorem find?_upsert : (table.upsert row change).find? wanted =
      if wanted = key row then some ((table.find? wanted).elim row change.apply)
      else table.find? wanted := by
  unfold upsert
  cases done : table.insert row with
  | none =>
    -- The key is taken, so the row found under it is the one that changes.
    obtain ⟨held, member, same⟩ := insert_eq_none.mp done
    have stored := find?_of_mem member
    simp only [find?_update]
    split
    · rename_i this
      rw [this, ← same, stored]
      simp [same]
    · rename_i differs
      cases found : table.find? wanted with
      | none => rfl
      | some other =>
        have keyed := (find?_some found).2
        simp [keyed, differs]
  | some inserted =>
    -- The key is free, so nothing was found under it before.
    rw [find?_insert done]
    split
    · rename_i this
      have absent : table.find? wanted = none :=
        find?_eq_none.mpr fun held member same =>
          (insert_eq_some.mp done).1 held member (same.trans this)
      simp [absent]
    · rfl

theorem find?_put : (table.put row).find? wanted = if wanted = key row then some row else table.find? wanted := by
  rw [put, find?_upsert]
  by_cases same : wanted = key row
  · rw [if_pos same, if_pos same]
    cases found : table.find? wanted with
    | none => rfl
    | some held =>
      -- The row that was there has the wanted key, so it is the one that is replaced.
      have keyed := (find?_some found).2
      simp [keyed, same]
  · rw [if_neg same, if_neg same]

theorem mem_put {other : ρ} :
    other ∈ (table.put row).rows ↔ other = row ∨ other ∈ table.rows ∧ key other ≠ key row := by
  constructor
  · intro member
    have found := find?_of_mem member
    rw [find?_put] at found
    split at found
    · exact .inl (Option.some.inj found).symm
    · rename_i differs
      exact .inr ⟨(find?_some found).1, differs⟩
  · intro either
    suffices found : (table.put row).find? (key other) = some other from (find?_some found).1
    rw [find?_put]
    rcases either with rfl | ⟨held, differs⟩
    · exact if_pos rfl
    · rw [if_neg differs, find?_of_mem held]

theorem map_put {old : ρ} {looks : ρ → β} (found : table.find? (key row) = some old)
    (same : looks row = looks old) : (table.put row).rows.map looks = table.rows.map looks := by
  obtain ⟨held, keyed⟩ := find?_some found
  rw [put, upsert_taken held keyed]
  show (table.rows.map fun _ => _).map looks = _
  rw [List.map_map]
  refine List.map_congr_left fun other member => ?_
  simp only [Function.comp_apply]
  by_cases taken : key other = key row
  · -- The one row of this key is the old one.
    obtain rfl := eq_of_key member held (taken.trans keyed.symm)
    simp [taken, same]
  · simp [taken]

theorem count_put {old : ρ} (found : table.find? (key row) = some old) (selected : ρ → Bool) :
    (table.put row).count selected + (if selected old = true then 1 else 0) =
      table.count selected + (if selected row = true then 1 else 0) := by
  obtain ⟨held, keyed⟩ := find?_some found
  obtain ⟨before, after, split⟩ := List.append_of_mem held
  -- No other row has the key, so the rows before and after stay as they are.
  have distinct := table.unique
  rw [split, List.map_append, List.map_cons, List.nodup_append] at distinct
  obtain ⟨-, later, apart⟩ := distinct
  have others : ∀ other ∈ before ++ after, key other ≠ key row := by
    intro other member same
    rcases List.mem_append.mp member with early | late
    · exact apart _ (List.mem_map_of_mem early) _ (by simp) (same.trans keyed.symm)
    · exact (List.nodup_cons.mp later).1
        (List.mem_map.mpr ⟨other, late, same.trans keyed.symm⟩)
  have stays : ∀ rows : List ρ, (∀ other ∈ rows, key other ≠ key row) →
      rows.map (fun held => if decide (key held = key row) = true then
        (if key held = key row then row else held) else held) = rows := by
    intro rows differ
    refine (List.map_congr_left fun other member => ?_).trans (List.map_id' rows)
    simp [differ other member]
  have rows : (table.put row).rows = before ++ row :: after := by
    rw [put, upsert_taken held keyed]
    show (table.rows.map fun _ => _) = _
    rw [split, List.map_append, List.map_cons,
      stays before fun other member => others other (List.mem_append.mpr (.inl member)),
      stays after fun other member => others other (List.mem_append.mpr (.inr member))]
    simp [keyed]
  simp only [count, rows, split, List.countP_append, List.countP_cons]
  omega

theorem count_insert (done : table.insert row = some inserted) (selected : ρ → Bool) :
    inserted.count selected = table.count selected + (if selected row = true then 1 else 0) := by
  simp [count, (insert_eq_some.mp done).2, List.countP_append, List.countP_cons]

/-- The rows of one table, put one after the other into another as far as a predicate keeps them. -/
def override (table overriding : Table key) (keeps : ρ → Bool) : Table key :=
  overriding.rows.foldl (fun table row => if keeps row = true then table.put row else table) table

theorem find?_override {overriding : Table key} {keeps : ρ → Bool} : (table.override overriding keeps).find? wanted =
      ((overriding.find? wanted).filter keeps).or (table.find? wanted) := by
  -- The fold goes through any list of rows with distinct keys.
  have general : ∀ (rows : List ρ) (table : Table key), (rows.map key).Nodup →
      (rows.foldl (fun table row => if keeps row = true then table.put row else table) table).find?
          wanted =
        ((rows.find? fun row => decide (key row = wanted)).filter keeps).or (table.find? wanted) := by
    intro rows
    induction rows with
    | nil => simp
    | cons row rows ih =>
      intro table distinct
      obtain ⟨apart, distinct⟩ := List.nodup_cons.mp distinct
      rw [List.foldl_cons, ih _ distinct]
      by_cases same : key row = wanted
      · -- No later row has this key, so the first one decides.
        have none : (rows.find? fun row => decide (key row = wanted)) = none := by
          simp only [List.find?_eq_none, decide_eq_true_eq]
          exact fun other later equal =>
            apart (List.mem_map.mpr ⟨other, later, equal.trans same.symm⟩)
        rw [none, List.find?_cons_of_pos (by simp [same])]
        by_cases kept : keeps row = true
        · simp [kept, find?_put, same, Option.filter_some]
        · simp [kept, Option.filter_some]
      · rw [List.find?_cons_of_neg (by simp [same])]
        by_cases kept : keeps row = true
        · simp [kept, find?_put, Ne.symm same]
        · simp [kept]
  exact general overriding.rows table overriding.unique

end Rules

section Numbered

variable {table : Table key} {numbered : ℕ → ρ} {n : ℕ}

theorem find?_numbered (rows : table.rows = (List.range n).map numbered) {i : ℕ} (below : i < n)
    {wanted : κ} (keyed : key (numbered i) = wanted) : table.find? wanted = some (numbered i) :=
  find?_eq_some.mpr ⟨rows ▸ List.mem_map.mpr ⟨i, List.mem_range.mpr below, rfl⟩, keyed⟩

theorem insert_numbered (rows : table.rows = (List.range n).map numbered)
    (fresh : ∀ i < n, key (numbered i) ≠ key (numbered n)) :
    ∃ grown, table.insert (numbered n) = some grown ∧ grown.rows = (List.range (n + 1)).map numbered := by
  have free : ∀ held ∈ table.rows, key held ≠ key (numbered n) := by
    intro held member
    rw [rows] at member
    obtain ⟨i, below, rfl⟩ := List.mem_map.mp member
    exact fresh i (List.mem_range.mp below)
  cases done : table.insert (numbered n) with
  | none =>
    obtain ⟨held, member, same⟩ := insert_eq_none.mp done
    exact absurd same (free held member)
  | some grown =>
    refine ⟨grown, rfl, ?_⟩
    rw [(insert_eq_some.mp done).2, rows, List.range_succ, List.map_append, List.map_singleton]

theorem upsert_numbered (rows : table.rows = (List.range n).map numbered) {change : Change key}
    (fresh : ∀ i < n, key (numbered i) ≠ key (numbered n)) :
    (table.upsert (numbered n) change).rows = (List.range (n + 1)).map numbered := by
  have free : ∀ held ∈ table.rows, key held ≠ key (numbered n) := by
    intro held member
    rw [rows] at member
    obtain ⟨i, below, rfl⟩ := List.mem_map.mp member
    exact fresh i (List.mem_range.mp below)
  rw [rows_upsert_fresh free, rows, List.range_succ, List.map_append, List.map_singleton]

end Numbered

end Table

theorem find?_numbered {ρ : Type u} {numbered : ℕ → ρ} {n i : ℕ} {selected : ρ → Bool}
    (below : i < n) (only : ∀ j < n, selected (numbered j) = true ↔ j = i) :
    ((List.range n).map numbered).find? selected = some (numbered i) := by
  cases found : ((List.range n).map numbered).find? selected with
  | none =>
    rw [List.find?_eq_none] at found
    have missed := found (numbered i) (List.mem_map.mpr ⟨i, List.mem_range.mpr below, rfl⟩)
    exact absurd ((only i below).mpr rfl) missed
  | some row =>
    obtain ⟨j, inside, rfl⟩ := List.mem_map.mp (List.mem_of_find?_eq_some found)
    rw [(only j (List.mem_range.mp inside)).mp (List.find?_some found)]

namespace Table

variable {ρ : Type u} {κ : Type v} {key : ρ → κ}

/-- Every child row names, in one column, the primary key of a stored parent row. -/
def Refers {ρ' : Type w} {key' : ρ' → κ'} (children : Table key') (column : ρ' → κ)
    (parents : Table key) : Prop :=
  ∀ child ∈ children.rows, ∃ parent ∈ parents.rows, key parent = column child

instance [DecidableEq κ] {ρ' : Type w} {key' : ρ' → κ'} (children : Table key') (column : ρ' → κ)
    (parents : Table key) : Decidable (Refers children column parents) :=
  inferInstanceAs (Decidable (∀ child ∈ children.rows, ∃ parent ∈ parents.rows, _))

namespace Refers

variable {ρ' : Type w} {κ' : Type x} {key' : ρ' → κ'} {children : Table key'} {column : ρ' → κ}
  {parents : Table key}

theorem of_mem {grown : Table key'} (refers : Refers children column parents)
    (origin : ∀ child ∈ grown.rows, child ∈ children.rows ∨ ∃ parent ∈ parents.rows, key parent = column child) :
    Refers grown column parents := by
  intro child member
  rcases origin child member with old | new
  · exact refers child old
  · exact new

theorem update_child (refers : Refers children column parents) {selected : ρ' → Bool}
    {change : Change key'} (same : ∀ row, column (change.apply row) = column row) :
    Refers (children.update selected change) column parents := by
  intro child member
  obtain ⟨old, held, rfl⟩ := mem_update.mp member
  obtain ⟨parent, stored, names⟩ := refers old held
  refine ⟨parent, stored, names.trans ?_⟩
  split
  · exact (same old).symm
  · rfl

theorem insert_child [DecidableEq κ'] (refers : Refers children column parents) {row : ρ'}
    {inserted : Table key'} (done : children.insert row = some inserted)
    (names : ∃ parent ∈ parents.rows, key parent = column row) :
    Refers inserted column parents := by
  refine refers.of_mem fun child member => ?_
  rcases (mem_insert done).mp member with old | rfl
  · exact .inl old
  · exact .inr names

theorem insert_parent [DecidableEq κ] (refers : Refers children column parents) {row : ρ}
    {inserted : Table key} (done : parents.insert row = some inserted) :
    Refers children column inserted := by
  intro child member
  obtain ⟨parent, stored, names⟩ := refers child member
  exact ⟨parent, (mem_insert done).mpr (.inl stored), names⟩

variable {selected : ρ → Bool}

theorem update_parent (refers : Refers children column parents) {change : Change key} :
    Refers children column (parents.update selected change) := by
  intro child member
  obtain ⟨parent, stored, names⟩ := refers child member
  refine ⟨_, mem_update.mpr ⟨parent, stored, rfl⟩, ?_⟩
  split
  · exact (change.keeps parent).trans names
  · exact names

theorem delete_parent (refers : Refers children column parents)
    {cascaded : ρ' → Bool} (cascades : ∀ child ∈ children.rows, ∀ parent ∈ parents.rows,
      key parent = column child → selected parent = true → cascaded child = true) :
    Refers (children.delete cascaded) column (parents.delete selected) := by
  intro child member
  obtain ⟨held, spared⟩ := mem_delete.mp member
  obtain ⟨parent, stored, names⟩ := refers child held
  refine ⟨parent, mem_delete.mpr ⟨stored, ?_⟩, names⟩
  by_contra gone
  simp [cascades child held parent stored names (by simpa using gone)] at spared

end Refers

end Table

theorem length_filter_numbered {ρ : Type u} {numbered : ℕ → ρ} {n : ℕ} {selected : ρ → Bool} (i : ℕ)
    (only : ∀ j < n, selected (numbered j) = true ↔ j = i) :
    (((List.range n).map numbered).filter selected).length ≤ 1 := by
  have same : List.countP (selected ∘ numbered) (List.range n) = List.count i (List.range n) :=
    List.countP_congr fun j member => by simpa using only j (List.mem_range.mp member)
  rw [← List.countP_eq_length_filter, List.countP_map, same]
  exact List.nodup_iff_count_le_one.mp List.nodup_range i

end CNShell
