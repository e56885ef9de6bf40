import CNShell.Library.Text
import Mathlib.Data.List.Infix

/-! Paths of a Unix file system as texts, and the names they consist of. -/

namespace CNShell

instance lawfulNames : LawfulBEq (List Char) := inferInstance

/-- The names of a path in order, without the empty ones and those of the directory itself. -/
def components (path : List Char) : List (List Char) := (path.splitOn '/').filter fun name => name ≠ [] ∧ name ≠ ['.']

/-- A name that an entry of a directory can have. -/
structure Plain (name : List Char) : Prop where
  whole : '/' ∉ name
  filled : name ≠ []
  entry : name ≠ ['.'] ∧ name ≠ ['.', '.']

instance (name : List Char) : Decidable (Plain name) :=
  decidable_of_iff ('/' ∉ name ∧ name ≠ [] ∧ name ≠ ['.'] ∧ name ≠ ['.', '.'])
    ⟨fun ⟨whole, filled, entry⟩ => ⟨whole, filled, entry⟩, fun plain => ⟨plain.whole, plain.filled, plain.entry⟩⟩

/-- The text of the absolute path with some names. -/
def absolute (names : List (List Char)) : List Char := '/' :: ['/'].intercalate names

/-- What a path has up to its last slash. -/
def directoryPart (path : List Char) : List Char := path.rdropWhile fun char => char ≠ '/'

/-- What a path has after its last slash. -/
def fileName (path : List Char) : List Char := path.rtakeWhile fun char => char ≠ '/'

/-- The names that lead from the root to what a path stands for, where no name on the way is a link. -/
def place (path : List Char) : List (List Char) :=
  (components path).foldl (fun names name => if name = ['.', '.'] then names.dropLast else names ++ [name]) []

theorem Plain.of_mem {name : List Char} {char : Char} (whole : '/' ∉ name) (member : char ∈ name)
    (other : char ≠ '.') : Plain name where
  whole := whole
  filled := List.ne_nil_of_mem member
  entry := by
    constructor
    · rintro rfl
      exact other (by simpa using member)
    · rintro rfl
      exact other (by simpa using member)

section Components

variable {path name : List Char} {names : List (List Char)}

@[simp] theorem components_slash (before after : List Char) :
    components (before ++ '/' :: after) = components before ++ components after := by
  rw [components, List.splitOn_append_cons_self, List.filter_append]
  rfl

@[simp] theorem components_nil : components [] = [] := rfl

@[simp] theorem components_cons_slash (path : List Char) : components ('/' :: path) = components path := by
  simpa using components_slash [] path

@[simp] theorem components_append_slash (path : List Char) : components (path ++ ['/']) = components path := by
  rw [components_slash, components_nil, List.append_nil]

theorem components_of_whole (whole : '/' ∉ name) :
    components name = if name ≠ [] ∧ name ≠ ['.'] then [name] else [] := by
  rw [components, List.splitOn_eq_singleton whole]
  by_cases counts : name ≠ [] ∧ name ≠ ['.']
  · simp [counts]
  · rw [if_neg counts, List.filter_eq_nil_iff]
    intro only member
    obtain rfl := List.mem_singleton.mp member
    simpa using counts

theorem components_of_plain (plain : Plain name) : components name = [name] := by
  rw [components_of_whole plain.whole, if_pos ⟨plain.filled, plain.entry.1⟩]

theorem whole_of_mem_components (member : name ∈ components path) : '/' ∉ name ∧ name ≠ [] ∧ name ≠ ['.'] := by
  obtain ⟨piece, counts⟩ := List.mem_filter.mp member
  exact ⟨not_mem_of_mem_splitOn piece, by simpa using counts⟩

theorem plain_of_mem_components (member : name ∈ components path) (forward : name ≠ ['.', '.']) : Plain name := by
  obtain ⟨whole, filled, entry⟩ := whole_of_mem_components member
  exact ⟨whole, filled, entry, forward⟩

theorem components_absolute_of_whole (whole : ∀ name ∈ names, '/' ∉ name ∧ name ≠ [] ∧ name ≠ ['.']) :
    components (absolute names) = names := by
  rw [absolute, components_cons_slash]
  induction names with
  | nil => rfl
  | cons first rest ih =>
    have one : components first = [first] := by
      rw [components_of_whole (whole first List.mem_cons_self).1, if_pos (whole first List.mem_cons_self).2]
    have others := ih fun name member => whole name (List.mem_cons_of_mem first member)
    cases rest with
    | nil => simpa using one
    | cons second rest => rw [List.intercalate_cons_cons, List.append_assoc, List.singleton_append,
        components_slash, one, others, List.singleton_append]

theorem components_absolute (plain : ∀ name ∈ names, Plain name) : components (absolute names) = names :=
  components_absolute_of_whole fun name member =>
    ⟨(plain name member).whole, (plain name member).filled, (plain name member).entry.1⟩

end Components

section Places

variable {path name : List Char}

@[simp] theorem components_rdropWhile_slash (path : List Char) :
    components (path.rdropWhile fun char => char = '/') = components path := by
  -- The induction takes the slashes from the end one by one.
  induction path using List.reverseRecOn with
  | nil => rfl
  | append_singleton path last ih =>
    by_cases slash : last = '/'
    · subst slash
      rw [List.rdropWhile_concat_pos _ _ _ (by simp), ih, components_append_slash]
    · rw [List.rdropWhile_concat_neg _ _ _ (by simp [slash])]

theorem place_slash (plain : Plain name) : place (path ++ '/' :: name) = place path ++ [name] := by
  rw [place, components_slash, components_of_plain plain, List.foldl_append]
  simp [place, plain.entry.2]

theorem place_congr {other : List Char} (same : components path = components other) :
    place path = place other := by rw [place, same, place]

theorem place_split {directory file : List Char} (whole : '/' ∉ file)
    (names : components path = components directory ++ components file) :
    (Plain file ∧ place path = place directory ++ [file]) ∨ place path <+: place directory := by
  rw [place, names, List.foldl_append, components_of_whole whole]
  by_cases filled : file ≠ [] ∧ file ≠ ['.']
  · rw [if_pos filled]
    by_cases up : file = ['.', '.']
    · right
      simpa [up, place] using List.dropLast_prefix _
    · left
      exact ⟨⟨whole, filled.1, filled.2, up⟩, by simp [up, place]⟩
  · rw [if_neg filled]
    exact .inr List.prefix_rfl

end Places

section Beside

variable {root path name : List Char}

theorem directoryPart_append_fileName (path : List Char) : directoryPart path ++ fileName path = path :=
  List.rdropWhile_append_rtakeWhile ..

theorem slash_not_mem_fileName (path : List Char) : '/' ∉ fileName path := fun member => by
  simpa using List.mem_rtakeWhile_imp member

theorem exists_directoryPart (slash : '/' ∈ path) : ∃ before, directoryPart path = before ++ ['/'] := by
  have filled : directoryPart path ≠ [] := fun empty => by
    simpa using List.rdropWhile_eq_nil_iff.mp empty '/' slash
  have last := List.rdropWhile_last_not (fun char : Char => decide (char ≠ '/')) path filled
  refine ⟨(directoryPart path).dropLast, ?_⟩
  conv_lhs => rw [← List.dropLast_append_getLast filled]
  have ends : (directoryPart path).getLast filled = '/' := by simpa [directoryPart] using last
  rw [ends]

theorem components_split (slash : '/' ∈ path) :
    components path = components (directoryPart path) ++ components (fileName path) := by
  obtain ⟨before, ends⟩ := exists_directoryPart slash
  conv_lhs => rw [← directoryPart_append_fileName path]
  rw [ends, List.append_assoc, List.singleton_append, components_slash, components_append_slash]

theorem fileName_slash (whole : '/' ∉ name) : fileName (path ++ '/' :: name) = name := by
  have kept : ∀ char ∈ name.reverse, decide (char ≠ '/') = true := fun char member => by
    have there : char ∈ name := List.mem_reverse.mp member
    exact decide_eq_true fun same => whole (same ▸ there)
  rw [fileName, List.rtakeWhile, List.reverse_append, List.reverse_cons, List.append_assoc,
    List.takeWhile_append_of_pos kept]
  simp

end Beside

end CNShell
