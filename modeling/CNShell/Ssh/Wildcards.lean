import CNShell.Ssh.Config

/-! Names with wildcards: what the search with one place to try again accepts. -/

namespace CNShell

namespace Ssh

/-- The value has a part for each byte of the pattern: one byte for `?`, any bytes for `*`, and otherwise the byte. -/
inductive Matches : List UInt8 → List UInt8 → Prop
  | done : Matches [] []
  | any {byte : UInt8} {pattern value : List UInt8} (rest : Matches pattern value) :
      Matches ('?'.toUInt8 :: pattern) (byte :: value)
  | same {byte : UInt8} {pattern value : List UInt8} (plain : byte ≠ '*'.toUInt8 ∧ byte ≠ '?'.toUInt8)
      (rest : Matches pattern value) : Matches (byte :: pattern) (byte :: value)
  | star {taken pattern value : List UInt8} (rest : Matches pattern value) :
      Matches ('*'.toUInt8 :: pattern) (taken ++ value)

/-- A match in which a star before a star byte of the value takes just that byte. -/
inductive Sparing : List UInt8 → List UInt8 → Prop
  | done : Sparing [] []
  | any {byte : UInt8} {pattern value : List UInt8} (rest : Sparing pattern value) :
      Sparing ('?'.toUInt8 :: pattern) (byte :: value)
  | same {byte : UInt8} {pattern value : List UInt8} (plain : byte ≠ '*'.toUInt8 ∧ byte ≠ '?'.toUInt8)
      (rest : Sparing pattern value) : Sparing (byte :: pattern) (byte :: value)
  | star {taken pattern value : List UInt8}
      (spare : (taken ++ value).head? = some '*'.toUInt8 → taken = ['*'.toUInt8]) (rest : Sparing pattern value) :
      Sparing ('*'.toUInt8 :: pattern) (taken ++ value)

variable {pattern value : List UInt8}

theorem Sparing.matches (sparing : Sparing pattern value) : Matches pattern value := by
  induction sparing with
  | done => exact .done
  | any _ ih => exact .any ih
  | same plain _ ih => exact .same plain ih
  | star _ _ ih => exact .star ih

theorem Matches.sparing (found : Matches pattern value) (free : '*'.toUInt8 ∉ value) : Sparing pattern value := by
  induction found with
  | done => exact .done
  | any _ ih => exact .any (ih fun member => free (List.mem_cons_of_mem _ member))
  | same plain _ ih => exact .same plain (ih fun member => free (List.mem_cons_of_mem _ member))
  | star _ ih =>
    refine .star (fun head => absurd (List.mem_of_head? head) free) (ih fun member => ?_)
    exact free (List.mem_append_right _ member)

def Literal (byte other : UInt8) : Prop := byte = '?'.toUInt8 ∨ byte = other

theorem sparing_cons_iff {byte other : UInt8} (literal : Literal byte other) :
    Sparing (byte :: pattern) (other :: value) ↔ Sparing pattern value := by
  constructor
  · intro sparing
    generalize begun : byte :: pattern = front, whole : other :: value = bytes at sparing
    cases sparing with
    | done => cases begun
    | any rest =>
      obtain ⟨-, rfl⟩ := List.cons.inj begun
      obtain ⟨-, rfl⟩ := List.cons.inj whole
      exact rest
    | same plain rest =>
      obtain ⟨-, rfl⟩ := List.cons.inj begun
      obtain ⟨-, rfl⟩ := List.cons.inj whole
      exact rest
    | star spare rest =>
      -- The star is taken for the star byte before it.
      obtain ⟨rfl, rfl⟩ := List.cons.inj begun
      have same : '*'.toUInt8 = other := literal.resolve_left (by decide)
      subst same
      have taken := spare (by rw [← whole]; rfl)
      rw [taken] at whole
      obtain rfl := (List.cons.inj whole).2
      exact rest
  · intro rest
    by_cases mark : byte = '?'.toUInt8
    · exact mark ▸ .any rest
    · obtain rfl := literal.resolve_left mark
      by_cases star : byte = '*'.toUInt8
      · subst star
        exact @Sparing.star ['*'.toUInt8] _ _ (fun _ => rfl) rest
      · exact .same ⟨star, mark⟩ rest

theorem not_sparing_cons {other : UInt8} (differs : ∀ byte ∈ pattern.head?, ¬ Literal byte other ∧ byte ≠ '*'.toUInt8) :
    ¬ Sparing pattern (other :: value) := by
  intro sparing
  generalize whole : other :: value = bytes at sparing
  cases sparing with
  | done => cases whole
  | any rest => exact (differs _ rfl).1 (.inl rfl)
  | same plain rest => exact (differs _ rfl).1 (.inr (List.cons.inj whole).1.symm)
  | star spare rest => exact (differs _ rfl).2 rfl

theorem Sparing.behind_star (sparing : Sparing ('*'.toUInt8 :: pattern) value) :
    ∃ rest, rest <:+ value ∧ Sparing pattern rest := by
  generalize begun : '*'.toUInt8 :: pattern = front at sparing
  cases sparing with
  | done => cases begun
  | any rest => exact absurd (List.cons.inj begun).1 (by decide)
  | same plain rest => exact absurd (List.cons.inj begun).1.symm plain.1
  | star spare rest =>
    obtain rfl := (List.cons.inj begun).2
    exact ⟨_, List.suffix_append _ _, rest⟩

theorem sparing_star_iff (other : value.head? ≠ some '*'.toUInt8) :
    Sparing ('*'.toUInt8 :: pattern) value ↔ ∃ rest, rest <:+ value ∧ Sparing pattern rest := by
  constructor
  · exact Sparing.behind_star
  · rintro ⟨rest, ⟨taken, rfl⟩, sparing⟩
    exact .star (fun head => absurd head other) sparing

theorem sparing_nil_iff (pattern : List UInt8) : Sparing pattern [] ↔ (pattern.all (· == '*'.toUInt8)) = true := by
  induction pattern with
  | nil => exact iff_of_true .done rfl
  | cons byte pattern ih =>
    by_cases star : byte = '*'.toUInt8
    · subst star
      rw [sparing_star_iff (by simp)]
      simpa using ih
    · refine iff_of_false ?_ (by simp [star])
      intro sparing
      generalize whole : ([] : List UInt8) = bytes at sparing
      cases sparing with
      | any rest => cases whole
      | same plain rest => cases whole
      | star spare rest => exact star rfl

theorem Sparing.overtaken {front taken tail : List UInt8} (literal : List.Forall₂ Literal front taken)
    (later : value <:+ taken ++ tail) (sparing : Sparing (front ++ pattern) value) :
    ∃ rest, rest <:+ tail ∧ Sparing pattern rest := by
  induction literal generalizing value with
  | nil => exact ⟨value, later, sparing⟩
  | @cons byte other front taken this _ ih =>
    rcases List.suffix_cons_iff.mp later with same | behind
    · -- Both are at the same byte.
      rw [same, List.cons_append, sparing_cons_iff this] at sparing
      exact ih List.suffix_rfl sparing
    · generalize begun : byte :: front ++ pattern = whole at sparing
      cases sparing with
      | done => cases begun
      | any rest =>
        obtain rfl := (List.cons.inj begun).2
        exact ih ((List.suffix_cons _ _).trans behind) rest
      | same plain rest =>
        obtain rfl := (List.cons.inj begun).2
        exact ih ((List.suffix_cons _ _).trans behind) rest
      | star spare rest =>
        obtain rfl := (List.cons.inj begun).2
        exact ih ((List.suffix_append _ _).trans behind) rest

/-- What was taken since the last star, byte by byte. -/
def Since (pattern value : List UInt8) (state : WildcardState) : Prop :=
  ∀ star ∈ state.star, ∃ front taken, List.Forall₂ Literal front taken ∧
    pattern.drop (star + 1) = front ++ pattern.drop state.patternIndex ∧
    value.drop state.retry = taken ++ value.drop state.valueIndex

/-- What the search still looks for: a match from here, or one behind the place to try again. -/
def Open (pattern value : List UInt8) (state : WildcardState) : Prop :=
  Sparing (pattern.drop state.patternIndex) (value.drop state.valueIndex) ∨
    ∃ star ∈ state.star, ∃ rest, rest <:+ value.drop (state.retry + 1) ∧ Sparing (pattern.drop (star + 1)) rest

theorem drop_of_getElem? {bytes : List UInt8} {index : Nat} {byte : UInt8} (there : bytes[index]? = some byte) :
    bytes.drop index = byte :: bytes.drop (index + 1) := by
  obtain ⟨inside, rfl⟩ := List.getElem?_eq_some_iff.mp there
  exact List.drop_eq_getElem_cons inside

variable {star : Nat} {state : WildcardState}

theorem Since.overtaken (since : Since pattern value state) (known : star ∈ state.star) {rest : List UInt8}
    (later : rest <:+ value.drop (state.retry + 1))
    (sparing : Sparing (pattern.drop (star + 1)) rest) :
    ∃ rest, rest <:+ value.drop state.valueIndex ∧ Sparing (pattern.drop state.patternIndex) rest := by
  obtain ⟨front, taken, literal, passed, read⟩ := since star known
  have behind : rest <:+ taken ++ value.drop state.valueIndex := by
    rw [← read, ← List.drop_drop] at *
    exact later.trans (List.drop_suffix _ _)
  rw [passed] at sparing
  exact sparing.overtaken literal behind

theorem not_sparing_here (below : state.valueIndex < value.length)
    (here : ¬ (pattern[state.patternIndex]? = some '?'.toUInt8 ∨
      pattern[state.patternIndex]? = some value[state.valueIndex]))
    (there : ¬ pattern[state.patternIndex]? = some '*'.toUInt8) :
    ¬ Sparing (pattern.drop state.patternIndex) (value.drop state.valueIndex) := by
  rw [List.drop_eq_getElem_cons below]
  refine not_sparing_cons fun byte head => ?_
  rw [List.head?_drop, Option.mem_def] at head
  refine ⟨?_, fun star => there (star ▸ head)⟩
  rintro (rfl | rfl)
  · exact here (.inl head)
  · exact here (.inr head)

variable {before : ∀ index ∈ some star, index < star + 1}

theorem since_star {retry : Nat} {behind : retry ≤ retry} :
    Since pattern value ⟨star + 1, retry, some star, retry, behind, before⟩ := by
  rintro _ known
  obtain rfl := Option.mem_some.mp known
  exact ⟨[], [], .nil, rfl, rfl⟩

theorem open_star_iff {retry : Nat} {behind : retry ≤ retry} (inside : retry ≤ value.length) :
    Open pattern value ⟨star + 1, retry, some star, retry, behind, before⟩ ↔
      ∃ rest, rest <:+ value.drop retry ∧ Sparing (pattern.drop (star + 1)) rest := by
  have step : ∀ rest, rest <:+ value.drop retry ↔ rest = value.drop retry ∨ rest <:+ value.drop (retry + 1) := by
    intro rest
    rcases Nat.lt_or_eq_of_le inside with below | rfl
    · rw [List.drop_eq_getElem_cons below, List.suffix_cons_iff]
    · simp [List.drop_of_length_le]
  simp only [Open, Option.mem_def, Option.some.injEq, exists_eq_left', step, or_and_right, exists_or, exists_eq_left]

/-- The search finds what is open, as long as it knows what it took since the last star. -/
theorem wildcardFrom_iff (pattern value : List UInt8) (state : WildcardState) (since : Since pattern value state) :
    wildcardFrom pattern value state = true ↔ Open pattern value state := by
  fun_induction wildcardFrom pattern value state with
  | case1 state below here ih =>
    -- One more byte is taken, and the place to try again stays.
    obtain ⟨byte, there, literal⟩ :
        ∃ byte, pattern[state.patternIndex]? = some byte ∧ Literal byte value[state.valueIndex] := by
      rcases here with mark | same
      · exact ⟨_, mark, .inl rfl⟩
      · exact ⟨_, same, .inr rfl⟩
    have front := drop_of_getElem? there
    have read := List.drop_eq_getElem_cons below
    rw [ih]
    · unfold Open
      rw [front, read, sparing_cons_iff literal]
    · intro star known
      obtain ⟨before, taken, all, passed, seen⟩ := since star known
      refine ⟨before ++ [byte], taken ++ [value[state.valueIndex]], ?_, ?_, ?_⟩
      · exact List.rel_append all (.cons literal .nil)
      · rw [passed, front, List.append_assoc, List.singleton_append]
      · rw [seen, read, List.append_assoc, List.singleton_append]
  | case2 state below here there ih =>
    have other : (value.drop state.valueIndex).head? ≠ some '*'.toUInt8 := by
      rw [List.head?_drop, List.getElem?_eq_getElem below]
      exact fun same => here (.inr (there.trans same.symm))
    rw [ih since_star, open_star_iff (Nat.le_of_lt below), ← sparing_star_iff other, ← drop_of_getElem? there]
    constructor
    · exact .inl
    · rintro (found | ⟨star, known, rest, later, found⟩)
      · exact found
      · -- The new star takes what lies before the other match.
        obtain ⟨rest, later, found⟩ := since.overtaken known later found
        rw [drop_of_getElem? there] at found ⊢
        obtain ⟨last, shorter, found⟩ := found.behind_star
        exact (sparing_star_iff other).mpr ⟨last, shorter.trans later, found⟩
  | case3 state below here there star known ih =>
    have inside : state.retry + 1 ≤ value.length := Nat.lt_of_le_of_lt state.behind below
    have stuck := not_sparing_here below here there
    rw [ih since_star, open_star_iff inside]
    simp only [Open, stuck, known, Option.mem_def, Option.some.injEq, exists_eq_left', false_or]
  | case4 state below here there known =>
    have stuck := not_sparing_here below here there
    simp [Open, stuck, known]
  | case5 state below =>
    have empty : value.drop state.valueIndex = [] := List.drop_of_length_le (Nat.le_of_not_lt below)
    have ended : Open pattern value state ↔ Sparing (pattern.drop state.patternIndex) [] := by
      constructor
      · rintro (found | ⟨star, known, rest, later, found⟩)
        · exact empty ▸ found
        · obtain ⟨rest, later, found⟩ := since.overtaken known later found
          rw [empty, List.suffix_nil] at later
          exact later ▸ found
      · exact fun found => .inl (empty.symm ▸ found)
    rw [ended, sparing_nil_iff]

theorem wildcardMatch_iff_sparing (pattern value : List Char) :
    wildcardMatch pattern value = true ↔ Sparing (utf8 (String.ofList pattern)) (utf8 (String.ofList value)) := by
  refine (wildcardFrom_iff _ _ _ fun _ known => by cases known).trans ?_
  simp [Open]

/-- The match is right unless the value can only be split with a star that takes more than a star byte it begins at;
one without star bytes always is. -/
theorem wildcardMatch_right_iff (pattern value : List Char) :
    ((wildcardMatch pattern value = true ↔ Matches (utf8 (String.ofList pattern)) (utf8 (String.ofList value))) ↔
      (Matches (utf8 (String.ofList pattern)) (utf8 (String.ofList value)) →
        Sparing (utf8 (String.ofList pattern)) (utf8 (String.ofList value)))) ∧
    ('*'.toUInt8 ∉ utf8 (String.ofList value) →
      (wildcardMatch pattern value = true ↔
        Matches (utf8 (String.ofList pattern)) (utf8 (String.ofList value)))) := by
  rw [wildcardMatch_iff_sparing]
  refine ⟨⟨fun right => right.mpr, fun right => ⟨Sparing.matches, right⟩⟩, fun free => ⟨Sparing.matches, ?_⟩⟩
  exact fun found => found.sparing free

/-- A star is taken for the star of the value and then for nothing else. -/
theorem wildcardMatch_star :
    wildcardMatch ['*'] ['*', 'a'] = false ∧
      Matches (utf8 (String.ofList ['*'])) (utf8 (String.ofList ['*', 'a'])) := by
  constructor
  · rw [← Bool.not_eq_true, wildcardMatch_iff_sparing]
    have read : utf8 (String.ofList ['*', 'a']) = ['*'.toUInt8, 'a'.toUInt8] := by decide
    have mark : utf8 (String.ofList ['*']) = ['*'.toUInt8] := by decide
    rw [read, mark, sparing_cons_iff (.inr rfl)]
    exact not_sparing_cons fun _ none => by cases none
  · exact @Matches.star (utf8 (String.ofList ['*', 'a'])) _ _ .done

end Ssh

end CNShell
