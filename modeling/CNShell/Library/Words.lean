import CNShell.Library.Decimal
import CNShell.Library.Text

/-! The words and lines of texts, and the blanks around them. -/

namespace CNShell

theorem utf8ByteSize_cons (first : Char) (rest : List Char) : (String.ofList (first :: rest)).utf8ByteSize =
    first.utf8Size + (String.ofList rest).utf8ByteSize := by
  have parts : String.ofList (first :: rest) = String.singleton first ++ String.ofList rest := by
    rw [String.singleton_eq_ofList, ← String.ofList_append]
    rfl
  rw [parts, String.utf8ByteSize_append, String.utf8ByteSize_singleton]

theorem utf8ByteSize_le_of_sublist {short long : List Char} (sublist : short.Sublist long) :
    (String.ofList short).utf8ByteSize ≤ (String.ofList long).utf8ByteSize := by
  induction sublist with
  | slnil => exact le_refl _
  | cons first _ ih =>
    rw [utf8ByteSize_cons]
    omega
  | cons_cons first _ ih =>
    rw [utf8ByteSize_cons, utf8ByteSize_cons]
    omega

variable {value : String}

theorem trim_eq_self (solid : ∀ char ∈ value.toList, isWhitespace char = false) : trim value = value := by
  have front : value.toList.dropWhile isWhitespace = value.toList := by
    refine List.dropWhile_eq_self_iff.mpr fun filled => ?_
    simp [solid _ (List.getElem_mem filled)]
  have back : value.toList.rdropWhile isWhitespace = value.toList := by
    refine List.rdropWhile_eq_self_iff.mpr fun filled => ?_
    simp [solid _ (List.getLast_mem filled)]
  rw [trim, front, back, String.ofList_toList]

variable {number : Nat}

theorem solid_of_parseDigits {digits : List Char} (read : parseDigits digits = some number) :
    ∀ char ∈ digits, isWhitespace char = false := by
  unfold parseDigits at read
  split at read
  · next all =>
    intro char member
    have between := List.all_eq_true.mp all.2 char member
    simp only [decide_eq_true_eq, Char.le_def, UInt32.le_iff_toNat_le] at between
    obtain ⟨least, most⟩ : 48 ≤ char.toNat ∧ char.toNat ≤ 57 := between
    simp only [isWhitespace, Bool.or_eq_false_iff, Bool.and_eq_false_iff, decide_eq_false_iff_not,
      beq_eq_false_iff_ne]
    omega
  · cases read

theorem trim_of_parseU64 (read : parseU64 value = some number) : trim value = value := by
  obtain ⟨digits, -⟩ := Option.filter_eq_some_iff.mp read
  have solid := solid_of_parseDigits digits
  refine trim_eq_self fun char member => ?_
  -- The plus sign in front is no whitespace either.
  cases same : value.toList with
  | nil => simp [same] at member
  | cons first rest =>
    rw [same] at member solid
    by_cases plus : first = '+'
    · subst plus
      rcases List.mem_cons.mp member with rfl | later
      · rfl
      · exact solid char later
    · have whole : unsigned (first :: rest) = first :: rest := by simp [unsigned, plus]
      exact solid char (by rwa [whole])

theorem parseU64_toString (small : number < 2 ^ 64) : parseU64 (toString number) = some number := by
  have text : (toString number).toList = Nat.toDigits 10 number := Nat.toList_repr
  have digit : ∀ char ∈ Nat.toDigits 10 number, '0' ≤ char ∧ char ≤ '9' := fun char member => by
    have := Char.isDigit_iff_toNat.mp (Nat.isDigit_of_mem_toDigits (by omega) (by omega) member)
    simpa [Char.le_def, UInt32.le_iff_toNat_le] using this
  have whole : unsigned (Nat.toDigits 10 number) = Nat.toDigits 10 number := by
    unfold unsigned
    split
    · next same => exact absurd (digit '+' (by rw [same]; simp)) (by decide)
    · rfl
  have value : (Nat.toDigits 10 number).foldl (fun value digit => value * 10 + (digit.toNat - '0'.toNat)) 0 =
      number := by
    conv_rhs => rw [← @Nat.ofDigitChars_ten_toDigits number, Nat.ofDigitChars_eq_foldl]
    simp only [Nat.mul_comm 10]
  have read : parseDigits (Nat.toDigits 10 number) = some number := by
    have all : ((Nat.toDigits 10 number).all fun digit => decide ('0' ≤ digit ∧ digit ≤ '9')) = true :=
      List.all_eq_true.mpr fun char member => decide_eq_true (digit char member)
    rw [parseDigits, if_pos ⟨Nat.toDigits_ne_nil, all⟩, value]
  rw [parseU64, text, whole, read]
  exact Option.filter_eq_some_iff.mpr ⟨rfl, decide_eq_true small⟩

theorem toLower_cases (char : Char) : (65 ≤ char.toNat ∧ char.toNat ≤ 90 ∧ char.toLower.toNat = char.toNat + 32) ∨
    (¬(65 ≤ char.toNat ∧ char.toNat ≤ 90) ∧ char.toLower = char) := by
  have letter : (char.val ≥ 'A'.val ∧ char.val ≤ 'Z'.val) ↔ 65 ≤ char.toNat ∧ char.toNat ≤ 90 := by
    simp only [ge_iff_le, UInt32.le_iff_toNat_le]
    rfl
  unfold Char.toLower
  split
  · next upper =>
    obtain ⟨least, most⟩ := letter.mp upper
    refine .inl ⟨least, most, ?_⟩
    have shift : ('a'.val - 'A'.val).toNat = 32 := rfl
    show (char.val + ('a'.val - 'A'.val)).toNat = char.val.toNat + 32
    rw [UInt32.toNat_add, shift]
    have small : char.val.toNat ≤ 90 := most
    omega
  · next other => exact .inr ⟨fun upper => other (letter.mpr upper), rfl⟩

@[simp] theorem toLower_toLower (char : Char) : char.toLower.toLower = char.toLower := by
  rcases toLower_cases char with ⟨least, most, moved⟩ | ⟨-, same⟩
  · rcases toLower_cases char.toLower with ⟨_, _, _⟩ | ⟨-, same⟩
    · omega
    · exact same
  · rw [same, same]

@[simp] theorem isWhitespace_toLower (char : Char) : isWhitespace char.toLower = isWhitespace char := by
  rcases toLower_cases char with ⟨least, most, moved⟩ | ⟨-, same⟩
  · have solid : ∀ other : Char, 65 ≤ other.toNat → other.toNat ≤ 122 → isWhitespace other = false := by
      intro other least most
      simp only [isWhitespace, Bool.or_eq_false_iff, Bool.and_eq_false_iff, decide_eq_false_iff_not,
        beq_eq_false_iff_ne]
      omega
    rw [solid char least (by omega), solid char.toLower (by omega) (by omega)]
  · rw [same]

@[simp] theorem utf8Size_toLower (char : Char) : char.toLower.utf8Size = char.utf8Size := by
  rcases toLower_cases char with ⟨least, most, moved⟩ | ⟨-, same⟩
  · have one : ∀ other : Char, other.toNat ≤ 127 → other.utf8Size = 1 := by
      intro other small
      have below : other.val ≤ 0x7f := UInt32.le_iff_toNat_le.mpr small
      simp [Char.utf8Size, below]
    rw [one char (by omega), one char.toLower (by omega)]
  · rw [same]

theorem trim_toAsciiLowercase (value : String) : trim (toAsciiLowercase value) = toAsciiLowercase (trim value) := by
  have same : isWhitespace ∘ Char.toLower = isWhitespace := funext isWhitespace_toLower
  simp only [trim, toAsciiLowercase, String.toList_ofList, List.rdropWhile, ← List.map_reverse, List.dropWhile_map,
    same]

@[simp] theorem toAsciiLowercase_toAsciiLowercase (value : String) :
    toAsciiLowercase (toAsciiLowercase value) = toAsciiLowercase value := by
  simp [toAsciiLowercase, Function.comp_def]

theorem utf8ByteSize_toAsciiLowercase (value : String) :
    (toAsciiLowercase value).utf8ByteSize = value.utf8ByteSize := by
  conv_rhs => rw [← String.ofList_toList (s := value)]
  rw [toAsciiLowercase]
  induction value.toList with
  | nil => rfl
  | cons first rest ih => rw [List.map_cons, utf8ByteSize_cons, utf8ByteSize_cons, utf8Size_toLower, ih]

/-- The words of a text, which blanks separate. -/
def words (text : List Char) : List (List Char) := (text.splitOnP isWhitespace).filter (· ≠ [])

/-- A text without some characters at its two ends. -/
def trimMatches (skipped : Char → Bool) (text : List Char) : List Char := (text.dropWhile skipped).rdropWhile skipped

section Trimming

variable {skipped : Char → Bool} {text : List Char}

theorem head?_trimMatches {char : Char} (first : (trimMatches skipped text).head? = some char) :
    skipped char = false := by
  obtain ⟨rest, parts⟩ := List.rdropWhile_prefix skipped (text.dropWhile skipped)
  have front : (text.dropWhile skipped).head? = some char := by
    rw [← parts, List.head?_append, ← trimMatches, first]
    rfl
  have not_skipped := List.head?_dropWhile_not skipped text
  rw [front] at not_skipped
  exact not_skipped

theorem trimMatches_dropWhile : trimMatches skipped (text.dropWhile skipped) = trimMatches skipped text := by
  rw [trimMatches, List.dropWhile_idempotent, trimMatches]

theorem trimMatches_append (front : ∀ char, text.head? = some char → skipped char = false) :
    ∃ behind, text = trimMatches skipped text ++ behind ∧ ∀ char ∈ behind, skipped char = true := by
  have whole : text.dropWhile skipped = text := by
    cases text with
    | nil => rfl
    | cons first rest => simp [front first rfl]
  refine ⟨text.rtakeWhile skipped, ?_, fun char member => List.mem_rtakeWhile_imp member⟩
  rw [trimMatches, whole, List.rdropWhile_append_rtakeWhile]

theorem trimMatches_eq_self (first : ∀ char, text.head? = some char → skipped char = false)
    (last : ∀ char, text.getLast? = some char → skipped char = false) : trimMatches skipped text = text := by
  have whole : text.dropWhile skipped = text := by
    cases text with
    | nil => rfl
    | cons char rest => simp [first char rfl]
  rw [trimMatches, whole, List.rdropWhile_eq_self_iff]
  intro some_last
  rw [last _ (List.getLast?_eq_some_getLast some_last)]
  decide

theorem trimMatches_append_left {front : List Char} (all : ∀ char ∈ front, skipped char = true) :
    trimMatches skipped (front ++ text) = trimMatches skipped text := by
  rw [trimMatches, List.dropWhile_append_of_pos all, trimMatches]

theorem trimMatches_concat {char : Char} (skip : skipped char = true) :
    trimMatches skipped (text ++ [char]) = trimMatches skipped text := by
  rw [trimMatches, List.dropWhile_append]
  split
  · rename_i empty
    rw [List.isEmpty_iff] at empty
    simp [trimMatches, empty, skip]
  · rw [List.rdropWhile_concat_pos _ _ _ skip, trimMatches]

theorem trimMatches_append_right {behind : List Char} (all : ∀ char ∈ behind, skipped char = true) :
    trimMatches skipped (text ++ behind) = trimMatches skipped text := by
  induction behind using List.reverseRecOn with
  | nil => rw [List.append_nil]
  | append_singleton behind char ih =>
    rw [← List.append_assoc, trimMatches_concat (all char (by simp)),
      ih fun other member => all other (List.mem_append_left _ member)]

end Trimming

theorem isPrefixOf?_eq_none_iff {marker text : List Char} : marker.isPrefixOf? text = none ↔ ¬ marker <+: text := by
  rw [Option.eq_none_iff_forall_ne_some]
  constructor
  · rintro none ⟨rest, whole⟩
    exact none rest (List.isPrefixOf?_eq_some_iff_append_eq.mpr whole)
  · exact fun other rest found => other ⟨rest, List.isPrefixOf?_eq_some_iff_append_eq.mp found⟩

/-- A line without the carriage return before its end. -/
def stripReturn (line : List Char) : List Char := if line.getLast? = some '\r' then line.dropLast else line

/-- The lines of a text; what follows the last line end is one if there is something. -/
def lines (text : List Char) : List (List Char) :=
  let pieces := text.splitOn '\n'
  pieces.dropLast.map stripReturn ++ (pieces.getLast?.toList.filter (· ≠ []))

theorem lines_flatMap (pieces : List (List Char)) :
    lines (pieces.flatMap (· ++ ['\n'])) = pieces.flatMap fun piece => (piece.splitOn '\n').map stripReturn := by
  have split : (pieces.flatMap (· ++ ['\n'])).splitOn '\n' = pieces.flatMap (·.splitOn '\n') ++ [[]] := by
    induction pieces with
    | nil => rfl
    | cons piece pieces ih =>
      rw [List.flatMap_cons, List.append_assoc, List.singleton_append, List.splitOn_append_cons_self, ih,
        List.flatMap_cons, List.append_assoc]
  rw [lines, split]
  simp [List.map_flatMap]

end CNShell
