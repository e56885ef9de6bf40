import Mathlib.Data.List.Basic
import Mathlib.Data.List.DropRight

/-! Text operations of the standard library that the program's input checks use. -/

namespace CNShell

/-- The UTF-8 bytes of a text. -/
def utf8 (value : String) : List UInt8 := value.toUTF8.data.toList

theorem utf8_inj {first second : String} (same : utf8 first = utf8 second) : first = second := by
  apply String.toByteArray_inj.mp
  exact ByteArray.ext (Array.toList_inj.mp same)

@[simp] theorem length_utf8 (value : String) : (utf8 value).length = value.utf8ByteSize := rfl

theorem utf8_append (first second : String) : utf8 (first ++ second) = utf8 first ++ utf8 second := by
  simp [utf8]

theorem utf8_ofList (chars : List Char) : utf8 (String.ofList chars) = chars.flatMap String.utf8EncodeChar := by
  simp [utf8, List.utf8Encode]

theorem utf8_eq_flatMap (text : String) : utf8 text = text.toList.flatMap String.utf8EncodeChar := by
  rw [← utf8_ofList, String.ofList_toList]

theorem utf8EncodeChar_cases (char : Char) :
    (char.toNat < 0x80 ∧ String.utf8EncodeChar char = [UInt8.ofNat char.toNat]) ∨
      (0x80 ≤ char.toNat ∧ String.utf8EncodeChar char ≠ [] ∧ ∀ byte ∈ String.utf8EncodeChar char, 0x80 ≤ byte.toNat) := by
  have same : char.toNat = char.val.toNat := rfl
  fun_cases String.utf8EncodeChar char with
  | case1 v small => exact .inl ⟨by omega, rfl⟩
  | case2 v large small =>
    refine .inr ⟨by omega, by simp, ?_⟩
    simp only [List.mem_cons, List.not_mem_nil, or_false, forall_eq_or_imp, forall_eq, UInt8.toNat_ofNat']
    omega
  | case3 v large larger small =>
    refine .inr ⟨by omega, by simp, ?_⟩
    simp only [List.mem_cons, List.not_mem_nil, or_false, forall_eq_or_imp, forall_eq, UInt8.toNat_ofNat']
    omega
  | case4 v large larger largest =>
    refine .inr ⟨by omega, by simp, ?_⟩
    simp only [List.mem_cons, List.not_mem_nil, or_false, forall_eq_or_imp, forall_eq, UInt8.toNat_ofNat']
    omega

theorem mem_utf8_iff {text : String} {char : Char} (small : char.toNat < 0x80) :
    UInt8.ofNat char.toNat ∈ utf8 text ↔ char ∈ text.toList := by
  rw [utf8_eq_flatMap, List.mem_flatMap]
  constructor
  · rintro ⟨other, listed, member⟩
    rcases utf8EncodeChar_cases other with ⟨low, one⟩ | ⟨-, -, high⟩
    · rw [one, List.mem_singleton] at member
      have number := congrArg UInt8.toNat member
      rw [UInt8.toNat_ofNat', UInt8.toNat_ofNat'] at number
      obtain rfl : char = other := Char.toNat_inj.mp (by omega)
      exact listed
    · have := high _ member
      rw [UInt8.toNat_ofNat'] at this
      omega
  · intro listed
    rcases utf8EncodeChar_cases char with ⟨-, one⟩ | ⟨high, -⟩
    · exact ⟨char, listed, by simp [one]⟩
    · omega

theorem head_utf8_iff {text : String} {char : Char} (small : char.toNat < 0x80) :
    (utf8 text).head? = some (UInt8.ofNat char.toNat) ↔ text.toList.head? = some char := by
  rw [utf8_eq_flatMap]
  cases text.toList with
  | nil => simp
  | cons first rest =>
    rw [List.flatMap_cons, List.head?_cons]
    rcases utf8EncodeChar_cases first with ⟨low, one⟩ | ⟨large, filled, high⟩
    · rw [one, List.singleton_append, List.head?_cons, Option.some.injEq, Option.some.injEq]
      constructor
      · intro same
        have number := congrArg UInt8.toNat same
        rw [UInt8.toNat_ofNat', UInt8.toNat_ofNat'] at number
        exact Char.toNat_inj.mp (by omega)
      · rintro rfl
        rfl
    · obtain ⟨byte, bytes, same⟩ := List.exists_cons_of_ne_nil filled
      rw [same, List.cons_append, List.head?_cons, Option.some.injEq, Option.some.injEq]
      constructor
      · rintro rfl
        have := high _ (same ▸ List.mem_cons_self)
        rw [UInt8.toNat_ofNat'] at this
        omega
      · rintro rfl
        omega
theorem utf8_replicate {char : Char} {byte : UInt8} (single : utf8 (String.singleton char) = [byte]) (n : Nat) :
    utf8 (String.ofList (List.replicate n char)) = List.replicate n byte := by
  induction n with
  | zero => rfl
  | succ n ih =>
    rw [List.replicate_succ', String.ofList_append, ← String.singleton_eq_ofList, utf8_append, ih, single,
      ← List.replicate_succ']

theorem utf8ByteSize_ofList {chars : List Char} (ascii : ∀ char ∈ chars, char.utf8Size = 1) :
    (String.ofList chars).utf8ByteSize = chars.length := by
  induction chars with
  | nil => rfl
  | cons first rest ih =>
    have split : String.ofList (first :: rest) = String.singleton first ++ String.ofList rest := by
      rw [String.singleton_eq_ofList, ← String.ofList_append]
      rfl
    rw [split, String.utf8ByteSize_append, String.utf8ByteSize_singleton, ascii first (by simp),
      ih fun char member => ascii char (List.mem_cons_of_mem first member), List.length_cons]
    omega

theorem ascii_of_all {chars : List Char} (all : (chars.all fun char => char.utf8Size == 1) = true) :
    ∀ char ∈ chars, char.utf8Size = 1 := by
  simpa using all

/-- The characters with the Unicode property `White_Space`. -/
def isWhitespace (char : Char) : Bool :=
  let code := char.toNat
  (9 ≤ code && code ≤ 13) || code == 0x20 || code == 0x85 || code == 0xA0 || code == 0x1680 ||
    (0x2000 ≤ code && code ≤ 0x200A) || code == 0x2028 || code == 0x2029 || code == 0x202F ||
    code == 0x205F || code == 0x3000

/-- The characters of the Unicode category `Cc`. -/
def isControl (char : Char) : Bool := char.toNat < 0x20 || (0x7F ≤ char.toNat && char.toNat ≤ 0x9F)

/-- A text without the whitespace at its two ends. -/
def trim (value : String) : String := String.ofList ((value.toList.dropWhile isWhitespace).rdropWhile isWhitespace)

/-- What follows a prefix, when the text begins with it. -/
def stripPrefix (marker value : String) : Option String :=
  if marker.toList <+: value.toList then
    some (String.ofList (value.toList.drop marker.length))
  else none

@[simp] theorem stripPrefix_append (marker value : String) : stripPrefix marker (marker ++ value) = some value := by
  simp [stripPrefix, ← String.length_toList]

/-- A text with its ASCII letters in lower case. -/
def toAsciiLowercase (value : String) : String := String.ofList (value.toList.map Char.toLower)

/-- The pieces between the separators, which are one more than the separators. -/
def splitOn (separator : Char) (value : String) : List (List Char) := value.toList.splitOn separator

theorem not_mem_of_mem_splitOn {separator : Char} {text piece : List Char} (member : piece ∈ text.splitOn separator) :
    separator ∉ piece := by
  -- A character either ends the first piece or is put in front of it.
  induction text generalizing piece with
  | nil =>
    rw [List.splitOn_nil, List.mem_singleton] at member
    rw [member]
    exact List.not_mem_nil
  | cons char rest ih =>
    rw [List.splitOn_cons_eq_if_modifyHead] at member
    split at member
    · rcases List.mem_cons.mp member with rfl | later
      · exact List.not_mem_nil
      · exact ih later
    · next other =>
      cases pieces : rest.splitOn separator with
      | nil => exact absurd pieces (List.splitOn_ne_nil _ _)
      | cons first others =>
        rw [pieces, List.modifyHead_cons] at member
        rcases List.mem_cons.mp member with rfl | later
        · have whole : separator ∉ first := ih (by simp [pieces])
          rw [List.mem_cons, not_or]
          exact ⟨fun same => other (beq_iff_eq.mpr same.symm), whole⟩
        · exact ih (by simp [pieces, later])

private theorem dropWhile_idem {α : Type u} (skipped : α → Bool) (values : List α) :
    (values.dropWhile skipped).dropWhile skipped = values.dropWhile skipped := by
  induction values with
  | nil => rfl
  | cons first rest ih =>
    by_cases drop : skipped first
    · simpa [drop] using ih
    · simp [drop]

theorem trim_ne_empty_iff (value : String) : trim value ≠ "" ↔ ∃ char ∈ value.toList, isWhitespace char = false := by
  have empty : trim value = "" ↔ ∀ char ∈ value.toList, isWhitespace char = true := by
    unfold trim
    rw [← String.toList_inj, String.toList_ofList, String.toList_empty, List.rdropWhile_eq_nil_iff,
      ← List.dropWhile_eq_nil_iff, dropWhile_idem, List.dropWhile_eq_nil_iff]
  rw [ne_eq, empty]
  simp

private theorem dropWhile_rdropWhile {α : Type u} (skipped : α → Bool) (values : List α)
    (front : values.dropWhile skipped = values) :
    (values.rdropWhile skipped).dropWhile skipped = values.rdropWhile skipped := by
  -- A shortened list is a prefix, so its first element is the one that was already kept.
  cases shortened : values.rdropWhile skipped with
  | nil => rfl
  | cons first rest =>
    obtain ⟨suffix, whole⟩ : values.rdropWhile skipped <+: values := List.rdropWhile_prefix _ _
    rw [shortened] at whole
    have kept : skipped first = false := by
      by_contra drop
      rw [← whole, List.cons_append, List.dropWhile_cons, if_pos (by simpa using drop)] at front
      have short : ((rest ++ suffix).dropWhile skipped).length ≤ (rest ++ suffix).length :=
        (List.dropWhile_suffix skipped).length_le
      rw [front] at short
      simp only [List.length_cons, List.length_append] at short
      omega
    simp [kept]

@[simp] theorem trim_trim (value : String) : trim (trim value) = trim value := by
  unfold trim
  rw [String.toList_ofList, dropWhile_rdropWhile _ _ (dropWhile_idem _ _), List.rdropWhile_idempotent]

end CNShell
