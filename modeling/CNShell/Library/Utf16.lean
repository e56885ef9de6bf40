import Mathlib.Data.List.Basic

/-! Texts as UTF-16 units, and the indices at which a character begins. -/

namespace CNShell

/-- A text by its UTF-16 units; halves of a character may stand alone. -/
abbrev Units := List UInt16

def quotationMark : UInt16 := 0x22

def apostrophe : UInt16 := 0x27

def slash : UInt16 := 0x2f

def backslash : UInt16 := 0x5c

namespace Units

def high (unit : UInt16) : Bool := 0xd800 ≤ unit.toNat && unit.toNat ≤ 0xdbff

def low (unit : UInt16) : Bool := 0xdc00 ≤ unit.toNat && unit.toNat ≤ 0xdfff

/-- The index is between the halves of a character. -/
def inside (text : Units) : Nat → Bool
  | 0 => false
  | index + 1 => text[index]?.any high && text[index + 1]?.any low

/-- How many units the character at an index has. -/
def width (text : Units) (index : Nat) : Nat := if text.inside (index + 1) then 2 else 1

/-- The index at which the character of an index begins. -/
def start (text : Units) (index : Nat) : Nat := if text.inside index then index - 1 else index

variable {text : Units} {index : Nat}

theorem not_high_of_low {unit : UInt16} (back : low unit = true) : high unit = false := by
  simp only [low, high, Bool.and_eq_true, decide_eq_true_eq, Bool.and_eq_false_iff, decide_eq_false_iff_not] at *
  omega

theorem width_pos : 0 < text.width index := by
  unfold width
  split <;> decide

theorem start_of_not_inside (whole : text.inside index = false) : text.start index = index := by
  simp [start, whole]

theorem not_inside_next (whole : text.inside index = false) : text.inside (index + text.width index) = false := by
  unfold width
  split
  · -- The second half is no first half.
    rename_i between
    simp only [inside, Bool.and_eq_true, Option.any_eq_true] at between
    obtain ⟨-, unit, there, back⟩ := between
    simp [inside, there, not_high_of_low back]
  · rename_i single
    exact Bool.eq_false_iff.mpr single

theorem next_le_length (below : index < text.length) : index + text.width index ≤ text.length := by
  unfold width
  split
  · rename_i between
    simp only [inside, Bool.and_eq_true, Option.any_eq_true] at between
    obtain ⟨-, unit, there, -⟩ := between
    exact (List.getElem?_eq_some_iff.mp there).1
  · exact below

/-- The characters of a text, each with its one or two units. -/
def characters : Units → List Units
  | [] => []
  | [unit] => [[unit]]
  | unit :: next :: text =>
    if high unit && low next then [unit, next] :: characters text else [unit] :: characters (next :: text)

theorem foldl_characters {σ : Type u} (step : σ → Units → σ)
    (halves : ∀ state unit next, high unit = true → low next = true →
      step state [unit, next] = step (step state [unit]) [next]) (text : Units) (state : σ) :
    text.characters.foldl step state = text.foldl (fun state unit => step state [unit]) state := by
  induction text using characters.induct generalizing state with
  | case1 => rfl
  | case2 unit => rfl
  | case3 unit next text pair ih =>
    rw [Bool.and_eq_true] at pair
    rw [characters, if_pos (by simpa using pair), List.foldl_cons, ih, halves _ _ _ pair.1 pair.2]
    rfl
  | case4 unit next text single ih =>
    rw [characters, if_neg single, List.foldl_cons, ih]
    rfl

end Units

end CNShell
