import CNShell.Library.Text
import Mathlib.Algebra.BigOperators.Group.List.Basic
import Mathlib.Algebra.Order.BigOperators.Group.List
import Mathlib.Algebra.Ring.Nat

/-! The bytes of JSON without blanks, and how many they are. -/

namespace CNShell

namespace Json

/-- The digit of a number below sixteen. -/
def hexDigit (value : UInt8) : UInt8 := if value < 10 then 0x30 + value else 0x57 + value

/-- What stands for a byte inside a JSON string; bytes beyond ASCII stand for themselves. -/
def escape (byte : UInt8) : List UInt8 :=
  if byte = 0x22 ∨ byte = 0x5c then [0x5c, byte]
  else if 0x20 ≤ byte then [byte]
  else if byte = 0x08 then utf8 "\\b"
  else if byte = 0x09 then utf8 "\\t"
  else if byte = 0x0a then utf8 "\\n"
  else if byte = 0x0c then utf8 "\\f"
  else if byte = 0x0d then utf8 "\\r"
  else utf8 "\\u00" ++ [hexDigit (byte / 16), hexDigit (byte % 16)]

/-- The inside of a JSON string. -/
def escaped (value : String) : List UInt8 := (utf8 value).flatMap escape

/-- A JSON string. -/
def string (value : String) : List UInt8 := 0x22 :: (escaped value ++ [0x22])

/-- Values with a comma between any two of them. -/
def commas : List (List UInt8) → List UInt8
  | [] => []
  | [value] => value
  | value :: rest => value ++ 0x2c :: commas rest

/-- A JSON array. -/
def array (values : List (List UInt8)) : List UInt8 := 0x5b :: (commas values ++ [0x5d])

/-- A JSON object. -/
def object (fields : List (String × List UInt8)) : List UInt8 :=
  0x7b :: (commas (fields.map fun (name, value) => string name ++ 0x3a :: value) ++ [0x7d])

/-- A JSON boolean. -/
def bool (value : Bool) : List UInt8 := if value = true then utf8 "true" else utf8 "false"

/-- A JSON string, or `null`. -/
def nullable (value : Option String) : List UInt8 := value.elim (utf8 "null") string

/-- A JSON number. -/
def number (value : Nat) : List UInt8 := utf8 (toString value)

section Sizes

variable {value other : String} {first : List UInt8} {values : List (List UInt8)}

@[simp] theorem escaped_append : escaped (value ++ other) = escaped value ++ escaped other := by
  rw [escaped, utf8_append, List.flatMap_append]
  rfl

@[simp] theorem length_string : (string value).length = (escaped value).length + 2 := by
  simp [string]

/-- How many bytes values take in an array, each with the sign after it. -/
def listed (values : List (List UInt8)) : Nat := (values.map fun value => value.length + 1).sum

@[simp] theorem listed_nil : listed [] = 0 := rfl

@[simp] theorem listed_cons : listed (first :: values) = first.length + 1 + listed values := by
  simp [listed]

@[simp] theorem listed_append {more : List (List UInt8)} : listed (values ++ more) = listed values + listed more := by
  simp [listed]

theorem length_commas (filled : values ≠ []) : (commas values).length + 1 = listed values := by
  induction values with
  | nil => exact absurd rfl filled
  | cons first rest ih =>
    cases rest with
    | nil => simp [commas]
    | cons second rest =>
      have more := ih (by simp)
      simp only [commas, List.length_append, List.length_cons, listed_cons] at more ⊢
      omega

theorem length_array (filled : values ≠ []) : (array values).length = listed values + 1 := by
  have inside := length_commas filled
  simp only [array, List.length_cons, List.length_append, List.length_nil]
  omega

@[simp] theorem length_array_nil : (array []).length = 2 := rfl

end Sizes

end Json

end CNShell
