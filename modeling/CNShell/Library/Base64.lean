import CNShell.Library.Text

/-! The base64 alphabets, URL-safe without padding and standard with it: encoding, decoding and their round trips. -/

namespace CNShell

namespace Base64

/-- The character that stands for six bits. -/
def digit (bits : Nat) : Char :=
  if bits < 26 then Char.ofNat (65 + bits)
  else if bits < 52 then Char.ofNat (71 + bits)
  else if bits < 62 then Char.ofNat (bits - 4)
  else if bits = 62 then '-'
  else '_'

/-- The six bits a character stands for. -/
def value? (char : Char) : Option Nat :=
  let code := char.toNat
  if 65 ≤ code ∧ code ≤ 90 then some (code - 65)
  else if 97 ≤ code ∧ code ≤ 122 then some (code - 71)
  else if 48 ≤ code ∧ code ≤ 57 then some (code + 4)
  else if char = '-' then some 62
  else if char = '_' then some 63
  else none

/-- The characters of some bytes, four for every three of them. -/
def encode : List UInt8 → List Char
  | [] => []
  | [a] => [digit (a.toNat / 4), digit (a.toNat % 4 * 16)]
  | [a, b] =>
      [digit (a.toNat / 4), digit (a.toNat % 4 * 16 + b.toNat / 16), digit (b.toNat % 16 * 4)]
  | a :: b :: c :: rest =>
      digit (a.toNat / 4) :: digit (a.toNat % 4 * 16 + b.toNat / 16) ::
        digit (b.toNat % 16 * 4 + c.toNat / 64) :: digit (c.toNat % 64) :: encode rest

/-- The bytes some characters stand for; the bits that are left over must be zero. -/
def decode : List Char → Option (List UInt8)
  | [] => some []
  | [_] => none
  | [p, q] => do
      let x ← value? p
      let y ← value? q
      if y % 16 = 0 then some [.ofNat (x * 4 + y / 16)] else none
  | [p, q, r] => do
      let x ← value? p
      let y ← value? q
      let z ← value? r
      if z % 4 = 0 then some [.ofNat (x * 4 + y / 16), .ofNat (y % 16 * 16 + z / 4)] else none
  | p :: q :: r :: s :: rest => do
      let x ← value? p
      let y ← value? q
      let z ← value? r
      let w ← value? s
      let bytes ← decode rest
      some (.ofNat (x * 4 + y / 16) :: .ofNat (y % 16 * 16 + z / 4) :: .ofNat (z % 4 * 64 + w) ::
        bytes)

variable {bytes : List UInt8}

theorem value?_of_decode {chars : List Char} (decoded : decode chars = some bytes) :
    ∀ char ∈ chars, (value? char).isSome := by
  -- The induction follows the groups of four characters, all of which are read.
  fun_induction decode chars generalizing bytes with
  | case1 => simp
  | case2 => cases decoded
  | case3 p q =>
    simp only [Option.bind_eq_bind, Option.bind_eq_some_iff] at decoded
    obtain ⟨x, first, y, second, -⟩ := decoded
    simp [first, second]
  | case4 p q r =>
    simp only [Option.bind_eq_bind, Option.bind_eq_some_iff] at decoded
    obtain ⟨x, first, y, second, z, third, -⟩ := decoded
    simp [first, second, third]
  | case5 p q r s rest ih =>
    simp only [Option.bind_eq_bind, Option.bind_eq_some_iff] at decoded
    obtain ⟨x, first, y, second, z, third, w, fourth, others, later, -⟩ := decoded
    have all := ih later
    simpa [first, second, third, fourth] using all

variable {bits : Nat}

theorem value?_digit (small : bits < 64) : value? (digit bits) = some bits := by
  have all : ∀ bits : Fin 64, value? (digit bits) = some bits.val := by decide
  exact all ⟨bits, small⟩

theorem utf8Size_digit (small : bits < 64) : (digit bits).utf8Size = 1 := by
  have all : ∀ bits : Fin 64, (digit bits).utf8Size = 1 := by decide
  exact all ⟨bits, small⟩

theorem decode_encode (bytes : List UInt8) : decode (encode bytes) = some bytes := by
  -- The induction follows the groups of three bytes, each of which is four characters.
  fun_induction encode bytes with
  | case1 => rfl
  | case2 a =>
    have := a.toNat_lt
    simp only [decode, value?_digit (show a.toNat / 4 < 64 by omega),
      value?_digit (show a.toNat % 4 * 16 < 64 by omega), Option.bind_eq_bind, Option.bind_some]
    rw [if_pos (by omega), show a.toNat / 4 * 4 + a.toNat % 4 * 16 / 16 = a.toNat by omega, UInt8.ofNat_toNat]
  | case3 a b =>
    have := a.toNat_lt
    have := b.toNat_lt
    simp only [decode, value?_digit (show a.toNat / 4 < 64 by omega),
      value?_digit (show a.toNat % 4 * 16 + b.toNat / 16 < 64 by omega),
      value?_digit (show b.toNat % 16 * 4 < 64 by omega), Option.bind_eq_bind, Option.bind_some]
    rw [if_pos (by omega),
      show a.toNat / 4 * 4 + (a.toNat % 4 * 16 + b.toNat / 16) / 16 = a.toNat by omega,
      show (a.toNat % 4 * 16 + b.toNat / 16) % 16 * 16 + b.toNat % 16 * 4 / 4 = b.toNat by omega,
      UInt8.ofNat_toNat, UInt8.ofNat_toNat]
  | case4 a b c rest ih =>
    have := a.toNat_lt
    have := b.toNat_lt
    have := c.toNat_lt
    simp only [decode, ih, value?_digit (show a.toNat / 4 < 64 by omega),
      value?_digit (show a.toNat % 4 * 16 + b.toNat / 16 < 64 by omega),
      value?_digit (show b.toNat % 16 * 4 + c.toNat / 64 < 64 by omega),
      value?_digit (show c.toNat % 64 < 64 by omega), Option.bind_eq_bind, Option.bind_some]
    rw [show a.toNat / 4 * 4 + (a.toNat % 4 * 16 + b.toNat / 16) / 16 = a.toNat by omega,
      show (a.toNat % 4 * 16 + b.toNat / 16) % 16 * 16 + (b.toNat % 16 * 4 + c.toNat / 64) / 4 = b.toNat by omega,
      show (b.toNat % 16 * 4 + c.toNat / 64) % 4 * 64 + c.toNat % 64 = c.toNat by omega,
      UInt8.ofNat_toNat, UInt8.ofNat_toNat, UInt8.ofNat_toNat]

theorem length_encode (bytes : List UInt8) : (encode bytes).length = (bytes.length * 4 + 2) / 3 := by
  fun_induction encode bytes with
  | case1 => rfl
  | case2 a => simp
  | case3 a b => simp
  | case4 a b c rest ih =>
    simp only [List.length_cons, ih]
    omega

theorem exists_digit_of_mem_encode {char : Char} (member : char ∈ encode bytes) :
    ∃ bits, bits < 64 ∧ char = digit bits := by
  fun_induction encode bytes with
  | case1 => cases member
  | case2 a =>
    have := a.toNat_lt
    simp only [List.mem_cons, List.not_mem_nil, or_false] at member
    rcases member with rfl | rfl <;> exact ⟨_, by omega, rfl⟩
  | case3 a b =>
    have := a.toNat_lt
    have := b.toNat_lt
    simp only [List.mem_cons, List.not_mem_nil, or_false] at member
    rcases member with rfl | rfl | rfl <;> exact ⟨_, by omega, rfl⟩
  | case4 a b c rest ih =>
    have := a.toNat_lt
    have := b.toNat_lt
    have := c.toNat_lt
    simp only [List.mem_cons] at member
    rcases member with rfl | rfl | rfl | rfl | later
    · exact ⟨_, by omega, rfl⟩
    · exact ⟨_, by omega, rfl⟩
    · exact ⟨_, by omega, rfl⟩
    · exact ⟨_, by omega, rfl⟩
    · exact ih later

theorem utf8Size_of_mem_encode {char : Char} (member : char ∈ encode bytes) : char.utf8Size = 1 := by
  obtain ⟨bits, small, rfl⟩ := exists_digit_of_mem_encode member
  exact utf8Size_digit small

/-! ### The standard alphabet, with padding -/

/-- The character of the standard alphabet for one of the URL-safe alphabet. -/
def standard (char : Char) : Char := if char = '-' then '+' else if char = '_' then '/' else char

/-- The character of the URL-safe alphabet for one of the standard alphabet, which has neither dash nor underscore. -/
def urlSafe (char : Char) : Option Char :=
  if char = '+' then some '-' else if char = '/' then some '_'
  else if char = '-' ∨ char = '_' then none else some char

/-- The characters of some bytes, filled up to a multiple of four. -/
def encodePadded (bytes : List UInt8) : List Char :=
  (encode bytes).map standard ++ List.replicate ((3 - bytes.length % 3) % 3) '='

/-- The bytes some characters stand for, which must be filled up as an encoding is. -/
def decodePadded (chars : List Char) : Option (List UInt8) := do
  let text := chars.takeWhile (· ≠ '=')
  let bytes ← decode (← text.mapM urlSafe)
  if chars = text ++ List.replicate ((3 - bytes.length % 3) % 3) '=' then some bytes else none

theorem urlSafe_standard (small : bits < 64) :
    urlSafe (standard (digit bits)) = some (digit bits) ∧ standard (digit bits) ≠ '=' := by
  have all : ∀ bits : Fin 64, urlSafe (standard (digit bits)) = some (digit bits) ∧
      standard (digit bits) ≠ '=' := by decide
  exact all ⟨bits, small⟩

theorem decodePadded_encodePadded (bytes : List UInt8) : decodePadded (encodePadded bytes) = some bytes := by
  have text : (encodePadded bytes).takeWhile (· ≠ '=') = (encode bytes).map standard := by
    unfold encodePadded
    rw [List.takeWhile_append_of_pos]
    · -- The padding itself is not taken.
      cases (3 - bytes.length % 3) % 3 <;> simp [List.replicate_succ]
    · intro char member
      obtain ⟨plain, encoded, rfl⟩ := List.mem_map.mp member
      obtain ⟨bits, small, rfl⟩ := exists_digit_of_mem_encode encoded
      simpa using (urlSafe_standard small).2
  have plain : ((encode bytes).map standard).mapM urlSafe = some (encode bytes) := by
    have each : ∀ chars : List Char, (∀ char ∈ chars, urlSafe (standard char) = some char) →
        (chars.map standard).mapM urlSafe = some chars := by
      intro chars found
      induction chars with
      | nil => rfl
      | cons first rest ih =>
        rw [List.map_cons, List.mapM_cons, found first List.mem_cons_self,
          ih fun char member => found char (List.mem_cons_of_mem _ member)]
        rfl
    refine each _ fun char member => ?_
    obtain ⟨bits, small, rfl⟩ := exists_digit_of_mem_encode member
    exact (urlSafe_standard small).1
  simp only [decodePadded, text, plain, Option.bind_eq_bind, Option.bind_some, decode_encode]
  exact if_pos rfl

theorem length_encodePadded (bytes : List UInt8) : (encodePadded bytes).length = (bytes.length + 2) / 3 * 4 := by
  rw [encodePadded, List.length_append, List.length_map, List.length_replicate, length_encode]
  omega

theorem utf8ByteSize_encodePadded (bytes : List UInt8) :
    (String.ofList (encodePadded bytes)).utf8ByteSize = (bytes.length + 2) / 3 * 4 := by
  rw [utf8ByteSize_ofList, length_encodePadded]
  intro char member
  rcases List.mem_append.mp member with encoded | padding
  · obtain ⟨plain, inside, rfl⟩ := List.mem_map.mp encoded
    obtain ⟨bits, small, rfl⟩ := exists_digit_of_mem_encode inside
    have all : ∀ bits : Fin 64, (standard (digit bits)).utf8Size = 1 := by decide
    exact all ⟨bits, small⟩
  · rw [List.eq_of_mem_replicate padding]
    rfl

end Base64

end CNShell
