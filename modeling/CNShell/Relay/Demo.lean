import CNShell.Library.Base64
import CNShell.Relay.Effects

/-! A concrete platform with numbered identifiers, tokens, accounts and devices on it. -/

namespace CNShell

namespace Relay

namespace Demo

/-- The last four decimal digits of a number. -/
def digits (n : Nat) : List Char :=
  [Nat.digitChar (n / 1000 % 10), Nat.digitChar (n / 100 % 10), Nat.digitChar (n / 10 % 10), Nat.digitChar (n % 10)]

/-- Whether a character is a hexadecimal digit. -/
def isHexDigit (char : Char) : Bool := char.isDigit || ('a' ≤ char && char ≤ 'f') || ('A' ≤ char && char ≤ 'F')

def parsesUuid (value : String) : Bool :=
  value.toList.length == 36 && value.toList.zipIdx.all fun entry =>
    if entry.2 ∈ [8, 13, 18, 23] then entry.1 == '-' else isHexDigit entry.1

/-- The hexadecimal text of some bytes, which stands in for their digest and like it tells them apart. -/
def hex (bytes : List UInt8) : String :=
  String.ofList (bytes.flatMap fun byte =>
    [Nat.digitChar (byte.toNat / 16), Nat.digitChar (byte.toNat % 16)])

/--
A platform for runs of the relay.

Identifiers and base64 are read as the libraries read them, the digest is a stand-in without
collisions, every signature of the right length counts as genuine, and the clock stands between the
epoch and five minutes later.
-/
def platform : Platform where
  parsesUuid
  encodeBase64Url bytes := String.ofList (Base64.encode bytes)
  decodeBase64Url text := Base64.decode text.toList
  sha256Hex := hex
  validVerifyingKey key := key.length == 32
  verifies _ _ signature := signature.length == 64
  canonicalInvitation invitation := some (utf8 invitation.recipientDeviceId)
  canonicalFrame frame := some (utf8 frame.ciphertext)
  frameJsonBytes frame := 1024 + frame.ciphertext.utf8ByteSize
  parseRfc3339 text :=
    if text = "1970-01-01T00:00:00+00:00" then some 0
    else if text = "1970-01-01T00:05:00+00:00" then some (minutes 5)
    else none
  rfc3339 instant :=
    if instant = 0 then "1970-01-01T00:00:00+00:00" else "1970-01-01T00:05:00+00:00"
  hashPassword password salt := some ("$argon2id$" ++ salt ++ "$" ++ password)
  verifyPassword password hash := hash.toList.splitOn '$' |>.contains password.toList

/-- The part that all identifiers share. -/
def stem : List Char :=
  List.replicate 8 '0' ++
    ['-', '0', '0', '0', '0', '-', '4', '0', '0', '0', '-', '8', '0', '0', '0', '-'] ++
    List.replicate 8 '0'

/-- The identifier with a number, which rows of different tables share. -/
def uuid (n : Nat) : String := String.ofList (stem ++ digits n)

/-- The random bytes with a number. -/
def random (n : Nat) : List UInt8 := List.replicate 30 0 ++ [UInt8.ofNat (n / 256), UInt8.ofNat (n % 256)]

def token (n : Nat) : String := String.ofList (Base64.encode (random n))

def email (n : Nat) : String := "user" ++ String.ofList (digits n) ++ "@example.org"

/-- What a request with a number draws, at the epoch. -/
def draws (n : Nat) : Draws where
  authenticatedAt := 0
  clock _ := 0
  uuid _ := uuid n
  random _ := random n
  salt := "salt"

def device (n : Nat) : DeviceRegistration where
  id := uuid n
  name := "Laptop"
  encryptionPublicKey := "x25519:" ++ token n
  signingPublicKey := "ed25519:" ++ token n
  fingerprint := deviceFingerprint platform (random n) (random n)

section Facts

theorem digitChar_facts {digit : Nat} (small : digit < 10) :
    (Nat.digitChar digit).toLower = Nat.digitChar digit ∧
      isWhitespace (Nat.digitChar digit) = false ∧ isControl (Nat.digitChar digit) = false ∧
      Nat.digitChar digit ≠ '@' ∧ (Nat.digitChar digit).utf8Size = 1 ∧
      isHexDigit (Nat.digitChar digit) = true := by
  have all : ∀ digit : Fin 10, (Nat.digitChar digit).toLower = Nat.digitChar digit ∧
      isWhitespace (Nat.digitChar digit) = false ∧ isControl (Nat.digitChar digit) = false ∧
      Nat.digitChar digit ≠ '@' ∧ (Nat.digitChar digit).utf8Size = 1 ∧
      isHexDigit (Nat.digitChar digit) = true := by decide
  exact all ⟨digit, small⟩

theorem digitChar_inj {first second : Nat} (one : first < 16) (two : second < 16)
    (same : Nat.digitChar first = Nat.digitChar second) : first = second := by
  have all : ∀ first second : Fin 16, Nat.digitChar first = Nat.digitChar second → first = second := by decide
  simpa using all ⟨first, one⟩ ⟨second, two⟩ same

variable {n : Nat}

theorem mem_digits {char : Char} (member : char ∈ digits n) : ∃ digit < 10, char = Nat.digitChar digit := by
  simp only [digits, List.mem_cons, List.not_mem_nil, or_false] at member
  rcases member with rfl | rfl | rfl | rfl <;> exact ⟨_, Nat.mod_lt _ (by decide), rfl⟩

variable {m : Nat}

theorem digits_inj (one : m < 10000) (two : n < 10000) (same : digits m = digits n) : m = n := by
  simp only [digits, List.cons.injEq, and_true] at same
  have first := digitChar_inj (by omega) (by omega) same.1
  have second := digitChar_inj (by omega) (by omega) same.2.1
  have third := digitChar_inj (by omega) (by omega) same.2.2.1
  have fourth := digitChar_inj (by omega) (by omega) same.2.2.2
  omega

theorem uuid_inj (one : m < 10000) (two : n < 10000) : uuid m = uuid n ↔ m = n := by
  constructor
  · intro same
    exact digits_inj one two (List.append_cancel_left (String.ofList_inj.mp same))
  · rintro rfl
    rfl

theorem email_inj (one : m < 10000) (two : n < 10000) : email m = email n ↔ m = n := by
  constructor
  · intro same
    exact digits_inj one two (String.ofList_inj.mp
      ((String.append_right_inj _).mp ((String.append_left_inj _).mp same)))
  · rintro rfl
    rfl

theorem random_inj (one : m < 10000) (two : n < 10000) (same : random m = random n) : m = n := by
  simp only [random, List.append_cancel_left_eq, List.cons.injEq, and_true] at same
  have high : (UInt8.ofNat (m / 256)).toNat = (UInt8.ofNat (n / 256)).toNat := by rw [same.1]
  have low : (UInt8.ofNat (m % 256)).toNat = (UInt8.ofNat (n % 256)).toNat := by rw [same.2]
  simp only [UInt8.toNat_ofNat'] at high low
  omega

theorem token_inj (one : m < 10000) (two : n < 10000) (same : token m = token n) : m = n := by
  have decoded := congrArg Base64.decode (String.ofList_inj.mp same)
  simp only [Base64.decode_encode, Option.some.injEq] at decoded
  exact random_inj one two decoded

theorem hex_inj {first second : List UInt8} (same : hex first = hex second) : first = second := by
  have same := String.ofList_inj.mp same
  induction first generalizing second with
  | nil =>
    cases second with
    | nil => rfl
    | cons byte rest => simp at same
  | cons byte rest ih =>
    cases second with
    | nil => simp at same
    | cons other more =>
      simp only [List.flatMap_cons, List.cons_append, List.nil_append, List.cons.injEq] at same
      have := byte.toNat_lt
      have := other.toNat_lt
      have high := digitChar_inj (by omega) (by omega) same.1
      have low := digitChar_inj (by omega) (by omega) same.2.1
      have head : byte = other := UInt8.toNat_inj.mp (by omega)
      rw [head, ih (congrArg String.ofList same.2.2) same.2.2]

theorem tokenHash_inj {domain : String} (one : m < 10000) (two : n < 10000) :
    tokenHash platform domain (token m) = tokenHash platform domain (token n) ↔ m = n := by
  constructor
  · intro same
    have bytes := hex_inj ((String.append_right_inj _).mp same)
    exact token_inj one two ((String.append_right_inj _).mp (utf8_inj bytes))
  · rintro rfl
    rfl

theorem stem_facts : stem.length = 32 ∧ (stem.all fun char => char.utf8Size == 1) = true ∧
    (stem.zipIdx.all fun entry =>
      if entry.2 ∈ [8, 13, 18, 23] then entry.1 == '-' else isHexDigit entry.1) = true := by
  decide

theorem utf8ByteSize_uuid (n : Nat) : (uuid n).utf8ByteSize = 36 := by
  rw [uuid, utf8ByteSize_ofList, List.length_append, stem_facts.1]
  · rfl
  · intro char member
    rcases List.mem_append.mp member with shared | own
    · exact ascii_of_all stem_facts.2.1 char shared
    · obtain ⟨digit, small, rfl⟩ := mem_digits own
      exact (digitChar_facts small).2.2.2.2.1

theorem validateUuid_uuid (n : Nat) (field : String) : validateUuid platform (uuid n) field = .ok () := by
  -- Only the last four characters depend on the number, and they are digits.
  have digit (k : Nat) : isHexDigit (Nat.digitChar (k % 10)) = true :=
    (digitChar_facts (Nat.mod_lt k (by decide))).2.2.2.2.2
  have parses : parsesUuid (uuid n) = true := by
    simp only [parsesUuid, uuid, String.toList_ofList, List.length_append, stem_facts.1,
      List.zipIdx_append, List.all_append, stem_facts.2.2, Bool.true_and]
    simp [digits, digit, List.zipIdx]
  simp only [validateUuid, ensure_eq_ok, utf8ByteSize_uuid]
  exact ⟨by decide, parses⟩

@[simp] theorem length_random (n : Nat) : (random n).length = 32 := by simp [random]

@[simp] theorem newToken_random (domain : String) (n : Nat) :
    newToken platform domain (random n) = (token n, tokenHash platform domain (token n)) := rfl

@[simp] theorem decode_token (n : Nat) : platform.decodeBase64Url (token n) = some (random n) := by
  show Base64.decode (String.ofList _).toList = _
  rw [String.toList_ofList, Base64.decode_encode]

theorem validateTokenShape_token (n : Nat) : validateTokenShape platform (token n) = .ok () := by
  simp only [validateTokenShape, ensure_eq_ok, decode_token, Option.elim_some, length_random,
    beq_self_eq_true, and_true]
  rw [token, utf8ByteSize_ofList fun char => Base64.utf8Size_of_mem_encode, Base64.length_encode, length_random]

theorem validateDevice_device (n : Nat) : validateDevice platform (device n) = .ok () := by
  have name : cleanName "Laptop" "设备名称" = .ok "Laptop" := by decide
  have encryption : decodePublicKey platform ("x25519:" ++ token n) "x25519" = .ok (random n) := by
    simp [decodePublicKey, ensure]
  have signing : decodePublicKey platform ("ed25519:" ++ token n) "ed25519" = .ok (random n) := by
    simp [decodePublicKey, ensure]
  have key : platform.validVerifyingKey (random n) = true := by simp [platform]
  simp [validateDevice, device, validateUuid_uuid, name, encryption, signing, key, ensure]

theorem cleanEmail_email (n : Nat) : cleanEmail (email n) = .ok (email n) := by
  have lower (k : Nat) := (digitChar_facts (Nat.mod_lt k (show 10 > 0 by decide))).1
  have space (k : Nat) := (digitChar_facts (Nat.mod_lt k (show 10 > 0 by decide))).2.1
  have control (k : Nat) := (digitChar_facts (Nat.mod_lt k (show 10 > 0 by decide))).2.2.1
  have atSign (k : Nat) := (digitChar_facts (Nat.mod_lt k (show 10 > 0 by decide))).2.2.2.1
  have chars : (email n).toList = ['u', 's', 'e', 'r'] ++ digits n ++
      ['@', 'e', 'x', 'a', 'm', 'p', 'l', 'e', '.', 'o', 'r', 'g'] := by
    simp only [email, String.toList_append, String.toList_ofList]
    rfl
  have trimmed : trim (email n) = email n := by
    apply String.toList_inj.mp
    have front : isWhitespace 'u' = false := by decide
    have back : isWhitespace 'g' = false := by decide
    simp only [trim, chars, String.toList_ofList, List.cons_append, List.dropWhile_cons, front]
    refine List.rdropWhile_eq_self_iff.mpr fun _ => ?_
    simp [back]
  have lowered : toAsciiLowercase (email n) = email n := by
    apply String.toList_inj.mp
    simp only [toAsciiLowercase, chars, String.toList_ofList]
    simp [digits, lower]
  have pieces : splitOn '@' (email n) =
      [['u', 's', 'e', 'r'] ++ digits n, ['e', 'x', 'a', 'm', 'p', 'l', 'e', '.', 'o', 'r', 'g']] := by
    simp [splitOn, chars, List.splitOn, List.splitOnP_cons_eq_if_modifyHead, digits, atSign]
  have size : (email n).utf8ByteSize = 20 := by
    have all : ∀ char ∈ (email n).toList, char.utf8Size = 1 := by
      intro char member
      simp only [chars, List.mem_append] at member
      rcases member with (front | own) | back
      · exact ascii_of_all (by decide) char front
      · obtain ⟨digit, small, rfl⟩ := mem_digits own
        exact (digitChar_facts small).2.2.2.2.1
      · exact ascii_of_all (by decide) char back
    rw [← String.ofList_toList (s := email n), utf8ByteSize_ofList all, chars]
    rfl
  have clean : ((email n).toList.any fun char => isControl char || isWhitespace char) = false := by
    have letters : (['u', 's', 'e', 'r', '@', 'e', 'x', 'a', 'm', 'p', 'l', 'e', '.', 'o', 'r',
        'g'].any fun char => isControl char || isWhitespace char) = false := by decide
    simp only [List.any_cons, List.any_nil, Bool.or_eq_false_iff] at letters
    simp [chars, digits, space, control, letters]
  simp [cleanEmail, trimmed, lowered, pieces, size, clean, ensure]

end Facts

end Demo

end Relay

end CNShell
