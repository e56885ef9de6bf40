import CNShell.Client.Models
import CNShell.Library.Transition

/-! X11 channels: the setup request with the one-time cookie, and the bridge to the local X server. -/

namespace CNShell

namespace Ssh

namespace X11

open Client (AppError AppResult)

/-- The name of the authorization protocol. -/
def authProtocol : List UInt8 :=
  [0x4d, 0x49, 0x54, 0x2d, 0x4d, 0x41, 0x47, 0x49, 0x43, 0x2d, 0x43, 0x4f, 0x4f, 0x4b, 0x49, 0x45, 0x2d, 0x31]

def cookieBytes : Nat := 16

/-- How long a setup request may be. -/
def maxSetupBytes : Nat := 64 * 1024

/-- How much one read of the setup brings at most. -/
def setupBufferBytes : Nat := 4096

/-- How much one read brings at most once the setup is done. -/
def relayBufferBytes : Nat := 32 * 1024

structure Cookie where
  bytes : List UInt8
  size : bytes.length = cookieBytes
  deriving DecidableEq

/-- Why the code does not go on. -/
inductive Abort
  /-- An index or a range is not within the bytes. -/
  | outOfRange
  | refused (error : AppError)
  deriving DecidableEq, Repr

def byteAt (bytes : List UInt8) (index : Nat) : Except Abort UInt8 :=
  match bytes[index]? with
  | some byte => .ok byte
  | none => .error .outOfRange

def range (bytes : List UInt8) (start stop : Nat) : Except Abort (List UInt8) :=
  if start ≤ stop ∧ stop ≤ bytes.length then .ok ((bytes.drop start).take (stop - start)) else .error .outOfRange

/-- Other bytes take the place of a range of the same length. -/
def copyFromSlice (bytes : List UInt8) (start stop : Nat) (source : List UInt8) : Except Abort (List UInt8) :=
  if start ≤ stop ∧ stop ≤ bytes.length ∧ source.length = stop - start then
    .ok (bytes.take start ++ source ++ bytes.drop stop)
  else .error .outOfRange

/-- A number of two bytes. -/
def readU16 (bytes : List UInt8) (little : Bool) (offset : Nat) : Except Abort Nat := do
  let first ← byteAt bytes offset
  let second ← byteAt bytes (offset + 1)
  return if little = true then first.toNat + 256 * second.toNat else 256 * first.toNat + second.toNat

/-- A length is filled up to a multiple of four. -/
def padded (length : Nat) : Nat := (length + 3) / 4 * 4

/-- Whether the order is the one with the least significant byte first. -/
def isLittle (order : UInt8) : Except Abort Bool :=
  if order = 0x6c then .ok true
  else if order = 0x42 then .ok false
  else .error (.refused (.validation "X11 初始化包字节序无效"))

/-- Whether a part of the request differs; its bytes are only looked at where the length is the right one. -/
def differs (length expected : Nat) (part : Except Abort (List UInt8)) (content : List UInt8) : Except Abort Bool :=
  if length ≠ expected then .ok true else part.map fun found => decide (found ≠ content)

def mismatch (bytes : List UInt8) (fakeCookie : Cookie) (nameLen dataStart dataLen : Nat) : Except Abort Bool := do
  let otherName ← differs nameLen authProtocol.length (range bytes 12 (12 + nameLen)) authProtocol
  if otherName = true then return true
  else differs dataLen cookieBytes (range bytes dataStart (dataStart + dataLen)) fakeCookie.bytes

/-- What follows once the lengths of the name and of the data are read. -/
def rewriteData (bytes : List UInt8) (fakeCookie realCookie : Cookie) (nameLen dataLen : Nat) :
    Except Abort (Option (List UInt8)) :=
  let dataStart := 12 + padded nameLen
  let total := dataStart + padded dataLen
  if maxSetupBytes < total then .error (.refused (.validation "X11 初始化包长度无效"))
  else if bytes.length < total then .ok none
  else do
    let other ← mismatch bytes fakeCookie nameLen dataStart dataLen
    if other = true then .error (.refused (.authentication "X11 channel 未提供本会话的一次性授权 cookie"))
    else (copyFromSlice bytes dataStart (dataStart + dataLen) realCookie.bytes).map some

/-- The fake cookie in a setup request is replaced, once the request is whole. -/
def rewriteSetupCookie (bytes : List UInt8) (fakeCookie realCookie : Cookie) : Except Abort (Option (List UInt8)) :=
  if bytes.length < 12 then .ok none
  else do
    let order ← byteAt bytes 0
    let little ← isLittle order
    let nameLen ← readU16 bytes little 6
    let dataLen ← readU16 bytes little 8
    rewriteData bytes fakeCookie realCookie nameLen dataLen

inductive ByteOrder
  | little
  | big
  deriving DecidableEq, Repr

def ByteOrder.byte : ByteOrder → UInt8
  | .little => 0x6c
  | .big => 0x42

/-- The two bytes of a small number. -/
def ByteOrder.encode : ByteOrder → UInt8 → List UInt8
  | .little, value => [value, 0]
  | .big, value => [0, value]

/-- What precedes the cookie in a setup request that names the protocol. -/
structure Announces (front : List UInt8) : Prop where
  size : front.length = 32
  lengths : ∃ order : ByteOrder, front.take 1 = [order.byte] ∧
    (front.drop 6).take 4 = order.encode 18 ++ order.encode 16
  name : (front.drop 12).take 18 = authProtocol

/-- A stream begins with a setup request that names the protocol and carries a cookie. -/
def Authorized (cookie : Cookie) (stream : List UInt8) : Prop :=
  Announces (stream.take 32) ∧ (stream.drop 32).take 16 = cookie.bytes

def substituted (cookie : Cookie) (stream : List UInt8) : List UInt8 :=
  stream.take 32 ++ cookie.bytes ++ stream.drop 48

/-- The twelve bytes that precede the name. -/
structure Header where
  order : UInt8
  unused : UInt8
  version : UInt8 × UInt8 × UInt8 × UInt8
  nameLen : UInt8 × UInt8
  dataLen : UInt8 × UInt8
  filler : UInt8 × UInt8

def Header.encode (header : Header) : List UInt8 :=
  [header.order, header.unused, header.version.1, header.version.2.1, header.version.2.2.1, header.version.2.2.2,
    header.nameLen.1, header.nameLen.2, header.dataLen.1, header.dataLen.2, header.filler.1, header.filler.2]

theorem header_of_le : {bytes : List UInt8} → 12 ≤ bytes.length → ∃ header : Header, ∃ tail, bytes =
    header.encode ++ tail
  | b0 :: b1 :: b2 :: b3 :: b4 :: b5 :: b6 :: b7 :: b8 :: b9 :: b10 :: b11 :: tail, _ =>
    ⟨⟨b0, b1, (b2, b3, b4, b5), (b6, b7), (b8, b9), (b10, b11)⟩, tail, rfl⟩

def Header.Announced (header : Header) : Prop := ∃ order : ByteOrder, header.order = order.byte ∧
  [header.nameLen.1, header.nameLen.2] = order.encode 18 ∧ [header.dataLen.1, header.dataLen.2] = order.encode 16

section Setup

variable {fake real : Cookie} {bytes rest : List UInt8}

theorem Authorized.long (authorized : Authorized fake bytes) : 48 ≤ bytes.length := by
  -- The cookie after the first thirty-two bytes is a whole one.
  have size := congrArg List.length authorized.2
  rw [fake.size, List.length_take, List.length_drop] at size
  simp only [cookieBytes] at size
  omega

theorem authorized_append (long : 48 ≤ bytes.length) : Authorized fake (bytes ++ rest) ↔ Authorized fake bytes := by
  -- Neither range of the definition reaches past these bytes.
  have front : (bytes ++ rest).take 32 = bytes.take 32 := List.take_append_of_le_length (by omega)
  have cookie : ((bytes ++ rest).drop 32).take 16 = (bytes.drop 32).take 16 := by
    rw [List.drop_append_of_le_length (by omega)]
    exact List.take_append_of_le_length (by rw [List.length_drop]; omega)
  rw [Authorized, Authorized, front, cookie]

theorem substituted_append (long : 48 ≤ bytes.length) :
    substituted real (bytes ++ rest) = substituted real bytes ++ rest := by
  -- What is appended comes after the cookie.
  rw [substituted, substituted, List.take_append_of_le_length (by omega),
    List.drop_append_of_le_length (by omega), List.append_assoc _ (List.drop 48 bytes)]

/-- The number that two bytes stand for. -/
def number (little : Bool) (first second : UInt8) : Nat :=
  if little = true then first.toNat + 256 * second.toNat else 256 * first.toNat + second.toNat

theorem number_eq {little : Bool} {first second value : UInt8} :
    number little first second = value.toNat ↔
      [first, second] = (if little = true then ByteOrder.little else .big).encode value := by
  -- The more significant byte of a small number is zero.
  have one := first.toNat_lt
  have two := second.toNat_lt
  have bound := value.toNat_lt
  cases little
  · simp only [number, ByteOrder.encode, List.cons.injEq, and_true, Bool.false_eq_true, if_false,
      ← UInt8.toNat_inj, UInt8.toNat_zero]
    omega
  · simp only [number, ByteOrder.encode, List.cons.injEq, and_true, if_true, ← UInt8.toNat_inj, UInt8.toNat_zero]
    omega

theorem range_ok {start stop : Nat} (ordered : start ≤ stop) (within : stop ≤ bytes.length) :
    range bytes start stop = .ok ((bytes.drop start).take (stop - start)) := if_pos ⟨ordered, within⟩

theorem le_padded (length : Nat) : length ≤ padded length := by
  unfold padded
  omega

variable {header : Header}

theorem authorized_iff {tail : List UInt8} : Authorized fake (header.encode ++ tail) ↔
    header.Announced ∧ 20 ≤ tail.length ∧ tail.take 18 = authProtocol ∧ (tail.drop 20).take 16 = fake.bytes := by
  -- The ranges of the definition are computed on the twelve bytes of the header.
  have lengths : (∃ order : ByteOrder, [header.order] = [order.byte] ∧
      [header.nameLen.1, header.nameLen.2, header.dataLen.1, header.dataLen.2] =
        order.encode 18 ++ order.encode 16) ↔ header.Announced := by
    refine exists_congr fun order => ?_
    cases order <;> simp [ByteOrder.encode, and_assoc]
  constructor
  · rintro ⟨⟨size, order, name⟩, cookie⟩
    refine ⟨lengths.mp order, ?_, ?_, cookie⟩
    · simp only [Header.encode, List.length_take, List.length_append, List.length_cons, List.length_nil] at size
      omega
    · simpa [Header.encode, List.take_take] using name
  · rintro ⟨announced, size, name, cookie⟩
    refine ⟨⟨?_, lengths.mpr announced, ?_⟩, cookie⟩
    · simp only [Header.encode, List.length_take, List.length_append, List.length_cons, List.length_nil]
      omega
    · simpa [Header.encode, List.take_take] using name

theorem rewriteSetupCookie_eq (header : Header) (tail : List UInt8) :
    rewriteSetupCookie (header.encode ++ tail) fake real = (isLittle header.order).bind fun little =>
      rewriteData (header.encode ++ tail) fake real (number little header.nameLen.1 header.nameLen.2)
        (number little header.dataLen.1 header.dataLen.2) := by
  -- Twelve bytes are there, so each of the reads is one of them.
  have long : ¬(header.encode ++ tail).length < 12 := by simp [Header.encode]
  rw [rewriteSetupCookie, if_neg long]
  rfl

theorem differs_ok {length expected start : Nat} {content : List UInt8} (within : start + length ≤ bytes.length) :
    differs length expected (range bytes start (start + length)) content =
      .ok (decide ¬(length = expected ∧ (bytes.drop start).take expected = content)) := by
  -- The range is within the bytes, whatever its length is.
  rw [differs, range_ok (Nat.le_add_right _ _) within, Nat.add_sub_cancel_left]
  by_cases same : length = expected
  · subst same
    simp [Except.map]
  · simp [same]

theorem mismatch_ok {nameLen dataStart dataLen : Nat} (name : 12 + nameLen ≤ bytes.length)
    (data : dataStart + dataLen ≤ bytes.length) :
    mismatch bytes fake nameLen dataStart dataLen =
      .ok (decide ¬((nameLen = 18 ∧ (bytes.drop 12).take 18 = authProtocol) ∧
        dataLen = 16 ∧ (bytes.drop dataStart).take 16 = fake.bytes)) := by
  -- Both comparisons are made on ranges that are there.
  have protocol : authProtocol.length = 18 := rfl
  rw [mismatch, differs_ok name, differs_ok data, protocol]
  simp only [bind, Except.bind, pure, Except.pure, decide_eq_true_eq, cookieBytes]
  split
  · next other =>
    rw [decide_eq_true]
    exact fun both => other both.1
  · next same =>
    rw [not_not] at same
    exact congrArg Except.ok (decide_eq_decide.mpr (not_congr (and_iff_right same).symm))

theorem rewriteData_cases (nameLen dataLen : Nat) :
    (rewriteData bytes fake real nameLen dataLen = .ok none ∧ bytes.length < maxSetupBytes ∧
      (nameLen = 18 → dataLen = 16 → bytes.length < 48)) ∨
    (rewriteData bytes fake real nameLen dataLen = .ok (some (substituted real bytes)) ∧ nameLen = 18 ∧ dataLen = 16 ∧
      48 ≤ bytes.length ∧ (bytes.drop 12).take 18 = authProtocol ∧ (bytes.drop 32).take 16 = fake.bytes) ∨
    ∃ error, rewriteData bytes fake real nameLen dataLen = .error (.refused error) ∧ (nameLen = 18 → dataLen = 16 →
      48 ≤ bytes.length ∧ ¬((bytes.drop 12).take 18 = authProtocol ∧ (bytes.drop 32).take 16 = fake.bytes)) := by
  have name := le_padded nameLen
  have data := le_padded dataLen
  by_cases large : maxSetupBytes < 12 + padded nameLen + padded dataLen
  · refine .inr (.inr ⟨_, if_pos large, ?_⟩)
    -- The lengths that are expected are not too large.
    rintro rfl rfl
    exact absurd large (by decide)
  by_cases short : bytes.length < 12 + padded nameLen + padded dataLen
  · refine .inl ⟨by rw [rewriteData, if_neg large, if_pos short], by omega, ?_⟩
    rintro rfl rfl
    exact short
  have compared := @mismatch_ok fake bytes nameLen (12 + padded nameLen) dataLen (by omega) (by omega)
  by_cases other : ¬((nameLen = 18 ∧ (bytes.drop 12).take 18 = authProtocol) ∧
      dataLen = 16 ∧ (bytes.drop (12 + padded nameLen)).take 16 = fake.bytes)
  · refine .inr (.inr ⟨.authentication "X11 channel 未提供本会话的一次性授权 cookie", ?_, ?_⟩)
    · rw [rewriteData, if_neg large, if_neg short, compared, decide_eq_true other]
      rfl
    · rintro rfl rfl
      exact ⟨not_lt.mp short, fun both => other ⟨⟨rfl, both.1⟩, rfl, both.2⟩⟩
  · rw [not_not] at other
    obtain ⟨⟨rfl, found⟩, rfl, cookie⟩ := other
    refine .inr (.inl ⟨?_, rfl, rfl, not_lt.mp short, found, cookie⟩)
    rw [rewriteData, if_neg large, if_neg short, compared, decide_eq_false (not_not.mpr ⟨⟨rfl, found⟩, rfl, cookie⟩)]
    have there : 12 + padded 18 ≤ 12 + padded 18 + 16 ∧ 12 + padded 18 + 16 ≤ bytes.length ∧
        real.bytes.length = 12 + padded 18 + 16 - (12 + padded 18) :=
      ⟨Nat.le_add_right _ _, not_lt.mp short, by rw [real.size, Nat.add_sub_cancel_left]; rfl⟩
    simp only [bind, Except.bind, Bool.false_eq_true, if_false, copyFromSlice, if_pos there, Except.map]
    rfl

theorem isLittle_cases (header : Header) :
    (∃ order : ByteOrder, header.order = order.byte ∧ isLittle header.order = .ok (decide (order = .little))) ∨
      (∃ error, isLittle header.order = .error (.refused error)) ∧ ¬header.Announced := by
  by_cases small : header.order = 0x6c
  · exact .inl ⟨.little, small, if_pos small⟩
  by_cases large : header.order = 0x42
  · exact .inl ⟨.big, large, by rw [isLittle, if_neg small, if_pos large]; rfl⟩
  refine .inr ⟨⟨_, by rw [isLittle, if_neg small, if_neg large]⟩, ?_⟩
  -- Each of the two orders has one of the two bytes.
  rintro ⟨order, same, -⟩
  cases order
  · exact small same
  · exact large same

theorem announced_iff {order : ByteOrder} (same : header.order = order.byte) :
    header.Announced ↔ number (decide (order = .little)) header.nameLen.1 header.nameLen.2 = 18 ∧
      number (decide (order = .little)) header.dataLen.1 header.dataLen.2 = 16 := by
  have name := @number_eq (decide (order = .little)) header.nameLen.1 header.nameLen.2 18
  have data := @number_eq (decide (order = .little)) header.dataLen.1 header.dataLen.2 16
  have chosen : (if decide (order = .little) = true then ByteOrder.little else .big) = order := by cases order <;> rfl
  rw [chosen] at name data
  refine ⟨fun ⟨other, also, lengths⟩ => ?_, fun lengths => ⟨order, same, name.mp lengths.1, data.mp lengths.2⟩⟩
  -- One byte stands for one order only.
  obtain rfl : other = order := by
    rw [same] at also
    cases other <;> cases order <;> first | rfl | exact absurd also (by decide)
  exact ⟨name.mpr lengths.1, data.mpr lengths.2⟩

theorem rewriteSetupCookie_cases (fake real : Cookie) (bytes : List UInt8) :
    (rewriteSetupCookie bytes fake real = .ok none ∧ bytes.length < maxSetupBytes ∧ ¬Authorized fake bytes) ∨
    (rewriteSetupCookie bytes fake real = .ok (some (substituted real bytes)) ∧ Authorized fake bytes) ∨
    ∃ error, rewriteSetupCookie bytes fake real = .error (.refused error) ∧
      ∀ rest, ¬Authorized fake (bytes ++ rest) := by
  by_cases short : bytes.length < 12
  · refine .inl ⟨if_pos short, by simp only [maxSetupBytes]; omega, fun authorized => ?_⟩
    have := authorized.long
    omega
  obtain ⟨header, tail, rfl⟩ := header_of_le (not_lt.mp short)
  rw [rewriteSetupCookie_eq]
  obtain ⟨order, same, little⟩ | ⟨⟨error, refused⟩, unannounced⟩ := isLittle_cases header
  · rw [little, Except.bind]
    have announced := announced_iff same
    have size : (header.encode ++ tail).length = 12 + tail.length := List.length_append
    obtain ⟨waits, bound, lacks⟩ | ⟨done, name, data, long, protocol, cookie⟩ | ⟨error, refused, lacks⟩ :=
      @rewriteData_cases fake real _ (number (decide (order = .little)) header.nameLen.1 header.nameLen.2)
        (number (decide (order = .little)) header.dataLen.1 header.dataLen.2)
    · refine .inl ⟨waits, bound, fun authorized => ?_⟩
      obtain ⟨name, data⟩ := announced.mp (authorized_iff.mp authorized).1
      exact absurd authorized.long (not_le.mpr (lacks name data))
    · exact .inr (.inl ⟨done, authorized_iff.mpr ⟨announced.mpr ⟨name, data⟩, by omega, protocol, cookie⟩⟩)
    · -- With all of the request read, more of the stream does not change what was found.
      refine .inr (.inr ⟨error, refused, fun rest authorized => ?_⟩)
      have further := authorized
      rw [List.append_assoc] at further
      obtain ⟨name, data⟩ := announced.mp (authorized_iff.mp further).1
      obtain ⟨long, differ⟩ := lacks name data
      rw [authorized_append long] at authorized
      exact differ (authorized_iff.mp authorized).2.2
  · refine .inr (.inr ⟨error, by rw [refused]; rfl, fun rest authorized => ?_⟩)
    rw [List.append_assoc] at authorized
    exact unannounced (authorized_iff.mp authorized).1

end Setup

end X11

end Ssh

end CNShell
