import CNShell.Modem.Xymodem

/-! The detector of a ZMODEM handshake in what a terminal receives. -/

namespace CNShell

namespace Terminal

open Modem (Bytes)

/-- The first bytes of a header in hexadecimal digits. -/
def zhexPrefix : Bytes := [0x2a, 0x2a, 0x18, 0x42]

/-- How long such a header is. -/
def zhexHeaderLen : Nat := 18

/-- Which way the files of a transfer go. -/
inductive Direction
  | download
  | upload
  deriving DecidableEq, Repr

/-- A handshake that was found, with the bytes from its header on. -/
structure Detection where
  direction : Direction
  protocolBytes : Bytes
  deriving DecidableEq, Repr

/-- What a read leads to. -/
structure DetectionOutput where
  terminalBytes : Bytes
  detection : Option Detection
  deriving DecidableEq, Repr

/-- What the detector keeps between two reads. -/
structure HandshakeDetector where
  pending : Bytes := []
  deriving DecidableEq, Repr

/-- The value of a hexadecimal digit. -/
def hexDigit (byte : UInt8) : Option UInt8 :=
  if 0x30 ≤ byte ∧ byte ≤ 0x39 then some (byte - 0x30)
  else if 0x61 ≤ byte ∧ byte ≤ 0x66 then some (byte - 0x61 + 10)
  else if 0x41 ≤ byte ∧ byte ≤ 0x46 then some (byte - 0x41 + 10)
  else none

def decodePairs : Bytes → Option Bytes
  | high :: low :: rest => do
    let upper ← hexDigit high
    let lower ← hexDigit low
    let others ← decodePairs rest
    return ((upper <<< 4) ||| lower) :: others
  | _ => some []

def crc16Xmodem (data : Bytes) : UInt16 := Modem.crc16 data

def parseHeader (header : Bytes) : Option Direction :=
  if header.length ≠ zhexHeaderLen ∨ header.take zhexPrefix.length ≠ zhexPrefix then none
  else
    match decodePairs (header.drop 4) with
    | none => none
    | some decoded =>
      if crc16Xmodem (decoded.take 5) ≠ Modem.fromBeBytes (decoded.getD 5 0) (decoded.getD 6 0) then none
      else if decoded.headD 0 = 0 then some .download
      else if decoded.headD 0 = 1 then some .upload
      else none

/-- The first place where some bytes occur in others. -/
def findSubslice : (haystack needle : Bytes) → Option Nat
  | [], _ => none
  | byte :: rest, needle =>
    if needle <+: byte :: rest then some 0 else (findSubslice rest needle).map (· + 1)

/-- The length of the longest proper beginning of the second bytes that the first end with. -/
def longestPrefixSuffix (data start : Bytes) : Nat :=
  ((List.range' 1 (start.length - 1)).reverse.find? fun length => start.take length <:+ data).getD 0

def DetectionOutput.after (released : Bytes) (output : DetectionOutput) : DetectionOutput :=
  { output with terminalBytes := released ++ output.terminalBytes }

namespace HandshakeDetector

/-- The loop over the bytes that are not released yet. -/
def scan (pending : Bytes) : HandshakeDetector × DetectionOutput :=
  match findSubslice pending zhexPrefix with
  | none =>
    let releaseLen := pending.length - longestPrefixSuffix pending zhexPrefix
    (⟨pending.drop releaseLen⟩, ⟨pending.take releaseLen, none⟩)
  | some prefixIndex =>
    let candidate := pending.drop prefixIndex
    if short : candidate.length < zhexHeaderLen then (⟨candidate⟩, ⟨pending.take prefixIndex, none⟩)
    else
      match parseHeader (candidate.take zhexHeaderLen) with
      | some direction => (⟨[]⟩, ⟨pending.take prefixIndex, some ⟨direction, candidate⟩⟩)
      | none =>
        -- The first byte starts no header, so it is released and the others are looked at again.
        let later := scan (pending.drop (prefixIndex + 1))
        (later.1, later.2.after (pending.take (prefixIndex + 1)))
termination_by pending.length
decreasing_by
  have size : candidate.length = pending.length - prefixIndex := List.length_drop ..
  simp only [zhexHeaderLen] at short
  simp only [List.length_drop]
  omega

/-- The bytes of one read, after those that were kept. -/
def feed (detector : HandshakeDetector) (input : Bytes) : HandshakeDetector × DetectionOutput :=
  scan (detector.pending ++ input)

end HandshakeDetector

/-- What the reads of a terminal lead to. -/
structure Listened where
  terminalBytes : Bytes
  /-- The direction of the handshake that was found. -/
  direction : Option Direction
  /-- What was handed to the protocol, or is still pending when no handshake was found. -/
  rest : Bytes
  deriving DecidableEq, Repr

/-- All reads of a terminal: after a handshake was found they belong to the protocol. -/
def HandshakeDetector.listen (detector : HandshakeDetector) : List Bytes → Listened
  | [] => ⟨[], none, detector.pending⟩
  | chunk :: chunks =>
    let fed := detector.feed chunk
    match fed.2.detection with
    | some detection =>
      ⟨fed.2.terminalBytes, some detection.direction, detection.protocolBytes ++ chunks.flatten⟩
    | none =>
      let later := fed.1.listen chunks
      { later with terminalBytes := fed.2.terminalBytes ++ later.terminalBytes }

section Search

variable {haystack needle data start : Bytes}

theorem not_prefix_of_findSubslice_none (filled : needle ≠ []) (missing : findSubslice haystack needle = none)
    (i : Nat) : ¬needle <+: haystack.drop i := by
  -- The search tries the beginning first and then the bytes after the first one.
  induction haystack generalizing i with
  | nil => simpa using filled
  | cons byte rest ih =>
    rw [findSubslice] at missing
    split at missing
    · cases missing
    · next here =>
      cases i with
      | zero => simpa using here
      | succ i => simpa using ih (Option.map_eq_none_iff.mp missing) i

theorem prefix_of_findSubslice_some {i : Nat} (found : findSubslice haystack needle = some i) :
    needle <+: haystack.drop i ∧ ∀ j < i, ¬needle <+: haystack.drop j := by
  induction haystack generalizing i with
  | nil => cases found
  | cons byte rest ih =>
    rw [findSubslice] at found
    split at found
    · next here =>
      obtain rfl := Option.some.inj found
      exact ⟨here, fun j before => absurd before (Nat.not_lt_zero j)⟩
    · next here =>
      obtain ⟨later, next, rfl⟩ := Option.map_eq_some_iff.mp found
      obtain ⟨there, first⟩ := ih next
      refine ⟨by simpa using there, fun j before => ?_⟩
      cases j with
      | zero => simpa using here
      | succ j => simpa using first j (Nat.lt_of_succ_lt_succ before)

theorem le_longestPrefixSuffix {length : Nat} (filled : 0 < length) (proper : length < start.length)
    (ends : start.take length <:+ data) : length ≤ longestPrefixSuffix data start := by
  -- The lengths are tried from the longest on.
  have tried : length ∈ (List.range' 1 (start.length - 1)).reverse := by
    rw [List.mem_reverse, List.mem_range'_1]
    omega
  unfold longestPrefixSuffix
  cases found : (List.range' 1 (start.length - 1)).reverse.find? fun length => start.take length <:+ data with
  | none =>
    have none := List.find?_eq_none.mp found length tried
    exact absurd ends (by simpa using none)
  | some longest =>
    obtain ⟨-, before, after, split, none⟩ := List.find?_eq_some_iff_append.mp found
    rw [split] at tried
    have falling : ((List.range' 1 (start.length - 1)).reverse).Pairwise (· > ·) :=
      List.pairwise_reverse.mpr (List.pairwise_lt_range' ..)
    rw [split] at falling
    rcases List.mem_append.mp tried with earlier | later
    · have refused := none length earlier
      exact absurd ends (by simpa using refused)
    · rcases List.mem_cons.mp later with rfl | later
      · exact Nat.le_refl _
      · have order := (List.pairwise_cons.mp (List.pairwise_append.mp falling).2.1).1 length later
        exact Nat.le_of_lt order

theorem longestPrefixSuffix_lt (filled : start ≠ []) : longestPrefixSuffix data start < start.length := by
  unfold longestPrefixSuffix
  have some := List.length_pos_iff.mpr filled
  cases found : (List.range' 1 (start.length - 1)).reverse.find? fun length => start.take length <:+ data with
  | none => exact some
  | some longest =>
    have tried := List.mem_of_find?_eq_some found
    rw [List.mem_reverse, List.mem_range'_1] at tried
    show longest < start.length
    omega

end Search

def headerAt (stream : Bytes) (place : Nat) : Option Direction := parseHeader ((stream.drop place).take zhexHeaderLen)

section Headers

variable {stream more : Bytes} {place : Nat} {direction : Direction}

theorem prefix_of_headerAt (found : headerAt stream place = some direction) :
    zhexHeaderLen ≤ (stream.drop place).length ∧ zhexPrefix <+: stream.drop place := by
  unfold headerAt parseHeader at found
  split at found
  · cases found
  · next whole =>
    simp only [not_or, ne_eq, not_not] at whole
    obtain ⟨long, begins⟩ := whole
    constructor
    · rw [List.length_take] at long
      omega
    · -- The first four bytes of the header are the first four of the stream.
      have first : (stream.drop place).take zhexPrefix.length = zhexPrefix := by
        rw [List.take_take] at begins
        exact begins
      exact first ▸ List.take_prefix _ _

theorem headerAt_append (long : place + zhexHeaderLen ≤ stream.length) :
    headerAt (stream ++ more) place = headerAt stream place := by
  unfold headerAt
  rw [List.drop_append_of_le_length (by omega), List.take_append_of_le_length (by rw [List.length_drop]; omega)]

theorem headerAt_eq_none (here : ¬zhexPrefix <+: stream.drop place)
    (long : place + zhexPrefix.length ≤ stream.length) : headerAt (stream ++ more) place = none := by
  by_contra some
  obtain ⟨direction, found⟩ := Option.ne_none_iff_exists'.mp some
  obtain ⟨-, begins⟩ := prefix_of_headerAt found
  rw [List.drop_append_of_le_length (by omega)] at begins
  exact here (List.prefix_of_prefix_length_le begins (List.prefix_append _ _) (by rw [List.length_drop]; omega))

theorem take_prefix_of_headerAt (found : headerAt (stream ++ more) place = some direction)
    (here : place ≤ stream.length) (short : stream.length < place + zhexPrefix.length) :
    zhexPrefix.take (stream.length - place) <:+ stream := by
  obtain ⟨-, begins⟩ := prefix_of_headerAt found
  rw [List.drop_append_of_le_length here] at begins
  have part : stream.drop place <+: zhexPrefix :=
    List.prefix_of_prefix_length_le (List.prefix_append _ _) begins (by rw [List.length_drop]; omega)
  have same := List.prefix_iff_eq_take.mp part
  rw [List.length_drop] at same
  rw [← same]
  exact List.drop_suffix _ _

end Headers

/-- What was released contains no header, whatever comes next, and what was found is one. -/
structure Released (stream : Bytes) (terminalBytes rest : Bytes) (direction : Option Direction) : Prop where
  whole : terminalBytes ++ rest = stream
  quiet : ∀ more, ∀ place < terminalBytes.length, headerAt (stream ++ more) place = none
  found : ∀ asked, direction = some asked → headerAt stream terminalBytes.length = some asked
  short : direction = none → rest.length < zhexHeaderLen

theorem headerAt_after (before stream : Bytes) (place : Nat) :
    headerAt (before ++ stream) (before.length + place) = headerAt stream place := by
  unfold headerAt
  rw [List.drop_length_add_append]

namespace Released

variable {before stream more terminalBytes rest : Bytes} {direction : Option Direction} {asked : Direction}

theorem after (later : Released stream terminalBytes rest direction)
    (quiet : ∀ more, ∀ place < before.length, headerAt (before ++ stream ++ more) place = none) :
    Released (before ++ stream) (before ++ terminalBytes) rest direction where
  whole := by rw [List.append_assoc, later.whole]
  quiet := by
    intro more place within
    -- The place is among the bytes released before, or it is a place of the rest.
    rcases Nat.lt_or_ge place before.length with early | late
    · exact quiet more place early
    · obtain ⟨offset, rfl⟩ := Nat.exists_eq_add_of_le late
      rw [List.append_assoc, headerAt_after]
      rw [List.length_append] at within
      exact later.quiet more offset (by omega)
  found := by
    intro asked same
    rw [List.length_append, headerAt_after]
    exact later.found asked same
  short := later.short

theorem extend (found : Released stream terminalBytes rest (some asked)) :
    Released (stream ++ more) terminalBytes (rest ++ more) (some asked) where
  whole := by rw [← List.append_assoc, found.whole]
  quiet := by
    intro further place within
    rw [List.append_assoc]
    exact found.quiet (more ++ further) place within
  found := by
    intro same equal
    have there := found.found asked rfl
    -- The whole header is among the bytes that were there when it was found.
    obtain ⟨long, -⟩ := prefix_of_headerAt there
    rw [List.length_drop] at long
    rw [headerAt_append (by simp only [zhexHeaderLen] at long ⊢; omega), ← equal]
    exact there
  short := fun none => by cases none

end Released

namespace HandshakeDetector

/-- The bytes that are not released: those kept, or those of the handshake that was found. -/
def rest (scanned : HandshakeDetector × DetectionOutput) : Bytes :=
  match scanned.2.detection with
  | some detection => detection.protocolBytes
  | none => scanned.1.pending

theorem headerAt_before {pending : Bytes} {prefixIndex : Nat}
    (located : findSubslice pending zhexPrefix = some prefixIndex) (more : Bytes) (place : Nat)
    (before : place < prefixIndex) : headerAt (pending ++ more) place = none := by
  obtain ⟨there, first⟩ := prefix_of_findSubslice_some located
  have fits := there.length_le
  rw [List.length_drop] at fits
  refine headerAt_eq_none (first place before) ?_
  simp only [zhexPrefix, List.length_cons, List.length_nil] at fits ⊢
  omega

/-- The loop releases bytes up to the first header, or up to what may become one. -/
theorem scan_released (pending : Bytes) :
    Released pending (scan pending).2.terminalBytes (rest (scan pending))
      ((scan pending).2.detection.map Detection.direction) := by
  -- The cases are the rounds of the loop: no prefix, too few bytes behind it, a header, or none.
  fun_induction scan pending with
  | case1 pending missing releaseLen =>
    have kept : longestPrefixSuffix pending zhexPrefix < zhexPrefix.length :=
      longestPrefixSuffix_lt (by decide)
    have four : zhexPrefix.length = 4 := rfl
    refine ⟨List.take_append_drop .., fun more place within => ?_, nofun, fun _ => ?_⟩
    · rw [List.length_take] at within
      rcases Nat.lt_or_ge pending.length (place + zhexPrefix.length) with short | long
      · by_contra some
        obtain ⟨direction, found⟩ := Option.ne_none_iff_exists'.mp some
        -- The end of the bytes would be a longer beginning of the prefix than the one that is kept.
        have ends := take_prefix_of_headerAt found (by omega) short
        have longer := le_longestPrefixSuffix (by omega) (by omega) ends
        omega
      · exact headerAt_eq_none (not_prefix_of_findSubslice_none (by decide) missing place) long
    · show (pending.drop releaseLen).length < zhexHeaderLen
      rw [List.length_drop, zhexHeaderLen]
      omega
  | case2 pending prefixIndex located candidate short =>
    refine ⟨List.take_append_drop .., fun more place within => ?_, nofun, fun _ => short⟩
    rw [List.length_take] at within
    exact headerAt_before located more place (by omega)
  | case3 pending prefixIndex located candidate long direction parsed =>
    have size : candidate.length = pending.length - prefixIndex := List.length_drop ..
    have length : (pending.take prefixIndex).length = prefixIndex := by
      rw [List.length_take]
      simp only [zhexHeaderLen] at long
      omega
    refine ⟨List.take_append_drop .., fun more place within => ?_, fun asked same => ?_, nofun⟩
    · exact headerAt_before located more place (by rwa [length] at within)
    · show headerAt pending (pending.take prefixIndex).length = some asked
      rw [length, headerAt, ← same]
      exact parsed
  | case4 pending prefixIndex located candidate long parsed later ih =>
    have size : candidate.length = pending.length - prefixIndex := List.length_drop ..
    simp only [zhexHeaderLen] at long
    have quiet : ∀ more, ∀ place < (pending.take (prefixIndex + 1)).length,
        headerAt (pending.take (prefixIndex + 1) ++ pending.drop (prefixIndex + 1) ++ more) place = none := by
      intro more place within
      rw [List.take_append_drop]
      rw [List.length_take] at within
      rcases Nat.lt_or_ge place prefixIndex with before | here
      · exact headerAt_before located more place before
      · -- At the prefix itself all bytes of the header are there, and they are no valid one.
        obtain rfl : place = prefixIndex := by omega
        rw [headerAt_append (by rw [zhexHeaderLen]; omega)]
        exact parsed
    have whole := ih.after quiet
    rw [List.take_append_drop] at whole
    exact whole

theorem listen_released (detector : HandshakeDetector) (few : detector.pending.length < zhexHeaderLen)
    (chunks : List Bytes) :
    Released (detector.pending ++ chunks.flatten) (detector.listen chunks).terminalBytes
      (detector.listen chunks).rest (detector.listen chunks).direction := by
  -- Each read is looked at together with what the reads before it have left.
  induction chunks generalizing detector with
  | nil =>
    refine ⟨by simp [listen], fun more place within => ?_, nofun, fun _ => few⟩
    exact absurd within (Nat.not_lt_zero place)
  | cons chunk chunks ih =>
    have scanned := scan_released (detector.pending ++ chunk)
    rw [List.flatten_cons, ← List.append_assoc, listen]
    simp only [feed]
    cases detected : (scan (detector.pending ++ chunk)).2.detection with
    | some detection =>
      simp only [rest, detected, Option.map_some] at scanned ⊢
      exact scanned.extend
    | none =>
      simp only [rest, detected, Option.map_none] at scanned ⊢
      have later := ih (scan (detector.pending ++ chunk)).1 (scanned.short rfl)
      have quiet : ∀ more, ∀ place < (scan (detector.pending ++ chunk)).2.terminalBytes.length,
          headerAt ((scan (detector.pending ++ chunk)).2.terminalBytes ++
            ((scan (detector.pending ++ chunk)).1.pending ++ chunks.flatten) ++ more) place = none := by
        intro more place within
        rw [← List.append_assoc, scanned.whole, List.append_assoc]
        exact scanned.quiet (chunks.flatten ++ more) place within
      have whole := later.after quiet
      rw [← List.append_assoc, scanned.whole] at whole
      exact whole

end HandshakeDetector

/--
The detector tells a handshake from other output wherever the stream is cut.

Nothing is lost, the handshake that is found is the first header of the stream, and without one only
bytes that are too few for a header are kept.
-/
theorem handshake_detected (chunks : List Bytes) : let listened := HandshakeDetector.listen {} chunks
    listened.terminalBytes ++ listened.rest = chunks.flatten ∧
      (∀ place direction, listened.direction = some direction ∧ listened.terminalBytes.length = place ↔
        headerAt chunks.flatten place = some direction ∧ ∀ earlier < place, headerAt chunks.flatten earlier = none) ∧
      (listened.direction = none ↔ ∀ place, headerAt chunks.flatten place = none) ∧
      (listened.direction = none → listened.rest.length < zhexHeaderLen) := by
  intro listened
  have released : Released chunks.flatten listened.terminalBytes listened.rest listened.direction :=
    HandshakeDetector.listen_released {} (by decide) chunks
  have quiet : ∀ place < listened.terminalBytes.length, headerAt chunks.flatten place = none := by
    intro place within
    simpa using released.quiet [] place within
  -- Without a handshake the bytes that are kept are too few for a header.
  have silent : listened.direction = none → ∀ place, headerAt chunks.flatten place = none := by
    intro none place
    rcases Nat.lt_or_ge place listened.terminalBytes.length with early | late
    · exact quiet place early
    · by_contra some
      obtain ⟨direction, found⟩ := Option.ne_none_iff_exists'.mp some
      obtain ⟨long, -⟩ := prefix_of_headerAt found
      have total := congrArg List.length released.whole
      have few := released.short none
      rw [List.length_append] at total
      rw [List.length_drop] at long
      omega
  refine ⟨released.whole, fun place direction => ⟨?_, ?_⟩, ⟨silent, fun nowhere => ?_⟩, released.short⟩
  · rintro ⟨asked, rfl⟩
    exact ⟨released.found direction asked, quiet⟩
  · rintro ⟨there, first⟩
    cases asked : listened.direction with
    | none => exact absurd there (by simp [silent asked place])
    | some other =>
      have found := released.found other asked
      -- Neither of the two places can come before the other one.
      have same : listened.terminalBytes.length = place := by
        rcases Nat.lt_trichotomy listened.terminalBytes.length place with before | same | after
        · exact absurd (first _ before) (by simp [found])
        · exact same
        · exact absurd (quiet place after) (by simp [there])
      rw [same, there] at found
      exact ⟨found.symm, same⟩
  · cases asked : listened.direction with
    | none => rfl
    | some other => exact absurd (released.found other asked) (by simp [nowhere])

end Terminal

end CNShell
