import CNShell.Terminal.Handshake

/-! What a terminal shows after a ZMODEM download, whose trailer may be cut anywhere. -/

namespace CNShell

namespace Terminal

open Modem (Bytes)

/-- How long the trailer of a transfer is waited for, in milliseconds. -/
def finishTimeout : Nat := 2000

/-- The byte that the trailer is made of. -/
def overAndOut : UInt8 := 0x4f

/-- A download that was completed and whose trailer may still come. -/
structure FinishingTransfer where
  pending : Bytes
  startedAt : Nat
  deriving DecidableEq, Repr

namespace FinishingTransfer

/-- The bytes of one read: the transfer after it, and what is released when the trailer is settled. -/
def feed (transfer : FinishingTransfer) (bytes : Bytes) : FinishingTransfer × Option Bytes :=
  let pending := transfer.pending ++ bytes
  if pending = [overAndOut] then ({ transfer with pending }, none)
  else if [overAndOut, overAndOut] <+: pending then ({ transfer with pending }, some (pending.drop 2))
  else ({ transfer with pending := [] }, some pending)

/-- Whether the trailer was waited for long enough. -/
def expired (transfer : FinishingTransfer) (now : Nat) : Bool := finishTimeout ≤ now - transfer.startedAt

end FinishingTransfer

/-- What the loop of a session does: it read some bytes, or it read nothing and looks at the clock. -/
inductive Round
  | read (bytes : Bytes)
  | idle (now : Nat)
  deriving DecidableEq, Repr

/-- The bytes that were read. -/
def Round.bytes : Round → Bytes
  | read bytes => bytes
  | idle _ => []

def Listened.after (shown : Bytes) (listened : Listened) : Listened :=
  { listened with terminalBytes := shown ++ listened.terminalBytes }

def detect (rounds : List Round) : Listened := HandshakeDetector.listen {} (rounds.map Round.bytes)

/-- The rounds of a session whose download was completed, until the trailer is settled, and those after that. -/
def FinishingTransfer.follow (transfer : FinishingTransfer) : List Round → Listened
  | [] => ⟨[], none, transfer.pending⟩
  | .read bytes :: rounds =>
    match transfer.feed bytes with
    | (_, some released) => (detect rounds).after released
    | (waiting, none) => waiting.follow rounds
  | .idle now :: rounds => if transfer.expired now then detect rounds else transfer.follow rounds

/-- What follows a download that was completed at some time, with the bytes that came with its end. -/
def afterDownload (initial : Bytes) (startedAt : Nat) (rounds : List Round) : Listened :=
  let finishing : FinishingTransfer := ⟨initial, startedAt⟩
  match finishing.feed [] with
  | (_, some released) => (detect rounds).after released
  | (waiting, none) => waiting.follow rounds

def withoutTrailer (stream : Bytes) : Bytes := if [overAndOut, overAndOut] <+: stream then stream.drop 2 else stream

/-- Whether the time-out strikes before another byte was read. -/
def strikes (startedAt : Nat) : List Round → Bool
  | [] => false
  | .read bytes :: rounds => bytes.isEmpty && strikes startedAt rounds
  | .idle now :: rounds => decide (finishTimeout ≤ now - startedAt) || strikes startedAt rounds

def sent (initial : Bytes) (rounds : List Round) : Bytes := initial ++ (rounds.map Round.bytes).flatten

section Finishing

variable {initial : Bytes} {startedAt : Nat} {rounds : List Round}

theorem detect_whole (rounds : List Round) :
    (detect rounds).terminalBytes ++ (detect rounds).rest = (rounds.map Round.bytes).flatten :=
  (handshake_detected (rounds.map Round.bytes)).1

theorem after_whole (released : Bytes) (rounds : List Round) :
    ((detect rounds).after released).terminalBytes ++ ((detect rounds).after released).rest =
      released ++ (rounds.map Round.bytes).flatten := by
  show (released ++ (detect rounds).terminalBytes) ++ (detect rounds).rest = _
  rw [List.append_assoc, detect_whole]

theorem withoutTrailer_cons_cons (first second : UInt8) (rest : Bytes) :
    withoutTrailer (first :: second :: rest) =
      if first = overAndOut ∧ second = overAndOut then rest else first :: second :: rest := by
  unfold withoutTrailer
  simp only [List.cons_prefix_cons, List.nil_prefix, and_true, List.drop_succ_cons, List.drop_zero,
    eq_comm (a := overAndOut)]

theorem ne_withoutTrailer_cons (byte : UInt8) (stream : Bytes) : stream ≠ withoutTrailer (byte :: stream) := by
  intro same
  have length := congrArg List.length same
  cases stream with
  | nil => simp [withoutTrailer] at length
  | cons second rest =>
    rw [withoutTrailer_cons_cons] at length
    split at length
    · simp at length
    · simp at length

theorem eq_withoutTrailer_iff (stream : Bytes) :
    stream = withoutTrailer stream ↔ ¬[overAndOut, overAndOut] <+: stream := by
  unfold withoutTrailer
  split
  · next trailer =>
    -- Without its first two bytes a stream that has them is shorter.
    have long := trailer.length_le
    simp only [not_true, iff_false, trailer]
    intro same
    have length := congrArg List.length same
    simp only [List.length_drop, List.length_cons, List.length_nil] at length long
    omega
  · next other => simp [other]

theorem feed_settled (transfer : FinishingTransfer) (bytes : Bytes) {first second : UInt8} {rest : Bytes}
    (two : transfer.pending ++ bytes = first :: second :: rest) :
    (transfer.feed bytes).2 =
    some (if first = overAndOut ∧ second = overAndOut then rest else first :: second :: rest) := by
  have begins : [overAndOut, overAndOut] <+: first :: second :: rest ↔ first = overAndOut ∧ second = overAndOut := by
    simp only [List.cons_prefix_cons, List.nil_prefix, and_true, eq_comm (a := overAndOut)]
  have several : first :: second :: rest ≠ [overAndOut] := by simp
  unfold FinishingTransfer.feed
  simp only [two, if_neg several]
  by_cases trailer : first = overAndOut ∧ second = overAndOut
  · rw [if_pos (begins.mpr trailer), if_pos trailer]
    rfl
  · rw [if_neg (mt begins.mp trailer), if_neg trailer]

theorem follow_released {transfer : FinishingTransfer} {bytes released : Bytes} (rounds : List Round)
    (settled : (transfer.feed bytes).2 = some released) :
    transfer.follow (.read bytes :: rounds) = (detect rounds).after released := by
  rw [FinishingTransfer.follow]
  split
  · next fed =>
    rw [fed] at settled
    obtain rfl := Option.some.inj settled
    rfl
  · next fed =>
    rw [fed] at settled
    cases settled

theorem afterDownload_released {initial released : Bytes} {startedAt : Nat} (rounds : List Round)
    (settled : (FinishingTransfer.feed ⟨initial, startedAt⟩ []).2 = some released) :
    afterDownload initial startedAt rounds = (detect rounds).after released := by
  simp only [afterDownload]
  split
  · next fed =>
    rw [fed] at settled
    obtain rfl := Option.some.inj settled
    rfl
  · next fed =>
    rw [fed] at settled
    cases settled

theorem follow_letter_iff (startedAt : Nat) (rounds : List Round) :
    (FinishingTransfer.follow ⟨[overAndOut], startedAt⟩ rounds).terminalBytes ++
        (FinishingTransfer.follow ⟨[overAndOut], startedAt⟩ rounds).rest =
      withoutTrailer (overAndOut :: (rounds.map Round.bytes).flatten) ↔ strikes startedAt rounds = false := by
  -- The induction is on the rounds, of which those without bytes leave the letter pending.
  induction rounds with
  | nil => exact ⟨fun _ => rfl, fun _ => rfl⟩
  | cons round rounds ih =>
    cases round with
    | idle now =>
      by_cases late : finishTimeout ≤ now - startedAt
      · have expired : FinishingTransfer.expired ⟨[overAndOut], startedAt⟩ now = true := decide_eq_true late
        simp only [FinishingTransfer.follow, expired, if_true, detect_whole, strikes, late, decide_true, Bool.true_or,
          Bool.true_eq_false, iff_false, List.map_cons, Round.bytes, List.flatten_cons, List.nil_append]
        exact ne_withoutTrailer_cons _ _
      · have waits : FinishingTransfer.expired ⟨[overAndOut], startedAt⟩ now = false := decide_eq_false late
        simpa [FinishingTransfer.follow, waits, strikes, late, Round.bytes] using ih
    | read bytes =>
      cases bytes with
      | nil => simpa [FinishingTransfer.follow, FinishingTransfer.feed, strikes, Round.bytes] using ih
      | cons byte bytes =>
        have two : (⟨[overAndOut], startedAt⟩ : FinishingTransfer).pending ++ byte :: bytes = overAndOut :: byte :: bytes :=
          rfl
        rw [follow_released rounds (feed_settled _ _ two), after_whole]
        simp only [strikes, List.isEmpty_cons, Bool.false_and, iff_true, List.map_cons, Round.bytes, List.flatten_cons,
          List.cons_append, withoutTrailer_cons_cons]
        split <;> rfl

/--
After a download the stream is shown without its trailer, whatever the reads.

It is exactly when the bytes that came with the end of the download were some or the stream has no trailer, and the
time-out does not strike while the first letter of the trailer is all that came.
-/
theorem afterDownload_whole_iff (initial : Bytes) (startedAt : Nat) (rounds : List Round) :
    (afterDownload initial startedAt rounds).terminalBytes ++ (afterDownload initial startedAt rounds).rest =
        withoutTrailer (sent initial rounds) ↔
      ¬(initial = [] ∧ [overAndOut, overAndOut] <+: sent initial rounds) ∧
        ¬(initial = [overAndOut] ∧ strikes startedAt rounds = true) := by
  match initial with
  | [] =>
    have shown : afterDownload [] startedAt rounds = (detect rounds).after [] := rfl
    rw [shown, after_whole]
    simpa [sent] using eq_withoutTrailer_iff (rounds.map Round.bytes).flatten
  | [byte] =>
    by_cases letter : byte = overAndOut
    · subst letter
      have waits : afterDownload [overAndOut] startedAt rounds = FinishingTransfer.follow ⟨[overAndOut], startedAt⟩ rounds :=
        rfl
      rw [waits]
      simpa [sent] using follow_letter_iff startedAt rounds
    · have released : (FinishingTransfer.feed ⟨[byte], startedAt⟩ []).2 = some [byte] := by
        simp [FinishingTransfer.feed, letter, Ne.symm letter]
      have other : ¬[overAndOut, overAndOut] <+: sent [byte] rounds := by
        simp [sent, Ne.symm letter]
      rw [afterDownload_released rounds released, after_whole]
      refine ⟨fun _ => ⟨by simp, by simp [letter]⟩, fun _ => (eq_withoutTrailer_iff _).mpr other⟩
  | first :: second :: rest =>
    have two : (⟨first :: second :: rest, startedAt⟩ : FinishingTransfer).pending ++ [] = first :: second :: rest :=
      List.append_nil _
    rw [afterDownload_released rounds (feed_settled _ _ two), after_whole]
    refine ⟨fun _ => ⟨by simp, by simp⟩, fun _ => ?_⟩
    show _ = withoutTrailer (first :: second :: (rest ++ _))
    rw [withoutTrailer_cons_cons]
    split <;> rfl

namespace Demo

/-- A trailer that comes after the end of the download is shown, and a letter pending at the time-out is lost. -/
theorem trailer_shown_and_letter_lost :
    (afterDownload [] 0 [.read [0x4f, 0x4f, 0x24]]).terminalBytes ++
        (afterDownload [] 0 [.read [0x4f, 0x4f, 0x24]]).rest ≠ withoutTrailer [0x4f, 0x4f, 0x24] ∧
      (afterDownload [0x4f] 0 [.idle 2000, .read [0x6b]]).terminalBytes ++
        (afterDownload [0x4f] 0 [.idle 2000, .read [0x6b]]).rest ≠ withoutTrailer [0x4f, 0x6b] := by
  constructor
  · have shown : afterDownload [] 0 [.read [0x4f, 0x4f, 0x24]] = (detect [.read [0x4f, 0x4f, 0x24]]).after [] := rfl
    rw [shown, after_whole]
    decide
  · have shown : afterDownload [0x4f] 0 [.idle 2000, .read [0x6b]] = detect [.read [0x6b]] := rfl
    rw [shown, detect_whole]
    decide

end Demo

end Finishing

end Terminal

end CNShell
