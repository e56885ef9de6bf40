import CNShell.Library.Reaction
import CNShell.Modem.Xymodem

/-! What the receiver of a data stream writes, whatever arrives on the line before it falls silent. -/

namespace CNShell

namespace Modem

/-- A line: the bytes that are still to arrive, those sent on it, and what the receiver has written. -/
structure Line where
  input : Bytes
  sent : Bytes
  written : Bytes
  deriving DecidableEq, Repr

/-- A line that falls silent after its input; bytes that a read was given before it timed out are lost. -/
def line : Reaction ModemAct Stop Line where
  react action device :=
    match action with
    | .readExact count =>
      if count ≤ device.input.length then
        (.ok (device.input.take count), { device with input := device.input.drop count })
      else (.error (.io ⟨.timedOut, "Operation timed out"⟩), { device with input := [] })
    | .writeAll bytes => (.ok (), { device with sent := device.sent ++ bytes })
    | .flush => (.ok (), device)
    | .exists _ => (.ok false, device)
    | .createTemporary _ => (.ok (), device)
    | .writeTemporary _ bytes => (.ok (), { device with written := device.written ++ bytes })
    | .syncTemporary _ => (.ok (), device)
    | .atomicReplace _ _ => (.ok (), device)
    | .removeTemporary _ => (.ok (), device)

@[simp] theorem line_writeAll (bytes input sent written : Bytes) :
    line.react (.writeAll bytes) ⟨input, sent, written⟩ = (.ok (), ⟨input, sent ++ bytes, written⟩) := rfl

@[simp] theorem line_flush (device : Line) : line.react .flush device = (.ok (), device) := rfl

@[simp] theorem line_writeTemporary (number : Nat) (bytes input sent written : Bytes) :
    line.react (.writeTemporary number bytes) ⟨input, sent, written⟩ =
      (.ok (), ⟨input, sent, written ++ bytes⟩) := rfl

/-- The number and the data of a block, if some bytes are exactly one with a valid check. -/
def decodeBlock (mode : XmodemChecksum) : Bytes → Option (UInt8 × Bytes)
  | start :: number :: complement :: rest =>
    let size := if start = stx then 1024 else 128
    if (start = soh ∨ start = stx) ∧ number = ~~~complement ∧ size ≤ rest.length ∧
        rest.drop size = trailer mode (rest.take size) then
      some (number, rest.take size)
    else none
  | _ => none

/-- What the receiver hears between two of its answers, and the answer. -/
structure Exchange where
  heard : Bytes
  reply : Bytes
  deriving DecidableEq, Repr

def Exchange.acknowledged (mode : XmodemChecksum) (exchange : Exchange) : Option (UInt8 × Bytes) :=
  if exchange.reply = [ack] then decodeBlock mode exchange.heard else none

/-- An acknowledgement answers one valid block alone, or the end of the file. -/
def Exchange.Answered (mode : XmodemChecksum) (exchange : Exchange) : Prop :=
  ack ∈ exchange.reply →
    (exchange.reply = [ack] ∧ (decodeBlock mode exchange.heard).isSome) ∨ exchange.heard.head? = some eot

/-- The data of the blocks that take the next number each, from a number on. -/
def inSequence : UInt8 → List (UInt8 × Bytes) → List Bytes
  | _, [] => []
  | next, (number, data) :: rest =>
    if number = next then data :: inSequence (next + 1) rest else inSequence next rest

/-- What belongs to a file of which some bytes were received before. -/
def cut (expectedSize : Option Nat) (received : Nat) (bytes : Bytes) : Bytes :=
  match expectedSize with
  | some size => bytes.take (size - received)
  | none => bytes

/-- A function that may listen and answer, writes nothing and comes to an end. -/
def Quiet (function : Transfer α) : Prop :=
  ∀ device, ∃ result heard said rest,
    function.play line device = (result, ⟨rest, device.sent ++ said, device.written⟩) ∧
      device.input = heard ++ rest ∧ result ≠ .error .outOfFuel

namespace Quiet

variable {function : Transfer α} {following : α → Transfer β}

theorem lift {result : Except Stop α} (ends : result ≠ .error .outOfFuel) :
    Quiet (Program.lift result : Transfer α) := by
  intro device
  exact ⟨result, [], [], device.input, by simp, rfl, ends⟩

theorem pure (value : α) : Quiet (Pure.pure value : Transfer α) := lift (by simp)

theorem fail (kind : ErrorKind) (message : String) : Quiet (Modem.fail kind message : Transfer α) := lift (by simp)

theorem bind (first : Quiet function) (second : ∀ value, Quiet (following value)) :
    Quiet (function >>= following) := by
  intro device
  obtain ⟨result, heard, said, rest, played, whole, ends⟩ := first device
  rw [Program.play_bind, played]
  cases result with
  | error error => exact ⟨.error error, heard, said, rest, rfl, whole, by simpa using ends⟩
  | ok value =>
    obtain ⟨result', heard', said', rest', played', whole', ends'⟩ :=
      second value ⟨rest, device.sent ++ said, device.written⟩
    refine ⟨result', heard ++ heard', said ++ said', rest', ?_, ?_, ends'⟩
    · simpa using played'
    · rw [whole, List.append_assoc]
      exact congrArg (heard ++ ·) whole'

theorem read (count : Nat) : Quiet (Program.perform (.readExact count)) := by
  intro device
  by_cases enough : count ≤ device.input.length
  · exact ⟨.ok (device.input.take count), device.input.take count, [], device.input.drop count,
      by simp [line, enough], by simp, by simp⟩
  · exact ⟨.error (.io ⟨.timedOut, "Operation timed out"⟩), device.input, [], [],
      by simp [line, enough], by simp, by simp⟩

theorem write (bytes : Bytes) : Quiet (Program.perform (.writeAll bytes)) := by
  intro device
  exact ⟨.ok (), [], bytes, device.input, by simp [line], rfl, by simp⟩

theorem flush : Quiet (Program.perform .flush) := by
  intro device
  exact ⟨.ok (), [], [], device.input, by simp [line], rfl, by simp⟩

theorem readByte : Quiet Modem.readByte := (read 1).bind fun _ => pure _

end Quiet

theorem play_attempt (function : Transfer α) (device : Line) :
    (attempt function).play line device =
      match function.play line device with
      | (.ok value, next) => (.ok (.ok value), next)
      | (.error (.io error), next) => (.ok (.error error), next)
      | (.error .outOfFuel, next) => (.error .outOfFuel, next) := by
  -- The actions are the same, and only the result is another one.
  induction function generalizing device with
  | done result =>
    rcases result with (error | _) | value
    · rfl
    · rfl
    · rfl
  | step action next ih => exact ih _ _

namespace Quiet

variable {function : Transfer α}

theorem attempt (quiet : Quiet function) : Quiet (Modem.attempt function) := by
  intro device
  obtain ⟨result, heard, said, rest, played, whole, ends⟩ := quiet device
  rw [play_attempt, played]
  rcases result with (error | _) | value
  · exact ⟨.ok (.error error), heard, said, rest, rfl, whole, by simp⟩
  · exact absurd rfl ends
  · exact ⟨.ok (.ok value), heard, said, rest, rfl, whole, by simp⟩

theorem ignoring (quiet : Quiet function) : Quiet (Modem.ignoring function) := quiet.attempt.bind fun _ => pure ()

theorem cancelPeer : Quiet Modem.cancelPeer := (write _).ignoring.bind fun _ => flush.ignoring

theorem abort (kind : ErrorKind) (message : String) : Quiet (Modem.abort kind message : Transfer α) :=
  cancelPeer.bind fun _ => fail kind message

theorem waitForControl (accepted : Bytes) (retries : Nat) : Quiet (Modem.waitForControl accepted retries) := by
  induction retries with
  | zero => exact abort _ _
  | succ retries ih =>
    refine readByte.attempt.bind fun answer => ?_
    cases answer with
    | error error => exact ih
    | ok value =>
      show Quiet (if value ∈ accepted then Pure.pure value else _)
      split
      · exact pure value
      · split
        · refine readByte.attempt.bind fun second => ?_
          cases second with
          | error error => exact ih
          | ok second =>
            show Quiet (if second = can then _ else _)
            split
            · exact fail _ _
            · exact ih
        · exact ih

end Quiet

section Blocks

variable {input sent written : Bytes}

@[simp] theorem play_readByte_cons (byte : UInt8) :
    readByte.play line ⟨byte :: input, sent, written⟩ = (.ok byte, ⟨input, sent, written⟩) := by
  simp [readByte, Program.play_bind, line]

@[simp] theorem play_readByte_nil :
    readByte.play line ⟨[], sent, written⟩ =
      (.error (.io ⟨.timedOut, "Operation timed out"⟩), ⟨[], sent, written⟩) := by
  simp [readByte, Program.play_bind, line]

@[simp] theorem play_writeControl (value : UInt8) :
    (writeControl value).play line ⟨input, sent, written⟩ = (.ok (), ⟨input, sent ++ [value], written⟩) := by
  simp [writeControl, Program.play_bind]

theorem fromBeBytes_iff (high low : UInt8) (value : UInt16) :
    fromBeBytes high low = value ↔ [high, low] = toBeBytes value := by
  have small := high.toNat_lt
  have small' := low.toNat_lt
  have bound := value.toNat_lt
  -- All three are determined by their numbers, and the bytes are the quotient and the remainder.
  rw [fromBeBytes, toBeBytes, ← UInt16.toNat_inj, List.cons.injEq, List.cons.injEq,
    ← UInt8.toNat_inj, ← UInt8.toNat_inj]
  simp only [Nat.toUInt16, Nat.toUInt8, UInt16.toNat_ofNat', UInt8.toNat_ofNat', and_true]
  omega

/-- What a read of a block comes to: a valid block that was heard whole, or an error. -/
inductive BlockRead (mode : XmodemChecksum) (start : UInt8) (input sent written : Bytes) :
    Except Stop (UInt8 × Bytes) × Line → Prop
  | valid {consumed rest : Bytes} {block : UInt8 × Bytes} (whole : input = consumed ++ rest)
      (decoded : decodeBlock mode (start :: consumed) = some block) :
      BlockRead mode start input sent written (.ok block, ⟨rest, sent, written⟩)
  | failed {consumed rest : Bytes} {error : IoError} (whole : input = consumed ++ rest) :
      BlockRead mode start input sent written (.error (.io error), ⟨rest, sent, written⟩)

theorem decodeBlock_trailer (mode : XmodemChecksum) {start number complement : UInt8} {data : Bytes}
    (starts : start = soh ∨ start = stx) (same : number = ~~~complement)
    (long : data.length = if start = stx then 1024 else 128) :
    decodeBlock mode (start :: number :: complement :: (data ++ trailer mode data)) = some (number, data) := by
  simp only [decodeBlock, ← long]
  rw [if_pos ⟨starts, same, by simp, by simp⟩, List.take_left]

/-- A block is read as valid only if its bytes are those of a valid block. -/
theorem play_receiveBlock (mode : XmodemChecksum) {start : UInt8} (starts : start = soh ∨ start = stx) :
    BlockRead mode start input sent written ((receiveBlock start mode).play line ⟨input, sent, written⟩) := by
  rw [receiveBlock, Program.play_bind]
  cases input with
  | nil =>
    rw [play_readByte_nil]
    exact .failed (List.nil_append []).symm
  | cons number input =>
    rw [play_readByte_cons]
    show BlockRead _ _ _ _ _ ((readByte >>= _).play line ⟨input, sent, written⟩)
    rw [Program.play_bind]
    cases input with
    | nil =>
      rw [play_readByte_nil]
      exact .failed (List.append_nil [number]).symm
    | cons complement input =>
      rw [play_readByte_cons]
      simp only
      split
      · exact .failed (show number :: complement :: input = [number, complement] ++ input from rfl)
      · next matched =>
        have same : number = ~~~complement := by simpa using matched
        rw [Program.play_bind]
        generalize sized : (if start = stx then 1024 else 128) = size
        by_cases enough : size ≤ input.length
        · have data : (Program.perform (.readExact size) : Transfer Bytes).play line ⟨input, sent, written⟩ =
              (.ok (input.take size), ⟨input.drop size, sent, written⟩) := by
            simp [line, enough]
          rw [data]
          have long : (input.take size).length = if start = stx then 1024 else 128 := by
            rw [List.length_take, sized]
            omega
          have decoded := decodeBlock_trailer mode starts same long
          have split : input = input.take size ++ input.drop size := (List.take_append_drop ..).symm
          -- What follows the data is the check, as far as it arrives.
          cases mode with
          | checksum =>
            cases left : input.drop size with
            | nil =>
              simp only [Program.play_bind, play_readByte_nil]
              exact .failed (List.append_nil _).symm
            | cons sum rest =>
              simp only [Program.play_bind, play_readByte_cons, Program.play_pure]
              have whole : number :: complement :: input =
                  (number :: complement :: (input.take size ++ [sum])) ++ rest := by
                conv_lhs => rw [split, left]
                simp
              split
              · next valid =>
                refine .valid whole ?_
                rw [show [sum] = trailer .checksum (input.take size) from by simpa [trailer] using valid]
                exact decoded
              · exact .failed whole
          | crc16 =>
            cases left : input.drop size with
            | nil =>
              simp only [Program.play_bind, play_readByte_nil]
              exact .failed (List.append_nil _).symm
            | cons high rest =>
              cases rest with
              | nil =>
                simp only [Program.play_bind, play_readByte_cons, play_readByte_nil]
                exact .failed (List.append_nil _).symm
              | cons low rest =>
                simp only [Program.play_bind, play_readByte_cons, Program.play_pure]
                have whole : number :: complement :: input =
                    (number :: complement :: (input.take size ++ [high, low])) ++ rest := by
                  conv_lhs => rw [split, left]
                  simp
                split
                · next valid =>
                  refine .valid whole ?_
                  have check : [high, low] = trailer .crc16 (input.take size) :=
                    (fromBeBytes_iff high low _).mp (by simpa using valid)
                  rw [check]
                  exact decoded
                · exact .failed whole
        · have silent : (Program.perform (.readExact size) : Transfer Bytes).play line ⟨input, sent, written⟩ =
              (.error (.io ⟨.timedOut, "Operation timed out"⟩), ⟨[], sent, written⟩) := by
            simp [line, enough]
          rw [silent]
          exact .failed (List.append_nil _).symm

@[simp] theorem play_abort (kind : ErrorKind) (message : String) :
    (abort kind message : Transfer α).play line ⟨input, sent, written⟩ =
      (.error (.io ⟨kind, message⟩), ⟨input, sent ++ [can, can], written⟩) := by
  simp [abort, cancelPeer, ignoring, Program.play_bind, play_attempt, fail]

theorem decodeBlock_other (mode : XmodemChecksum) {start : UInt8} (other : ¬(start = soh ∨ start = stx))
    (rest : Bytes) : decodeBlock mode (start :: rest) = none := by
  rcases rest with _ | ⟨number, _ | ⟨complement, rest⟩⟩
  · rfl
  · rfl
  · rw [decodeBlock, if_neg fun all => other all.1]

end Blocks

section Rounds

variable {options : ReceiveOptions} {receiving : Receiving} {device : Line}

def Passes (options : ReceiveOptions) (expected : UInt8) (exchange : Exchange) : Prop :=
  ∀ data, exchange.acknowledged options.checksum ≠ some (expected, data)

variable {expected : UInt8} {heard reply : Bytes}

theorem passes_of_reply (other : reply ≠ [ack]) : Passes options expected ⟨heard, reply⟩ := by
  intro data
  rw [Exchange.acknowledged, if_neg other]
  simp

theorem answered_of_reply (other : ack ∉ reply) :
    Exchange.Answered options.checksum ⟨heard, reply⟩ := fun member => absurd member other

theorem passes_of_start {start : UInt8}
    (other : ¬(start = soh ∨ start = stx)) : Passes options expected ⟨start :: heard, reply⟩ := by
  intro data
  rw [Exchange.acknowledged, decodeBlock_other _ other]
  simp

/-- What a round of the loop comes to: the expected block, something else, or the end. -/
inductive Round (options : ReceiveOptions) (receiving : Receiving) (device : Line) :
    Except Stop Turn × Line → Prop
  | accepted {heard rest data : Bytes} (whole : device.input = heard ++ rest)
      (decoded : decodeBlock options.checksum heard = some (receiving.expectedBlock, data)) :
      Round options receiving device
        (.ok (.again ⟨receiving.expectedBlock + 1,
            receiving.received + writeLength options receiving.received data.length, 0⟩),
          ⟨rest, device.sent ++ [ack],
            device.written ++ data.take (writeLength options receiving.received data.length)⟩)
  | passed {heard reply rest : Bytes} {errors : Nat} (whole : device.input = heard ++ rest)
      (passes : Passes options receiving.expectedBlock ⟨heard, reply⟩)
      (answered : Exchange.Answered options.checksum ⟨heard, reply⟩)
      (progress : heard ≠ [] ∧ errors = receiving.errors ∨ errors = receiving.errors + 1) :
      Round options receiving device
        (.ok (.again { receiving with errors := errors }), ⟨rest, device.sent ++ reply, device.written⟩)
  | ended {heard reply rest : Bytes} {result : Except Stop Turn} (whole : device.input = heard ++ rest)
      (passes : Passes options receiving.expectedBlock ⟨heard, reply⟩)
      (answered : Exchange.Answered options.checksum ⟨heard, reply⟩)
      (ends : result ≠ .error .outOfFuel) (last : ∀ next, result ≠ .ok (.again next)) :
      Round options receiving device (result, ⟨rest, device.sent ++ reply, device.written⟩)

theorem play_rejectTurn (receiving : Receiving) (input sent written : Bytes) :
    (rejectTurn receiving).play line ⟨input, sent, written⟩ =
      (.ok (.again { receiving with errors := receiving.errors + 1 }), ⟨input, sent ++ [nak], written⟩) := by
  simp [rejectTurn, Program.play_bind]

theorem round_confirmEot {input sent written : Bytes} :
    Round options receiving ⟨eot :: input, sent, written⟩
      ((confirmEot options receiving.received).play line ⟨input, sent, written⟩) := by
  have other : ¬(eot = soh ∨ eot = stx) := by decide
  unfold confirmEot
  split
  · rw [Program.play_bind, play_writeControl]
    simp only
    rw [Program.play_bind]
    obtain ⟨result, heard, said, rest, played, whole, ends⟩ :=
      Quiet.waitForControl [eot] maxRetries ⟨input, sent ++ [nak], written⟩
    have all : eot :: input = (eot :: heard) ++ rest := congrArg (eot :: ·) whole
    rw [played]
    cases result with
    | error error =>
      simp only [List.append_assoc]
      exact .ended all (passes_of_start other) (fun _ => .inr rfl) (by simpa using ends) (by simp)
    | ok value =>
      simp only [Program.play_bind, play_writeControl, Program.play_pure, List.append_assoc]
      exact .ended all (passes_of_start other) (fun _ => .inr rfl) (by simp) (by simp)
  · simp only [Program.play_bind, play_writeControl, Program.play_pure]
    exact .ended (show eot :: input = [eot] ++ input from rfl) (passes_of_start other) (fun _ => .inr rfl) (by simp) (by simp)

/-- One round of the loop. -/
theorem play_receiveTurn (options : ReceiveOptions) (receiving : Receiving) (device : Line) :
    Round options receiving device ((receiveTurn options receiving).play line device) := by
  obtain ⟨input, sent, written⟩ := device
  rw [receiveTurn, Program.play_bind, play_attempt]
  cases input with
  | nil =>
    rw [play_readByte_nil]
    simp only [play_rejectTurn]
    exact .passed (List.nil_append []).symm (passes_of_reply (by decide)) (answered_of_reply (by decide)) (.inr rfl)
  | cons value input =>
    rw [play_readByte_cons]
    simp only
    split
    · next ends =>
      obtain rfl := ends
      exact round_confirmEot
    · split
      · next cancels =>
        obtain rfl := cancels
        have other : ¬(can = soh ∨ can = stx) := by decide
        -- One cancelling byte alone is ignored together with the byte behind it.
        rw [Program.play_bind, play_attempt]
        cases input with
        | nil =>
          rw [play_readByte_nil]
          have again : Round options receiving ⟨[can], sent, written⟩
              (.ok (.again { receiving with errors := receiving.errors }), ⟨[], sent ++ [], written⟩) :=
            .passed (show [can] = [can] ++ [] from rfl) (passes_of_start other) (answered_of_reply (by simp)) (.inl ⟨by simp, rfl⟩)
          simpa using again
        | cons second input =>
          rw [play_readByte_cons]
          have whole : can :: second :: input = [can, second] ++ input := rfl
          simp only
          split
          · have stops : Round options receiving ⟨can :: second :: input, sent, written⟩
                (.error (.io ⟨.connectionAborted, "transfer cancelled by peer"⟩), ⟨input, sent ++ [], written⟩) :=
              .ended whole (passes_of_start other) (answered_of_reply (by simp)) (by simp) (by simp)
            simpa [fail] using stops
          · have again : Round options receiving ⟨can :: second :: input, sent, written⟩
                (.ok (.again { receiving with errors := receiving.errors }), ⟨input, sent ++ [], written⟩) :=
              .passed whole (passes_of_start other) (answered_of_reply (by simp)) (.inl ⟨by simp, rfl⟩)
            simpa using again
      · split
        · next starts =>
          rw [Program.play_bind, play_attempt]
          generalize outcome : (receiveBlock value options.checksum).play line ⟨input, sent, written⟩ = read
          have reads : BlockRead options.checksum value input sent written
              ((receiveBlock value options.checksum).play line ⟨input, sent, written⟩) :=
            play_receiveBlock options.checksum starts
          rw [outcome] at reads
          cases reads with
          | @failed consumed rest error whole =>
            have all : value :: input = (value :: consumed) ++ rest := congrArg (value :: ·) whole
            simp only [play_rejectTurn]
            exact .passed all (passes_of_reply (by decide)) (answered_of_reply (by decide)) (.inr rfl)
          | @valid consumed rest block whole decoded =>
            have all : value :: input = (value :: consumed) ++ rest := congrArg (value :: ·) whole
            obtain ⟨number, data⟩ := block
            simp only
            split
            · next same =>
              subst same
              unfold acceptBlock
              split
              · rw [play_abort]
                exact .ended all (passes_of_reply (by decide)) (answered_of_reply (by decide)) (by simp) (by simp)
              · simp only [Program.play_bind, Program.play_perform, line_writeTemporary, play_writeControl,
                  Program.play_pure]
                exact .accepted all decoded
            · next unexpected =>
              split
              · -- The block before is acknowledged once more.
                simp only [Program.play_bind, play_writeControl, Program.play_pure]
                have again : Round options receiving ⟨value :: input, sent, written⟩
                    (.ok (.again { receiving with errors := receiving.errors }), ⟨rest, sent ++ [ack], written⟩) := by
                  refine .passed all (fun later => ?_) (fun _ => .inl ⟨rfl, ?_⟩) (.inl ⟨by simp, rfl⟩)
                  · rw [Exchange.acknowledged, if_pos rfl, decoded]
                    simp [unexpected]
                  · rw [decoded]
                    rfl
                exact again
              · rw [play_rejectTurn]
                exact .passed all (passes_of_reply (by decide)) (answered_of_reply (by decide)) (.inr rfl)
        · next other =>
          rw [play_rejectTurn]
          exact .passed (show value :: input = [value] ++ input from rfl) (passes_of_start other) (answered_of_reply (by decide)) (.inr rfl)

theorem inSequence_passes {exchange : Exchange} (passes : Passes options expected exchange)
    (exchanges : List Exchange) :
    inSequence expected ((exchange :: exchanges).filterMap (Exchange.acknowledged options.checksum)) =
      inSequence expected (exchanges.filterMap (Exchange.acknowledged options.checksum)) := by
  cases heard : exchange.acknowledged options.checksum with
  | none => rw [List.filterMap_cons_none heard]
  | some block =>
    obtain ⟨number, data⟩ := block
    -- Its block has another number, so the sequence skips it.
    have other : number ≠ expected := fun same => passes data (same ▸ heard)
    rw [List.filterMap_cons_some heard, inSequence, if_neg other]

theorem cut_append (options : ReceiveOptions) (received : Nat) (data rest : Bytes) :
    cut options.expectedSize received (data ++ rest) =
      data.take (writeLength options received data.length) ++
        cut options.expectedSize (received + writeLength options received data.length) rest := by
  cases expected : options.expectedSize with
  | none => simp [cut, writeLength, expected]
  | some size =>
    simp only [cut, writeLength, expected]
    rw [List.take_append, ← List.take_eq_take_min]
    congr 2
    omega

@[simp] theorem cut_nil (expectedSize : Option Nat) (received : Nat) : cut expectedSize received [] = [] := by
  cases expectedSize with
  | none => rfl
  | some size => exact List.take_nil

end Rounds

/-- The exchanges of the loop, what it hears in them, and what is written for them. -/
structure Receives (options : ReceiveOptions) (receiving : Receiving) (device : Line)
    (played : Except Stop Nat × Line) (exchanges : List Exchange) : Prop where
  heard : device.input = exchanges.flatMap Exchange.heard ++ played.2.input
  sent : played.2.sent = device.sent ++ exchanges.flatMap Exchange.reply
  written : played.2.written = device.written ++ cut options.expectedSize receiving.received
    (inSequence receiving.expectedBlock (exchanges.filterMap (Exchange.acknowledged options.checksum))).flatten
  answered : ∀ exchange ∈ exchanges, exchange.Answered options.checksum
  ends : played.1 ≠ .error .outOfFuel

section Loop

variable {options : ReceiveOptions}

/-- The loop comes to an end and writes what it acknowledges. -/
theorem receives_receiveLoop (fuel : Nat) (receiving : Receiving) (device : Line)
    (few : receiving.errors < maxRetries) (enough : 17 * device.input.length + 17 ≤ fuel + receiving.errors) :
    ∃ exchanges, Receives options receiving device ((receiveLoop options fuel receiving).play line device)
      exchanges := by
  -- The induction is on the fuel; a round hears a byte or counts an error, and sixteen errors end the loop.
  induction fuel generalizing receiving device with
  | zero =>
    simp only [maxRetries] at few
    omega
  | succ fuel ih =>
    have round := play_receiveTurn options receiving device
    rw [receiveLoop, Program.play_bind]
    generalize (receiveTurn options receiving).play line device = turned at round
    cases round with
    | @accepted heard rest data whole decoded =>
      have filled : 1 ≤ heard.length := by
        cases heard with
        | nil => cases decoded
        | cons first others => simp
      have size := congrArg List.length whole
      rw [List.length_append] at size
      simp only [maxRetries] at few
      obtain ⟨exchanges, receives⟩ := ih
        ⟨receiving.expectedBlock + 1, receiving.received + writeLength options receiving.received data.length, 0⟩
        ⟨rest, device.sent ++ [ack], device.written ++ data.take (writeLength options receiving.received data.length)⟩
        (by simp [maxRetries]) (by simp only; omega)
      refine ⟨⟨heard, [ack]⟩ :: exchanges, ?_, ?_, ?_, ?_, receives.ends⟩
      · rw [whole, List.flatMap_cons, List.append_assoc]
        exact congrArg (heard ++ ·) receives.heard
      · rw [List.flatMap_cons, ← List.append_assoc]
        exact receives.sent
      · have acknowledged : Exchange.acknowledged options.checksum ⟨heard, [ack]⟩ =
            some (receiving.expectedBlock, data) := by
          rw [Exchange.acknowledged, if_pos rfl, decoded]
        rw [List.filterMap_cons_some acknowledged, inSequence, if_pos rfl, List.flatten_cons, cut_append,
          ← List.append_assoc]
        exact receives.written
      · intro exchange member
        rcases List.mem_cons.mp member with rfl | later
        · exact fun _ => .inl ⟨rfl, by simp [decoded]⟩
        · exact receives.answered exchange later
    | @passed heard reply rest errors whole passes answered progress =>
      have size := congrArg List.length whole
      rw [List.length_append] at size
      simp only [maxRetries] at few
      simp only
      split
      · -- Too many errors in a row cancel the other side.
        next many =>
        rw [play_abort]
        have stops : Passes options receiving.expectedBlock ⟨[], [can, can]⟩ := passes_of_reply (by decide)
        refine ⟨[⟨heard, reply⟩, ⟨[], [can, can]⟩], ?_, ?_, ?_, ?_, by simp⟩
        · simpa using whole
        · simp
        · rw [inSequence_passes passes, inSequence_passes stops]
          simp [inSequence]
        · intro exchange member
          rcases List.mem_cons.mp member with rfl | later
          · exact answered
          · obtain rfl := List.mem_singleton.mp later
            exact answered_of_reply (by decide)
      · next few' =>
        have listened : heard ≠ [] → 1 ≤ heard.length := fun filled => List.length_pos_iff.mpr filled
        obtain ⟨exchanges, receives⟩ := ih { receiving with errors := errors }
          ⟨rest, device.sent ++ reply, device.written⟩ (by simpa using few') (by
            simp only
            rcases progress with ⟨filled, rfl⟩ | rfl
            · have := listened filled
              omega
            · omega)
        refine ⟨⟨heard, reply⟩ :: exchanges, ?_, ?_, ?_, ?_, receives.ends⟩
        · rw [whole, List.flatMap_cons, List.append_assoc]
          exact congrArg (heard ++ ·) receives.heard
        · rw [List.flatMap_cons, ← List.append_assoc]
          exact receives.sent
        · rw [inSequence_passes passes]
          exact receives.written
        · intro exchange member
          rcases List.mem_cons.mp member with rfl | later
          · exact answered
          · exact receives.answered exchange later
    | @ended heard reply rest result whole passes answered ends last =>
      have finished : ∀ outcome : Except Stop Nat, outcome ≠ .error .outOfFuel →
          Receives options receiving device (outcome, ⟨rest, device.sent ++ reply, device.written⟩)
            [⟨heard, reply⟩] := by
        intro outcome stops
        refine ⟨by simpa using whole, by simp, ?_, ?_, stops⟩
        · rw [inSequence_passes passes]
          simp [inSequence]
        · intro exchange member
          obtain rfl := List.mem_singleton.mp member
          exact answered
      refine ⟨[⟨heard, reply⟩], ?_⟩
      cases result with
      | error error => exact finished _ (by simpa using ends)
      | ok turn =>
        cases turn with
        | again next => exact absurd rfl (last next)
        | returned received => exact finished _ (by simp)

/--
The receiver comes to an end and writes the data of the blocks it acknowledges as the next ones.

The exchanges split what arrives before the line falls silent, and every acknowledgement answers the
valid block of its exchange or the end of the file. The data are cut to the expected size.
-/
theorem receive_integrity (options : ReceiveOptions) (input : Bytes) :
    ∃ enough, ∀ fuel, enough ≤ fuel → ∃ exchanges : List Exchange,
      let played := (receiveDataBlocks fuel options).play line ⟨input, [], []⟩
      played.1 ≠ .error .outOfFuel ∧
        input = exchanges.flatMap Exchange.heard ++ played.2.input ∧
        played.2.sent = exchanges.flatMap Exchange.reply ∧
        (∀ exchange ∈ exchanges, exchange.Answered options.checksum) ∧
        played.2.written = cut options.expectedSize 0
          (inSequence 1 (exchanges.filterMap (Exchange.acknowledged options.checksum))).flatten := by
  refine ⟨17 * input.length + 17, fun fuel enough => ?_⟩
  obtain ⟨exchanges, receives⟩ :=
    @receives_receiveLoop options fuel ⟨1, 0, 0⟩ ⟨input, [], []⟩ (by simp [maxRetries]) (by simpa using enough)
  exact ⟨exchanges, receives.ends, receives.heard, receives.sent, receives.answered, receives.written⟩

end Loop

end Modem

end CNShell
