import CNShell.Library.Base64
import CNShell.Library.Lossy
import CNShell.Library.Transition
import Mathlib.Algebra.Ring.Nat

/-! The log of a session: what its worker writes to the file for each message, and how long the file gets. -/

namespace CNShell

namespace Client

namespace SessionLog

/-- How long a file may get. -/
def maxFileBytes : Nat := 100 * 1024 * 1024

inductive Format
  | text
  | jsonl
  deriving DecidableEq, Repr

/-- The text of a local time, to the millisecond and in a year of four digits. -/
structure LocalTime where
  text : List UInt8
  size : text.length = 23
  /-- There are only digits, dashes, colons, a blank and a dot. -/
  plain : ∀ byte ∈ text, byte ≠ 0x5d ∧ byte ≠ 0x0a

/-- What the clocks show while a message is handled: the text of the time in UTC, and the local times in order. -/
structure Clock where
  utc : List UInt8
  stamps : Nat → LocalTime

/-- The events that are logged. -/
inductive Record
  | start (name : List UInt8)
  | output (data : List UInt8)
  | finish
  deriving DecidableEq

def Record.event : Record → String
  | .start _ => "start"
  | .output _ => "output"
  | .finish => "end"

/-- The bytes that come with an event. -/
def Record.data : Record → Option (List UInt8)
  | .start name => some name
  | .output data => some data
  | .finish => none

/-- A log and its file. -/
structure Writer where
  format : Format
  lineTimestamps : Bool
  pendingLine : List UInt8
  file : List UInt8
  bytesWritten : Nat

/-- A sum of two numbers of 64 bits that does not overflow. -/
def saturatingAdd (first second : Nat) : Nat := min (first + second) (2 ^ 64 - 1)

def jsonLine (record : Record) (utc : List UInt8) : List UInt8 :=
  utf8 "\x7b\"dataBase64\":" ++
    (match record.data with
      | some data => utf8 "\"" ++ utf8 (String.ofList (Base64.encodePadded data)) ++ utf8 "\""
      | none => utf8 "null") ++
    utf8 ",\"event\":\"" ++ utf8 record.event ++ utf8 "\",\"timestamp\":\"" ++ utc ++ utf8 "\"\x7d\n"

/-- What a log in text begins with. -/
def header (name utc : List UInt8) : List UInt8 :=
  utf8 "# CNshell 会话日志\n# 连接: " ++ lossy name ++ utf8 "\n# 开始: " ++ utc ++ utf8 "\n\n"

/-- What a log in text ends with. -/
def trailer (utc : List UInt8) : List UInt8 := utf8 "\n# 结束: " ++ utc ++ utf8 "\n"

/-- The whole lines at the front of some bytes, as the loop takes them one after the other, and what it leaves. -/
def drainLines : List UInt8 → List (List UInt8) × List UInt8
  | [] => ([], [])
  | byte :: rest =>
    let (lines, left) := drainLines rest
    if byte = 0x0a then ([byte] :: lines, left)
    else
      match lines with
      | [] => ([], byte :: left)
      | line :: others => ((byte :: line) :: others, left)

namespace Writer

variable (writer : Writer)

/-- Some bytes are written. -/
def writeBytes (data : List UInt8) : Writer :=
  { writer with file := writer.file ++ data, bytesWritten := saturatingAdd writer.bytesWritten data.length }

def writeTimestampedLine (stamp : LocalTime) (data : List UInt8) : Writer :=
  (writer.writeBytes (0x5b :: stamp.text ++ [0x5d, 0x20])).writeBytes (lossy data)

/-- Some lines are written, each after the time that the clock shows then. -/
def writeLines (stamps : Nat → LocalTime) : Nat → List (List UInt8) → Writer → Writer
  | _, [], writer => writer
  | index, line :: others, writer =>
    writeLines stamps (index + 1) others (writer.writeTimestampedLine (stamps index) line)

/-- A line that was not whole is written after all. -/
def flushPendingLine (stamp : LocalTime) : Writer :=
  if writer.pendingLine = [] then writer
  else { writer with pendingLine := [] }.writeTimestampedLine stamp writer.pendingLine

def writeEvent (record : Record) (clock : Clock) : Writer :=
  match writer.format, record with
  | .jsonl, record => writer.writeBytes (jsonLine record clock.utc)
  | .text, .start name => writer.writeBytes (header name clock.utc)
  | .text, .finish => (writer.flushPendingLine (clock.stamps 0)).writeBytes (trailer clock.utc)
  | .text, .output data =>
    if writer.lineTimestamps = true then
      let (lines, left) := drainLines (writer.pendingLine ++ data)
      writeLines clock.stamps 0 lines { writer with pendingLine := left }
    else writer.writeBytes data

/-- What a file has if only so many bytes more were written. -/
def cut (before after : Writer) (count : Nat) : Writer :=
  { after with file := before.file ++ (after.file.drop before.file.length).take count }

end Writer

/-- How far the worker of a log is. -/
inductive Stage
  /-- The file was created. -/
  | opened
  | running
  | ended
  deriving DecidableEq, Repr

/-- The worker of a log, with what it reports. -/
structure Worker where
  writer : Writer
  stage : Stage
  active : Bool
  bytesWritten : Nat
  error : Option String

/-- An error of the disk: how many of the bytes are written nevertheless, and its message. -/
structure Fault where
  written : Nat
  message : String
  deriving DecidableEq, Repr

/-- What happens to a worker: its start, and then the messages it receives, until no more can come. -/
inductive Event
  | start (name : List UInt8) (clock : Clock) (fault : Option Fault)
  | output (data : List UInt8) (clock : Clock) (fault : Option Fault)
  | flush (fault : Option Fault)
  | stop (clock : Clock) (fault : Option Fault)
  | disconnect (clock : Clock) (fault : Option Fault)

namespace Worker

def storageError (message : String) : String := "本地存储失败：" ++ message

variable (worker : Worker)

/-- The worker of a log whose file has just been created. -/
def opened (format : Format) (lineTimestamps : Bool) : Worker :=
  ⟨⟨format, lineTimestamps, [], [], 0⟩, .opened, false, 0, none⟩

/-- The worker ends with an error. -/
def markFailed (message : String) : Worker :=
  { worker with stage := .ended, active := false, error := some (storageError message) }

/-- The first event is written when a log is started. -/
def start (name : List UInt8) (clock : Clock) : Option Fault → Worker
  | none =>
    let next := worker.writer.writeEvent (.start name) clock
    { worker with writer := next, stage := .running, active := true, bytesWritten := next.bytesWritten }
  | some fault =>
    { worker with writer := worker.writer.cut (worker.writer.writeEvent (.start name) clock) fault.written
                  stage := .ended }

/-- Output is written, unless it is more than the file may get. -/
def output (data : List UInt8) (clock : Clock) (fault : Option Fault) : Worker :=
  if maxFileBytes < saturatingAdd worker.writer.bytesWritten data.length then
    worker.markFailed "会话日志达到 100 MB 单文件上限，已自动停止"
  else
    let next := worker.writer.writeEvent (.output data) clock
    match fault with
    | none => { worker with writer := next, bytesWritten := next.bytesWritten }
    | some fault => { worker with writer := worker.writer.cut next fault.written }.markFailed fault.message

/-- The log is brought to an end. -/
def stop (clock : Clock) (fault : Option Fault) : Worker :=
  let next := worker.writer.writeEvent .finish clock
  match fault with
  | none => { worker with writer := next, stage := .ended, active := false, bytesWritten := next.bytesWritten }
  | some fault => { worker with writer := worker.writer.cut next fault.written }.markFailed fault.message

/-- No message can come any more; errors are ignored. -/
def disconnect (clock : Clock) (fault : Option Fault) : Worker :=
  let next := worker.writer.flushPendingLine (clock.stamps 0)
  { worker with
    writer := match fault with
      | none => next
      | some fault => worker.writer.cut next fault.written
    stage := .ended
    active := false }

def step : Event → Option Worker
  | .start name clock fault => if worker.stage = .opened then some (worker.start name clock fault) else none
  | .output data clock fault => if worker.stage = .running then some (worker.output data clock fault) else none
  | .flush fault =>
    if worker.stage = .running then
      some (match fault with
        | none => worker
        | some fault => worker.markFailed fault.message)
    else none
  | .stop clock fault => if worker.stage = .running then some (worker.stop clock fault) else none
  | .disconnect clock fault => if worker.stage = .running then some (worker.disconnect clock fault) else none

end Worker

def logSystem (format : Format) (lineTimestamps : Bool) : System Worker Event :=
  System.ofStep (fun worker => worker = .opened format lineTimestamps) Worker.step

section Lines

variable {bytes line left : List UInt8} {lines : List (List UInt8)}

def stamped (stamp : LocalTime) (text : List UInt8) : List UInt8 := 0x5b :: stamp.text ++ [0x5d, 0x20] ++ text

def Ended (line : List UInt8) : Prop := ∃ text, 0x0a ∉ text ∧ line = text ++ [0x0a]

/-- Some lines and the rest that is no whole line make up some bytes. -/
structure Drained (bytes : List UInt8) (lines : List (List UInt8)) (left : List UInt8) : Prop where
  whole : lines.flatten ++ left = bytes
  ended : ∀ line ∈ lines, Ended line
  rest : 0x0a ∉ left

theorem drained (bytes : List UInt8) : Drained bytes (drainLines bytes).1 (drainLines bytes).2 := by
  -- The induction puts one byte after the other in front.
  induction bytes with
  | nil => exact ⟨rfl, nofun, List.not_mem_nil⟩
  | cons byte rest ih =>
    obtain ⟨whole, ended, open_end⟩ := ih
    rw [drainLines]
    cases found : drainLines rest with
    | mk lines left =>
      rw [found] at whole ended open_end
      by_cases newline : byte = 0x0a
      · subst newline
        refine ⟨congrArg (List.cons 0x0a) whole, List.forall_mem_cons.mpr ⟨⟨[], List.not_mem_nil, rfl⟩, ended⟩, open_end⟩
      · simp only [if_neg newline]
        cases lines with
        | nil =>
          refine ⟨congrArg (List.cons byte) whole, nofun, ?_⟩
          rw [List.mem_cons, not_or]
          exact ⟨fun same => newline same.symm, open_end⟩
        | cons line others =>
          obtain ⟨⟨text, plain, rfl⟩, later⟩ := List.forall_mem_cons.mp ended
          refine ⟨congrArg (List.cons byte) whole, List.forall_mem_cons.mpr ⟨⟨byte :: text, ?_, rfl⟩, later⟩, open_end⟩
          rw [List.mem_cons, not_or]
          exact ⟨fun same => newline same.symm, plain⟩

theorem Ended.cancel {other rest more : List UInt8} (one : Ended line) (also : Ended other)
    (same : line ++ rest = other ++ more) : line = other ∧ rest = more := by
  obtain ⟨text, plain, rfl⟩ := one
  obtain ⟨second, clean, rfl⟩ := also
  -- The induction compares the two texts byte by byte.
  induction text generalizing second with
  | nil =>
    cases second with
    | nil => exact ⟨rfl, (List.cons.inj same).2⟩
    | cons byte second => exact absurd ((List.cons.inj same).1 ▸ List.mem_cons_self) clean
  | cons byte text ih =>
    cases second with
    | nil => exact absurd ((List.cons.inj same).1 ▸ List.mem_cons_self) plain
    | cons other second =>
      obtain ⟨rfl, later⟩ := List.cons.inj same
      rw [List.mem_cons, not_or] at plain clean
      obtain ⟨lines, rests⟩ := ih plain.2 second clean.2 later
      exact ⟨congrArg (List.cons byte) lines, rests⟩

theorem Drained.unique {others : List (List UInt8)} {more : List UInt8} (one : Drained bytes lines left)
    (other : Drained bytes others more) : lines = others ∧ left = more := by
  induction lines generalizing bytes others with
  | nil =>
    cases others with
    | nil => exact ⟨rfl, one.whole.trans other.whole.symm⟩
    | cons second others =>
      -- The rest would have the line break of the first line.
      obtain ⟨text, -, rfl⟩ := other.ended _ List.mem_cons_self
      have whole := one.whole.trans other.whole.symm
      exact absurd (by rw [List.flatten_nil, List.nil_append] at whole; rw [whole]; simp) one.rest
  | cons first lines ih =>
    cases others with
    | nil =>
      obtain ⟨text, -, rfl⟩ := one.ended _ List.mem_cons_self
      have whole := other.whole.trans one.whole.symm
      exact absurd (by rw [List.flatten_nil, List.nil_append] at whole; rw [whole]; simp) other.rest
    | cons second others =>
      have whole := one.whole.trans other.whole.symm
      rw [List.flatten_cons, List.flatten_cons, List.append_assoc, List.append_assoc] at whole
      obtain ⟨rfl, rests⟩ := (one.ended _ List.mem_cons_self).cancel (other.ended _ List.mem_cons_self) whole
      obtain ⟨rfl, rfl⟩ := @ih _ others ⟨rests, fun line member => one.ended line (List.mem_cons_of_mem _ member), one.rest⟩
        ⟨rfl, fun line member => other.ended line (List.mem_cons_of_mem _ member), other.rest⟩
      exact ⟨rfl, rfl⟩

theorem Ended.lossy_append (ended : Ended line) (rest : List UInt8) : lossy (line ++ rest) =
    lossy line ++ lossy rest := by
  obtain ⟨text, -, rfl⟩ := ended
  have newline : (0x0a : UInt8) < 0x80 := by decide
  rw [List.append_assoc, List.singleton_append, CNShell.lossy_append newline, CNShell.lossy_append newline,
    List.append_assoc]
  rfl

theorem Ended.lossy (ended : Ended line) : Ended (lossy line) := by
  obtain ⟨text, plain, rfl⟩ := ended
  have newline : (0x0a : UInt8) < 0x80 := by decide
  exact ⟨CNShell.lossy text, not_mem_lossy newline plain, CNShell.lossy_append newline text []⟩

theorem lossy_flatten (ended : ∀ line ∈ lines, Ended line) (left : List UInt8) :
    lossy (lines.flatten ++ left) = (lines.map lossy).flatten ++ lossy left := by
  induction lines with
  | nil => rfl
  | cons first lines ih =>
    obtain ⟨one, later⟩ := List.forall_mem_cons.mp ended
    rw [List.flatten_cons, List.append_assoc, one.lossy_append, ih later, List.map_cons, List.flatten_cons,
      List.append_assoc]

theorem Drained.count (drained : Drained bytes lines left) : bytes.count 0x0a = lines.length := by
  have each : ∀ line ∈ lines, line.count 0x0a = 1 := by
    intro line member
    obtain ⟨text, plain, rfl⟩ := drained.ended line member
    rw [List.count_append, List.count_eq_zero_of_not_mem plain]
    rfl
  rw [← drained.whole, List.count_append, List.count_eq_zero_of_not_mem drained.rest, List.count_flatten,
    List.map_congr_left each]
  simp

end Lines

section Sizes

/-- How many bytes a line of a log in JSON takes. -/
def jsonLength (record : Record) (utc : List UInt8) : Nat :=
  42 + (match record.data with
    | some data => 2 + (data.length + 2) / 3 * 4
    | none => 4) + record.event.utf8ByteSize + utc.length

def wholeLines (bytes : List UInt8) : List UInt8 := bytes.rdropWhile fun byte => byte ≠ 0x0a

/-- How many bytes are written for a line that was not whole. -/
def pendingLength (writer : Writer) : Nat :=
  if writer.pendingLine = [] then 0 else 26 + (lossy writer.pendingLine).length

/-- How many bytes are written for an event. -/
def recordLength (writer : Writer) (utc : List UInt8) : Record → Nat
  | record =>
    match writer.format, record with
    | .jsonl, record => jsonLength record utc
    | .text, .start name => 46 + (lossy name).length + utc.length
    | .text, .finish => pendingLength writer + (12 + utc.length)
    | .text, .output data =>
      if writer.lineTimestamps = true then
        26 * (writer.pendingLine ++ data).count 0x0a + (lossy (wholeLines (writer.pendingLine ++ data))).length
      else data.length

variable {writer : Writer} {data utc : List UInt8} {clock : Clock}

theorem length_jsonLine (record : Record) (utc : List UInt8) : (jsonLine record utc).length =
    jsonLength record utc := by
  have data : (match record.data with
      | some data => utf8 "\"" ++ utf8 (String.ofList (Base64.encodePadded data)) ++ utf8 "\""
      | none => utf8 "null").length =
      match record.data with
      | some data => 2 + (data.length + 2) / 3 * 4
      | none => 4 := by
    cases record.data with
    | none => rfl
    | some data =>
      simp only [List.length_append, length_utf8, Base64.utf8ByteSize_encodePadded]
      have quote : "\"".utf8ByteSize = 1 := by decide
      omega
  have parts : "\x7b\"dataBase64\":".utf8ByteSize = 14 ∧ ",\"event\":\"".utf8ByteSize = 10 ∧
      "\",\"timestamp\":\"".utf8ByteSize = 15 ∧ "\"\x7d\n".utf8ByteSize = 3 := by decide
  simp only [jsonLine, jsonLength, List.length_append, data, length_utf8, parts]
  omega

theorem length_header (name utc : List UInt8) : (header name utc).length = 46 + (lossy name).length + utc.length := by
  have parts : "# CNshell 会话日志\n# 连接: ".utf8ByteSize = 33 ∧ "\n# 开始: ".utf8ByteSize = 11 ∧
      "\n\n".utf8ByteSize = 2 := by decide
  simp only [header, List.length_append, length_utf8, parts]
  omega

theorem length_trailer (utc : List UInt8) : (trailer utc).length = 12 + utc.length := by
  have parts : "\n# 结束: ".utf8ByteSize = 11 ∧ "\n".utf8ByteSize = 1 := by decide
  simp only [trailer, List.length_append, length_utf8, parts]
  omega

theorem length_stamped (stamp : LocalTime) (text : List UInt8) : (stamped stamp text).length = 26 + text.length := by
  simp only [stamped, List.length_append, List.length_cons, List.length_nil, stamp.size]

theorem Drained.wholeLines {bytes left : List UInt8} {lines : List (List UInt8)} (drained : Drained bytes lines left) :
    wholeLines bytes = lines.flatten := by
  have cut : ∀ {front rest : List UInt8}, 0x0a ∉ rest → SessionLog.wholeLines (front ++ rest) = SessionLog.wholeLines front := by
    intro front rest
    induction rest using List.reverseRecOn with
    | nil => simp
    | append_singleton rest last ih =>
      intro absent
      rw [List.mem_append, not_or] at absent
      rw [SessionLog.wholeLines, ← List.append_assoc, List.rdropWhile_concat_pos _ _ _ (by
        simpa using fun same => absent.2 (List.mem_singleton.mpr same.symm))]
      exact ih absent.1
  rw [← drained.whole, cut drained.rest]
  rcases List.eq_nil_or_concat lines with rfl | ⟨front, last, rfl⟩
  · rfl
  · -- The last line ends with the last line break.
    obtain ⟨text, -, rfl⟩ := drained.ended last (by simp)
    rw [List.concat_eq_append, List.flatten_append, List.flatten_singleton, ← List.append_assoc]
    exact List.rdropWhile_concat_neg _ _ _ (by simp)

theorem file_writeLines (stamps : Nat → LocalTime) (index : Nat) (lines : List (List UInt8)) (writer : Writer) :
    (Writer.writeLines stamps index lines writer).file =
      writer.file ++ ((lines.zipIdx index).map fun entry => stamped (stamps entry.2) (lossy entry.1)).flatten := by
  induction lines generalizing index writer with
  | nil => simp [Writer.writeLines]
  | cons line others ih =>
    rw [Writer.writeLines, ih, List.zipIdx_cons, List.map_cons, List.flatten_cons, ← List.append_assoc]
    simp [Writer.writeTimestampedLine, Writer.writeBytes, stamped]

theorem length_stamped_lines (stamps : Nat → LocalTime) (index : Nat) {lines : List (List UInt8)}
    (ended : ∀ line ∈ lines, Ended line) :
    (((lines.zipIdx index).map fun entry => stamped (stamps entry.2) (lossy entry.1)).flatten).length =
      26 * lines.length + (lossy lines.flatten).length := by
  induction lines generalizing index with
  | nil => rfl
  | cons line others ih =>
    obtain ⟨one, later⟩ := List.forall_mem_cons.mp ended
    rw [List.zipIdx_cons, List.map_cons, List.flatten_cons, List.length_append, ih _ later, length_stamped,
      List.flatten_cons, one.lossy_append, List.length_append, List.length_cons]
    dsimp only
    omega

theorem file_flushPendingLine (writer : Writer) (stamp : LocalTime) :
    (writer.flushPendingLine stamp).file =
      writer.file ++ if writer.pendingLine = [] then [] else stamped stamp (lossy writer.pendingLine) := by
  unfold Writer.flushPendingLine
  split
  · rw [List.append_nil]
  · simp [Writer.writeTimestampedLine, Writer.writeBytes, stamped]

theorem length_flushPendingLine (writer : Writer) (stamp : LocalTime) :
    (writer.flushPendingLine stamp).file.length = writer.file.length + pendingLength writer := by
  rw [file_flushPendingLine, List.length_append, pendingLength]
  split
  · rfl
  · rw [length_stamped]

theorem length_writeEvent (writer : Writer) (record : Record) (clock : Clock) :
    (writer.writeEvent record clock).file.length = writer.file.length + recordLength writer clock.utc record := by
  unfold Writer.writeEvent recordLength
  cases writer.format with
  | jsonl => simp only [Writer.writeBytes, List.length_append, length_jsonLine]
  | text =>
    cases record with
    | start name => simp only [Writer.writeBytes, List.length_append, length_header]
    | finish =>
      simp only [Writer.writeBytes, List.length_append, length_flushPendingLine, length_trailer]
      omega
    | output data =>
      by_cases timestamps : writer.lineTimestamps = true
      · simp only [if_pos timestamps]
        have lines := drained (writer.pendingLine ++ data)
        rw [file_writeLines, List.length_append, length_stamped_lines _ _ lines.ended, lines.count, lines.wholeLines]
      · simp only [if_neg timestamps, Writer.writeBytes, List.length_append]

theorem length_cut (before after : Writer) (count : Nat) :
    (before.cut after count).file.length =
      before.file.length + min count (after.file.length - before.file.length) := by
  simp only [Writer.cut, List.length_append, List.length_take, List.length_drop]

end Sizes

section Limit

variable {worker next : Worker} {event : Event} {format : Format} {lineTimestamps : Bool}

/-- How many of some bytes are written. -/
def written (fault : Option Fault) (length : Nat) : Nat :=
  match fault with
  | none => length
  | some fault => min fault.written length

/-- How many bytes are written in a step. -/
def added (worker : Worker) : Event → Nat
  | .start name clock fault => written fault (recordLength worker.writer clock.utc (.start name))
  | .output data clock fault =>
    if maxFileBytes < saturatingAdd worker.writer.bytesWritten data.length then 0
    else written fault (recordLength worker.writer clock.utc (.output data))
  | .flush _ => 0
  | .stop clock fault => written fault (recordLength worker.writer clock.utc .finish)
  | .disconnect _ fault => written fault (pendingLength worker.writer)

/-- Output that is logged as it is. -/
def Verbatim (worker : Worker) : Event → Prop
  | .output _ _ _ => worker.writer.format = .text ∧ worker.writer.lineTimestamps = false
  | _ => False

/-- What a step writes fits into the file, or it is output that is logged as it is. -/
def Fits (worker : Worker) (event : Event) : Prop :=
  Verbatim worker event ∨ worker.writer.file.length + added worker event ≤ maxFileBytes

theorem length_cut_writeEvent (writer : Writer) (record : Record) (clock : Clock) (count : Nat) :
    (writer.cut (writer.writeEvent record clock) count).file.length =
      writer.file.length + min count (recordLength writer clock.utc record) := by
  rw [length_cut, length_writeEvent, Nat.add_sub_cancel_left]

theorem step_length (taken : worker.step event = some next) :
    next.writer.file.length = worker.writer.file.length + added worker event := by
  cases event with
  | start name clock fault =>
    obtain ⟨-, rfl⟩ := System.guarded_eq_some.mp taken
    cases fault with
    | none => exact length_writeEvent _ _ _
    | some fault => exact length_cut_writeEvent _ _ _ _
  | output data clock fault =>
    obtain ⟨-, rfl⟩ := System.guarded_eq_some.mp taken
    simp only [Worker.output, added]
    split
    · rfl
    · cases fault with
      | none => exact length_writeEvent _ _ _
      | some fault => exact length_cut_writeEvent _ _ _ _
  | flush fault =>
    obtain ⟨-, rfl⟩ := System.guarded_eq_some.mp taken
    cases fault <;> rfl
  | stop clock fault =>
    obtain ⟨-, rfl⟩ := System.guarded_eq_some.mp taken
    cases fault with
    | none => exact length_writeEvent _ _ _
    | some fault => exact length_cut_writeEvent _ _ _ _
  | disconnect clock fault =>
    obtain ⟨-, rfl⟩ := System.guarded_eq_some.mp taken
    cases fault with
    | none => exact length_flushPendingLine _ _
    | some fault =>
      simp only [Worker.disconnect, length_cut, length_flushPendingLine, Nat.add_sub_cancel_left, added, written]

def Counted (writer : Writer) : Prop := writer.bytesWritten = min writer.file.length (2 ^ 64 - 1)

theorem Counted.writeBytes {writer : Writer} (counted : Counted writer) (data : List UInt8) :
    Counted (writer.writeBytes data) := by
  simp only [Counted, Writer.writeBytes, saturatingAdd, List.length_append] at counted ⊢
  omega

theorem Counted.writeTimestampedLine {writer : Writer} (counted : Counted writer) (stamp : LocalTime)
    (data : List UInt8) : Counted (writer.writeTimestampedLine stamp data) := (counted.writeBytes _).writeBytes _

theorem Counted.writeLines {writer : Writer} (counted : Counted writer) (stamps : Nat → LocalTime) (index : Nat)
    (lines : List (List UInt8)) : Counted (Writer.writeLines stamps index lines writer) := by
  induction lines generalizing index writer with
  | nil => exact counted
  | cons line others ih => exact ih (counted.writeTimestampedLine _ _) _

theorem Counted.flushPendingLine {writer : Writer} (counted : Counted writer) (stamp : LocalTime) :
    Counted (writer.flushPendingLine stamp) := by
  unfold Writer.flushPendingLine
  split
  · exact counted
  · exact @Counted.writeTimestampedLine { writer with pendingLine := [] } counted _ _

theorem Counted.writeEvent {writer : Writer} (counted : Counted writer) (record : Record) (clock : Clock) :
    Counted (writer.writeEvent record clock) := by
  unfold Writer.writeEvent
  cases writer.format with
  | jsonl => exact counted.writeBytes _
  | text =>
    cases record with
    | start name => exact counted.writeBytes _
    | finish => exact (counted.flushPendingLine _).writeBytes _
    | output data =>
      by_cases timestamps : writer.lineTimestamps = true
      · simp only [if_pos timestamps]
        exact @Counted.writeLines ⟨.text, writer.lineTimestamps, (drainLines (writer.pendingLine ++ data)).2, writer.file,
          writer.bytesWritten⟩ counted _ _ _
      · simp only [if_neg timestamps]
        exact counted.writeBytes _

theorem step_counted (counted : worker.stage ≠ .ended → Counted worker.writer)
    (taken : worker.step event = some next) : next.stage ≠ .ended → Counted next.writer := by
  intro going
  cases event with
  | start name clock fault =>
    obtain ⟨stage, rfl⟩ := System.guarded_eq_some.mp taken
    cases fault with
    | none => exact (counted (by rw [stage]; decide)).writeEvent _ _
    | some fault => exact absurd rfl going
  | output data clock fault =>
    obtain ⟨stage, rfl⟩ := System.guarded_eq_some.mp taken
    simp only [Worker.output] at going ⊢
    split at going
    · exact absurd rfl going
    · next fits =>
      rw [if_neg fits]
      cases fault with
      | none => exact (counted (by rw [stage]; decide)).writeEvent _ _
      | some fault => exact absurd rfl going
  | flush fault =>
    obtain ⟨stage, rfl⟩ := System.guarded_eq_some.mp taken
    cases fault with
    | none => exact counted (by rw [stage]; decide)
    | some fault => exact absurd rfl going
  | stop clock fault =>
    obtain ⟨stage, rfl⟩ := System.guarded_eq_some.mp taken
    cases fault <;> exact absurd rfl going
  | disconnect clock fault =>
    obtain ⟨stage, rfl⟩ := System.guarded_eq_some.mp taken
    exact absurd rfl going

theorem verbatim_fits (counted : worker.stage ≠ .ended → Counted worker.writer)
    (small : worker.writer.file.length ≤ maxFileBytes) (verbatim : Verbatim worker event)
    (taken : worker.step event = some next) : worker.writer.file.length + added worker event ≤ maxFileBytes := by
  cases event with
  | output data clock fault =>
    obtain ⟨stage, -⟩ := System.guarded_eq_some.mp taken
    have same := counted (by rw [stage]; decide)
    simp only [added]
    split
    · exact small
    · next fits =>
      have size : recordLength worker.writer clock.utc (.output data) = data.length := by
        simp only [recordLength, verbatim.1, verbatim.2, Bool.false_eq_true, if_false]
      have most : written fault data.length ≤ data.length := by
        cases fault with
        | none => exact Nat.le_refl _
        | some fault => exact Nat.min_le_right _ _
      simp only [Counted, saturatingAdd, maxFileBytes] at same fits small ⊢
      rw [size]
      omega
  | start _ _ _ | flush _ | stop _ _ | disconnect _ _ => exact verbatim.elim

end Limit

namespace Demo

def noon : LocalTime :=
  ⟨[0x32, 0x30, 0x32, 0x34, 0x2d, 0x30, 0x31, 0x2d, 0x30, 0x31, 0x20, 0x31, 0x32, 0x3a, 0x30, 0x30, 0x3a, 0x30, 0x30,
    0x2e, 0x30, 0x30, 0x30], rfl, by simp⟩

def clock : Clock := ⟨[], fun _ => noon⟩

end Demo

end SessionLog

end Client

end CNShell
