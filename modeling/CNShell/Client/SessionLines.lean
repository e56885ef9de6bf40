import CNShell.Client.SessionLog

/-! The lines of a log with the time before each: what is left of them without it, however the output came. -/

namespace CNShell

namespace Client

namespace SessionLog

/-- The lines of some bytes, with the last one even if it is not whole. -/
def textLines (bytes : List UInt8) : List (List UInt8) :=
  (drainLines bytes).1 ++ if (drainLines bytes).2 = [] then [] else [(drainLines bytes).2]

/-- A line without the time before it. -/
def unstamp (line : List UInt8) : List UInt8 := (line.dropWhile fun byte => byte ≠ 0x5d).drop 2

/-- What is logged without the times. -/
def strip (body : List UInt8) : List UInt8 := ((textLines body).map unstamp).flatten

/-- The output that comes with an event. -/
def Event.logged : Event → List UInt8
  | .output data _ _ => data
  | .start _ _ _ | .flush _ | .stop _ _ | .disconnect _ _ => []

/-- The output of a run. -/
def received (trace : List (Worker × Event)) : List UInt8 := trace.flatMap fun entry => entry.2.logged

/-- No error of the disk happens, and output is not refused. -/
def Smooth (worker : Worker) : Event → Prop
  | .start _ _ fault | .flush fault | .stop _ fault | .disconnect _ fault => fault = none
  | .output data _ fault =>
    fault = none ∧ ¬maxFileBytes < saturatingAdd worker.writer.bytesWritten data.length

/-- No error of the disk happens. -/
def Event.Sound : Event → Prop
  | .start _ _ fault | .flush fault | .stop _ fault | .disconnect _ fault | .output _ _ fault => fault = none

def Started (name : List UInt8) (clock : Clock) (trace : List (Worker × Event)) : Prop :=
  ∃ entry ∈ trace, entry.2 = .start name clock none

/-- Some lines are logged one after the other, each after one time. -/
def Logged (lines : List (List UInt8)) (body : List UInt8) : Prop :=
  ∃ stamps : List LocalTime, stamps.length = lines.length ∧
    body = (List.zipWith stamped stamps (lines.map lossy)).flatten

section Lines

variable {bytes line left stream body : List UInt8} {lines : List (List UInt8)}

theorem Drained.textLines (drained : Drained bytes lines left) :
    textLines bytes = lines ++ if left = [] then [] else [left] := by
  obtain ⟨first, second⟩ := (SessionLog.drained bytes).unique drained
  rw [SessionLog.textLines, first, second]

theorem flatten_textLines (bytes : List UInt8) : (textLines bytes).flatten = bytes := by
  have whole := (drained bytes).whole
  rw [textLines, List.flatten_append]
  conv_rhs => rw [← whole]
  split
  · next none => rw [none]; rfl
  · simp

theorem unstamp_stamped (stamp : LocalTime) (text : List UInt8) : unstamp (stamped stamp text) = text := by
  have passes : ∀ byte ∈ 0x5b :: stamp.text, decide (byte ≠ 0x5d) = true := by
    intro byte member
    rcases List.mem_cons.mp member with rfl | member
    · rfl
    · exact decide_eq_true (stamp.plain byte member).1
  rw [unstamp, stamped, List.append_assoc, List.dropWhile_append_of_pos passes]
  rfl

theorem Ended.stamped (ended : Ended line) (stamp : LocalTime) : Ended (stamped stamp line) := by
  obtain ⟨text, plain, rfl⟩ := ended
  refine ⟨SessionLog.stamped stamp text, ?_, by simp [SessionLog.stamped]⟩
  have time : 0x0a ∉ stamp.text := fun member => (stamp.plain _ member).2 rfl
  simp [SessionLog.stamped, plain, time]

theorem ended_zipWith (ended : ∀ line ∈ lines, Ended line) (stamps : List LocalTime) :
    ∀ line ∈ List.zipWith SessionLog.stamped stamps (lines.map lossy), Ended line := by
  induction lines generalizing stamps with
  | nil => simp
  | cons first lines ih =>
    obtain ⟨one, later⟩ := List.forall_mem_cons.mp ended
    cases stamps with
    | nil => simp
    | cons stamp stamps =>
      rw [List.map_cons, List.zipWith_cons_cons]
      exact List.forall_mem_cons.mpr ⟨one.lossy.stamped stamp, ih later stamps⟩

theorem Logged.textLines (logged : Logged (textLines stream) body) : ∃ stamps : List LocalTime,
    stamps.length = (SessionLog.textLines stream).length ∧
      SessionLog.textLines body = List.zipWith SessionLog.stamped stamps ((SessionLog.textLines stream).map lossy) := by
  obtain ⟨stamps, count, rfl⟩ := logged
  refine ⟨stamps, count, ?_⟩
  have lines := drained stream
  have newline : (0x0a : UInt8) < 0x80 := by decide
  rw [lines.textLines] at count ⊢
  by_cases whole : (drainLines stream).2 = []
  · rw [if_pos whole, List.append_nil]
    have all : Drained (List.zipWith SessionLog.stamped stamps ((drainLines stream).1.map lossy)).flatten
        (List.zipWith SessionLog.stamped stamps ((drainLines stream).1.map lossy)) [] :=
      ⟨List.append_nil _, ended_zipWith lines.ended stamps, List.not_mem_nil⟩
    rw [all.textLines, if_pos rfl, List.append_nil]
  · -- The last line is not whole, before and after it is logged.
    rw [if_neg whole] at count ⊢
    obtain ⟨front, last, rfl⟩ : ∃ front last, stamps = front ++ [last] := by
      rcases List.eq_nil_or_concat stamps with rfl | ⟨front, last, rfl⟩
      · simp at count
      · exact ⟨front, last, List.concat_eq_append⟩
    have same : front.length = ((drainLines stream).1.map lossy).length := by simpa using count
    rw [List.map_append, List.zipWith_append same, List.flatten_append]
    have all : Drained ((List.zipWith SessionLog.stamped front ((drainLines stream).1.map lossy)).flatten ++
        (List.zipWith SessionLog.stamped [last] ([(drainLines stream).2].map lossy)).flatten)
        (List.zipWith SessionLog.stamped front ((drainLines stream).1.map lossy))
        (SessionLog.stamped last (lossy (drainLines stream).2)) := by
      refine ⟨by simp, ended_zipWith lines.ended front, ?_⟩
      have time : 0x0a ∉ last.text := fun member => (last.plain _ member).2 rfl
      simp [SessionLog.stamped, time, not_mem_lossy newline lines.rest]
    rw [all.textLines, if_neg (by simp [SessionLog.stamped])]
    rfl

theorem map_unstamp {stamps : List LocalTime} {texts : List (List UInt8)} (count : stamps.length = texts.length) :
    (List.zipWith SessionLog.stamped stamps texts).map unstamp = texts := by
  induction texts generalizing stamps with
  | nil => simp
  | cons text texts ih =>
    cases stamps with
    | nil => cases count
    | cons stamp stamps =>
      rw [List.zipWith_cons_cons, List.map_cons, unstamp_stamped, ih (by simpa using count)]

theorem strip_of_logged (logged : Logged (SessionLog.textLines stream) body) : strip body = lossy stream := by
  obtain ⟨stamps, count, same⟩ := logged.textLines
  have lines := drained stream
  rw [strip, same, map_unstamp (by rw [count, List.length_map]), lines.textLines, List.map_append, List.flatten_append]
  conv_rhs => rw [← lines.whole, lossy_flatten lines.ended]
  split
  · next none => rw [none]; rfl
  · simp

end Lines

section Runs

variable {trace : List (Worker × Event)} {worker next : Worker} {event : Event} {name : List UInt8} {clock : Clock}

theorem received_snoc : received (trace ++ [(worker, event)]) = received trace ++ event.logged := by
  simp [received, List.flatMap_append]

theorem Started.snoc (started : Started name clock trace) : Started name clock (trace ++ [(worker, event)]) :=
  let ⟨entry, member, same⟩ := started
  ⟨entry, List.mem_append.mpr (.inl member), same⟩

/-- A log that runs has the whole lines of the output, each after one time, and holds the rest. -/
structure Logging (stream name : List UInt8) (clock : Clock) (writer : Writer) : Prop where
  format : writer.format = .text
  timestamps : writer.lineTimestamps = true
  lines : ∃ lines body, Drained stream lines writer.pendingLine ∧ Logged lines body ∧
    writer.file = header name clock.utc ++ body

/-- A log that has ended has all lines of the output. -/
def Complete (stream name : List UInt8) (clock : Clock) (file : List UInt8) : Prop :=
  ∃ body ending, file = header name clock.utc ++ body ++ ending ∧ Logged (textLines stream) body ∧
    (ending = [] ∨ ∃ utc, ending = trailer utc)

theorem Logged.append {lines more : List (List UInt8)} {body further : List UInt8} (logged : Logged lines body)
    (also : Logged more further) : Logged (lines ++ more) (body ++ further) := by
  obtain ⟨stamps, count, rfl⟩ := logged
  obtain ⟨others, size, rfl⟩ := also
  refine ⟨stamps ++ others, by rw [List.length_append, List.length_append, count, size], ?_⟩
  rw [List.map_append, List.zipWith_append (by rw [count, List.length_map]), List.flatten_append]

theorem logged_writeLines (stamps : Nat → LocalTime) (index : Nat) (lines : List (List UInt8)) (writer : Writer) :
    ∃ body, Logged lines body ∧ (Writer.writeLines stamps index lines writer).file = writer.file ++ body := by
  refine ⟨_, ⟨(lines.zipIdx index).map fun entry => stamps entry.2, by simp, ?_⟩, file_writeLines _ _ _ _⟩
  congr 1
  rw [List.zipWith_map_left, List.zipWith_map_right]
  induction lines generalizing index with
  | nil => rfl
  | cons line others ih => rw [List.zipIdx_cons, List.map_cons, List.zipWith_cons_cons, ih]

theorem writeLines_fields (stamps : Nat → LocalTime) (index : Nat) (lines : List (List UInt8)) (writer : Writer) :
    (Writer.writeLines stamps index lines writer).format = writer.format ∧
      (Writer.writeLines stamps index lines writer).lineTimestamps = writer.lineTimestamps ∧
      (Writer.writeLines stamps index lines writer).pendingLine = writer.pendingLine := by
  induction lines generalizing index writer with
  | nil => exact ⟨rfl, rfl, rfl⟩
  | cons line others ih => exact ih _ _

theorem Logging.output {stream : List UInt8} {writer : Writer} (logging : Logging stream name clock writer)
    (data : List UInt8) (now : Clock) : Logging (stream ++ data) name clock (writer.writeEvent (.output data) now) := by
  obtain ⟨format, timestamps, lines, body, before, logged, file⟩ := logging
  have after := drained (writer.pendingLine ++ data)
  have next : writer.writeEvent (.output data) now = Writer.writeLines now.stamps 0
      (drainLines (writer.pendingLine ++ data)).1
      { writer with pendingLine := (drainLines (writer.pendingLine ++ data)).2 } := by
    unfold Writer.writeEvent
    rw [format]
    simp only [if_pos timestamps]
  obtain ⟨further, also, written⟩ := logged_writeLines now.stamps 0 (drainLines (writer.pendingLine ++ data)).1
    { writer with pendingLine := (drainLines (writer.pendingLine ++ data)).2 }
  obtain ⟨same_format, same_timestamps, same_pending⟩ := writeLines_fields now.stamps 0
    (drainLines (writer.pendingLine ++ data)).1
    { writer with pendingLine := (drainLines (writer.pendingLine ++ data)).2 }
  rw [next]
  refine ⟨same_format.trans format, same_timestamps.trans timestamps,
    lines ++ (drainLines (writer.pendingLine ++ data)).1, body ++ further, ⟨?_, ?_, ?_⟩, logged.append also, ?_⟩
  · -- The rest that was held comes before the new output.
    rw [same_pending, List.flatten_append, List.append_assoc, after.whole, ← List.append_assoc, before.whole]
  · exact List.forall_mem_append.mpr ⟨before.ended, after.ended⟩
  · rw [same_pending]
    exact after.rest
  · rw [written, ← List.append_assoc, ← file]

theorem Logging.flush {stream : List UInt8} {writer : Writer} (logging : Logging stream name clock writer)
    (stamp : LocalTime) : ∃ body, Logged (textLines stream) body ∧
      (writer.flushPendingLine stamp).file = header name clock.utc ++ body := by
  obtain ⟨-, -, lines, body, before, logged, file⟩ := logging
  rw [before.textLines, file_flushPendingLine, file, List.append_assoc]
  refine ⟨_, logged.append ?_, rfl⟩
  split
  · exact ⟨[], rfl, rfl⟩
  · exact ⟨[stamp], rfl, by simp⟩

/-- What is known of a log after some steps without an error. -/
def Known (trace : List (Worker × Event)) (worker : Worker) : Prop :=
  match worker.stage with
  | .opened => received trace = [] ∧ worker.writer = ⟨.text, true, [], [], 0⟩
  | .running => ∃ name clock, Started name clock trace ∧ Logging (received trace) name clock worker.writer
  | .ended => ∃ name clock, Started name clock trace ∧ Complete (received trace) name clock worker.writer.file

/-- Every step without an error keeps what is known. -/
theorem step_known (known : Known trace worker) (smooth : Smooth worker event)
    (taken : worker.step event = some next) : Known (trace ++ [(worker, event)]) next := by
  unfold Known at known ⊢
  rw [received_snoc]
  cases event with
  | start name clock fault =>
    obtain ⟨stage, rfl⟩ := System.guarded_eq_some.mp taken
    rw [stage] at known
    obtain rfl : fault = none := smooth
    obtain ⟨nothing, fresh⟩ := known
    refine ⟨name, clock, ⟨_, List.mem_append.mpr (.inr List.mem_cons_self), rfl⟩, ?_⟩
    have written : worker.writer.writeEvent (.start name) clock =
        Writer.writeBytes ⟨.text, true, [], [], 0⟩ (header name clock.utc) := by rw [fresh]; rfl
    simp only [Worker.start, written, nothing, Event.logged, List.append_nil]
    exact ⟨rfl, rfl, [], [], ⟨rfl, nofun, List.not_mem_nil⟩, ⟨[], rfl, rfl⟩, by simp [Writer.writeBytes]⟩
  | output data now fault =>
    obtain ⟨stage, rfl⟩ := System.guarded_eq_some.mp taken
    rw [stage] at known
    obtain ⟨rfl, room⟩ := smooth
    obtain ⟨name, clock, started, logging⟩ := known
    have next : worker.output data now none = { worker with
        writer := worker.writer.writeEvent (.output data) now
        bytesWritten := (worker.writer.writeEvent (.output data) now).bytesWritten } := by
      rw [Worker.output, if_neg room]
    rw [next]
    simp only [stage]
    exact ⟨name, clock, started.snoc, logging.output data now⟩
  | flush fault =>
    obtain ⟨stage, rfl⟩ := System.guarded_eq_some.mp taken
    rw [stage] at known
    obtain rfl : fault = none := smooth
    obtain ⟨name, clock, started, logging⟩ := known
    simp only [stage, Event.logged, List.append_nil]
    exact ⟨name, clock, started.snoc, logging⟩
  | stop now fault =>
    obtain ⟨stage, rfl⟩ := System.guarded_eq_some.mp taken
    rw [stage] at known
    obtain rfl : fault = none := smooth
    obtain ⟨name, clock, started, logging⟩ := known
    obtain ⟨body, logged, file⟩ := logging.flush (now.stamps 0)
    have written : (worker.writer.writeEvent .finish now).file =
        (worker.writer.flushPendingLine (now.stamps 0)).file ++ trailer now.utc := by
      unfold Writer.writeEvent
      rw [logging.format]
      rfl
    simp only [Worker.stop, written, file, Event.logged, List.append_nil]
    exact ⟨name, clock, started.snoc, body, _, rfl, logged, .inr ⟨now.utc, rfl⟩⟩
  | disconnect now fault =>
    obtain ⟨stage, rfl⟩ := System.guarded_eq_some.mp taken
    rw [stage] at known
    obtain rfl : fault = none := smooth
    obtain ⟨name, clock, started, logging⟩ := known
    obtain ⟨body, logged, file⟩ := logging.flush (now.stamps 0)
    simp only [Worker.disconnect, file, Event.logged, List.append_nil]
    exact ⟨name, clock, started.snoc, body, [], (List.append_nil _).symm, logged, .inl rfl⟩

theorem run_known (run : (logSystem .text true).Run trace worker) (smooth : ∀ entry ∈ trace, Smooth entry.1 entry.2) :
    Known trace worker := by
  refine run.history Smooth Known ?_ (fun _ _ _ _ known smooth taken => step_known known smooth taken) smooth
  rintro _ rfl
  exact ⟨rfl, rfl⟩

/--
The lines of a log that has ended are those of the output, each after one time and with what is no UTF-8 replaced.

So what is left without the times is the same however the output came, and all of it where it is a text.
-/
theorem lines_logged (run : (logSystem .text true).Run trace worker) (smooth : ∀ entry ∈ trace, Smooth entry.1 entry.2)
    (ended : worker.stage = .ended) : ∃ name clock body ending, Started name clock trace ∧
      worker.writer.file = header name clock.utc ++ body ++ ending ∧ (ending = [] ∨ ∃ utc, ending = trailer utc) ∧
      (∃ stamps : List LocalTime, stamps.length = (textLines (received trace)).length ∧
        textLines body = List.zipWith stamped stamps ((textLines (received trace)).map lossy)) ∧
      strip body = lossy (received trace) ∧ ∀ text, received trace = utf8 text → strip body = received trace := by
  have known := run_known run smooth
  rw [Known, ended] at known
  obtain ⟨name, clock, started, body, ending, file, logged, ends⟩ := known
  have stripped := strip_of_logged logged
  refine ⟨name, clock, body, ending, started, file, ends, logged.textLines, stripped, fun text same => ?_⟩
  rw [stripped, same, lossy_utf8]

end Runs

namespace Demo

/-- Whether what is logged has all bytes of the output. -/
def KeepsBytes : Prop :=
  ∀ (trace : List (Worker × Event)) (worker : Worker), (logSystem .text true).Run trace worker →
    (∀ entry ∈ trace, entry.2.Sound) → worker.stage = .ended →
      ∃ name clock body ending, Started name clock trace ∧
        worker.writer.file = header name clock.utc ++ body ++ ending ∧ strip body = received trace

/-- Whether what is logged of an output is the same however it comes. -/
def IgnoresPieces : Prop :=
  ∀ (trace others : List (Worker × Event)) (worker other : Worker) (name : List UInt8) (clock : Clock),
    (logSystem .text true).Run trace worker → (logSystem .text true).Run others other →
      (∀ entry ∈ trace ++ others, entry.2.Sound) → worker.stage = .ended → other.stage = .ended →
      Started name clock trace → Started name clock others → received trace = received others →
      ∀ body further, worker.writer.file = header name clock.utc ++ body →
        other.writer.file = header name clock.utc ++ further → strip body = strip further

theorem byte_replaced : ¬KeepsBytes := by
  intro always
  have goes : System.trail Worker.step (.opened .text true)
      [.start [] clock none, .output [0xff] clock none, .stop clock none] = some (_, _) := rfl
  have run := System.Run.trail (.start rfl : (logSystem .text true).Run [] (.opened .text true)) goes
  obtain ⟨name, now, body, ending, -, file, same⟩ := always _ _ run (by
    intro entry member
    rcases List.mem_cons.mp member with rfl | member
    · exact rfl
    rcases List.mem_cons.mp member with rfl | member
    · exact rfl
    · obtain rfl := List.mem_singleton.mp member
      exact rfl) rfl
  -- The byte is nowhere in the file.
  have there : 0xff ∈ strip body := by
    rw [same]
    exact List.mem_singleton_self 0xff
  have inside : ∀ byte, byte ∈ strip body → byte ∈ body := by
    intro byte member
    obtain ⟨line, among, found⟩ := List.mem_flatten.mp member
    obtain ⟨whole, logged, rfl⟩ := List.mem_map.mp among
    rw [← flatten_textLines body]
    exact List.mem_flatten.mpr ⟨whole, logged, (List.dropWhile_subset _) (List.mem_of_mem_drop found)⟩
  have absent : 0xff ∉ header name now.utc ++ body ++ ending := by
    rw [← file]
    decide
  exact absent (by simp [inside _ there])

theorem piece_refused : ¬IgnoresPieces := by
  intro always
  obtain ⟨rest, size⟩ : ∃ rest : List UInt8, rest.length = maxFileBytes :=
    ⟨List.replicate maxFileBytes 0x61, List.length_replicate⟩
  let first := (Worker.opened .text true).start [] clock none
  let second := first.output [0x61, 0x0a] clock none
  have refused : ∀ (worker : Worker) (data : List UInt8), 0 < worker.writer.bytesWritten → maxFileBytes ≤ data.length →
      (worker.output data clock none).stage = .ended ∧ (worker.output data clock none).writer = worker.writer := by
    intro worker data some_bytes long
    have past : maxFileBytes < saturatingAdd worker.writer.bytesWritten data.length := by
      simp only [maxFileBytes, saturatingAdd] at long ⊢
      omega
    rw [Worker.output, if_pos past]
    exact ⟨rfl, rfl⟩
  have begun : (logSystem .text true).Run [] (.opened .text true) := .start rfl
  have started : (Worker.opened .text true).step (.start [] clock none) = some first := rfl
  have short : first.step (.output [0x61, 0x0a] clock none) = some second := rfl
  have long : second.step (.output rest clock none) = some (second.output rest clock none) := rfl
  have whole : first.step (.output ([0x61, 0x0a] ++ rest) clock none) =
      some (first.output ([0x61, 0x0a] ++ rest) clock none) := rfl
  obtain ⟨one, kept⟩ := refused second rest (by decide) (by omega)
  obtain ⟨other, same⟩ := refused first ([0x61, 0x0a] ++ rest) (by decide) (by rw [List.length_append]; omega)
  have equal := always _ _ _ _ [] clock (((begun.snoc started).snoc short).snoc long)
    ((begun.snoc started).snoc whole) (by simp [Event.Sound]) one other
    ⟨(.opened .text true, .start [] clock none), by simp, rfl⟩
    ⟨(.opened .text true, .start [] clock none), by simp, rfl⟩ (by simp [received, Event.logged])
    (stamped noon [0x61, 0x0a]) [] (by rw [kept]; decide) (by rw [same]; decide)
  exact absurd equal (by decide)

/-- The log has neither all bytes of the output, nor is it the same however the output comes. -/
theorem not_all_logged : ¬KeepsBytes ∧ ¬IgnoresPieces := ⟨byte_replaced, piece_refused⟩

/-- A line in two pieces. -/
theorem pieces_logged : ∃ trace worker, (logSystem .text true).Run trace worker ∧
    received trace = [0x61, 0x62, 0x0a] ∧ ∃ name clock body ending, Started name clock trace ∧
      worker.writer.file = header name clock.utc ++ body ++ ending ∧ strip body = lossy [0x61, 0x62, 0x0a] := by
  have goes : System.trail Worker.step (.opened .text true)
      [.start [] clock none, .output [0x61] clock none, .output [0x62, 0x0a] clock none, .stop clock none] =
        some (_, _) := rfl
  have run := System.Run.trail (.start rfl : (logSystem .text true).Run [] (.opened .text true)) goes
  obtain ⟨name, now, body, ending, started, file, -, -, stripped, -⟩ := lines_logged run (by
    intro entry member
    rcases List.mem_cons.mp member with rfl | member
    · exact rfl
    rcases List.mem_cons.mp member with rfl | member
    · exact ⟨rfl, by decide⟩
    rcases List.mem_cons.mp member with rfl | member
    · exact ⟨rfl, by decide⟩
    · obtain rfl := List.mem_singleton.mp member
      exact rfl) rfl
  exact ⟨_, _, run, rfl, name, now, body, ending, started, file, stripped⟩

end Demo

end SessionLog

end Client

end CNShell
