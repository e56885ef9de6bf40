import CNShell.Library.Utf16

/-! The quoting of the POSIX shell: how a command line is read, unit by unit. -/

namespace CNShell

namespace Posix

/-- Where a reader stands; `start` is where a token may begin, `depth` counts the parentheses of an arithmetic expansion. -/
inductive Mode
  | bare (start : Bool)
  | escape (start : Bool)
  | less
  | dollar
  | opened
  | single
  | ansi
  | ansiEscape
  | quoted (depth : Option Nat)
  | quotedEscape (depth : Option Nat)
  | quotedDollar (depth : Option Nat)
  | backquote
  | backquoteEscape
  | comment
  | hereDoc
deriving DecidableEq

/-- A reader: the braces it is in, what it goes back to with those there, and whether a here-document is to follow. -/
structure Reader where
  mode : Mode
  braces : Nat
  stack : List (Mode × Nat)
  pending : Bool
deriving DecidableEq

/-- What a unit is to the shell: itself, something that acts, or the begin of a token by a quotation. -/
inductive Mark
  | literal (unit : UInt16)
  | active (unit : UInt16)
  | begins
deriving DecidableEq

namespace Reader

def initial : Reader := ⟨.bare true, 0, [], false⟩

def go (reader : Reader) (mode : Mode) : Reader := { reader with mode := mode }

def push (reader : Reader) (back mode : Mode) : Reader :=
  { reader with mode := mode, braces := 0, stack := (back, reader.braces) :: reader.stack }

def pop (reader : Reader) : Reader :=
  match reader.stack with
  | [] => reader.go (.bare true)
  | (back, braces) :: stack => { reader with mode := back, braces := braces, stack := stack }

/-- Outside of all quotation; parentheses are matched by their number. -/
def bareStep (reader : Reader) (start : Bool) (unit : UInt16) : Reader × List Mark :=
  let begins := if start then [Mark.begins] else []
  if unit = backslash then (reader.go (.escape start), [])
  else if unit = apostrophe then (reader.go .single, begins)
  else if unit = quotationMark then (reader.go (.quoted none), begins)
  else if unit = 0x24 then (reader.go .dollar, [.active unit])
  else if unit = 0x60 then (reader.push (.bare false) .backquote, [.active unit])
  else if unit = 0x7d ∧ 0 < reader.braces then
    ({ reader with mode := .bare false, braces := reader.braces - 1 }, [.active unit])
  else if 0 < reader.braces then (reader.go (.bare false), [.active unit])
  else if unit = 0x23 ∧ start then (reader.go .comment, [.active unit])
  else if unit = 0x0a then (reader.go (if reader.pending then .hereDoc else .bare true), [.active unit])
  else if unit = 0x3c then (reader.go .less, [.active unit])
  else if unit = 0x28 then (reader.push (.bare true) (.bare true), [.active unit])
  else if unit = 0x29 then (reader.pop, [.active unit])
  else (reader.go (.bare (unit ∈ [0x09, 0x20, 0x26, 0x3b, 0x3e, 0x7c])), [.active unit])

/-- Between quotation marks, or in an arithmetic expansion, which is read as if it stood there. -/
def quotedStep (reader : Reader) (depth : Option Nat) (unit : UInt16) : Reader × List Mark :=
  if unit = backslash then (reader.go (.quotedEscape depth), [])
  else if unit = 0x24 then (reader.go (.quotedDollar depth), [.active unit])
  else if unit = 0x60 then (reader.push (.quoted depth) .backquote, [.active unit])
  else
    match depth with
    | none => if unit = quotationMark then (reader.go (.bare false), []) else (reader.go (.quoted none), [.literal unit])
    | some depth =>
      if unit = 0x28 then (reader.go (.quoted (some (depth + 1))), [.active unit])
      else if unit = 0x29 then (if depth ≤ 1 then reader.pop else reader.go (.quoted (some (depth - 1))), [.active unit])
      else (reader.go (.quoted (some depth)), [.literal unit])

/-- One unit; what follows the line of a here-document operator is not told apart any more. -/
def step (reader : Reader) (unit : UInt16) : Reader × List Mark :=
  match reader.mode with
  | .bare start => reader.bareStep start unit
  | .escape start =>
    if unit = 0x0a then (reader.go (.bare start), [])
    else (reader.go (.bare false), (if start then [.begins] else []) ++ [.literal unit])
  | .less =>
    if unit = 0x3c then ({ reader with mode := .bare true, pending := true }, [.active unit]) else reader.bareStep true unit
  | .dollar =>
    if unit = apostrophe then (reader.go .ansi, [])
    else if unit = 0x24 then (reader.go (.bare false), [.active unit])
    else if unit = 0x28 then (reader.push (.bare false) .opened, [.active unit])
    else if unit = 0x7b then ({ reader with mode := .bare false, braces := reader.braces + 1 }, [.active unit])
    else reader.bareStep false unit
  | .opened => if unit = 0x28 then (reader.go (.quoted (some 2)), [.active unit]) else reader.bareStep true unit
  | .single => if unit = apostrophe then (reader.go (.bare false), []) else (reader, [.literal unit])
  | .ansi =>
    if unit = apostrophe then (reader.go (.bare false), [])
    else if unit = backslash then (reader.go .ansiEscape, [])
    else (reader, [.literal unit])
  | .ansiEscape => (reader.go .ansi, [.active unit])
  | .quoted depth => reader.quotedStep depth unit
  | .quotedEscape depth =>
    (reader.go (.quoted depth),
      if unit = 0x0a then []
      else if unit ∈ [backslash, quotationMark, 0x24, 0x60] then [.literal unit]
      else [.literal backslash, .literal unit])
  | .quotedDollar depth =>
    if unit = 0x24 then (reader.go (.quoted depth), [.active unit])
    else if unit = 0x28 then (reader.push (.quoted depth) .opened, [.active unit])
    else reader.quotedStep depth unit
  | .backquote =>
    (if unit = backslash then reader.go .backquoteEscape else if unit = 0x60 then reader.pop else reader, [.active unit])
  | .backquoteEscape => (reader.go .backquote, [.active unit])
  | .comment => (if unit = 0x0a then reader.go (if reader.pending then .hereDoc else .bare true) else reader, [.active unit])
  | .hereDoc => (reader, [.active unit])

def read (reader : Reader) : Units → Reader × List Mark
  | [] => (reader, [])
  | unit :: text =>
    (((reader.step unit).1.read text).1, (reader.step unit).2 ++ ((reader.step unit).1.read text).2)

variable (reader : Reader)

theorem read_append (first second : Units) :
    reader.read (first ++ second) =
      (((reader.read first).1.read second).1, (reader.read first).2 ++ ((reader.read first).1.read second).2) := by
  induction first generalizing reader with
  | nil => rfl
  | cons unit first ih => simp only [List.cons_append, read, ih, List.append_assoc]

/-- The modes that an apostrophe leads to. -/
def Settled : Mode → Prop
  | .single | .ansi | .quoted _ | .bare false | .comment | .backquote | .hereDoc => True
  | _ => False

theorem settled_step : Settled (reader.step apostrophe).1.mode := by
  obtain ⟨mode, braces, stack, pending⟩ := reader
  cases mode with
  | quoted depth | quotedDollar depth => cases depth <;> trivial
  | _ => trivial

theorem read_backslashes (settled : Settled reader.mode) :
    ∃ marks, reader.read [backslash, backslash] = (reader, marks) ∧
      marks.count (.literal backslash) ≤ 2 ∧ (marks.count (.literal backslash) = 2 → reader.mode = .single) := by
  obtain ⟨mode, braces, stack, pending⟩ := reader
  cases mode with
  | single => exact ⟨[.literal backslash, .literal backslash], rfl, by decide, fun _ => rfl⟩
  | ansi => exact ⟨[.active backslash], rfl, by decide, fun two => absurd two (by decide)⟩
  | comment | backquote | hereDoc =>
    exact ⟨[.active backslash, .active backslash], rfl, by decide, fun two => absurd two (by decide)⟩
  | bare start =>
    cases start with
    | false => exact ⟨[.literal backslash], rfl, by decide, fun two => absurd two (by decide)⟩
    | true => cases settled
  | quoted depth => exact ⟨[.literal backslash], by cases depth <;> rfl, by decide, fun two => absurd two (by decide)⟩
  | _ => cases settled

end Reader

end Posix

end CNShell
