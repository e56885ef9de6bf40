import CNShell.Library.Program

/-! The port and the files that the modem protocols work on, and the errors of their operations. -/

namespace CNShell

namespace Modem

abbrev Bytes := List UInt8

/-- The kinds of I/O errors the protocols tell apart or return. -/
inductive ErrorKind
  | invalidInput
  | invalidData
  | connectionAborted
  | timedOut
  | fileTooLarge
  | alreadyExists
  | interrupted
  | unexpectedEof
  | writeZero
  | other
  deriving DecidableEq, Repr

/-- An I/O error. -/
structure IoError where
  kind : ErrorKind
  message : String
  deriving DecidableEq, Repr

/-- Why a function has not returned a value: an I/O error, or the bound on its loop was reached. -/
inductive Stop
  | io (error : IoError)
  | outOfFuel
  deriving DecidableEq, Repr

/-- What the protocols do: operations of the port, and operations on the files of the receiver. -/
inductive ModemAct : Type → Type
  /-- `read_exact` of a number of bytes. -/
  | readExact (count : Nat) : ModemAct Bytes
  /-- `write_all`. -/
  | writeAll (bytes : Bytes) : ModemAct Unit
  | flush : ModemAct Unit
  /-- Whether there is a file of a name in the destination. -/
  | exists (name : String) : ModemAct Bool
  /-- A new temporary file, known by a number that stands for its random name. -/
  | createTemporary (number : Nat) : ModemAct Unit
  | writeTemporary (number : Nat) (bytes : Bytes) : ModemAct Unit
  | syncTemporary (number : Nat) : ModemAct Unit
  /-- The rename of a temporary file over a file of the destination. -/
  | atomicReplace (number : Nat) (name : String) : ModemAct Unit
  | removeTemporary (number : Nat) : ModemAct Unit

/-- Whether an action is an operation of the port. -/
def ModemAct.onPort : ModemAct β → Bool
  | readExact _ | writeAll _ | flush => true
  | _ => false

/-- A function of the protocols. -/
abbrev Transfer := Program ModemAct Stop

/-- A function that returns an error. -/
def fail (kind : ErrorKind) (message : String) : Transfer α := Program.lift (.error (.io ⟨kind, message⟩))

/-- The result of a function as a value, as a `match` on it takes it. -/
def attempt : Transfer α → Transfer (Except IoError α)
  | .done (.ok value) => .done (.ok (.ok value))
  | .done (.error (.io error)) => .done (.ok (.error error))
  | .done (.error .outOfFuel) => .done (.error .outOfFuel)
  | .step action next => .step action fun outcome => attempt (next outcome)

/-- A function whose errors are ignored, as `let _ =` does. -/
def ignoring (function : Transfer α) : Transfer Unit := do
  let _ ← attempt function
  return ()

/-- A function after whose errors something is cleaned up. -/
def cleaning (function : Transfer α) (cleanup : Transfer Unit) : Transfer α := do
  match ← attempt function with
  | .ok value => return value
  | .error error =>
    ignoring cleanup
    Program.lift (.error (.io error))

/-- A file that is sent. -/
structure Source where
  /-- Its name, if that is valid UTF-8. -/
  fileName : Option String
  isFile : Bool
  isSymlink : Bool
  content : Bytes

/-- A path that an XMODEM download goes to, with what is known about it. -/
structure Destination where
  isAbsolute : Bool
  fileName : Option String
  isDir : Bool
  parentIsDir : Bool

structure Files where
  /-- The files of the destination. -/
  named : String → Option Bytes
  temporary : Nat → Option Bytes

end Modem

end CNShell
