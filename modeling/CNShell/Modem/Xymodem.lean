import CNShell.Modem.Models
import CNShell.Ssh.Zmodem

/-! The XMODEM and YMODEM protocols, both sides of each. -/

namespace CNShell

namespace Modem

def soh : UInt8 := 0x01
def stx : UInt8 := 0x02
def eot : UInt8 := 0x04
def ack : UInt8 := 0x06
def nak : UInt8 := 0x15
def can : UInt8 := 0x18
def crcRequest : UInt8 := 0x43
def pad : UInt8 := 0x1a
def maxRetries : Nat := 16
def maxFiles : Nat := 256
def maxFileBytes : Nat := 50 * 1024 * 1024 * 1024

/-- The check at the end of a block. -/
inductive XmodemChecksum
  | checksum
  | crc16
  deriving DecidableEq, Repr

def readByte : Transfer UInt8 := do
  let bytes ← Program.perform (.readExact 1)
  return bytes.headD 0

/-- A control byte to the port. -/
def writeControl (value : UInt8) : Transfer Unit := do
  Program.perform (.writeAll [value])
  Program.perform .flush

/-- The cancellation of the other side. -/
def cancelPeer : Transfer Unit := do
  ignoring (Program.perform (.writeAll [can, can]))
  ignoring (Program.perform .flush)

/-- An error after the cancellation of the other side. -/
def abort (kind : ErrorKind) (message : String) : Transfer α := do
  cancelPeer
  fail kind message

def crcBit (crc : UInt16) : UInt16 := if crc &&& 0x8000 ≠ 0 then (crc <<< 1) ^^^ 0x1021 else crc <<< 1

def crcByte (crc : UInt16) (byte : UInt8) : UInt16 :=
  let shifted : UInt16 := byte.toUInt16 <<< (8 : UInt16)
  Nat.iterate crcBit 8 (crc ^^^ shifted)

def crc16 (data : Bytes) : UInt16 := data.foldl crcByte 0

def sum8 (data : Bytes) : UInt8 := data.foldl (· + ·) 0

/-- The two bytes of a number, the high one first. -/
def toBeBytes (value : UInt16) : Bytes := [(value.toNat / 256).toUInt8, value.toNat.toUInt8]

def fromBeBytes (high low : UInt8) : UInt16 := (high.toNat * 256 + low.toNat).toUInt16

/-- The last bytes of a block. -/
def trailer (mode : XmodemChecksum) (data : Bytes) : Bytes :=
  match mode with
  | .checksum => [sum8 data]
  | .crc16 => toBeBytes (crc16 data)

/-- One of some bytes, of up to sixteen that are read. -/
def waitForControl (accepted : Bytes) : (retries : Nat := maxRetries) → Transfer UInt8
  | 0 => abort .timedOut "peer did not enter modem transfer mode"
  | retries + 1 => do
    match ← attempt readByte with
    | .ok value =>
      if value ∈ accepted then return value
      else if value = can then
        match ← attempt readByte with
        | .ok second =>
          if second = can then fail .connectionAborted "transfer cancelled by peer"
          else waitForControl accepted retries
        | .error _ => waitForControl accepted retries
      else waitForControl accepted retries
    | .error _ => waitForControl accepted retries

/-- The mode that the receiver asks for. -/
def waitForReceiver : Transfer XmodemChecksum := do
  let value ← waitForControl [crcRequest, nak]
  return if value = crcRequest then .crc16 else .checksum

/-- The receiver asks for the next header or the next data. -/
def waitForCrc : Transfer Unit := do
  let _ ← waitForControl [crcRequest]
  return ()

def transmit (number : UInt8) (data : Bytes) (mode : XmodemChecksum) : Transfer Unit := do
  Program.perform (.writeAll [if data.length = 1024 then stx else soh, number, ~~~number])
  Program.perform (.writeAll data)
  Program.perform (.writeAll (trailer mode data))
  Program.perform .flush

/-- Transmissions of something until it is acknowledged, with the error after too many of them. -/
def untilAcknowledged (transmission : Transfer Unit) (aborted timedOut : String) :
    (retries : Nat := maxRetries) → Transfer Unit
  | 0 => abort .timedOut timedOut
  | retries + 1 => do
    transmission
    match ← attempt readByte with
    | .ok value =>
      if value = ack then return ()
      else if value = can then
        match ← attempt readByte with
        | .ok second =>
          if second = can then fail .connectionAborted aborted
          else untilAcknowledged transmission aborted timedOut retries
        | .error _ => untilAcknowledged transmission aborted timedOut retries
      else untilAcknowledged transmission aborted timedOut retries
    | .error _ => untilAcknowledged transmission aborted timedOut retries

/-- A block, until it is acknowledged. -/
def sendBlock (number : UInt8) (data : Bytes) (mode : XmodemChecksum) : Transfer Unit :=
  if data.length ≠ 128 ∧ data.length ≠ 1024 then fail .invalidInput "invalid modem block size"
  else untilAcknowledged (transmit number data mode) "transfer cancelled by peer"
    "block was not acknowledged"

def finishXmodemSend : Transfer Unit :=
  untilAcknowledged (writeControl eot) "cancelled" "Xmodem EOT was not acknowledged"

def untilAnswered (answer : UInt8) (timedOut : String) : (retries : Nat := maxRetries) → Transfer Unit
  | 0 => abort .timedOut timedOut
  | retries + 1 => do
    writeControl eot
    match ← attempt readByte with
    | .ok value => if value = answer then return () else untilAnswered answer timedOut retries
    | .error _ => untilAnswered answer timedOut retries

/-- The end of a YMODEM file, which is rejected first and acknowledged then. -/
def finishYmodemFileSend : Transfer Unit := do
  untilAnswered nak "Ymodem first EOT was not rejected"
  untilAnswered ack "Ymodem EOT handshake failed"

def receiveBlock (start : UInt8) (mode : XmodemChecksum) : Transfer (UInt8 × Bytes) := do
  let number ← readByte
  let complement ← readByte
  if number ≠ ~~~complement then fail .invalidData "block number complement mismatch"
  else
    let data ← Program.perform (.readExact (if start = stx then 1024 else 128))
    let valid ← (do
      match mode with
      | .checksum =>
        let sum ← readByte
        return decide (sum = sum8 data)
      | .crc16 =>
        let high ← readByte
        let low ← readByte
        return decide (fromBeBytes high low = crc16 data))
    if valid = true then return (number, data)
    else fail .invalidData "block checksum mismatch"

def pieces (size : Nat) (content : Bytes) : List Bytes :=
  (List.range ((content.length + size - 1) / size)).map fun i => (content.drop (i * size)).take size

/-- A piece as the data of a block. -/
def padded (size : Nat) (piece : Bytes) : Bytes := piece ++ List.replicate (size - piece.length) pad

/-- The blocks that are left to send, numbered from one on, with how much was sent before. -/
def sendPieces (size total : Nat) (mode : XmodemChecksum) :
    UInt8 → Nat → List Bytes → Transfer Nat
  | _, sent, [] => return sent
  | number, sent, piece :: rest => do
    sendBlock number (padded size piece) mode
    sendPieces size total mode (number + 1) (min (sent + piece.length) total) rest

def sendDataBlocks (content : Bytes) (total : Nat) (use1k : Bool) (mode : XmodemChecksum) : Transfer Nat :=
  let size := if use1k = true then 1024 else 128
  sendPieces size total mode 1 0 (pieces size content)

/-- How far the data of a file was received. -/
structure Receiving where
  expectedBlock : UInt8
  received : Nat
  errors : Nat
  deriving DecidableEq, Repr

/-- What a round of the receiving loop comes to. -/
inductive Turn
  | again (receiving : Receiving)
  | returned (received : Nat)
  deriving DecidableEq, Repr

/-- The number of an output and what the loop was called with. -/
structure ReceiveOptions where
  output : Nat
  expectedSize : Option Nat
  checksum : XmodemChecksum
  ymodemEot : Bool
  deriving DecidableEq, Repr

/-- Something that was not expected is rejected. -/
def rejectTurn (receiving : Receiving) : Transfer Turn := do
  writeControl nak
  return .again { receiving with errors := receiving.errors + 1 }

/-- The end of a file is confirmed, under YMODEM after it was rejected once. -/
def confirmEot (options : ReceiveOptions) (received : Nat) : Transfer Turn :=
  if options.ymodemEot = true then do
    writeControl nak
    let _ ← waitForControl [eot]
    writeControl ack
    writeControl crcRequest
    return .returned received
  else do
    writeControl ack
    return .returned received

/-- How much of a block of data belongs to the file. -/
def writeLength (options : ReceiveOptions) (received length : Nat) : Nat :=
  match options.expectedSize with
  | some size => min (size - received) length
  | none => length

/-- The expected block is written to the output. -/
def acceptBlock (options : ReceiveOptions) (receiving : Receiving) (data : Bytes) : Transfer Turn :=
  if options.expectedSize = none ∧ receiving.received + data.length > maxFileBytes then
    abort .fileTooLarge "Xmodem download exceeds 50 GB"
  else do
    let length := writeLength options receiving.received data.length
    Program.perform (.writeTemporary options.output (data.take length))
    writeControl ack
    return .again ⟨receiving.expectedBlock + 1, receiving.received + length, 0⟩

/-- One round of the receiving loop, up to the check of its errors. -/
def receiveTurn (options : ReceiveOptions) (receiving : Receiving) : Transfer Turn := do
  match ← attempt readByte with
  | .ok value =>
    if value = eot then confirmEot options receiving.received
    else if value = can then
      match ← attempt readByte with
      | .ok second =>
        if second = can then fail .connectionAborted "transfer cancelled by peer"
        else return .again receiving
      | .error _ => return .again receiving
    else if value = soh ∨ value = stx then
      match ← attempt (receiveBlock value options.checksum) with
      | .ok (number, data) =>
        if number = receiving.expectedBlock then acceptBlock options receiving data
        else if number = receiving.expectedBlock - 1 then
          writeControl ack
          return .again receiving
        else rejectTurn receiving
      | .error _ => rejectTurn receiving
    else rejectTurn receiving
  | .error _ => rejectTurn receiving

def receiveLoop (options : ReceiveOptions) : (fuel : Nat) → Receiving → Transfer Nat
  | 0, _ => Program.lift (.error .outOfFuel)
  | fuel + 1, receiving => do
    match ← receiveTurn options receiving with
    | .returned received => return received
    | .again receiving =>
      if maxRetries ≤ receiving.errors then abort .timedOut "too many receive retries"
      else receiveLoop options fuel receiving

def receiveDataBlocks (fuel : Nat) (options : ReceiveOptions) : Transfer Nat := receiveLoop options fuel ⟨1, 0, 0⟩

/-- A file may be sent. -/
def validateUpload (source : Source) : Transfer Unit :=
  if source.isFile = false ∨ source.content.length > maxFileBytes then
    fail .invalidInput "transfer source must be a regular file no larger than 50 GB"
  else if source.isSymlink = true then
    fail .invalidInput "symbolic links are not accepted as modem upload sources"
  else return ()

/-- Whether a character is a control character. -/
def isControl (letter : Char) : Bool := letter.val < 0x20 || 0x7f ≤ letter.val && letter.val < 0xa0

def localFileName (source : Source) : Transfer String :=
  match source.fileName with
  | none => fail .invalidInput "filename must be valid UTF-8"
  | some name =>
    if name.toList.any isControl = true then
      fail .invalidInput "filename contains control characters"
    else return name

def xmodemSend (source : Source) (use1k : Bool) : Transfer Nat := do
  validateUpload source
  let _ ← localFileName source
  let mode ← waitForReceiver
  let sent ← sendDataBlocks source.content source.content.length use1k mode
  finishXmodemSend
  return sent

/-- A path that a download may go to, with its file name. -/
def validateXmodemDestination (destination : Destination) : Transfer String :=
  match destination.fileName with
  | none => fail .invalidInput "Xmodem destination must be an absolute file path"
  | some name =>
    if destination.isAbsolute = false ∨ destination.isDir = true then
      fail .invalidInput "Xmodem destination must be an absolute file path"
    else if destination.parentIsDir = false then
      fail .invalidInput "Xmodem destination directory does not exist"
    else return name

/-- The byte that asks for a mode. -/
def XmodemChecksum.request : XmodemChecksum → UInt8
  | .crc16 => crcRequest
  | .checksum => nak

def xmodemReceive (fuel : Nat) (destination : Destination) (mode : XmodemChecksum) : Transfer Nat := do
  let name ← validateXmodemDestination destination
  cleaning (do
    Program.perform (.createTemporary 0)
    writeControl mode.request
    let received ← receiveDataBlocks fuel
      { output := 0, expectedSize := none, checksum := mode, ymodemEot := false }
    Program.perform (.syncTemporary 0)
    Program.perform (.atomicReplace 0 name)
    return received) (Program.perform (.removeTemporary 0))

def utf8 (text : String) : Bytes := text.toUTF8.data.toList

/-- The header block of a file. -/
def ymodemHeader (name : String) (size : Nat) : Transfer Bytes :=
  if (utf8 name).length = 0 ∨ (utf8 name).length > 100 ∨
      name.toList.any (fun letter => letter = '/' || letter = '\\' || letter = '\x00') = true then
    fail .invalidInput "Ymodem filename is invalid or too long"
  else
    let start := (utf8 name).length + 1
    let digits := utf8 (toString size)
    if start + digits.length ≥ 128 then fail .invalidInput "Ymodem metadata is too long"
    else
      return utf8 name ++ 0 :: digits ++ List.replicate (128 - (start + digits.length)) 0

/-- The file that a header announces, or none at the end of a batch. -/
def parseYmodemHeader (header : Bytes) : Transfer (Option (String × Nat)) :=
  let bytes := header.takeWhile (· ≠ 0)
  if bytes.length = header.length then fail .invalidData "Ymodem filename is not terminated"
  else if bytes = [] then return none
  else
    match String.fromUTF8? ⟨bytes.toArray⟩ with
    | none => fail .invalidData "filename is not UTF-8"
    | some name =>
      if bytes.length > 255 ∨ name = "." ∨ name = ".." ∨ name.toList.any isControl = true ∨
          name.toList.any (fun letter => letter = '/' || letter = '\\') = true then
        fail .invalidData "unsafe Ymodem filename"
      else
        let digits := (header.drop (bytes.length + 1)).takeWhile fun byte => byte ≠ 0 ∧ byte ≠ 0x20
        if digits = [] then fail .invalidData "Ymodem file size is missing"
        else
          match parseSize digits with
          | some size =>
            if size ≤ maxFileBytes then return some (name, size)
            else fail .invalidData "invalid Ymodem file size"
          | none => fail .invalidData "invalid Ymodem file size"
where
  /-- The number that `parse::<u64>` reads, which may have a plus sign. -/
  parseSize (digits : Bytes) : Option Nat :=
    let unsigned := if digits.head? = some 0x2b then digits.tail else digits
    if unsigned = [] ∨ unsigned.any (fun byte => byte < 0x30 || 0x39 < byte) = true then none
    else
      let value := unsigned.foldl (fun value byte => value * 10 + (byte.toNat - 0x30)) 0
      if value < 2 ^ 64 then some value else none

def numberedName (name : String) (index : Nat) : String :=
  match Ssh.splitFileAtDot name.toList with
  | (stem, some extension) =>
    String.ofList (stem ++ Ssh.numbered index ++ '.' :: extension)
  | (stem, none) => String.ofList (stem ++ Ssh.numbered index)

def firstFree (name : String) : (indices : List Nat) → Transfer String
  | [] => fail .alreadyExists "could not allocate a conflict-free filename"
  | index :: rest => do
    if (← Program.perform (.exists (numberedName name index))) = true then firstFree name rest
    else return numberedName name index

/-- A name that is free in the destination. -/
def conflictPath (name : String) : Transfer String := do
  if (← Program.perform (.exists name)) = true then
    firstFree name ((List.range 10000).map (· + 1))
  else return name

/-- The header block of the next file, of up to sixteen attempts. -/
def receiveHeader : (retries : Nat := maxRetries) → Transfer Bytes
  | 0 => abort .timedOut "Ymodem header was not received"
  | retries + 1 => do
    match ← attempt readByte with
    | .ok value =>
      if value = soh ∨ value = stx then
        match ← attempt (receiveBlock value .crc16) with
        | .ok (number, data) =>
          if number = 0 then return data
          else
            writeControl nak
            receiveHeader retries
        | .error _ =>
          writeControl nak
          receiveHeader retries
      else if value = can then
        match ← attempt readByte with
        | .ok second =>
          if second = can then fail .connectionAborted "transfer cancelled by peer"
          else
            writeControl crcRequest
            receiveHeader retries
        | .error _ =>
          writeControl crcRequest
          receiveHeader retries
      else
        writeControl crcRequest
        receiveHeader retries
    | .error _ =>
      writeControl crcRequest
      receiveHeader retries

def receiveFile (fuel number : Nat) (name : String) (size : Nat) : Transfer Nat := do
  let finalName ← conflictPath name
  cleaning (do
    Program.perform (.createTemporary number)
    writeControl ack
    writeControl crcRequest
    let received ← receiveDataBlocks fuel
      { output := number, expectedSize := some size, checksum := .crc16, ymodemEot := true }
    Program.perform (.syncTemporary number)
    Program.perform (.atomicReplace number finalName)
    return received) (Program.perform (.removeTemporary number))

/-- The files of a YMODEM download, with how many there were and how much was received. -/
def receiveFiles : (fuel files total : Nat) → Transfer Nat
  | 0, _, _ => Program.lift (.error .outOfFuel)
  | fuel + 1, files, total => do
    let header ← receiveHeader
    match ← parseYmodemHeader header with
    | none =>
      writeControl ack
      return total
    | some (name, size) =>
      if files + 1 > maxFiles then abort .invalidData "Ymodem batch contains too many files"
      else
        let received ← receiveFile fuel files name size
        receiveFiles fuel (files + 1) (total + received)

/-- A YMODEM download into a directory. -/
def ymodemReceive (fuel : Nat) (isDir : Bool) : Transfer Nat :=
  if isDir = false then fail .invalidInput "Ymodem destination must be an existing directory"
  else do
    writeControl crcRequest
    receiveFiles fuel 0 0

/-- The files of a YMODEM upload that are left, with how much was sent before. -/
def sendFiles : (total : Nat) → List Source → Transfer Nat
  | total, [] => do
    sendBlock 0 (List.replicate 128 0) .crc16
    return total
  | total, source :: rest => do
    validateUpload source
    let name ← localFileName source
    let header ← ymodemHeader name source.content.length
    sendBlock 0 header .crc16
    waitForCrc
    let sent ← sendDataBlocks source.content source.content.length true .crc16
    finishYmodemFileSend
    waitForCrc
    sendFiles (total + sent) rest

def ymodemSend (sources : List Source) : Transfer Nat :=
  if sources = [] ∨ sources.length > maxFiles then
    fail .invalidInput "Ymodem requires between 1 and 256 files"
  else do
    waitForCrc
    sendFiles 0 sources

end Modem

end CNShell
