import CNShell.Client.Models
import CNShell.Library.Text

/-! The pages in which the text of a remote file is read. -/

namespace CNShell

namespace Sftp

open Client (AppError AppResult)

/-- A regular file of text, and the pieces in which the server delivers it for a page at some offset. -/
structure RemoteText where
  text : String
  modifiedAt : Option Nat
  reads : Nat → List (List UInt8)
  filled : ∀ offset, ∀ piece ∈ reads offset, piece ≠ []
  whole : ∀ offset, (reads offset).flatten = utf8 text

structure TextFileRange where
  content : String
  size : Nat
  nextOffset : Option Nat
  sha256 : String
  modifiedAt : Option Nat
  deriving DecidableEq, Repr

/-- A sum that stays a number of 64 bits. -/
def saturatingAdd (first second : Nat) : Nat := min (first + second) (2 ^ 64 - 1)

/-- The text of some bytes, if they are UTF-8. -/
def fromUtf8 (bytes : List UInt8) : Option String := String.fromUTF8? ⟨bytes.toArray⟩

/-- What the loop over the pieces of a file captures of them. -/
def capture (offset maxBytes : Nat) : (position : Nat) → List (List UInt8) → List UInt8
  | _, [] => []
  | position, buffer :: rest =>
    let chunkEnd := position + buffer.length
    let requestedEnd := saturatingAdd offset maxBytes
    let captured :=
      if offset < chunkEnd ∧ position < requestedEnd then
        (buffer.take (min requestedEnd chunkEnd - position)).drop (offset - position)
      else []
    captured ++ capture offset maxBytes chunkEnd rest

section Reading

-- The digest of the bytes of a file, in hexadecimal digits.
variable (sha256 : List UInt8 → String)

def readTextRange (file : RemoteText) (offset maxBytes : Nat) : AppResult TextFileRange := do
  ensure (0 < maxBytes ∧ maxBytes ≤ 256 * 1024) (.validation "MCP 文本读取范围必须在 1 到 256 KiB 之间")
  let size := file.text.utf8ByteSize
  ensure (size ≤ 64 * 1024 * 1024) (.validation "MCP 文本读取只支持 64 MiB 以下文件")
  ensure (offset ≤ size) (.validation "MCP 文本读取偏移超过文件大小")
  let captured := capture offset maxBytes 0 (file.reads offset)
  let content ← required (fromUtf8 captured) (.validation "MCP 文件范围不是有效 UTF-8 文本")
  let next := saturatingAdd offset content.utf8ByteSize
  return {
    content := content
    size := size
    nextOffset := if next < size then some next else none
    sha256 := "sha256:" ++ sha256 (file.reads offset).flatten
    modifiedAt := file.modifiedAt
  }

/-- The pages from an offset on, each read at the offset that the page before it has returned. -/
inductive Follows (file : RemoteText) (maxBytes : Nat) : Nat → List TextFileRange → Prop
  | last {offset : Nat} {page : TextFileRange} (read : readTextRange sha256 file offset maxBytes = .ok page)
      (ends : page.nextOffset = none) : Follows file maxBytes offset [page]
  | more {offset next : Nat} {page : TextFileRange} {rest : List TextFileRange}
      (read : readTextRange sha256 file offset maxBytes = .ok page) (goes : page.nextOffset = some next)
      (others : Follows file maxBytes next rest) : Follows file maxBytes offset (page :: rest)

/-- From its start on, a file is read without an error, and its pages make up its text. -/
def Reconstructs (file : RemoteText) (maxBytes : Nat) : Prop :=
  ∃ pages, Follows sha256 file maxBytes 0 pages ∧ String.join (pages.map TextFileRange.content) = file.text

end Reading

/-- A number of bytes that a page may have. -/
structure PageSize where
  maxBytes : Nat
  accepted : 0 < maxBytes ∧ maxBytes ≤ 256 * 1024

def fileReadSize (maxBytes : Option Nat) : PageSize where
  maxBytes := min (max (maxBytes.getD (64 * 1024)) 1) (256 * 1024)
  accepted := by omega

/-- A place of a text between two characters, or at one of its ends. -/
def Boundary (text : String) (place : Nat) : Prop := String.Pos.Raw.IsValid text ⟨place⟩

section Captures

variable {offset maxBytes : Nat}

theorem capture_eq (small : offset + maxBytes < 2 ^ 64) (position : Nat) (pieces : List (List UInt8)) :
    capture offset maxBytes position pieces =
      (pieces.flatten.take (offset + maxBytes - position)).drop (offset - position) := by
  -- The induction moves the position behind each piece, as the loop does.
  induction pieces generalizing position with
  | nil => simp [capture]
  | cons buffer rest ih =>
    have requested : saturatingAdd offset maxBytes = offset + maxBytes := Nat.min_eq_left (by omega)
    rw [capture, ih, requested, List.flatten_cons, List.take_append, List.drop_append, List.length_take]
    have rest_same : (rest.flatten.take (offset + maxBytes - (position + buffer.length))).drop
          (offset - (position + buffer.length)) =
        (rest.flatten.take (offset + maxBytes - position - buffer.length)).drop
          (offset - position - min (offset + maxBytes - position) buffer.length) := by
      -- Either the range goes on behind the piece, or nothing of what follows belongs to it.
      rcases Nat.le_total (offset + maxBytes) (position + buffer.length) with within | beyond
      · have done : offset + maxBytes - (position + buffer.length) = 0 := by omega
        have done' : offset + maxBytes - position - buffer.length = 0 := by omega
        rw [done, done']
        simp
      · congr 1
        · omega
        · congr 1
          omega
    rw [rest_same]
    congr 1
    by_cases meets : offset < position + buffer.length ∧ position < offset + maxBytes
    · rw [if_pos meets]
      have part : min (offset + maxBytes) (position + buffer.length) - position =
          min (offset + maxBytes - position) buffer.length := by omega
      rw [part, ← List.take_eq_take_min]
    · rw [if_neg meets]
      -- Outside the range the piece has nothing to give.
      refine (List.drop_eq_nil_of_le ?_).symm
      rw [List.length_take]
      omega

theorem capture_reads (file : RemoteText) (small : offset + maxBytes < 2 ^ 64) :
    capture offset maxBytes 0 (file.reads offset) = ((utf8 file.text).drop offset).take maxBytes := by
  rw [capture_eq small, file.whole, List.drop_take]
  simp

end Captures

section Texts

variable {text content : String} {bytes : List UInt8}

theorem utf8_of_fromUtf8 (read : fromUtf8 bytes = some content) : utf8 content = bytes := by
  unfold fromUtf8 String.fromUTF8? at read
  split at read
  · obtain rfl := Option.some.inj read
    rfl
  · cases read

theorem fromUtf8_eq_some : (∃ content, fromUtf8 bytes = some content) ↔ ByteArray.IsValidUTF8 ⟨bytes.toArray⟩ := by
  unfold fromUtf8 String.fromUTF8?
  split <;> simp [*]

theorem fromUtf8_utf8 (text : String) : fromUtf8 (utf8 text) = some text := by
  have valid : ∃ content, fromUtf8 (utf8 text) = some content := fromUtf8_eq_some.mpr text.isValidUTF8
  obtain ⟨read, found⟩ := valid
  rw [found, utf8_inj (utf8_of_fromUtf8 found)]

theorem range_eq_extract (text : String) (offset count : Nat) :
    (⟨(((utf8 text).drop offset).take count).toArray⟩ : ByteArray) =
      text.toByteArray.extract offset (min (offset + count) text.utf8ByteSize) := by
  apply ByteArray.ext
  apply Array.toList_inj.mp
  rw [ByteArray.data_extract, Array.toList_extract, List.extract_eq_take_drop]
  show ((utf8 text).drop offset).take count = _
  -- Taking up to the end of the bytes is taking as many as there are.
  have most : min (offset + count) text.utf8ByteSize - offset = min count ((utf8 text).drop offset).length := by
    rw [List.length_drop, length_utf8]
    omega
  rw [most]
  exact List.take_eq_take_min

theorem range_valid_iff {offset count : Nat} (within : offset ≤ text.utf8ByteSize) :
    (∃ content, fromUtf8 (((utf8 text).drop offset).take count) = some content) ↔
      offset = min (offset + count) text.utf8ByteSize ∨
        (Boundary text offset ∧ Boundary text (min (offset + count) text.utf8ByteSize)) := by
  rw [fromUtf8_eq_some, range_eq_extract]
  have ends := String.Pos.Raw.isValidUTF8_extract_iff (s := text) ⟨offset⟩
    ⟨min (offset + count) text.utf8ByteSize⟩ (by simp [String.Pos.Raw.le_iff]; omega)
    (by simpa [String.Pos.Raw.le_iff] using Nat.min_le_right _ _)
  simpa [Boundary, String.Pos.Raw.ext_iff] using ends

theorem utf8_join (texts : List String) : utf8 (String.join texts) = texts.flatMap utf8 := by
  induction texts with
  | nil => rfl
  | cons first rest ih =>
    rw [String.join_cons, List.flatMap_cons, ← ih]
    simp [utf8]

end Texts

section Pages

variable {sha256 : List UInt8 → String} {file : RemoteText} {size : PageSize} {offset : Nat}

theorem readTextRange_iff (within : offset ≤ file.text.utf8ByteSize) {page : TextFileRange} :
    readTextRange sha256 file offset size.maxBytes = .ok page ↔
      file.text.utf8ByteSize ≤ 64 * 1024 * 1024 ∧
        ∃ content, fromUtf8 (((utf8 file.text).drop offset).take size.maxBytes) = some content ∧
          page = {
            content := content
            size := file.text.utf8ByteSize
            nextOffset := if offset + content.utf8ByteSize < file.text.utf8ByteSize then
              some (offset + content.utf8ByteSize) else none
            sha256 := "sha256:" ++ sha256 (utf8 file.text)
            modifiedAt := file.modifiedAt
          } := by
  have accepted := size.accepted
  simp only [readTextRange, bind_eq_ok, ensure_eq_ok, required_eq_ok, pure_eq_ok, exists_const]
  constructor
  · rintro ⟨-, small, -, content, read, rfl⟩
    rw [capture_reads file (by omega)] at read
    have bytes := congrArg List.length (utf8_of_fromUtf8 read)
    rw [length_utf8, List.length_take, List.length_drop, length_utf8] at bytes
    -- Offsets of a file that is small enough are far below the largest number.
    have next : saturatingAdd offset content.utf8ByteSize = offset + content.utf8ByteSize :=
      Nat.min_eq_left (by omega)
    refine ⟨small, content, read, ?_⟩
    rw [next, file.whole]
  · rintro ⟨small, content, read, rfl⟩
    have bytes := congrArg List.length (utf8_of_fromUtf8 read)
    rw [length_utf8, List.length_take, List.length_drop, length_utf8] at bytes
    have next : saturatingAdd offset content.utf8ByteSize = offset + content.utf8ByteSize :=
      Nat.min_eq_left (by omega)
    refine ⟨accepted, small, within, content, ?_, ?_⟩
    · rw [capture_reads file (by omega)]
      exact read
    · rw [next, file.whole]

theorem boundary_of_follows {pages : List TextFileRange} (follows : Follows sha256 file size.maxBytes offset pages)
    (start : Boundary file.text offset) (within : offset ≤ file.text.utf8ByteSize) (k : Nat)
    (inside : offset + k * size.maxBytes < file.text.utf8ByteSize) :
    Boundary file.text (offset + k * size.maxBytes) := by
  have positive := size.accepted.1
  -- The induction is on the pages; the page at the offset decides whether the next one starts well.
  induction follows generalizing k with
  | @last offset page read ends =>
    obtain ⟨-, content, valid, rfl⟩ := (readTextRange_iff within).mp read
    have bytes := congrArg List.length (utf8_of_fromUtf8 valid)
    rw [length_utf8, List.length_take, List.length_drop, length_utf8] at bytes
    simp only at ends
    split at ends
    · cases ends
    · -- The page reaches the end, so no later start is inside the text.
      cases k with
      | zero => simpa using start
      | succ k =>
        rw [Nat.succ_mul] at inside
        omega
  | @more offset next page rest read goes others ih =>
    obtain ⟨-, content, valid, rfl⟩ := (readTextRange_iff within).mp read
    have bytes := congrArg List.length (utf8_of_fromUtf8 valid)
    rw [length_utf8, List.length_take, List.length_drop, length_utf8] at bytes
    simp only at goes
    split at goes
    · obtain rfl := Option.some.inj goes
      have full : content.utf8ByteSize = size.maxBytes := by omega
      have stop : min (offset + size.maxBytes) file.text.utf8ByteSize = offset + size.maxBytes := by omega
      have ends := (range_valid_iff within).mp ⟨content, valid⟩
      rw [stop] at ends
      rw [full] at ih
      cases k with
      | zero => simpa using start
      | succ k =>
        rw [Nat.succ_mul] at inside ⊢
        have later := ih (ends.resolve_left (by omega)).2 (by omega) k (by omega)
        rwa [Nat.add_assoc, Nat.add_comm size.maxBytes] at later
    · cases goes

theorem follows_of_boundaries (small : file.text.utf8ByteSize ≤ 64 * 1024 * 1024)
    (starts : ∀ k, k * size.maxBytes < file.text.utf8ByteSize → Boundary file.text (k * size.maxBytes))
    (k : Nat) (within : k * size.maxBytes ≤ file.text.utf8ByteSize) :
    ∃ pages, Follows sha256 file size.maxBytes (k * size.maxBytes) pages ∧
      (pages.map TextFileRange.content).flatMap utf8 = (utf8 file.text).drop (k * size.maxBytes) := by
  have positive := size.accepted.1
  -- The induction is on what is left of the file.
  induction left : file.text.utf8ByteSize - k * size.maxBytes using Nat.strong_induction_on generalizing k with
  | _ left ih =>
    have next : (k + 1) * size.maxBytes = k * size.maxBytes + size.maxBytes := Nat.succ_mul ..
    have valid : ∃ content, fromUtf8 (((utf8 file.text).drop (k * size.maxBytes)).take size.maxBytes) =
        some content := by
      rw [range_valid_iff within]
      rcases Nat.lt_or_ge (k * size.maxBytes) file.text.utf8ByteSize with inside | outside
      · refine .inr ⟨starts k inside, ?_⟩
        rcases Nat.lt_or_ge (k * size.maxBytes + size.maxBytes) file.text.utf8ByteSize with more | done
        · rw [Nat.min_eq_left (Nat.le_of_lt more), ← next]
          exact starts (k + 1) (by omega)
        · rw [Nat.min_eq_right done]
          exact String.Pos.Raw.isValid_rawEndPos
      · exact .inl (by omega)
    obtain ⟨content, valid⟩ := valid
    have bytes := congrArg List.length (utf8_of_fromUtf8 valid)
    rw [length_utf8, List.length_take, List.length_drop, length_utf8] at bytes
    have read : readTextRange sha256 file (k * size.maxBytes) size.maxBytes = .ok _ :=
      (readTextRange_iff within).mpr ⟨small, content, valid, rfl⟩
    by_cases more : k * size.maxBytes + content.utf8ByteSize < file.text.utf8ByteSize
    · have full : k * size.maxBytes + content.utf8ByteSize = (k + 1) * size.maxBytes := by omega
      obtain ⟨rest, follows, whole⟩ := ih _ (by omega) (k + 1) (by omega) rfl
      refine ⟨_ :: rest, .more read (if_pos more) (full ▸ follows), ?_⟩
      rw [List.map_cons, List.flatMap_cons, whole, utf8_of_fromUtf8 valid, next]
      -- The page and what follows it are what was left.
      rw [← List.drop_drop, List.take_append_drop]
    · refine ⟨[_], .last read (if_neg more), ?_⟩
      rw [List.map_cons, List.map_nil, List.flatMap_cons, List.flatMap_nil, List.append_nil, utf8_of_fromUtf8 valid]
      refine List.take_of_length_le ?_
      rw [List.length_drop, length_utf8]
      omega

end Pages

namespace Demo

/-- A file of one letter of two bytes, delivered at once. -/
def letter : RemoteText where
  text := "é"
  modifiedAt := none
  reads _ := [utf8 "é"]
  filled offset piece member := by
    rw [List.mem_singleton.mp member]
    decide
  whole _ := by simp

end Demo

end Sftp

end CNShell
