import CNShell.Library.Json
import CNShell.Library.Words
import CNShell.Mcp.RemotePaths
import CNShell.Sftp.Listing
import CNShell.Sftp.TextPages

/-! The pages in which an MCP client gets a remote directory, and the cursors that lead from one to the next. -/

namespace CNShell

namespace Mcp

open Client (AppError AppResult)
open Sftp (RemoteFile RemoteKind saturatingAdd)

/-- How many bytes the response with a page may take. -/
def maxMcpDirectoryResponseBytes : Nat := 512 * 1024

def mcpMaxDirectoryEntries : Nat := 100000

/-- The text of what an entry is. -/
def remoteKind : RemoteKind → String
  | .directory => "directory"
  | .symlink => "symlink"
  | .file => "file"
  | .other => "other"

/-- A JSON number, or `null`. -/
def nullableNumber (value : Option Nat) : List UInt8 := value.elim (utf8 "null") Json.number

def fileJson (file : RemoteFile) : List UInt8 :=
  Json.object [("group", nullableNumber file.group), ("kind", Json.string (remoteKind file.kind)),
    ("modifiedAt", nullableNumber file.modifiedAt), ("name", Json.string file.name),
    ("owner", nullableNumber file.owner), ("path", Json.string file.path),
    ("permissions", Json.string file.permissions), ("size", Json.number file.size)]

structure FileListResponse where
  requestId : String
  path : String
  entries : List RemoteFile
  nextCursor : Option String
  deriving DecidableEq, Repr

def FileListResponse.json (response : FileListResponse) : List UInt8 :=
  Json.object [("entries", Json.array (response.entries.map fileJson)),
    ("nextCursor", Json.nullable response.nextCursor), ("path", Json.string response.path),
    ("requestId", Json.string response.requestId)]

/-- The cursor of a place in a directory. -/
def encodeCursor (offset : Nat) : String := "offset:" ++ toString offset

/-- The place a cursor stands for. -/
def decodeCursor : Option String → AppResult Nat
  | none => .ok 0
  | some value =>
    required (((stripPrefix "offset:" value).bind parseU64).filter fun value => value ≤ 1000000)
      (.validation "MCP 分页游标无效")

def directoryResponse (requestId path : String) (entries : List RemoteFile) (offset total : Nat) : FileListResponse :=
  let nextOffset := saturatingAdd offset entries.length
  ⟨requestId, path, entries, if nextOffset < total then some (encodeCursor nextOffset) else none⟩

/-- The response with as many of some entries as it can take. -/
def boundedFileListResponse (requestId path : String) (entries : List RemoteFile) (offset total : Nat) :
    AppResult FileListResponse :=
  let response := directoryResponse requestId path entries offset total
  if response.json.length ≤ maxMcpDirectoryResponseBytes then .ok response
  else if entries.length ≤ 1 then
    .error (.validation "MCP 目录项响应超过 512 KiB，请缩小目录或使用更短的文件名")
  else boundedFileListResponse requestId path entries.dropLast offset total
termination_by entries.length
decreasing_by
  rw [List.length_dropLast]
  omega

/-- The arguments of the tool. -/
structure FileListArgs where
  sessionId : String
  path : String
  cursor : Option String
  limit : Option Nat
  showHidden : Bool
  deriving DecidableEq, Repr

/--
What the server of a session has in a directory that the client may list: its first entries and whether
there are more.
-/
abbrev Directories := (sessionId path : String) → AppResult (List RemoteFile × Bool)

section Tool

-- The lower case of a name, which the order of the entries goes by.
variable (toLowercase : String → String) (directories : Directories)

/-- The entries of a directory that is not too large, in order. -/
def listBounded (sessionId path : String) (showHidden : Bool) : AppResult (List RemoteFile) := do
  let (rawEntries, more) ← directories sessionId path
  ensure (¬(more = true ∨ mcpMaxDirectoryEntries < rawEntries.length))
    (.validation "MCP 远端目录超过 100,000 项的首版限制，请缩小目标目录")
  return Sftp.list toLowercase showHidden rawEntries

/-- The tool `cnshell_file_list`. -/
def fileList (requestId : String) (args : FileListArgs) : AppResult FileListResponse := do
  let path ← normalizeRemotePath args.path
  let offset ← decodeCursor args.cursor
  let limit := max 1 (min (args.limit.getD 100) 500)
  let entries ← listBounded toLowercase directories args.sessionId path args.showHidden
  boundedFileListResponse requestId path ((entries.drop offset).take limit) offset entries.length

structure PageRequest where
  requestId : String
  limit : Option Nat
  /-- What the broker accepts of the id of a request. -/
  accepted : requestId ≠ "" ∧ requestId.utf8ByteSize ≤ 128

/-- The pages that some requests get, one after the other up to the last page, and the cursor that is left. -/
def follow (sessionId path : String) (showHidden : Bool) : List PageRequest → Option String →
    AppResult (List FileListResponse × Option String)
  | [], cursor => .ok ([], cursor)
  | request :: requests, cursor => do
    let page ← fileList toLowercase directories request.requestId
      ⟨sessionId, path, cursor, request.limit, showHidden⟩
    match page.nextCursor with
    | none => return ([page], none)
    | some next => do
      let (pages, left) ← follow sessionId path showHidden requests (some next)
      return (page :: pages, left)

end Tool

section Sizes

variable {requestId path : String} {entries : List RemoteFile} {offset total : Nat}

theorem length_escape_le (byte : UInt8) : (Json.escape byte).length ≤ 6 := by
  have short : ∀ text ∈ ["\\b", "\\t", "\\n", "\\f", "\\r"], (utf8 text).length ≤ 6 := by decide
  have unicode : (utf8 "\\u00").length = 4 := by decide
  unfold Json.escape
  repeat' split
  all_goals first
    | exact short _ (by simp)
    | simp [unicode, -length_utf8]

theorem length_string_le (value : String) : (Json.string value).length ≤ 6 * value.utf8ByteSize + 2 := by
  have inside : (Json.escaped value).length ≤ 6 * value.utf8ByteSize := by
    rw [Json.escaped, ← length_utf8]
    induction utf8 value with
    | nil => simp
    | cons byte rest ih =>
      have one := length_escape_le byte
      rw [List.flatMap_cons, List.length_append, List.length_cons]
      omega
  rw [Json.length_string]
  omega

theorem empty_fits (short : requestId.utf8ByteSize ≤ 128) (bounded : path.utf8ByteSize ≤ 32 * 1024) :
    (directoryResponse requestId path [] 0 0).json.length ≤ maxMcpDirectoryResponseBytes := by
  have one := length_string_le requestId
  have two := length_string_le path
  have names : (Json.string "entries").length = 9 ∧ (Json.string "nextCursor").length = 12 ∧
      (Json.string "path").length = 6 ∧ (Json.string "requestId").length = 11 := by decide
  obtain ⟨entries, cursor, place, id⟩ := names
  have bytes : (utf8 "null").length = 4 := by decide
  simp only [directoryResponse, FileListResponse.json, Json.object, List.map_cons, List.map_nil, Json.commas,
    List.length_cons, List.length_append, List.length_nil, Json.length_array_nil, Json.nullable,
    entries, cursor, place, id, maxMcpDirectoryResponseBytes]
  simp only [saturatingAdd, Nat.zero_add, Nat.zero_min, Nat.lt_irrefl, if_false, Option.elim_none, bytes]
  omega

theorem boundedFileListResponse_spec (filled : entries ≠ [])
    (fits : (directoryResponse requestId path (entries.take 1) offset total).json.length ≤
      maxMcpDirectoryResponseBytes) :
    ∃ kept, 0 < kept ∧ kept ≤ entries.length ∧
      boundedFileListResponse requestId path entries offset total =
        .ok (directoryResponse requestId path (entries.take kept) offset total) ∧
      (directoryResponse requestId path (entries.take kept) offset total).json.length ≤
        maxMcpDirectoryResponseBytes := by
  -- The induction follows the loop, which drops the last entry of what is too long.
  induction length : entries.length using Nat.strong_induction_on generalizing entries with
  | _ length ih =>
    have positive := List.length_pos_of_ne_nil filled
    rw [boundedFileListResponse]
    by_cases small : (directoryResponse requestId path entries offset total).json.length ≤
        maxMcpDirectoryResponseBytes
    · refine ⟨entries.length, by omega, by omega, ?_, ?_⟩ <;> rw [List.take_of_length_le (by omega)]
      · rw [if_pos small]
      · exact small
    · by_cases one : entries.length ≤ 1
      · rw [List.take_of_length_le one] at fits
        exact absurd fits small
      · rw [if_neg small, if_neg one]
        have shorter : entries.dropLast.length = entries.length - 1 := List.length_dropLast
        have taken : ∀ kept, kept ≤ entries.length - 1 → entries.dropLast.take kept = entries.take kept := by
          intro kept below
          rw [List.dropLast_eq_take, List.take_take, Nat.min_eq_left below]
        obtain ⟨kept, some, most, done, fitting⟩ := @ih _ (by omega) entries.dropLast
          (List.ne_nil_of_length_pos (by omega)) (by rw [taken 1 (by omega)]; exact fits) rfl
        rw [shorter] at most
        rw [taken kept most] at done fitting
        exact ⟨kept, some, by omega, done, fitting⟩

end Sizes

section Pages

variable {requestId path cursor : String} {entries : List RemoteFile} {offset total limit : Nat}

theorem decodeCursor_encodeCursor (small : offset ≤ 1000000) :
    decodeCursor (some (encodeCursor offset)) = .ok offset := by
  have kept : (some offset).filter (fun value => decide (value ≤ 1000000)) = some offset :=
    Option.filter_eq_some_iff.mpr ⟨rfl, decide_eq_true small⟩
  rw [decodeCursor, encodeCursor, stripPrefix_append, Option.bind_some,
    parseU64_toString (lt_of_le_of_lt small (by decide)), kept, required_some]

/-- Every entry fits alone into a response with an id, at its place. -/
def Fits (requestId path : String) (entries : List RemoteFile) : Prop :=
  ∀ offset (below : offset < entries.length),
    (directoryResponse requestId path [entries[offset]] offset entries.length).json.length ≤
      maxMcpDirectoryResponseBytes

/-- A page from a place on: some entries from there, and the cursor behind them where there are more. -/
structure PageAt (entries : List RemoteFile) (offset kept : Nat) (page : FileListResponse) : Prop where
  part : page.entries = (entries.drop offset).take kept
  within : offset + kept ≤ entries.length
  progress : 0 < kept ∨ entries = []
  next : page.nextCursor = if offset + kept < entries.length then some (encodeCursor (offset + kept)) else none
  bounded : page.json.length ≤ maxMcpDirectoryResponseBytes

theorem exists_pageAt (fits : Fits requestId path entries) (short : requestId.utf8ByteSize ≤ 128)
    (normal : path.utf8ByteSize ≤ 32 * 1024) (few : entries.length ≤ mcpMaxDirectoryEntries)
    (positive : 0 < limit) (start : offset < entries.length ∨ offset = 0) :
    ∃ page kept, boundedFileListResponse requestId path ((entries.drop offset).take limit) offset
      entries.length = .ok page ∧ PageAt entries offset kept page := by
  have sum : ∀ kept, offset + kept ≤ entries.length → saturatingAdd offset kept = offset + kept := by
    intro kept within
    have few' : entries.length ≤ 100000 := few
    exact Nat.min_eq_left (by omega)
  rcases Nat.lt_or_ge offset entries.length with below | above
  · have first : ((entries.drop offset).take limit).take 1 = [entries[offset]] := by
      rw [List.take_take, Nat.min_eq_left (by omega), List.drop_eq_getElem_cons below]
      rfl
    have filled : (entries.drop offset).take limit ≠ [] := fun empty => by simp [empty] at first
    obtain ⟨kept, some, most, done, fitting⟩ := boundedFileListResponse_spec filled
      (by rw [first]; exact fits offset below)
    rw [List.length_take, List.length_drop] at most
    rw [List.take_take, Nat.min_eq_left (by omega)] at done fitting
    have length : ((entries.drop offset).take kept).length = kept := by
      rw [List.length_take, List.length_drop]
      omega
    refine ⟨_, kept, done, rfl, by omega, .inl some, ?_, fitting⟩
    simp only [directoryResponse, length, sum kept (by omega)]
  · have empty : entries = [] := List.eq_nil_of_length_eq_zero (by omega)
    subst empty
    obtain rfl : offset = 0 := start.resolve_left (by simp)
    have done : (directoryResponse requestId path [] 0 0).json.length ≤ maxMcpDirectoryResponseBytes :=
      empty_fits short normal
    refine ⟨directoryResponse requestId path [] 0 0, 0, ?_, rfl, le_refl _, .inr rfl, rfl, done⟩
    rw [boundedFileListResponse]
    simp [done]

theorem few_of_listBounded {toLowercase : String → String} {directories : Directories} {sessionId : String}
    {showHidden : Bool} (listed : listBounded toLowercase directories sessionId path showHidden = .ok entries) :
    entries.length ≤ mcpMaxDirectoryEntries := by
  obtain ⟨⟨rawEntries, more⟩, -, listed⟩ := bind_eq_ok.mp listed
  obtain ⟨_, few, listed⟩ := bind_eq_ok.mp listed
  obtain rfl := pure_eq_ok.mp listed
  rw [Sftp.list, List.length_mergeSort]
  have shown := List.length_filter_le (fun entry : RemoteFile =>
    showHidden || decide (entry.name.toList.head? ≠ some '.')) rawEntries
  have bound := ensure_eq_ok.mp few
  simp only [not_or, not_lt] at bound
  exact shown.trans bound.2

end Pages

section Following

variable {toLowercase : String → String} {directories : Directories}
variable {sessionId path normal : String} {showHidden : Bool} {entries : List RemoteFile}

/-- What the pages from a place on make up, when the requests for them run out at some cursor. -/
structure FollowedFrom (entries : List RemoteFile) (offset : Nat) (requests : List PageRequest)
    (pages : List FileListResponse) (left : Option String) : Prop where
  bounded : ∀ page ∈ pages, page.json.length ≤ maxMcpDirectoryResponseBytes
  inOrder : pages.flatMap FileListResponse.entries <+: entries.drop offset
  whole : requests ≠ [] → left = none → pages.flatMap FileListResponse.entries = entries.drop offset
  ends : requests ≠ [] → entries.length - offset ≤ requests.length → left = none

/-- From wherever a cursor leads, the pages go on from there. -/
theorem followedFrom (accepted : normalizeRemotePath path = .ok normal)
    (listed : listBounded toLowercase directories sessionId normal showHidden = .ok entries)
    {requests : List PageRequest} (fits : ∀ request ∈ requests, Fits request.requestId normal entries)
    {offset : Nat} {cursor : Option String} (decoded : decodeCursor cursor = .ok offset)
    (start : offset < entries.length ∨ offset = 0) :
    ∃ pages left, follow toLowercase directories sessionId path showHidden requests cursor = .ok (pages, left) ∧
      FollowedFrom entries offset requests pages left := by
  have size : normal.utf8ByteSize ≤ 32 * 1024 :=
    (normalizeRemotePath_ok.mp (normalizeRemotePath_idempotent accepted)).1.1
  have few := few_of_listBounded listed
  -- The induction is on the requests; each page hands the place behind it to the next request.
  induction requests generalizing offset cursor with
  | nil => exact ⟨[], cursor, rfl, by simp, List.nil_prefix, by simp, by simp⟩
  | cons request requests ih =>
    have others : ∀ request ∈ requests, Fits request.requestId normal entries := fun request member =>
      fits request (List.mem_cons_of_mem _ member)
    obtain ⟨page, kept, done, at_offset⟩ := exists_pageAt (fits request List.mem_cons_self) request.accepted.2 size
      few (show 0 < max 1 (min (request.limit.getD 100) 500) by omega) start
    have got : fileList toLowercase directories request.requestId
        ⟨sessionId, path, cursor, request.limit, showHidden⟩ = .ok page := by
      simp only [fileList, accepted, decoded, listed, ok_bind]
      exact done
    obtain ⟨part, within, progress, next, bounded⟩ := at_offset
    by_cases more : offset + kept < entries.length
    · rw [if_pos more] at next
      have few' : entries.length ≤ 100000 := few
      obtain ⟨pages, left, followed, rest⟩ :=
        ih others (decodeCursor_encodeCursor (by omega)) (.inl more)
      refine ⟨page :: pages, left, ?_, ?_⟩
      · simp only [follow, got, ok_bind, next, followed]
        rfl
      · have split : entries.drop offset = page.entries ++ entries.drop (offset + kept) := by
          rw [part, ← List.drop_drop, List.take_append_drop]
        have filled : entries ≠ [] := List.ne_nil_of_length_pos (by omega)
        refine ⟨?_, ?_, fun _ done => ?_, fun _ enough => ?_⟩
        · simpa using ⟨bounded, rest.bounded⟩
        · rw [List.flatMap_cons, split]
          exact (List.prefix_append_right_inj _).mpr rest.inOrder
        · rw [List.flatMap_cons, split]
          rcases eq_or_ne requests [] with rfl | again
          · -- Without another request the cursor would be left.
            obtain ⟨-, rfl⟩ := Prod.mk.inj (Except.ok.inj followed)
            cases done
          · rw [rest.whole again done]
        · rw [List.length_cons] at enough
          have progress' := progress.resolve_right filled
          refine rest.ends ?_ (by omega)
          rintro rfl
          simp only [List.length_nil] at enough
          omega
    · rw [if_neg more] at next
      refine ⟨[page], none, ?_, ?_⟩
      · simp only [follow, got, ok_bind, next]
        rfl
      · have whole : page.entries = entries.drop offset := by
          rw [part, List.take_of_length_le]
          rw [List.length_drop]
          omega
        refine ⟨by simpa using bounded, ?_, fun _ _ => ?_, fun _ _ => rfl⟩
        · rw [List.flatMap_singleton, whole]
        · rw [List.flatMap_singleton, whole]

/--
A client that follows the cursors from the first page on gets the whole directory, each entry once and in order.

It is done at the latest after as many requests as the directory has entries, and no response is too long.
-/
theorem paging_lossless (accepted : normalizeRemotePath path = .ok normal)
    (listed : listBounded toLowercase directories sessionId normal showHidden = .ok entries)
    {requests : List PageRequest} (asked : requests ≠ [])
    (fits : ∀ request ∈ requests, Fits request.requestId normal entries) :
    ∃ pages left, follow toLowercase directories sessionId path showHidden requests none = .ok (pages, left) ∧
      (∀ page ∈ pages, page.json.length ≤ maxMcpDirectoryResponseBytes) ∧
      pages.flatMap FileListResponse.entries <+: entries ∧
      (left = none → pages.flatMap FileListResponse.entries = entries) ∧
      (entries.length ≤ requests.length → left = none) := by
  obtain ⟨pages, left, followed, bounded, inOrder, whole, ends⟩ := @followedFrom _ _ _ _ _ _ _ accepted listed requests
    fits 0 none rfl (.inr rfl)
  exact ⟨pages, left, followed, bounded, inOrder, whole asked, ends asked⟩

end Following

namespace Demo

def twoFiles : List RemoteFile :=
  [⟨"a", "/tmp/a", .file, 1, some 1700000000, "-rw-------", some 0, none⟩,
    ⟨"b\n", "/tmp/b\n", .file, 2, none, "-rw-r--r--", none, none⟩]

def twoRequests : List PageRequest := [⟨"first", some 1, by decide⟩, ⟨"second", none, by decide⟩]

set_option maxRecDepth 4000 in
/-- The two files are got with two requests. -/
theorem paging_lossless_two : ∃ pages left,
    follow id (fun _ _ => .ok (twoFiles, false)) "session" "//tmp/" true twoRequests none = .ok (pages, left) ∧
      left = none ∧ pages.flatMap FileListResponse.entries = twoFiles := by
  have sorted : Sftp.list id true twoFiles = twoFiles := List.mergeSort_of_pairwise (by decide)
  have listed : listBounded id (fun _ _ => .ok (twoFiles, false)) "session" "/tmp" true = .ok twoFiles := by
    have few : ¬(false = true ∨ mcpMaxDirectoryEntries < twoFiles.length) := by decide
    simp only [listBounded, ok_bind, ensure_of few, sorted]
    rfl
  have fits : ∀ request ∈ twoRequests, Fits request.requestId "/tmp" twoFiles := by
    unfold Fits
    decide
  have accepted : normalizeRemotePath "//tmp/" = .ok "/tmp" := by decide
  obtain ⟨pages, left, followed, -, -, whole, ends⟩ := paging_lossless accepted listed (by decide) fits
  exact ⟨pages, left, followed, ends (by decide), whole (ends (by decide))⟩

end Demo

end Mcp

end CNShell
