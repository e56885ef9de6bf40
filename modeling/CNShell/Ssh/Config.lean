import CNShell.Client.Connections
import CNShell.Library.Checked
import CNShell.Library.Paths
import CNShell.Library.Words
import Mathlib.Data.Char
import Mathlib.Data.List.Lex

/-! The import of hosts from OpenSSH configuration files. -/

namespace CNShell

namespace Ssh

open Client (AppError AppResult parseU16)

/-- A Host section as it is read. -/
structure Block where
  aliases : List (List Char)
  values : List (List Char × List Char)
  source : List Char
  warnings : List String
  deriving DecidableEq, Repr

structure OpenSshHost where
  name : List Char
  hostname : List Char
  user : Option (List Char)
  port : Nat
  identityFile : Option (List Char)
  proxyJump : Option (List Char)
  source : List Char
  warnings : List String
  deriving DecidableEq, Repr

structure ConfigFiles where
  home : Option (List Char)
  canonicalize : List Char → Except String (List Char)
  /-- A canonical path is its own canonical path. -/
  canonicalized : ∀ path canonical, canonicalize path = .ok canonical → canonicalize canonical = .ok canonical
  pathExists : List Char → Bool
  readToString : List Char → Except String (List Char)
  /-- The names in a directory, in any order. -/
  readDir : List Char → Except String (List (Except String (List Char)))

/-- An input or output error. -/
def ioError (message : String) : AppError := .storage message

def isQuote (char : Char) : Bool := char == '"' || char == '\''

/-- A line up to the first `#` outside of quotes. -/
def stripComment : (quoted : Bool) → List Char → List Char
  | _, [] => []
  | quoted, char :: rest =>
    let quoted := if char = '"' then !quoted else quoted
    if char = '#' ∧ quoted = false then [] else char :: stripComment quoted rest

/-- The key and the value of a line: around the first `=`, or else around the first blank. -/
def splitDirective (line : List Char) : Option (List Char × List Char) :=
  if '=' ∈ line then
    some (trimMatches isWhitespace (line.takeWhile (· ≠ '=')),
      trimMatches isWhitespace (line.dropWhile (· ≠ '=')).tail)
  else if line.any isWhitespace = true then
    some (line.takeWhile fun char => !isWhitespace char,
      trimMatches isWhitespace (line.dropWhile fun char => !isWhitespace char))
  else none

/-- The key in lower case and the value of a line that has something besides a comment. -/
def lineDirective (raw : List Char) : Option (List Char × List Char) :=
  let line := trimMatches isWhitespace (stripComment false raw)
  if line = [] then none
  else (splitDirective line).map fun (key, value) => (key.map Char.toLower, value)

/-- The words of a value without the quotes around them. -/
def shellWords (value : List Char) : List (List Char) := ((words value).map (trimMatches isQuote)).filter (· ≠ [])

def joinPath (base rest : List Char) : List Char :=
  if rest.head? = some '/' then rest
  else if base = [] ∨ base.getLast? = some '/' then base ++ rest
  else base ++ '/' :: rest

/-- A value without quotes, and with the home directory for a `~` in front. -/
def expandHome (home : Option (List Char)) (value : List Char) : List Char :=
  let value := trimMatches isQuote (trimMatches isWhitespace value)
  match value, home with
  | '~' :: '/' :: rest, some home => joinPath home rest
  | _, _ => value

/-- The directory of an absolute path. -/
def parentOf (path : List Char) : Option (List Char) :=
  if components path = [] then none else some (absolute (components path).dropLast)

def lastName (path : List Char) : List Char := ((components path).getLast?.filter (· ≠ ['.', '.'])).getD []

/-- The state of the search for a match: the last star, and where in the value to try again after it. -/
structure WildcardState where
  patternIndex : Nat
  valueIndex : Nat
  star : Option Nat
  retry : Nat
  behind : retry ≤ valueIndex
  before : ∀ index ∈ star, index < patternIndex

/-- The search for a match from a state on. -/
def wildcardFrom (pattern value : List UInt8) (state : WildcardState) : Bool :=
  if below : state.valueIndex < value.length then
    if pattern[state.patternIndex]? = some '?'.toUInt8 ∨
        pattern[state.patternIndex]? = some value[state.valueIndex] then
      wildcardFrom pattern value ⟨state.patternIndex + 1, state.valueIndex + 1, state.star, state.retry,
        Nat.le_succ_of_le state.behind, fun index member => Nat.lt_succ_of_lt (state.before index member)⟩
    else if there : pattern[state.patternIndex]? = some '*'.toUInt8 then
      wildcardFrom pattern value ⟨state.patternIndex + 1, state.valueIndex, some state.patternIndex,
        state.valueIndex, Nat.le_refl _, fun index member => by
          obtain rfl := Option.mem_some.mp member
          exact Nat.lt_succ_self _⟩
    else
      match known : state.star with
      | some star =>
        wildcardFrom pattern value ⟨star + 1, state.retry + 1, some star, state.retry + 1, Nat.le_refl _,
          fun index member => by
            obtain rfl := Option.mem_some.mp member
            exact Nat.lt_succ_self _⟩
      | none => false
  else (pattern.drop state.patternIndex).all (· == '*'.toUInt8)
termination_by (pattern.length - state.star.elim 0 (· + 1), value.length - state.retry,
  value.length - state.valueIndex)
decreasing_by
  · exact Prod.Lex.right _ (Prod.Lex.right _ (by omega))
  · -- A star is found behind the last one.
    obtain ⟨inside, -⟩ := List.getElem?_eq_some_iff.mp there
    refine Prod.Lex.left _ _ ?_
    cases known : state.star with
    | none =>
      rw [Option.elim_none, Option.elim_some]
      omega
    | some star =>
      have later := state.before star known
      simp only [Option.elim_some]
      omega
  · have behind := state.behind
    rw [known]
    exact Prod.Lex.right _ (Prod.Lex.left _ _ (by omega))

/-- Whether a name matches a pattern with `?` and `*`. -/
def wildcardMatch (pattern value : List Char) : Bool :=
  wildcardFrom (utf8 (String.ofList pattern)) (utf8 (String.ofList value))
    ⟨0, 0, none, 0, Nat.le_refl 0, fun _ member => by cases member⟩

/-- The order in which the matches of a pattern are read. -/
def pathLe (first second : List Char) : Bool := decide (first ≤ second)

def expandInclude (files : ConfigFiles) (config root pattern : List Char) : AppResult (List (List Char)) :=
  let pattern := expandHome files.home pattern
  let path :=
    if pattern.head? = some '/' then pattern else joinPath ((parentOf config).getD root) pattern
  if '*' ∈ path ∨ '?' ∈ path then do
    let parent := (parentOf path).getD root
    let entries ← (files.readDir parent).mapError ioError
    let names ← entries.mapM fun entry => entry.mapError ioError
    return ((names.filter (wildcardMatch (lastName path))).map (joinPath parent)).mergeSort pathLe
  else .ok (if files.pathExists path = true then [path] else [])

/-- The directives of a host that are imported. -/
def importedKeys : List (List Char) :=
  ["hostname".toList, "user".toList, "port".toList, "identityfile".toList, "proxyjump".toList]

/-- Why a file is not parsed: an error, or the recursion is cut off. -/
inductive Halt
  | error (error : AppError)
  | tooDeep
  deriving DecidableEq, Repr

/-- What the parsing of a file reads and changes: the files that are being parsed, and the blocks so far. -/
structure ParseState where
  visited : List (List Char)
  blocks : List Block
  deriving DecidableEq, Repr

def insertValue (home : Option (List Char)) (key value : List Char) (block : Block) : Block :=
  if (block.values.lookup key).isSome = true then block
  else { block with values := block.values ++ [(key, expandHome home value)] }

def pushBlock (state : ParseState) (current : Option Block) : ParseState :=
  { state with blocks := state.blocks ++ current.toList }

section Parsing

-- The parsing of an included file.
variable (files : ConfigFiles) (root path : List Char) (parseFile : List Char → ParseState → Except Halt ParseState)

def parseLine : ParseState × Option Block → List Char → Except Halt (ParseState × Option Block)
  | (state, current), raw =>
    match lineDirective raw with
    | none => .ok (state, current)
    | some (lower, value) =>
      if lower = "include".toList then do
        let state ← (shellWords value).foldlM (fun state pattern => do
          let includes ← (expandInclude files path root pattern).mapError .error
          includes.foldlM (fun state included => parseFile included state) state) state
        return (state, current)
      else if lower = "host".toList then
        .ok (pushBlock state current, some ⟨shellWords value, [], path, []⟩)
      else if lower ∈ importedKeys then
        .ok (state, current.map (insertValue files.home lower value))
      else .ok (state, current)

end Parsing

def includeCycle (path : List Char) : AppError := .validation ("OpenSSH Include 形成循环：" ++ String.ofList path)

/-- One file with all that it includes, up to a depth. -/
def parseFile (files : ConfigFiles) (root : List Char) : Nat → List Char → ParseState → Except Halt ParseState
  | 0, _, _ => .error .tooDeep
  | depth + 1, path, state => do
    let path ← (files.canonicalize path).mapError fun message => .error (ioError message)
    let canonicalRoot := (files.canonicalize root).toOption.getD root
    ensure (components canonicalRoot <+: components path) (.error (.validation "Include 路径越出 ~/.ssh"))
    ensure (path ∉ state.visited) (.error (includeCycle path))
    let text ← (files.readToString path).mapError fun message => .error (ioError message)
    ensure ((String.ofList text).utf8ByteSize ≤ 2 * 1024 * 1024)
      (.error (.validation "单个 SSH 配置文件不能超过 2 MB"))
    let (state, current) ← (lines text).foldlM
      (parseLine files canonicalRoot path (parseFile files canonicalRoot depth))
      (⟨path :: state.visited, state.blocks⟩, none)
    let state := pushBlock state current
    return { state with visited := state.visited.erase path }

def resolveBlock (block : Block) : List OpenSshHost :=
  (block.aliases.filter fun name => !name.any fun char => ['*', '?', '!'].contains char).map fun name =>
    let port := (((block.values.lookup "port".toList).bind parseU16).getD 22)
    { name := name
      hostname := (block.values.lookup "hostname".toList).getD name
      user := block.values.lookup "user".toList
      port := port
      identityFile := block.values.lookup "identityfile".toList
      proxyJump := block.values.lookup "proxyjump".toList
      source := block.source
      warnings := block.warnings ++
        if port = 22 ∧ (block.values.lookup "port".toList).any (fun value => value ≠ ['2', '2']) = true then
          ["端口无效，已使用 22"] else [] }

def resolveBlocks (blocks : List Block) : List OpenSshHost := blocks.flatMap resolveBlock

def importConfig (files : ConfigFiles) (depth : Nat) (path : List Char) : Except Halt (List OpenSshHost) := do
  let home ← required files.home (.error (.unavailable "无法确定用户主目录"))
  let root := joinPath home ".ssh".toList
  let root := (files.canonicalize root).toOption.getD root
  let canonical ← (files.canonicalize path).mapError fun message => .error (ioError message)
  ensure (components root <+: components canonical)
    (.error (.validation "OpenSSH 配置及 Include 必须位于 ~/.ssh 内"))
  let state ← parseFile files root depth canonical ⟨[], []⟩
  return resolveBlocks state.blocks

end Ssh

end CNShell
