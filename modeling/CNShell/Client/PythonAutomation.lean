import CNShell.Client.Schedules
import CNShell.Library.Paths
import Mathlib

/-! The restricted Python of automations: what a script compiles to, and what its manifest allows. -/

namespace CNShell

namespace Client

namespace Python

/-! The syntax trees of the parser; what the compiler refuses is not told apart. -/

inductive PyConstant
  | str (value : String)
  | int (value : Nat)
  | other

inductive PyExpr
  | constant (value : PyConstant)
  | name (id : String)
  | attribute (value : PyExpr) (attr : String)
  | call (func : PyExpr) (args : List PyExpr) (keywords : List (Option String × PyExpr))
  | other

inductive PyStmt
  | expr (value : PyExpr)
  | other

structure PythonAutomationManifest where
  connectionId : String
  permissions : List String
  allowedLocalPaths : List String

structure PythonAutomationRequest where
  id : String
  name : String
  source : String
  manifest : PythonAutomationManifest

structure PythonAutomationPreview where
  scriptHash : String
  targetConnectionId : String
  permissions : List String
  steps : List AutomationStep
  warnings : List String
  deriving DecidableEq

/-- The parser, the hash, the file system and the random identifiers that the compiler uses. -/
structure PythonPlatform where
  parse : String → Except String (List PyStmt)
  sha256 : String → String
  isSymlink : String → Bool
  newId : Nat → String
  nonempty : ∀ k, newId k ≠ ""
  distinct : ∀ j k, newId j = newId k → j = k

def knownPermissions : List String := ["executeCommand", "readResults", "transferUpload", "transferDownload"]

def validateRequest (request : PythonAutomationRequest) : AppResult Unit := do
  ensure (¬(trim request.id = "" ∨ trim request.name = "" ∨ trim request.manifest.connectionId = ""))
    (.validation "脚本名称和目标连接不能为空")
  ensure (¬(request.source = "" ∨ 64 * 1024 < request.source.utf8ByteSize)) (.validation "Python 脚本必须为 1～64 KB")
  ensure (¬(4 < request.manifest.permissions.length ∨ 32 < request.manifest.allowedLocalPaths.length))
    (.validation "权限或本地路径授权数量超限")
  let _ ← request.manifest.permissions.foldlM (fun seen permission => do
    ensure (permission ∈ knownPermissions ∧ permission ∉ seen) (.validation ("未知或重复权限：" ++ permission))
    return permission :: seen) ([] : List String)

def methodName (func : PyExpr) : AppResult String :=
  match func with
  | .attribute (.name root) method => do
    ensure (root = "cnshell") (.validation "只允许调用 cnshell.*")
    ensure (method ∈ ["command", "wait_for", "require", "upload", "download"])
      (.validation ("不支持的 cnshell API：" ++ method))
    return method
  | _ => .error (.validation "只允许调用 cnshell.*")

def validateKeywords (method : String) (keywords : List (Option String × PyExpr)) : AppResult Unit := do
  let allowed := if method = "require" then ["timeout", "action"] else ["timeout"]
  let _ ← keywords.foldlM (fun seen keyword => do
    let name ← required keyword.1 (.validation "不允许 **kwargs")
    ensure (name ∈ allowed ∧ name ∉ seen) (.validation ("不支持或重复的参数：" ++ name))
    return name :: seen) ([] : List String)

def constantString (expression : PyExpr) (label : String) : AppResult String :=
  match expression with
  | .constant (.str value) => .ok value
  | .constant _ => .error (.validation (label ++ " 必须是字符串字面量"))
  | _ => .error (.validation (label ++ " 必须是字面量"))

def stringArg (args : List PyExpr) (index : Nat) (label : String) : AppResult String := do
  constantString (← required args[index]? (.validation ("缺少 " ++ label))) label

section

variable {Zone Cron : Type} (calendar : Calendar Zone Cron) (platform : PythonPlatform)

def patternArg (args : List PyExpr) (index : Nat) : AppResult String := do
  let pattern ← stringArg args index "正则表达式"
  ensure (¬(pattern = "" ∨ 512 < pattern.utf8ByteSize)) (.validation "正则表达式必须为 1～512 字符")
  (calendar.parseRegex pattern).mapError fun error => .validation ("正则表达式无效：" ++ error)
  return pattern

def keyword (keywords : List (Option String × PyExpr)) (name : String) : Option PyExpr :=
  (keywords.find? (·.1 = some name)).map Prod.snd

def keywordString (keywords : List (Option String × PyExpr)) (name : String) : AppResult (Option String) :=
  match keyword keywords name with
  | none => .ok none
  | some value => some <$> constantString value name

def keywordU64 (keywords : List (Option String × PyExpr)) (name : String) : AppResult (Option Nat) :=
  match keyword keywords name with
  | none => .ok none
  | some (.constant (.int value)) => do
    ensure (value < 2 ^ 64) (.validation (name ++ " 必须是正整数"))
    return some value
  | some (.constant _) => .error (.validation (name ++ " 必须是整数"))
  | some _ => .error (.validation (name ++ " 必须是字面量"))

def requirePermission (permissions : List String) (permission : String) : AppResult Unit :=
  ensure (permission ∈ permissions) (.validation ("manifest 缺少权限：" ++ permission))

def expectArgCount (args : List PyExpr) (expected : Nat) : AppResult Unit :=
  ensure (args.length = expected) (.validation ("该 API 需要 " ++ toString expected ++ " 个位置参数"))

/-- A path of a Unix system, as it was given. -/
def normalizeLocalPath (value : String) : AppResult String := do
  ensure (value.toList.head? = some '/' ∧ value.utf8ByteSize ≤ 4096) (.validation "本地授权路径必须是绝对路径")
  ensure (['.', '.'] ∉ components value.toList) (.validation "本地授权路径不能包含 ..")
  ensure (platform.isSymlink value = false) (.validation "本地授权路径不能是符号链接")
  return value

def dangerousCommand (command : String) : Bool :=
  ["rm -rf", "mkfs", "shutdown", "reboot", "poweroff", "sudo "].any fun marker =>
    decide (marker.toList <:+: (toAsciiLowercase command).toList)

/-- The step of an upload or a download. -/
def compileTransfer (permissions paths : List String) (step : AutomationStep) (method : String) (args : List PyExpr) :
    AppResult (AutomationStep × List String) := do
  requirePermission permissions (if method = "upload" then "transferUpload" else "transferDownload")
  expectArgCount args 2
  let (localIndex, remoteIndex) := if method = "upload" then (0, 1) else (1, 0)
  let path ← normalizeLocalPath platform (← stringArg args localIndex "local path")
  ensure (path ∈ paths) (.validation ("本地路径未在 manifest 授权：" ++ path))
  let remote ← stringArg args remoteIndex "remote path"
  ensure (remote ≠ "" ∧ remote.utf8ByteSize ≤ 4096 ∧ ∀ char ∈ ['\x00', '\n', '\r'], char ∉ remote.toList)
    (.validation "远端路径无效")
  return ({ step with
    kind := "transfer", direction := some method, localPath := some path, remotePath := some remote }, [])

/-- A step and its warning for a call. -/
def compileCall (permissions paths : List String) (id method : String) (args : List PyExpr)
    (keywords : List (Option String × PyExpr)) : AppResult (AutomationStep × List String) := do
  validateKeywords method keywords
  let timeout := (← keywordU64 keywords "timeout").getD 30
  ensure (1 ≤ timeout ∧ timeout ≤ 3600) (.validation "timeout 必须为 1～3600 秒")
  let step : AutomationStep := ⟨id, "", none, none, some timeout, none, none, none, none⟩
  match method with
  | "command" =>
    requirePermission permissions "executeCommand"
    expectArgCount args 1
    let command ← stringArg args 0 "command"
    ensure (command.utf8ByteSize ≤ 16 * 1024 ∧ '\x00' ∉ command.toList) (.validation "远端命令过长或包含 NUL")
    let warnings := if dangerousCommand command then ["高风险命令需要再次确认：" ++ command] else []
    return ({ step with kind := "command", command := some command }, warnings)
  | "wait_for" =>
    requirePermission permissions "readResults"
    expectArgCount args 1
    return ({ step with kind := "waitForMatch", pattern := some (← patternArg calendar args 0) }, [])
  | "require" =>
    requirePermission permissions "readResults"
    expectArgCount args 1
    let action := (← keywordString keywords "action").getD "continueIfMatch"
    ensure (action ∈ ["continueIfMatch", "stopIfMatch", "stopIfMissing"]) (.validation "require.action 无效")
    return ({ step with
      kind := "condition", pattern := some (← patternArg calendar args 0), action := some action }, [])
  | _ => compileTransfer platform permissions paths step method args

def compileStatement (permissions paths : List String) (id : String) (statement : PyStmt) :
    AppResult (AutomationStep × List String) :=
  match statement with
  | .other =>
    .error (.validation "受限 Python 只允许直接调用 cnshell API；不支持 import、变量、循环、函数或类")
  | .expr (.call func args keywords) => do
    compileCall calendar platform permissions paths id (← methodName func) args keywords
  | .expr _ => .error (.validation "每一行必须是 cnshell API 调用")

/-- The steps of the statements, whose identifiers are drawn in order. -/
def compileSuite (permissions paths : List String) : Nat → List PyStmt → AppResult (List (AutomationStep × List String))
  | _, [] => .ok []
  | k, statement :: suite => do
    let compiled ← compileStatement calendar platform permissions paths (platform.newId k) statement
    return compiled :: (← compileSuite permissions paths (k + 1) suite)

def compile (request : PythonAutomationRequest) : AppResult PythonAutomationPreview := do
  validateRequest request
  let suite ← (platform.parse request.source).mapError fun error => .validation ("Python 语法错误：" ++ error)
  ensure (¬(suite = [] ∨ 50 < suite.length)) (.validation "Python 脚本必须包含 1～50 个调用")
  let paths ← request.manifest.allowedLocalPaths.mapM (normalizeLocalPath platform)
  let compiled ← compileSuite calendar platform request.manifest.permissions paths 0 suite
  return {
    scriptHash := "sha256:" ++ platform.sha256 request.source
    targetConnectionId := request.manifest.connectionId
    permissions := request.manifest.permissions
    steps := compiled.map Prod.fst
    warnings := compiled.flatMap Prod.snd
  }

end

def PythonAutomationRequest.plan (request : PythonAutomationRequest) (preview : PythonAutomationPreview) :
    AutomationPlan :=
  ⟨request.id, request.name, preview.targetConnectionId, preview.steps⟩

/-- A call of the interface. -/
def api (method : String) (args : List PyExpr) (keywords : List (Option String × PyExpr)) : PyStmt :=
  .expr (.call (.attribute (.name "cnshell") method) args keywords)

def text (value : String) : PyExpr := .constant (.str value)

def Given (keywords : List (Option String × PyExpr)) (name : String) (literal : PyExpr) (isDefault : Prop) : Prop :=
  (some name, literal) ∈ keywords ∨ (∀ keyword ∈ keywords, keyword.1 ≠ some name) ∧ isDefault

/-- The keywords of a call are known ones with literals. -/
structure Keywords (method : String) (keywords : List (Option String × PyExpr)) (timeout : Nat) : Prop where
  known : ∀ keyword ∈ keywords, (∃ value, keyword = (some "timeout", .constant (.int value))) ∨
    method = "require" ∧ ∃ value, keyword = (some "action", text value)
  given : Given keywords "timeout" (.constant (.int timeout)) (timeout = 30)
  range : 1 ≤ timeout ∧ timeout ≤ 3600

inductive Allowed (manifest : PythonAutomationManifest) (id : String) : PyStmt → AutomationStep → Prop
  | command (value : String) {keywords : List (Option String × PyExpr)} {timeout : Nat}
      (given : Keywords "command" keywords timeout) (permitted : "executeCommand" ∈ manifest.permissions) :
      Allowed manifest id (api "command" [text value] keywords)
        ⟨id, "command", some value, none, some timeout, none, none, none, none⟩
  | waitFor (pattern : String) {keywords : List (Option String × PyExpr)} {timeout : Nat}
      (given : Keywords "wait_for" keywords timeout) (permitted : "readResults" ∈ manifest.permissions) :
      Allowed manifest id (api "wait_for" [text pattern] keywords)
        ⟨id, "waitForMatch", none, some pattern, some timeout, none, none, none, none⟩
  | require (pattern action : String) {keywords : List (Option String × PyExpr)} {timeout : Nat}
      (given : Keywords "require" keywords timeout)
      (chosen : Given keywords "action" (text action) (action = "continueIfMatch"))
      (permitted : "readResults" ∈ manifest.permissions) :
      Allowed manifest id (api "require" [text pattern] keywords)
        ⟨id, "condition", none, some pattern, some timeout, some action, none, none, none⟩
  | transfer (upload : Bool) (path remote : String) {keywords : List (Option String × PyExpr)} {timeout : Nat}
      (given : Keywords (if upload then "upload" else "download") keywords timeout)
      (permitted : (if upload then "transferUpload" else "transferDownload") ∈ manifest.permissions)
      (authorised : path ∈ manifest.allowedLocalPaths) (absolute : path.toList.head? = some '/')
      (forward : ['.', '.'] ∉ components path.toList) :
      Allowed manifest id
        (api (if upload then "upload" else "download") (if upload then [text path, text remote] else [text remote, text path])
          keywords)
        ⟨id, "transfer", none, none, some timeout, none, some (if upload then "upload" else "download"), some path,
          some remote⟩

/-- A call of a command without anything in it. -/
def BlankCommand (statement : PyStmt) : Prop :=
  ∃ value keywords, trim value = "" ∧ statement = api "command" [text value] keywords

theorem constantString_eq_ok {expression : PyExpr} {label value : String} :
    constantString expression label = .ok value ↔ expression = text value := by
  unfold constantString text
  split <;> simp_all

theorem stringArg_eq_ok {args : List PyExpr} {index : Nat} {label value : String} :
    stringArg args index label = .ok value ↔ args[index]? = some (text value) := by
  simp [stringArg, constantString_eq_ok]

section

variable {keywords : List (Option String × PyExpr)} {method name : String}

theorem validateKeywords_eq_ok {u : Unit} (checked : validateKeywords method keywords = .ok u) :
    (∀ keyword ∈ keywords, keyword.1 = some "timeout" ∨ method = "require" ∧ keyword.1 = some "action") ∧
      (keywords.map Prod.fst).Nodup := by
  obtain ⟨seen, done, -⟩ := bind_eq_ok.mp checked
  obtain ⟨known, distinct, -⟩ := (@foldlM_distinct _ _ _ keywords (fun keyword => keyword.1.getD "")
    (fun keyword => keyword.1 = some "timeout" ∨ method = "require" ∧ keyword.1 = some "action") _ (by
      rintro seen ⟨name, value⟩ seen'
      cases name with
      | none => simp
      | some name => by_cases both : method = "require" <;> simp [both, and_assoc, @eq_comm _ seen']) _ _).mp done
  refine ⟨known, ?_⟩
  have named : keywords.map Prod.fst = (keywords.map fun keyword => keyword.1.getD "").map some := by
    rw [List.map_map]
    refine List.map_congr_left fun keyword member => ?_
    rcases known keyword member with name | ⟨-, name⟩ <;> simp [name]
  rw [named]
  exact distinct.map (Option.some_injective _)

variable {value : PyExpr}

theorem keyword_of_mem (distinct : (keywords.map Prod.fst).Nodup)
    (member : (some name, value) ∈ keywords) : keyword keywords name = some value := by
  induction keywords with
  | nil => cases member
  | cons first keywords ih =>
    rw [List.map_cons, List.nodup_cons] at distinct
    rcases List.mem_cons.mp member with rfl | later
    · simp [keyword]
    · have other : first.1 ≠ some name := fun same =>
        distinct.1 (same ▸ List.mem_map_of_mem (f := Prod.fst) later)
      have found := ih distinct.2 later
      simpa [keyword, List.find?_cons, other] using found

theorem mem_of_keyword (found : keyword keywords name = some value) : (some name, value) ∈ keywords := by
  obtain ⟨⟨other, value⟩, there, rfl⟩ := Option.map_eq_some_iff.mp found
  obtain rfl : other = some name := by simpa using List.find?_some there
  exact List.mem_of_find?_eq_some there

theorem keywordU64_eq_ok {result : Option Nat} (read : keywordU64 keywords name = .ok result) :
    keyword keywords name = result.map fun value => .constant (.int value) := by
  unfold keywordU64 at read
  split at read <;> simp_all

theorem keywordString_eq_ok {result : Option String} (read : keywordString keywords name = .ok result) :
    keyword keywords name = result.map text := by
  unfold keywordString at read
  split at read
  · simp_all
  · obtain ⟨value, literal, rfl⟩ := map_eq_ok.mp read
    simp_all [constantString_eq_ok]

theorem given_of_keyword {α : Type} {literal : α → PyExpr} {result : Option α} (default : α)
    (read : keyword keywords name = result.map literal) :
    Given keywords name (literal (result.getD default)) (result.getD default = default) := by
  cases result with
  | none =>
    refine .inr ⟨fun other member same => ?_, rfl⟩
    have missing := List.find?_eq_none.mp (Option.map_eq_none_iff.mp read) other member
    exact missing (by simpa using same)
  | some value => exact .inl (mem_of_keyword read)

theorem keywords_of_checks {u : Unit} {timeout : Option Nat} (checked : validateKeywords method keywords = .ok u)
    (read : keywordU64 keywords "timeout" = .ok timeout) (range : 1 ≤ timeout.getD 30 ∧ timeout.getD 30 ≤ 3600)
    (chosen : method = "require" → ∃ action, keywordString keywords "action" = .ok action) :
    Keywords method keywords (timeout.getD 30) := by
  obtain ⟨known, distinct⟩ := validateKeywords_eq_ok checked
  have seconds := keywordU64_eq_ok read
  refine ⟨fun (name, value) member => ?_, given_of_keyword 30 seconds, range⟩
  rcases known _ member with rfl | ⟨required, rfl⟩
  · -- It is the keyword that was read.
    rw [keyword_of_mem distinct member] at seconds
    obtain ⟨number, -, rfl⟩ := Option.map_eq_some_iff.mp seconds.symm
    exact .inl ⟨number, rfl⟩
  · obtain ⟨action, readAction⟩ := chosen required
    have words := keywordString_eq_ok readAction
    rw [keyword_of_mem distinct member] at words
    obtain ⟨word, -, rfl⟩ := Option.map_eq_some_iff.mp words.symm
    exact .inr ⟨required, word, rfl⟩

end

section

variable {Zone Cron : Type} {calendar : Calendar Zone Cron} {platform : PythonPlatform} {permissions paths : List String}

variable {args : List PyExpr}

theorem patternArg_eq_ok {pattern : String} (read : patternArg calendar args 0 = .ok pattern) :
    args[0]? = some (text pattern) ∧ ∀ noun, validatePattern calendar noun (some pattern) = .ok () := by
  simp only [patternArg, bind_eq_ok, stringArg_eq_ok, ensure_eq_ok, mapError_eq_ok, pure_eq_ok] at read
  obtain ⟨value, given, _, short, _, valid, rfl⟩ := read
  exact ⟨given, fun noun => by simp [validatePattern, short, valid]⟩

theorem blankCommand_iff {method value : String} {keywords : List (Option String × PyExpr)} :
    BlankCommand (api method (text value :: args) keywords) ↔ method = "command" ∧ args = [] ∧ trim value = "" := by
  constructor
  · rintro ⟨other, keywords', blank, same⟩
    simp only [api, text, PyStmt.expr.injEq, PyExpr.call.injEq, PyExpr.attribute.injEq, List.cons.injEq,
      PyExpr.constant.injEq, PyConstant.str.injEq] at same
    obtain ⟨⟨-, rfl⟩, ⟨rfl, rfl⟩, -⟩ := same
    exact ⟨rfl, rfl, blank⟩
  · rintro ⟨rfl, rfl, blank⟩
    exact ⟨value, keywords, blank, rfl⟩

variable {compiled : AutomationStep × List String} {statement : PyStmt} {id : String}

theorem compileStatement_call
    (done : compileStatement calendar platform permissions paths id statement = .ok compiled) :
    ∃ method args keywords, statement = api method args keywords ∧
      method ∈ ["command", "wait_for", "require", "upload", "download"] ∧
      compileCall calendar platform permissions paths id method args keywords = .ok compiled := by
  unfold compileStatement at done
  split at done
  · cases done
  · obtain ⟨method, named, called⟩ := bind_eq_ok.mp done
    unfold methodName at named
    split at named
    · simp only [bind_eq_ok, ensure_eq_ok, pure_eq_ok] at named
      obtain ⟨_, rfl, _, known, rfl⟩ := named
      exact ⟨_, _, _, rfl, known, called⟩
    · cases named
  · cases done

theorem normalizeLocalPath_eq_ok {value path : String} (normal : normalizeLocalPath platform value = .ok path) :
    path = value ∧ path.toList.head? = some '/' ∧ ['.', '.'] ∉ components path.toList ∧ path ≠ "" := by
  simp only [normalizeLocalPath, bind_eq_ok, ensure_eq_ok, pure_eq_ok] at normal
  obtain ⟨_, absolute, _, forward, _, -, rfl⟩ := normal
  refine ⟨rfl, absolute.1, forward, ?_⟩
  rintro rfl
  exact absurd absolute.1 (by decide)

theorem validateKind_transfer {step : AutomationStep} (kind : step.kind = "transfer")
    (direction : step.direction.getD "" ∈ ["upload", "download"]) (path : step.localPath.getD "" ≠ "")
    (remote : step.remotePath.getD "" ≠ "") : validateKind calendar step = .ok () := by
  unfold validateKind
  rw [kind]
  refine ensure_of ?_ _
  rintro (bad | bad | bad)
  · exact bad direction
  · exact path bad
  · exact remote bad

variable {manifest : PythonAutomationManifest}

theorem compileTransfer_eq_ok {keywords : List (Option String × PyExpr)} {timeout : Nat} (upload : Bool)
    (authorised : ∀ path ∈ paths, path ∈ manifest.allowedLocalPaths)
    (given : Keywords (if upload then "upload" else "download") keywords timeout)
    (done : compileTransfer platform manifest.permissions paths
      ⟨id, "", none, none, some timeout, none, none, none, none⟩ (if upload then "upload" else "download") args =
        .ok compiled) :
    Allowed manifest id (api (if upload then "upload" else "download") args keywords) compiled.1 ∧
      (validateKind calendar compiled.1 = .ok () ↔
        ¬ BlankCommand (api (if upload then "upload" else "download") args keywords)) := by
  have other : (if upload then "upload" else "download") ≠ "command" := by cases upload <;> decide
  have marked : ((if upload then "upload" else "download") = "upload") = (upload = true) := by
    cases upload <;> simp
  simp only [compileTransfer, requirePermission, expectArgCount, bind_eq_ok, ensure_eq_ok, stringArg_eq_ok,
    pure_eq_ok, marked] at done
  obtain ⟨_, permitted, _, pair, value, literal, path, normal, _, within, remote, literal', _, filled, rfl⟩ := done
  obtain ⟨rfl, absolute, forward, nonempty⟩ := normalizeLocalPath_eq_ok normal
  obtain ⟨one, two, rfl⟩ := List.length_eq_two.mp pair
  have args : [one, two] = if upload then [text path, text remote] else [text remote, text path] := by
    cases upload <;> simp_all
  have kind : validateKind calendar ⟨id, "transfer", none, none, some timeout, none,
      some (if upload then "upload" else "download"), some path, some remote⟩ = .ok () :=
    validateKind_transfer rfl (by cases upload <;> simp) nonempty filled.1
  rw [args]
  refine ⟨.transfer upload path remote given permitted (authorised path within) absolute forward, iff_of_true kind ?_⟩
  cases upload <;> simp [blankCommand_iff]

theorem compileStatement_eq_ok (authorised : ∀ path ∈ paths, path ∈ manifest.allowedLocalPaths)
    (done : compileStatement calendar platform manifest.permissions paths id statement = .ok compiled) :
    Allowed manifest id statement compiled.1 ∧
      (validateKind calendar compiled.1 = .ok () ↔ ¬ BlankCommand statement) := by
  obtain ⟨method, args, keywords, rfl, known, called⟩ := compileStatement_call done
  clear done
  simp only [compileCall, bind_eq_ok, ensure_eq_ok] at called
  obtain ⟨_, checked, seconds, read, _, range, called⟩ := called
  have given := fun chosen => keywords_of_checks checked read range chosen
  simp only [List.mem_cons, List.not_mem_nil, or_false] at known
  rcases known with rfl | rfl | rfl | rfl | rfl <;>
    simp only [requirePermission, expectArgCount, bind_eq_ok, ensure_eq_ok, stringArg_eq_ok, pure_eq_ok] at called
  · obtain ⟨_, permitted, _, single, value, literal, _, -, rfl⟩ := called
    obtain ⟨_, rfl⟩ := List.length_eq_one_iff.mp single
    obtain rfl := Option.some.inj literal
    refine ⟨.command value (given fun no => absurd no (by decide)) permitted, ?_⟩
    rw [blankCommand_iff]
    simp [validateKind]
  · obtain ⟨_, permitted, _, single, pattern, readPattern, rfl⟩ := called
    obtain ⟨literal, valid⟩ := patternArg_eq_ok readPattern
    obtain ⟨_, rfl⟩ := List.length_eq_one_iff.mp single
    obtain rfl := Option.some.inj literal
    refine ⟨.waitFor pattern (given fun no => absurd no (by decide)) permitted, ?_⟩
    rw [blankCommand_iff]
    simp [validateKind, valid]
  · obtain ⟨_, permitted, _, single, action, chosen, _, named, pattern, readPattern, rfl⟩ := called
    obtain ⟨literal, valid⟩ := patternArg_eq_ok readPattern
    obtain ⟨_, rfl⟩ := List.length_eq_one_iff.mp single
    obtain rfl := Option.some.inj literal
    refine ⟨.require pattern _ (given fun _ => ⟨action, chosen⟩)
      (given_of_keyword "continueIfMatch" (keywordString_eq_ok chosen)) permitted, ?_⟩
    rw [blankCommand_iff]
    simpa [validateKind, valid] using named
  · exact compileTransfer_eq_ok true authorised (given fun no => absurd no (by decide)) called
  · exact compileTransfer_eq_ok false authorised (given fun no => absurd no (by decide)) called

theorem Allowed.drawn {step : AutomationStep} (allowed : Allowed manifest id statement step) :
    step.id = id ∧ ∃ timeout, step.timeoutSeconds = some timeout ∧ 1 ≤ timeout ∧ timeout ≤ 3600 := by
  cases allowed with
  | command _ given => exact ⟨rfl, _, rfl, given.range⟩
  | waitFor _ given => exact ⟨rfl, _, rfl, given.range⟩
  | require _ _ given => exact ⟨rfl, _, rfl, given.range⟩
  | transfer _ _ _ given => exact ⟨rfl, _, rfl, given.range⟩

theorem compileSuite_eq_ok
    (authorised : ∀ path ∈ paths, path ∈ manifest.allowedLocalPaths) {k : Nat} {suite : List PyStmt}
    {compiled : List (AutomationStep × List String)}
    (done : compileSuite calendar platform manifest.permissions paths k suite = .ok compiled) :
    List.Forall₂ (fun statement step => Allowed manifest step.id statement step) suite (compiled.map Prod.fst) ∧
      ∀ ids : List String, (∀ id ∈ ids, ∃ j < k, id = platform.newId j) →
        (validateSteps calendar ids (compiled.map Prod.fst) = .ok () ↔ ∀ statement ∈ suite, ¬ BlankCommand statement) := by
  induction suite generalizing k compiled with
  | nil =>
    obtain rfl := Except.ok.inj done
    exact ⟨.nil, fun ids _ => by simp [validateSteps]⟩
  | cons statement suite ih =>
    simp only [compileSuite, bind_eq_ok, pure_eq_ok] at done
    obtain ⟨first, here, rest, later, rfl⟩ := done
    obtain ⟨allowed, kind⟩ := compileStatement_eq_ok authorised here
    obtain ⟨others, plan⟩ := ih later
    obtain ⟨drawn, timeout, seconds, least, most⟩ := allowed.drawn
    refine ⟨.cons (drawn.symm ▸ allowed) others, fun ids old => ?_⟩
    -- A fresh identifier is none of the old ones.
    have fresh : ¬(first.1.id = "" ∨ first.1.id ∈ ids) := by
      rw [drawn]
      rintro (empty | used)
      · exact platform.nonempty k empty
      · obtain ⟨j, before, same⟩ := old _ used
        exact absurd (platform.distinct _ _ same) (Nat.ne_of_gt before)
    have short : ¬(first.1.timeoutSeconds.getD 30 = 0 ∨ maxTimeoutSeconds < first.1.timeoutSeconds.getD 30) := by
      rw [seconds, Option.getD_some, maxTimeoutSeconds]
      omega
    have next := plan (first.1.id :: ids) fun id member => by
      rcases List.mem_cons.mp member with rfl | before
      · exact ⟨k, Nat.lt_succ_self k, drawn⟩
      · obtain ⟨j, less, same⟩ := old id before
        exact ⟨j, Nat.lt_succ_of_lt less, same⟩
    simp only [List.map_cons, validateSteps, bind_eq_ok, ensure_eq_ok, List.forall_mem_cons, ← kind, ← next]
    constructor
    · rintro ⟨_, -, _, -, _, step, others⟩
      exact ⟨step, others⟩
    · rintro ⟨step, others⟩
      exact ⟨(), fresh, (), short, (), step, others⟩

end

section

variable {Zone Cron : Type} {calendar : Calendar Zone Cron} {platform : PythonPlatform}

/-- What compiles is what the manifest allows, step by step, and makes a valid plan just if no command is blank. -/
theorem compile_sound_iff {request : PythonAutomationRequest} {preview : PythonAutomationPreview}
    (done : compile calendar platform request = .ok preview) :
    ∃ suite, platform.parse request.source = .ok suite ∧
      List.Forall₂ (fun statement step => Allowed request.manifest step.id statement step) suite preview.steps ∧
      (validate calendar (request.plan preview) = .ok () ↔ ∀ statement ∈ suite, ¬ BlankCommand statement) := by
  simp only [compile, bind_eq_ok, ensure_eq_ok, mapError_eq_ok, pure_eq_ok] at done
  obtain ⟨_, valid, suite, parsed, _, size, paths, normal, compiled, steps, rfl⟩ := done
  have authorised : ∀ path ∈ paths, path ∈ request.manifest.allowedLocalPaths := by
    intro path member
    obtain ⟨value, there, same⟩ := mapM_comes normal member
    exact (normalizeLocalPath_eq_ok same).1 ▸ there
  obtain ⟨allowed, plan⟩ := compileSuite_eq_ok authorised steps
  refine ⟨suite, parsed, allowed, ?_⟩
  have length := allowed.length_eq
  obtain ⟨_, named, -⟩ := bind_eq_ok.mp valid
  have filled : ¬(compiled.map Prod.fst = [] ∨ maxSteps < (compiled.map Prod.fst).length) := by
    rw [← List.length_eq_zero_iff, ← length, List.length_eq_zero_iff]
    exact size
  rw [← plan [] (fun _ member => by cases member), validate, PythonAutomationRequest.plan,
    ensure_of (ensure_eq_ok.mp named), ok_bind, ensure_of filled, ok_bind]

end

/-- A platform that parses every script as one command and has no regular expressions. -/
def commandPlatform (command : String) : PythonPlatform where
  parse _ := .ok [api "command" [text command] []]
  sha256 _ := ""
  isSymlink _ := false
  newId k := String.ofList (List.replicate (k + 1) 'a')
  nonempty k same := by simpa using congrArg String.toList same
  distinct j k same := by simpa using congrArg String.length same

def commandRequest (command : String) : PythonAutomationRequest :=
  ⟨"a", "b", "cnshell.command('" ++ command ++ "')", ⟨"c", ["executeCommand"], []⟩⟩

def commandPreview (command : String) : PythonAutomationPreview :=
  ⟨"sha256:", "c", ["executeCommand"], [⟨"a", "command", some command, none, some 30, none, none, none, none⟩], []⟩

/-- A command compiles to a valid plan. -/
theorem compile_sound_id :
    ∃ suite, (commandPlatform "id").parse (commandRequest "id").source = .ok suite ∧
      (validate plainCalendar ((commandRequest "id").plan (commandPreview "id")) = .ok () ↔
        ∀ statement ∈ suite, ¬ BlankCommand statement) := by
  have done : compile plainCalendar (commandPlatform "id") (commandRequest "id") = .ok (commandPreview "id") := by rfl
  obtain ⟨suite, parsed, -, valid⟩ := compile_sound_iff done
  exact ⟨suite, parsed, valid⟩

/-- A command with nothing in it compiles as well, but to no valid plan. -/
theorem compile_blank :
    compile plainCalendar (commandPlatform "") (commandRequest "") = .ok (commandPreview "") ∧
      validate plainCalendar ((commandRequest "").plan (commandPreview "")) = .error (.validation "命令步骤不能为空") := by
  exact ⟨rfl, rfl⟩

end Python

end Client

end CNShell
