import CNShell.Library.Traversal
import CNShell.Ssh.Config

/-! What the parsing of a configuration file visits, and where it meets a file that is being parsed. -/

namespace CNShell

namespace Ssh

open Client (AppError AppResult)

/-- The files and blocks that are met. -/
abbrev Meetings := List (Traversal.Event (List Char) Block)

/-- What ends the parsing of the files early. -/
abbrev Stop := Traversal.Failure (List Char) AppError

abbrev FileParts := List (Traversal.Part (List Char) Block AppError)

section Parts

variable (files : ConfigFiles) (root : List Char)

/-- The occurrences that a pattern stands for. -/
def includeParts (path pattern : List Char) : FileParts :=
  match expandInclude files path root pattern with
  | .error error => [.child (.error error)]
  | .ok includes => includes.map fun included => .child (.ok included)

/-- The blocks and the occurrences of some lines, in the order in which they are met. -/
def textParts (path : List Char) : Option Block → List (List Char) → FileParts
  | current, [] => current.toList.map .own
  | current, raw :: rest =>
    match lineDirective raw with
    | none => textParts path current rest
    | some (lower, value) =>
      if lower = "include".toList then
        (shellWords value).flatMap (includeParts files root path) ++ textParts path current rest
      else if lower = "host".toList then
        current.toList.map .own ++ textParts path (some ⟨shellWords value, [], path, []⟩) rest
      else if lower ∈ importedKeys then
        textParts path (current.map (insertValue files.home lower value)) rest
      else textParts path current rest

/-- The configuration files as nodes that include each other. -/
def configSource : Traversal.Source (List Char) (List Char) Block AppError where
  resolve path := do
    let path ← (files.canonicalize path).mapError ioError
    ensure (components root <+: components path) (.validation "Include 路径越出 ~/.ssh")
    return path
  load path := do
    let text ← (files.readToString path).mapError ioError
    ensure ((String.ofList text).utf8ByteSize ≤ 2 * 1024 * 1024) (.validation "单个 SSH 配置文件不能超过 2 MB")
    return textParts files root path none (lines text)

end Parts

/-- What the parsing of a file reports of its visit. -/
def report (state : ParseState) :
    Except Stop Meetings → Except Halt ParseState
  | .ok events => .ok { state with blocks := state.blocks ++ Traversal.items events }
  | .error (.again node) => .error (.error (includeCycle node))
  | .error (.fault error) => .error (.error error)
  | .error .tooDeep => .error .tooDeep

section Refinement

variable {files : ConfigFiles} {root path : List Char} {state : ParseState}
variable {visitor : List Char → Except Stop Meetings}
variable {parse : List Char → ParseState → Except Halt ParseState}

theorem report_seq (state : ParseState)
    (first second : Except Stop Meetings) :
    report state (do
      let events ← first
      let others ← second
      return events ++ others) = (do
      let state ← report state first
      report state second) := by
  cases first with
  | ok events =>
    cases second with
    | ok others => simp [report, Traversal.items]
    | error failure => cases failure <;> rfl
  | error failure => cases failure <;> rfl

theorem visited_report {next : ParseState}
    {met : Except Stop Meetings}
    (reported : report state met = .ok next) : next.visited = state.visited := by
  cases met with
  | ok events =>
    obtain rfl := Except.ok.inj reported
    rfl
  | error failure => cases failure <;> cases reported

variable {stack : List (List Char)}
variable (parses : ∀ included (state : ParseState), state.visited = stack →
  parse included state = report state (visitor included))

include parses in
theorem foldlM_parse (includes : List (List Char)) (inside : state.visited = stack) :
    includes.foldlM (fun state included => parse included state) state =
      report state (Traversal.follow visitor (includes.map fun included => .child (.ok included))) := by
  induction includes generalizing state with
  | nil => simp [Traversal.follow, report, Traversal.items, pure, Except.pure]
  | cons included includes ih =>
    rw [List.foldlM_cons, parses included state inside, List.map_cons, Traversal.follow, Except.mapError, ok_bind,
      report_seq]
    cases met : report state (visitor included) with
    | error halt => rfl
    | ok next => exact ih ((visited_report met).trans inside)

include parses in
theorem foldlM_patterns (patterns : List (List Char)) (inside : state.visited = stack) :
    patterns.foldlM (fun state pattern => do
        let includes ← (expandInclude files path root pattern).mapError .error
        includes.foldlM (fun state included => parse included state) state) state =
      report state (Traversal.follow visitor (patterns.flatMap (includeParts files root path))) := by
  induction patterns generalizing state with
  | nil => simp [Traversal.follow, report, Traversal.items, pure, Except.pure]
  | cons pattern patterns ih =>
    rw [List.foldlM_cons, List.flatMap_cons, Traversal.follow_append, report_seq, includeParts]
    cases expandInclude files path root pattern with
    | error error => rfl
    | ok includes =>
      simp only [Except.mapError, ok_bind]
      rw [foldlM_parse parses includes inside]
      cases met : report state (Traversal.follow visitor (includes.map fun included => .child (.ok included))) with
      | error halt => rfl
      | ok next => exact ih ((visited_report met).trans inside)

theorem report_own (current : Option Block)
    (met : Except Stop Meetings) :
    report state (do
      let events ← Traversal.follow visitor (current.toList.map .own)
      let others ← met
      return events ++ others) = report (pushBlock state current) met := by
  cases current with
  | none =>
    cases met with
    | ok events => simp [Traversal.follow, report, pushBlock]
    | error failure => cases failure <;> rfl
  | some block =>
    cases met with
    | ok events => simp [Traversal.follow, report, pushBlock, Traversal.items, Traversal.Event.item?, pure, Except.pure]
    | error failure => cases failure <;> rfl

include parses in
theorem foldlM_lines (texts : List (List Char)) (current : Option Block) (inside : state.visited = stack) :
    (do
      let (state, current) ← texts.foldlM (parseLine files root path parse) (state, current)
      return pushBlock state current) =
      report state (Traversal.follow visitor (textParts files root path current texts)) := by
  induction texts generalizing state current with
  | nil => cases current <;> rfl
  | cons raw texts ih =>
    rw [List.foldlM_cons, parseLine, textParts]
    rcases lineDirective raw with _ | ⟨lower, value⟩
    · exact ih current inside
    · dsimp only
      split_ifs with included host imported
      · -- An Include line is followed before the lines after it.
        rw [foldlM_patterns parses (shellWords value) inside, Traversal.follow_append, report_seq]
        cases met : report state (Traversal.follow visitor
            ((shellWords value).flatMap (includeParts files root path))) with
        | error halt => rfl
        | ok next => exact ih current ((visited_report met).trans inside)
      · rw [Traversal.follow_append, report_own]
        exact ih _ inside
      · exact ih _ inside
      · exact ih current inside

theorem leave_report (node : List Char)
    (met : Except Stop Meetings) :
    (do
      let inner ← report ⟨node :: state.visited, state.blocks⟩ met
      return { inner with visited := inner.visited.erase node }) = report state (do
        let events ← met
        return .enter node :: events) := by
  cases met with
  | ok events => simp [report, Traversal.items, List.filterMap_cons, Traversal.Event.item?, pure, Except.pure]
  | error failure => cases failure <;> rfl

end Refinement

/-- The parsing of a file is the visit to it. -/
theorem parseFile_eq (files : ConfigFiles) {root : List Char}
    (canonical : (files.canonicalize root).toOption.getD root = root) (depth : Nat) (path : List Char)
    (state : ParseState) : parseFile files root depth path state =
      report state (Traversal.visit (configSource files root) depth state.visited path) := by
  induction depth generalizing path state with
  | zero => rfl
  | succ depth ih =>
    have parses : ∀ node, ∀ included (inner : ParseState), inner.visited = node :: state.visited →
        parseFile files root depth included inner =
          report inner (Traversal.visit (configSource files root) depth (node :: state.visited) included) := by
      intro node included inner inside
      rw [ih, inside]
    rw [parseFile, canonical]
    cases named : files.canonicalize path with
    | error message =>
      have failed : (configSource files root).resolve path = .error (ioError message) := by
        simp only [configSource, named, Except.mapError, error_bind]
      rw [Traversal.visit_unresolved failed]
      rfl
    | ok node =>
      simp only [Except.mapError, ok_bind]
      by_cases below : components root <+: components node
      · have resolved : (configSource files root).resolve path = .ok node := by
          simp only [configSource, named, Except.mapError, ok_bind, ensure_of below]
          rfl
        rw [ensure_of below, ok_bind]
        by_cases again : node ∈ state.visited
        · rw [ensure_of_not (not_not.mpr again), Traversal.visit_again resolved again]
          rfl
        · rw [ensure_of again, ok_bind]
          cases read : files.readToString node with
          | error message =>
            have failed : (configSource files root).load node = .error (ioError message) := by
              simp only [configSource, read, Except.mapError, error_bind]
            rw [Traversal.visit_unloaded resolved again failed]
            rfl
          | ok text =>
            simp only [ok_bind]
            by_cases small : (String.ofList text).utf8ByteSize ≤ 2 * 1024 * 1024
            · have loaded : (configSource files root).load node =
                  .ok (textParts files root node none (lines text)) := by
                simp only [configSource, read, Except.mapError, ok_bind, ensure_of small]
                rfl
              have parsed := @foldlM_lines files root node ⟨node :: state.visited, state.blocks⟩ _ _ _ (parses node)
                (lines text) none rfl
              rw [ensure_of small, Traversal.visit_enter resolved again loaded]
              simp only [ok_bind]
              -- What is parsed inside of the file is followed by its end, where it is no longer being parsed.
              refine Eq.trans ?_ (leave_report node _)
              rw [← parsed]
              simp only [bind_assoc, pure_bind]
            · have failed : (configSource files root).load node = .error (.validation "单个 SSH 配置文件不能超过 2 MB") := by
                simp only [configSource, read, Except.mapError, ok_bind, ensure_of_not small]
                rfl
              rw [Traversal.visit_unloaded resolved again failed, ensure_of_not small]
              rfl
      · have failed : (configSource files root).resolve path = .error (.validation "Include 路径越出 ~/.ssh") := by
          simp only [configSource, named, Except.mapError, ok_bind, ensure_of_not below]
          rfl
        rw [Traversal.visit_unresolved failed, ensure_of_not below]
        rfl

def canonicalRoot (files : ConfigFiles) (root : List Char) : List Char := (files.canonicalize root).toOption.getD root

theorem canonicalRoot_canonicalRoot (files : ConfigFiles) (root : List Char) :
    canonicalRoot files (canonicalRoot files root) = canonicalRoot files root := by
  unfold canonicalRoot
  cases named : files.canonicalize root with
  | ok canonical =>
    show (files.canonicalize canonical).toOption.getD canonical = canonical
    rw [files.canonicalized root canonical named]
    rfl
  | error message =>
    show (files.canonicalize root).toOption.getD root = root
    rw [named]
    rfl

theorem parseFile_canonicalRoot (files : ConfigFiles) (root : List Char) (depth : Nat) (path : List Char)
    (state : ParseState) :
    parseFile files root depth path state = parseFile files (canonicalRoot files root) depth path state := by
  have same := canonicalRoot_canonicalRoot files root
  unfold canonicalRoot at same ⊢
  cases depth with
  | zero => rfl
  | succ depth => rw [parseFile, parseFile, same]

section Errors

variable {files : ConfigFiles} {root path : List Char} {error : AppError}

def OtherError (error : AppError) : Prop := ∀ node, error ≠ includeCycle node

theorem includeCycle_inj {node other : List Char} (same : includeCycle node = includeCycle other) : node = other := by
  have texts := congrArg String.toList (AppError.validation.inj same)
  simp only [String.toList_append, String.toList_ofList] at texts
  exact List.append_cancel_left texts

theorem otherError_ioError (message : String) : OtherError (ioError message) := fun _ same => by cases same

theorem otherError_validation {text : String} (differs : text.toList.head? ≠ some 'O') :
    OtherError (.validation text) := by
  intro node same
  have texts := congrArg String.toList (AppError.validation.inj same)
  rw [String.toList_append] at texts
  exact differs (by rw [texts]; rfl)

variable {pattern : List Char}

theorem otherError_expandInclude
    (missing : expandInclude files path root pattern = .error error) : OtherError error := by
  unfold expandInclude at missing
  dsimp only at missing
  generalize (if (expandHome files.home pattern).head? = some '/' then expandHome files.home pattern
    else joinPath ((parentOf path).getD root) (expandHome files.home pattern)) = place at missing
  split_ifs at missing with wildcard
  · rcases bind_fails_iff.mp missing with unread | ⟨entries, -, missing⟩
    · obtain ⟨message, -, rfl⟩ := mapError_fails_iff.mp unread
      exact otherError_ioError message
    · rcases bind_fails_iff.mp missing with unnamed | ⟨names, -, missing⟩
      · obtain ⟨entry, -, failed⟩ := mapM_fails unnamed
        obtain ⟨message, -, rfl⟩ := mapError_fails_iff.mp failed
        exact otherError_ioError message
      · exact absurd missing pure_not_fails

theorem otherError_includeParts
    (missing : .child (.error error) ∈ includeParts files root path pattern) : OtherError error := by
  unfold includeParts at missing
  cases expanded : expandInclude files path root pattern with
  | error other =>
    rw [expanded] at missing
    cases List.mem_singleton.mp missing
    exact otherError_expandInclude expanded
  | ok includes =>
    rw [expanded] at missing
    obtain ⟨included, -, other⟩ := List.mem_map.mp missing
    cases other

theorem otherError_textParts {current : Option Block} {texts : List (List Char)}
    (missing : .child (.error error) ∈ textParts files root path current texts) : OtherError error := by
  have not_own : ∀ block : Option Block,
      .child (.error error) ∉ block.toList.map (@Traversal.Part.own (List Char) Block AppError) := by
    intro block among
    obtain ⟨_, -, other⟩ := List.mem_map.mp among
    cases other
  induction texts generalizing current with
  | nil => exact absurd missing (not_own current)
  | cons raw texts ih =>
    rw [textParts] at missing
    cases directive : lineDirective raw with
    | none =>
      rw [directive] at missing
      exact ih missing
    | some entry =>
      simp only [directive] at missing
      split_ifs at missing with included host imported
      · rcases List.mem_append.mp missing with inside | later
        · obtain ⟨pattern, -, among⟩ := List.mem_flatMap.mp inside
          exact otherError_includeParts among
        · exact ih later
      · exact ih ((List.mem_append.mp missing).resolve_left (not_own current))
      · exact ih missing
      · exact ih missing

theorem otherError_fault {occurrence : List Char} {events : Meetings}
    (traverses : Traversal.Traverses (configSource files root) [([], .child (.ok occurrence))] events
      (some (.fault error))) : OtherError error := by
  refine Traversal.Traverses.fault ?_ ?_ ?_ ?_ traverses rfl
  · intro path error failed
    rcases bind_fails_iff.mp failed with unnamed | ⟨canonical, -, failed⟩
    · obtain ⟨message, -, rfl⟩ := mapError_fails_iff.mp unnamed
      exact otherError_ioError message
    · rcases bind_fails_iff.mp failed with outside | ⟨_, -, failed⟩
      · obtain ⟨-, rfl⟩ := ensure_fails_iff.mp outside
        exact otherError_validation (by decide)
      · exact absurd failed pure_not_fails
  · intro node error failed
    rcases bind_fails_iff.mp failed with unread | ⟨text, -, failed⟩
    · obtain ⟨message, -, rfl⟩ := mapError_fails_iff.mp unread
      exact otherError_ioError message
    · rcases bind_fails_iff.mp failed with large | ⟨_, -, failed⟩
      · obtain ⟨-, rfl⟩ := ensure_fails_iff.mp large
        exact otherError_validation (by decide)
      · exact absurd failed pure_not_fails
  · intro node parts error loaded missing
    simp only [configSource, bind_eq_ok, ensure_eq_ok, pure_eq_ok] at loaded
    obtain ⟨text, -, -, -, rfl⟩ := loaded
    exact otherError_textParts missing
  · intro stack error missing
    cases List.mem_singleton.mp missing

end Errors

/-- From a file on the occurrences of files are worked off in their order, down to an ending. -/
def Follows (files : ConfigFiles) (root path : List Char) (events : Meetings)
    (ending : Option Stop) : Prop :=
  Traversal.Traverses (configSource files (canonicalRoot files root)) [([], .child (.ok path))] events ending

/-- From a file on a chain of includes leads to a file that is being parsed. -/
def ComesBack (files : ConfigFiles) (root path node : List Char) : Prop :=
  Traversal.Reenters (configSource files (canonicalRoot files root)) [] path node

/-- What the parsing of a file says of the includes from it on. -/
structure Parsed (files : ConfigFiles) (root path : List Char) (blocks : List Block)
    (result : Except Halt ParseState) : Prop where
  ends : result ≠ .error .tooDeep
  whole : ∀ state, result = .ok state ↔
    ∃ events, Follows files root path events none ∧ state = ⟨[], blocks ++ Traversal.items events⟩
  cycle : ∀ node, result = .error (.error (includeCycle node)) ↔
    ∃ events, Follows files root path events (some (.again node))
  chain : ∀ node, result = .error (.error (includeCycle node)) → ComesBack files root path node
  detected : (∀ events error, ¬Follows files root path events (some (.fault error))) →
    (∃ node, ComesBack files root path node) → ∃ node, result = .error (.error (includeCycle node))
  other : ∀ error, OtherError error → (result = .error (.error error) ↔
    ∃ events, Follows files root path events (some (.fault error)))

section Outcome

variable {files : ConfigFiles} {root path : List Char} {blocks : List Block}

variable {events : Meetings}

theorem Follows.not_comesBack (follows : Follows files root path events none)
    (node : List Char) : ¬ComesBack files root path node :=
  Traversal.Traverses.not_reenters follows rfl List.mem_cons_self node

theorem Follows.comesBack {node : List Char}
    (follows : Follows files root path events (some (.again node))) : ComesBack files root path node := by
  obtain ⟨stack, occurrence, member, chain⟩ := Traversal.Traverses.reenters follows rfl
  cases List.mem_singleton.mp member
  exact chain

/-- What is reported of a visit that does not run into its bound says how the includes are worked off. -/
theorem parsed_report {depth : Nat}
    (bounded : Traversal.visit (configSource files (canonicalRoot files root)) depth [] path ≠ .error .tooDeep) :
    Parsed files root path blocks
      (report ⟨[], blocks⟩ (Traversal.visit (configSource files (canonicalRoot files root)) depth [] path)) := by
  -- There is one way in which the occurrences are worked off, so each field reads off its ending.
  cases visited : Traversal.visit (configSource files (canonicalRoot files root)) depth [] path with
  | ok events =>
    have follows : Follows files root path events none := (Traversal.visit_ok_iff bounded).mp visited
    refine ⟨fun same => ?_, fun state => ⟨fun same => ?_, ?_⟩, fun node => ⟨fun same => ?_, ?_⟩, fun node same => ?_,
      ?_, fun error known => ⟨fun same => ?_, ?_⟩⟩
    · cases same
    · exact ⟨events, follows, (Except.ok.inj same).symm⟩
    · rintro ⟨events', follows', rfl⟩
      obtain ⟨rfl, -⟩ := Traversal.Traverses.unique follows follows'
      rfl
    · cases same
    · rintro ⟨_, follows'⟩
      cases (Traversal.Traverses.unique follows follows').2
    · cases same
    · rintro - ⟨node, back⟩
      exact absurd back (follows.not_comesBack node)
    · cases same
    · rintro ⟨_, follows'⟩
      cases (Traversal.Traverses.unique follows follows').2
  | error failure =>
    obtain ⟨events, follows⟩ := (Traversal.visit_error_iff bounded).mp visited
    cases failure with
    | tooDeep => exact absurd visited bounded
    | again node =>
      refine ⟨fun same => ?_, fun state => ⟨fun same => ?_, ?_⟩, fun other => ⟨fun same => ?_, ?_⟩,
        fun other same => ?_, fun _ _ => ⟨node, rfl⟩, fun error known => ⟨fun same => ?_, ?_⟩⟩
      · cases same
      · cases same
      · rintro ⟨_, follows', -⟩
        cases (Traversal.Traverses.unique follows follows').2
      · obtain rfl := includeCycle_inj (Halt.error.inj (Except.error.inj same))
        exact ⟨events, follows⟩
      · rintro ⟨_, follows'⟩
        cases (Traversal.Traverses.unique follows follows').2
        rfl
      · obtain rfl := includeCycle_inj (Halt.error.inj (Except.error.inj same))
        exact Follows.comesBack follows
      · exact absurd (Halt.error.inj (Except.error.inj same)).symm (known node)
      · rintro ⟨_, follows'⟩
        cases (Traversal.Traverses.unique follows follows').2
    | fault error =>
      have differs := otherError_fault follows
      refine ⟨fun same => ?_, fun state => ⟨fun same => ?_, ?_⟩, fun node => ⟨fun same => ?_, ?_⟩,
        fun node same => ?_, fun faultless => absurd follows (faultless events error),
        fun other known => ⟨fun same => ?_, ?_⟩⟩
      · cases same
      · cases same
      · rintro ⟨_, follows', -⟩
        cases (Traversal.Traverses.unique follows follows').2
      · exact absurd (Halt.error.inj (Except.error.inj same)) (differs node)
      · rintro ⟨_, follows'⟩
        cases (Traversal.Traverses.unique follows follows').2
      · exact absurd (Halt.error.inj (Except.error.inj same)) (differs node)
      · obtain rfl := Halt.error.inj (Except.error.inj same)
        exact ⟨events, follows⟩
      · rintro ⟨_, follows'⟩
        cases (Traversal.Traverses.unique follows follows').2
        rfl

/-- The parsing of a file ends, at the first file that is being parsed already or with the first other error. -/
theorem parsing_ends (files : ConfigFiles) (root : List Char) (all : List (List Char))
    (finite : ∀ path canonical, files.canonicalize path = .ok canonical →
      components (canonicalRoot files root) <+: components canonical → canonical ∈ all)
    (path : List Char) (blocks : List Block) :
    ∃ result, (∀ depth, all.length < depth → parseFile files root depth path ⟨[], blocks⟩ = result) ∧
      Parsed files root path blocks result := by
  have resolved : ∀ occurrence node, (configSource files (canonicalRoot files root)).resolve occurrence = .ok node →
      node ∈ all := by
    intro occurrence node found
    simp only [configSource, bind_eq_ok, mapError_eq_ok, ensure_eq_ok, pure_eq_ok] at found
    obtain ⟨canonical, named, _, below, rfl⟩ := found
    exact finite occurrence canonical named below
  have bounded : ∀ depth, all.length < depth →
      Traversal.visit (configSource files (canonicalRoot files root)) depth [] path ≠ .error .tooDeep :=
    fun depth enough => Traversal.visit_ne_tooDeep resolved List.nodup_nil (List.nil_subset _) (by simpa using enough)
  refine ⟨_, fun depth enough => ?_, parsed_report (bounded (all.length + 1) (Nat.lt_succ_self _))⟩
  rw [parseFile_canonicalRoot, parseFile_eq files (canonicalRoot_canonicalRoot files root),
    Traversal.visit_unique (bounded (all.length + 1) (Nat.lt_succ_self _)) (bounded depth enough)]

end Outcome

namespace Demo

/-- Files with these texts below `/r`, and `/x` outside of it. -/
def included (texts : List (List Char × List Char)) : ConfigFiles where
  home := none
  canonicalize path :=
    if (["/r", "/r/a", "/r/b", "/x"].map String.toList).contains path then .ok path else .error "missing"
  canonicalized path canonical named := by
    split_ifs at named with known
    obtain rfl := Except.ok.inj named
    rw [if_pos known]
  pathExists _ := true
  readToString path := (texts.lookup path).elim (.error "missing") .ok
  readDir _ := .error "missing"

def twice : ConfigFiles :=
  included [("/r/a".toList, "Include /r/b\nInclude /r/b".toList), ("/r/b".toList, "Host b".toList)]

def outsideFirst : ConfigFiles := included [("/r/a".toList, "Include /x\nInclude /r/a".toList)]

/-- What is included twice is parsed twice, as it includes nothing itself. -/
theorem parsing_ends_twice :
    ∃ result, (∀ depth, 4 < depth → parseFile twice "/r".toList depth "/r/a".toList ⟨[], []⟩ = result) ∧
      Parsed twice "/r".toList "/r/a".toList [] result :=
  parsing_ends twice "/r".toList (["/r", "/r/a", "/r/b", "/x"].map String.toList) (by
    intro path canonical named _
    simp only [twice, included] at named
    split_ifs at named with known
    obtain rfl := Except.ok.inj named
    exact List.contains_iff_mem.mp known) "/r/a".toList []

/-- A chain of includes comes back to the file, and yet the error is that of the file outside of the root before it. -/
theorem outside_before_cycle :
    ComesBack outsideFirst "/r".toList "/r/a".toList "/r/a".toList ∧
      ∀ depth, parseFile outsideFirst "/r".toList (depth + 2) "/r/a".toList ⟨[], []⟩ =
        .error (.error (.validation "Include 路径越出 ~/.ssh")) := by
  have resolved : (configSource outsideFirst (canonicalRoot outsideFirst "/r".toList)).resolve "/r/a".toList =
      .ok "/r/a".toList := by rfl
  have loaded : (configSource outsideFirst (canonicalRoot outsideFirst "/r".toList)).load "/r/a".toList =
      .ok [.child (.ok "/x".toList), .child (.ok "/r/a".toList)] := by rfl
  refine ⟨.deeper resolved List.not_mem_nil loaded ?_ (.here resolved List.mem_cons_self), ?_⟩
  · exact List.mem_cons_of_mem _ List.mem_cons_self
  · intro depth
    rfl

end Demo

end Ssh

end CNShell
