import CNShell.Client.Models
import CNShell.Library.Checked
import CNShell.Library.Paths
import CNShell.Library.Words

/-! Remote paths of MCP requests: their normal form, and which of them lie within a granted root. -/

namespace CNShell

namespace Mcp

open Client (AppError AppResult)

/-- A part of a path as the standard library reads it on Unix. -/
inductive Component
  | rootDir
  | curDir
  | parentDir
  | normal (value : List Char)
  deriving DecidableEq, Repr

/-- The parts of a path: an absolute one starts with the root, and only a relative one can start with `.`. -/
def pathComponents (path : List Char) : List Component :=
  (if path.head? = some '/' then [.rootDir] else if (path.splitOn '/').head? = some ['.'] then [.curDir] else []) ++
    (components path).map fun name => if name = ['.', '.'] then .parentDir else .normal name

/-- What a part of a path adds to the names before it. -/
def pushComponent (parts : List (List Char)) : Component → AppResult (List (List Char))
  | .rootDir | .curDir => .ok parts
  | .normal value => do
    ensure (¬(value = ['.'] ∨ value = ['.', '.'])) (.validation "MCP 路径不能包含父目录跳转")
    return parts ++ [value]
  | .parentDir => .error (.validation "MCP 远端路径无效")

def normalizeRemotePath (path : String) : AppResult String := do
  ensure (¬(path = "" ∨ 32 * 1024 < path.utf8ByteSize ∨ path.toList.contains '\x00' = true ∨
    path.toList.head? ≠ some '/')) (.validation "MCP 远端路径必须是长度受限的绝对路径")
  let parts ← (pathComponents path.toList).foldlM pushComponent []
  return if parts = [] then "/" else "/" ++ String.ofList (['/'].intercalate parts)

/-- Whether a path is a root or lies below it, by their texts. -/
def remotePathIsWithin (path root : String) : Bool :=
  root == "/" || path == root ||
    (stripPrefix root path).any fun rest => rest.toList.head? == some '/'

section Normal

variable {path root normal : String}

theorem foldlM_pushComponent {names parts after : List (List Char)} (known : ∀ name ∈ names, name ≠ ['.']) :
    (names.map fun name => if name = ['.', '.'] then Component.parentDir else .normal name).foldlM
      pushComponent parts = .ok after ↔ ['.', '.'] ∉ names ∧ after = parts ++ names := by
  induction names generalizing parts with
  | nil =>
    rw [List.map_nil, List.foldlM_nil, pure_eq_ok]
    simp [eq_comm]
  | cons name rest ih =>
    have others : ∀ name ∈ rest, name ≠ ['.'] := fun name member => known name (List.mem_cons_of_mem _ member)
    rw [List.map_cons, foldlM_cons_ok]
    by_cases up : name = ['.', '.']
    · simp [up, pushComponent]
    · have pushed : pushComponent parts (.normal name) = .ok (parts ++ [name]) := by
        rw [pushComponent, ensure_of (by simp [up, known name List.mem_cons_self])]
        rfl
      simp [up, Ne.symm up, pushed, ih others]

theorem normalizeRemotePath_ok : normalizeRemotePath path = .ok normal ↔
    (path.utf8ByteSize ≤ 32 * 1024 ∧ '\x00' ∉ path.toList ∧ path.toList.head? = some '/') ∧
      ['.', '.'] ∉ components path.toList ∧ normal = String.ofList (absolute (components path.toList)) := by
  have known : ∀ name ∈ components path.toList, name ≠ ['.'] := fun name member =>
    (whole_of_mem_components member).2.2
  have text : ∀ parts : List (List Char), (if parts = [] then "/" else
      "/" ++ String.ofList (['/'].intercalate parts)) = String.ofList (absolute parts) := by
    intro parts
    apply String.toList_inj.mp
    cases parts with
    | nil => rfl
    | cons first rest => simp [absolute]
  rw [normalizeRemotePath, bind_eq_ok]
  simp only [ensure_eq_ok, bind_eq_ok, exists_const]
  constructor
  · rintro ⟨passed, parts, pushed, done⟩
    simp only [not_or, not_lt, not_not] at passed
    obtain ⟨-, size, zero, slash⟩ := passed
    rw [pathComponents, if_pos slash, List.singleton_append, foldlM_cons_ok] at pushed
    obtain ⟨start, root, pushed⟩ := pushed
    obtain rfl : [] = start := Except.ok.inj root
    obtain ⟨forward, rfl⟩ := (foldlM_pushComponent known).mp pushed
    refine ⟨⟨size, by simpa using zero, slash⟩, forward, ?_⟩
    rw [List.nil_append] at done
    rw [← text]
    exact (pure_eq_ok.mp done).symm
  · rintro ⟨⟨size, zero, slash⟩, forward, rfl⟩
    have filled : path ≠ "" := fun empty => by simp [empty] at slash
    refine ⟨by simp [filled, size, zero, slash], components path.toList, ?_, ?_⟩
    · rw [pathComponents, if_pos slash, List.singleton_append, foldlM_cons_ok]
      exact ⟨[], rfl, (foldlM_pushComponent known).mpr ⟨forward, rfl⟩⟩
    · rw [← text]
      rfl

theorem names_of_normalizeRemotePath (accepted : normalizeRemotePath path = .ok normal) :
    components normal.toList = components path.toList ∧ (∀ name ∈ components path.toList, Plain name) ∧
      normal.toList = absolute (components path.toList) := by
  obtain ⟨-, forward, rfl⟩ := normalizeRemotePath_ok.mp accepted
  have plain : ∀ name ∈ components path.toList, Plain name := fun name member =>
    plain_of_mem_components member fun up => forward (up ▸ member)
  rw [String.toList_ofList]
  exact ⟨components_absolute plain, plain, rfl⟩

theorem intercalate_filter_sublist (kept : List Char → Bool) (names : List (List Char)) :
    (['/'].intercalate (names.filter kept)).Sublist (['/'].intercalate names) := by
  induction names with
  | nil => exact List.Sublist.refl []
  | cons name rest ih =>
    -- Behind the first name comes a slash, as long as there are others.
    have front : (['/'].intercalate rest).Sublist (['/'].intercalate (name :: rest)) := by
      cases rest with
      | nil => exact List.nil_sublist _
      | cons second rest =>
        rw [List.intercalate_cons_cons]
        exact List.sublist_append_right _ _
    cases keep : kept name with
    | false =>
      rw [List.filter_cons_of_neg (by simp [keep])]
      exact ih.trans front
    | true =>
      rw [List.filter_cons_of_pos keep]
      cases rest with
      | nil => exact List.Sublist.refl _
      | cons second rest =>
        rw [List.intercalate_cons_cons]
        cases others : (second :: rest).filter kept with
        | nil =>
          rw [List.intercalate_singleton, List.append_assoc]
          exact List.sublist_append_left _ _
        | cons third more =>
          rw [List.intercalate_cons_cons, ← others]
          exact ih.append_left _

theorem absolute_components_sublist {chars : List Char} (slash : chars.head? = some '/') :
    (absolute (components chars)).Sublist chars := by
  obtain ⟨rest, rfl⟩ := List.head?_eq_some_iff.mp slash
  rw [components_cons_slash, absolute]
  refine List.Sublist.cons_cons '/' ?_
  have whole : List.intercalate ['/'] (rest.splitOn '/') = rest := List.intercalate_splitOn '/'
  conv_rhs => rw [← whole]
  exact intercalate_filter_sublist _ _

theorem normalizeRemotePath_idempotent (accepted : normalizeRemotePath path = .ok normal) :
    normalizeRemotePath normal = .ok normal := by
  obtain ⟨⟨size, zero, slash⟩, forward, same⟩ := normalizeRemotePath_ok.mp accepted
  obtain ⟨names, -, text⟩ := names_of_normalizeRemotePath accepted
  have sublist := absolute_components_sublist slash
  refine normalizeRemotePath_ok.mpr ⟨⟨?_, ?_, ?_⟩, ?_, ?_⟩
  · have fewer := utf8ByteSize_le_of_sublist sublist
    rw [String.ofList_toList, ← same] at fewer
    omega
  · rw [text]
    exact fun member => zero (sublist.subset member)
  · rw [text]
    rfl
  · rwa [names]
  · rw [names, ← text, String.ofList_toList]

end Normal

section Within

variable {path root : String} {first more names roots : List (List Char)}

theorem absolute_append (filled : first ≠ []) (longer : more ≠ []) :
    absolute (first ++ more) = absolute first ++ absolute more := by
  induction first with
  | nil => exact absurd rfl filled
  | cons name rest ih =>
    cases rest with
    | nil =>
      obtain ⟨second, others, rfl⟩ := List.exists_cons_of_ne_nil longer
      simp [absolute, List.intercalate_cons_cons]
    | cons second rest =>
      have further := ih (by simp)
      simp only [absolute, List.cons_append, List.intercalate_cons_cons, List.cons.injEq, true_and] at further ⊢
      simp [further]

theorem remotePathIsWithin_eq_true : remotePathIsWithin path root = true ↔
    root = "/" ∨ path = root ∨ ∃ rest, path.toList = root.toList ++ '/' :: rest := by
  have behind : ((stripPrefix root path).any fun rest => rest.toList.head? == some '/') = true ↔
      ∃ rest, path.toList = root.toList ++ '/' :: rest := by
    unfold stripPrefix
    split
    · next leads =>
      obtain ⟨rest, same⟩ := leads
      rw [← same]
      simp only [Option.any_some, String.toList_ofList, beq_iff_eq, ← String.length_toList, List.drop_left,
        List.head?_eq_some_iff, List.append_cancel_left_eq]
    · next apart =>
      simp only [Option.any_none, Bool.false_eq_true, false_iff, not_exists]
      exact fun rest same => apart ⟨_, same.symm⟩
  simp only [remotePathIsWithin, Bool.or_eq_true, beq_iff_eq, behind, or_assoc]

theorem remotePathIsWithin_absolute (plain : ∀ name ∈ names, Plain name) (plain' : ∀ name ∈ roots, Plain name) :
    remotePathIsWithin (String.ofList (absolute names)) (String.ofList (absolute roots)) = true ↔
      roots <+: names := by
  rw [remotePathIsWithin_eq_true]
  simp only [String.toList_ofList]
  constructor
  · rintro (root | same | ⟨rest, same⟩)
    · have text : absolute roots = ['/'] := by simpa using congrArg String.toList root
      have none : roots = [] := by
        rw [← components_absolute plain', text]
        rfl
      rw [none]
      exact List.nil_prefix
    · have text : absolute names = absolute roots := by simpa using congrArg String.toList same
      rw [← components_absolute plain, ← components_absolute plain', text]
    · rw [← components_absolute plain, same, components_slash, components_absolute plain']
      exact List.prefix_append _ _
  · rintro ⟨more, rfl⟩
    -- What comes after the root's names is put behind a slash, unless the root is `/` itself.
    rcases eq_or_ne roots [] with rfl | filled
    · exact .inl rfl
    · rcases eq_or_ne more [] with rfl | longer
      · exact .inr (.inl (by rw [List.append_nil]))
      · exact .inr (.inr ⟨_, absolute_append filled longer⟩)

end Within

/-- What normal forms are good for: nothing in them leads elsewhere, and the test of the texts goes by names. -/
structure Scoped (path root normalPath normalRoot : String) : Prop where
  idempotent : normalizeRemotePath normalPath = .ok normalPath
  names : components normalPath.toList = components path.toList
  text : normalPath.toList = absolute (components path.toList)
  plain : ∀ name ∈ components path.toList, name ≠ [] ∧ name ≠ ['.'] ∧ name ≠ ['.', '.']
  within : remotePathIsWithin normalPath normalRoot = true ↔ components root.toList <+: components path.toList

/-- The normal forms of a path and a root are scoped by their names. -/
theorem scoped_of_normalizeRemotePath {path root normalPath normalRoot : String}
    (accepted : normalizeRemotePath path = .ok normalPath) (accepted' : normalizeRemotePath root = .ok normalRoot) :
    Scoped path root normalPath normalRoot := by
  obtain ⟨names, plain, text⟩ := names_of_normalizeRemotePath accepted
  obtain ⟨-, plain', text'⟩ := names_of_normalizeRemotePath accepted'
  refine ⟨normalizeRemotePath_idempotent accepted, names, text, fun name member => ?_, ?_⟩
  · exact ⟨(plain name member).filled, (plain name member).entry⟩
  · rw [← String.ofList_toList (s := normalPath), ← String.ofList_toList (s := normalRoot), text, text']
    exact remotePathIsWithin_absolute plain plain'

/-- As they were given, a path and a root are not compared by their names: the slash at the end counts. -/
theorem within_trailing_slash : ¬∀ path root normalPath normalRoot : String,
    normalizeRemotePath path = .ok normalPath → normalizeRemotePath root = .ok normalRoot →
      (remotePathIsWithin path root = true ↔ components root.toList <+: components path.toList) := by
  intro always
  have same := always "/var/log" "/var/" "/var/log" "/var" (by decide) (by decide)
  revert same
  decide

/-- A log directory lies within `/var`, however the two are spelled. -/
theorem scoped_log : Scoped "//var///log/." "/var/" "/var/log" "/var" :=
  scoped_of_normalizeRemotePath (by decide) (by decide)

end Mcp

end CNShell
