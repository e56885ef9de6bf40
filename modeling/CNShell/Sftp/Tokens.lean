import CNShell.Sftp.Paths
import CNShell.Sftp.TextPages

/-! Remote paths as bytes, and the texts that stand for them: the path itself, or a token where it is no text. -/

namespace CNShell

namespace Sftp

open Client (AppError AppResult)

namespace Tokens

/-- A path of a Unix server: any bytes. -/
abbrev RawPath := List UInt8

def slash : UInt8 := 0x2f

def dot : UInt8 := 0x2e

def maxPathBytes : Nat := 16 * 1024

/-- The text that stands for a path. -/
def wirePath (path : RawPath) : String :=
  match fromUtf8 path with
  | some text => text
  | none => String.ofList (rawPathPrefix ++ Base64.encode path)

/-- The path that a text stands for. -/
def remotePath (path : String) : AppResult RawPath :=
  if rawPathPrefix <+: path.toList then
    match Base64.decode (path.toList.drop rawPathPrefix.length) with
    | none => .error (.validation "远端原始路径令牌无效")
    | some bytes =>
      if bytes = [] ∨ maxPathBytes < bytes.length ∨ 0 ∈ bytes ∨ bytes.head? ≠ some slash then
        .error (.validation "远端原始路径令牌无效")
      else .ok bytes
  else if path = "" ∨ maxPathBytes < path.utf8ByteSize ∨ Char.ofNat 0 ∈ path.toList ∨ path.toList.head? ≠ some '/' then
    .error (.validation "远端路径必须是 16 KB 以内的绝对路径")
  else .ok (utf8 path)

/-- What is left of the bytes before the end when names that stand for the directory itself are dropped there. -/
def trimBack : List UInt8 → List UInt8
  | 0x2f :: rest => trimBack rest
  | [0x2e] => []
  | 0x2e :: 0x2f :: rest => trimBack rest
  | back => back

/-- The parent of an absolute path, without the names at its end that stand for the directory itself. -/
def parent (path : RawPath) : Option RawPath :=
  let back := trimBack (path.drop 1).reverse
  if back = [] then none else some (slash :: (trimBack ((back.dropWhile (· ≠ slash)).drop 1)).reverse)

def push (path : RawPath) (name : List UInt8) : RawPath :=
  if path = [] ∨ path.getLast? = some slash then path ++ name else path ++ slash :: name

def trimSlashes (path : RawPath) : RawPath := path.rdropWhile (· = slash)

/-- The directory of what a text stands for. -/
def remoteParentPath (path : String) : AppResult RawPath := do
  if rawPathPrefix <+: path.toList then
    let decoded ← remotePath path
    return (parent decoded).getD [slash]
  let _ ← remotePath path
  let trimmed := if 1 < path.utf8ByteSize then trimSlashes (utf8 path) else utf8 path
  let directory := (trimmed.rdropWhile (· ≠ slash)).dropLast
  return if directory = [] then [slash] else directory

/-- What a name in a directory stands for. -/
def remoteChildPath (parent name : String) : AppResult RawPath := do
  if rawPathPrefix <+: parent.toList then
    let decoded ← remotePath parent
    return push decoded (utf8 name)
  let _ ← remotePath parent
  return if parent = "/" then slash :: utf8 name else trimSlashes (utf8 parent) ++ slash :: utf8 name

/-- The text that stands for a name in a directory. -/
def joinPath (parent name : String) : AppResult String := do
  ensure (¬(name = "" ∨ 4096 < name.utf8ByteSize ∨ Char.ofNat 0 ∈ name.toList ∨ '/' ∈ name.toList ∨ name = "." ∨
    name = "..")) (.validation "远端文件名无效")
  let child ← remoteChildPath parent name
  return wirePath child

structure Absolute (path : RawPath) : Prop where
  rooted : path.head? = some slash
  plain : 0 ∉ path
  short : path.length ≤ maxPathBytes

section Laws

variable {path other : RawPath} {text : String}

theorem head_rawPathPrefix {chars : List Char} (token : rawPathPrefix <+: chars) : chars.head? = some 'c' := by
  obtain ⟨rest, rfl⟩ := token
  rfl

theorem remotePath_text (plain : ¬rawPathPrefix <+: text.toList) :
    remotePath text = .ok path ↔ path = utf8 text ∧ Absolute path := by
  have nul : (0 : UInt8) ∈ utf8 text ↔ Char.ofNat 0 ∈ text.toList := @mem_utf8_iff text (Char.ofNat 0) (by decide)
  have first : (utf8 text).head? = some slash ↔ text.toList.head? = some '/' := @head_utf8_iff text '/' (by decide)
  rw [remotePath, if_neg plain]
  split
  · next bad =>
    refine iff_of_false (by simp) ?_
    rintro ⟨rfl, rooted, whole, short⟩
    rcases bad with rfl | long | null | relative
    · cases rooted
    · rw [length_utf8] at short
      omega
    · exact whole (nul.mpr null)
    · exact relative (first.mp rooted)
  · next good =>
    simp only [not_or, not_not] at good
    rw [Except.ok.injEq, eq_comm]
    refine ⟨fun same => ⟨same, ?_⟩, And.left⟩
    rw [same]
    exact ⟨first.mpr good.2.2.2, fun null => good.2.2.1 (nul.mp null), by rw [length_utf8]; omega⟩

theorem remotePath_token (token : rawPathPrefix <+: text.toList) :
    remotePath text = .ok path ↔
      Base64.decode (text.toList.drop rawPathPrefix.length) = some path ∧ Absolute path := by
  rw [remotePath, if_pos token]
  cases Base64.decode (text.toList.drop rawPathPrefix.length) with
  | none => simp
  | some bytes =>
    show (if _ then _ else _) = _ ↔ _
    split
    · next bad =>
      refine iff_of_false (by simp) ?_
      rintro ⟨same, rooted, whole, short⟩
      obtain rfl := Option.some.inj same
      rcases bad with rfl | long | null | relative
      · cases rooted
      · omega
      · exact whole null
      · exact relative rooted
    · next good =>
      simp only [not_or, not_not] at good
      rw [Except.ok.injEq, Option.some.injEq]
      refine ⟨fun same => ⟨same, ?_⟩, And.left⟩
      rw [← same]
      exact ⟨good.2.2.2, good.2.2.1, by omega⟩

theorem absolute_of_remotePath (found : remotePath text = .ok path) : Absolute path := by
  by_cases token : rawPathPrefix <+: text.toList
  · exact ((remotePath_token token).mp found).2
  · exact ((remotePath_text token).mp found).2

theorem not_token_of_utf8 (rooted : (utf8 text).head? = some slash) : ¬rawPathPrefix <+: text.toList := fun token => by
  have first : text.toList.head? = some '/' := (@head_utf8_iff text '/' (by decide)).mp rooted
  rw [head_rawPathPrefix token] at first
  cases first

theorem remotePath_wirePath (absolute : Absolute path) : remotePath (wirePath path) = .ok path := by
  unfold wirePath
  split
  · next text read =>
    obtain rfl := utf8_of_fromUtf8 read
    exact (remotePath_text (not_token_of_utf8 absolute.rooted)).mpr ⟨rfl, absolute⟩
  · -- Any other path is in the token.
    refine (remotePath_token ?_).mpr ⟨?_, absolute⟩
    · rw [String.toList_ofList]
      exact List.prefix_append _ _
    · rw [String.toList_ofList, List.drop_left, Base64.decode_encode]

theorem wirePath_inj (absolute : Absolute path) (another : Absolute other) (same : wirePath path = wirePath other) :
    path = other := by
  have read := remotePath_wirePath absolute
  rw [same, remotePath_wirePath another] at read
  exact (Except.ok.inj read).symm

/-- A path ends in a name that stands for the directory itself. -/
def EndsInDot (path : RawPath) : Prop := [slash, dot] <:+ trimSlashes path

/-- A name that can be joined, as its bytes. -/
structure Name (name : List UInt8) : Prop where
  filled : name ≠ []
  whole : slash ∉ name
  plain : 0 ∉ name
  proper : name ≠ [dot]

theorem remoteChildPath_ok {directory : RawPath} {name : String} (found : remotePath text = .ok directory) :
    ∃ base, base <+: directory ∧ trimSlashes base = trimSlashes directory ∧
      remoteChildPath text name = .ok (base ++ slash :: utf8 name) := by
  have absolute := absolute_of_remotePath found
  by_cases token : rawPathPrefix <+: text.toList
  · have joined : remoteChildPath text name = .ok (push directory (utf8 name)) := by
      rw [remoteChildPath, if_pos token, found]
      rfl
    rw [joined, push]
    split
    · next ends =>
      have filled : directory ≠ [] := by
        rintro rfl
        cases absolute.rooted
      have last := ends.resolve_left filled
      refine ⟨directory.dropLast, List.dropLast_prefix _, ?_, ?_⟩
      · conv_rhs => rw [← List.dropLast_append_getLast? _ last, trimSlashes]
        exact (List.rdropWhile_concat_pos _ _ _ (by simp)).symm
      · conv_lhs => rw [← List.dropLast_append_getLast? _ last]
        simp
    · exact ⟨directory, List.prefix_rfl, rfl, rfl⟩
  · obtain ⟨rfl, -⟩ := (remotePath_text token).mp found
    have joined : remoteChildPath text name =
        .ok (if text = "/" then slash :: utf8 name else trimSlashes (utf8 text) ++ slash :: utf8 name) := by
      rw [remoteChildPath, if_neg token, found]
      rfl
    refine ⟨trimSlashes (utf8 text), List.rdropWhile_prefix _ _, List.rdropWhile_idempotent _ _, ?_⟩
    rw [joined]
    split
    · next root =>
      subst root
      rfl
    · rfl

theorem rdropWhile_append_of_pos {α : Type} {goes : α → Bool} {first last : List α}
    (all : ∀ value ∈ last, goes value = true) : (first ++ last).rdropWhile goes = first.rdropWhile goes := by
  rw [List.rdropWhile, List.reverse_append, List.dropWhile_append_of_pos fun value member =>
    all value (List.mem_reverse.mp member)]
  rfl

theorem directory_of_child {base name : List UInt8} (named : Name name) :
    trimSlashes (base ++ slash :: name) = base ++ slash :: name ∧
      (base ++ slash :: name).rdropWhile (· ≠ slash) = base ++ [slash] := by
  constructor
  · rcases List.eq_nil_or_concat name with empty | ⟨first, last, rfl⟩
    · exact absurd empty named.filled
    · have other : last ≠ slash := by
        rintro rfl
        exact named.whole (by simp)
      rw [List.concat_eq_append, ← List.cons_append, ← List.append_assoc, trimSlashes]
      exact List.rdropWhile_concat_neg _ _ _ (by simpa using other)
  · have others : ∀ byte ∈ name, decide (byte ≠ slash) = true := fun byte member =>
      decide_eq_true fun same => named.whole (same ▸ member)
    rw [List.append_cons, rdropWhile_append_of_pos others]
    exact List.rdropWhile_concat_neg _ _ _ (by simp)

theorem trimBack_eq {back : List UInt8} (one : back.dropWhile (· = slash) ≠ [dot])
    (more : ¬[dot, slash] <+: back.dropWhile (· = slash)) : trimBack back = back.dropWhile (· = slash) := by
  fun_induction trimBack back with
  | case1 rest ih =>
    have step : (0x2f :: rest).dropWhile (· = slash) = rest.dropWhile (· = slash) :=
      List.dropWhile_cons_of_pos (by decide)
    rw [step] at one more ⊢
    exact ih one more
  | case2 => exact absurd rfl one
  | case3 rest ih => exact absurd ⟨rest, rfl⟩ more
  | case4 back other single double =>
    cases back with
    | nil => rfl
    | cons first rest =>
      refine (List.dropWhile_cons_of_neg ?_).symm
      simp only [decide_eq_true_eq]
      rintro rfl
      exact other rest rfl

theorem trimSlashes_root (body : List UInt8) :
    trimSlashes (slash :: body.rdropWhile (· = slash)) = trimSlashes (slash :: body) := by
  have gone : ∀ byte ∈ body.rtakeWhile (· = slash), decide (byte = slash) = true := fun byte member => by
    have same := List.mem_rtakeWhile_imp member
    exact same
  have parts : slash :: body = slash :: body.rdropWhile (· = slash) ++ body.rtakeWhile (· = slash) := by
    rw [List.cons_append, List.rdropWhile_append_rtakeWhile]
  conv_rhs => rw [parts]
  exact (rdropWhile_append_of_pos gone).symm

theorem trimBack_directory {body : List UInt8} (ends : ¬EndsInDot (slash :: body)) :
    trimBack body.reverse = body.reverse.dropWhile (· = slash) := by
  have trimmed : (body.reverse.dropWhile (· = slash)).reverse = body.rdropWhile (· = slash) := rfl
  refine trimBack_eq (fun only => ends ?_) fun begins => ends ?_
  · rw [only] at trimmed
    rw [EndsInDot, ← trimSlashes_root, ← trimmed]
    exact List.suffix_rfl
  · obtain ⟨rest, same⟩ := begins
    rw [← same, List.reverse_append] at trimmed
    rw [EndsInDot, ← trimSlashes_root, ← trimmed, ← List.cons_append]
    have last : trimSlashes (slash :: rest.reverse ++ [slash] ++ [dot]) = slash :: rest.reverse ++ [slash] ++ [dot] :=
      List.rdropWhile_concat_neg _ _ _ (by decide)
    exact ⟨slash :: rest.reverse, by simpa using last.symm⟩

variable {name : List UInt8}

theorem trimBack_name {rest : List UInt8} (named : Name name) :
    trimBack (name.reverse ++ slash :: rest) = name.reverse ++ slash :: rest := by
  have others : ∀ byte ∈ name.reverse, byte ≠ slash := fun byte member same =>
    named.whole (same ▸ List.mem_reverse.mp member)
  have filled : name.reverse ≠ [] := by simpa using named.filled
  obtain ⟨first, more, same⟩ := List.exists_cons_of_ne_nil filled
  have still : (name.reverse ++ slash :: rest).dropWhile (· = slash) = name.reverse ++ slash :: rest := by
    rw [same, List.cons_append]
    exact List.dropWhile_cons_of_neg (by simpa using others first (by simp [same]))
  rw [trimBack_eq ?_ ?_, still]
  · rw [still]
    intro only
    have length := congrArg List.length only
    have some_byte := List.length_pos_of_ne_nil filled
    simp only [List.length_append, List.length_cons, List.length_nil] at length
    omega
  · -- A name of one dot is not proper, and a longer one has no slash.
    rw [still, same]
    intro begins
    cases more with
    | nil =>
      have only : name = [first] := by simpa using congrArg List.reverse same
      have firsts : first = dot := by simpa using (List.cons_prefix_cons.mp begins).1.symm
      exact named.proper (by rw [only, firsts])
    | cons second more =>
      have seconds := (List.cons_prefix_cons.mp (List.cons_prefix_cons.mp begins).2).1
      exact others second (by simp [same]) seconds.symm

theorem parent_of_child {body : List UInt8} (named : Name name) (ends : ¬EndsInDot (slash :: body)) :
    parent (slash :: body ++ slash :: name) = some (slash :: body.rdropWhile (· = slash)) := by
  have back : ((slash :: body ++ slash :: name).drop 1).reverse = name.reverse ++ slash :: body.reverse := by simp
  have directory : (name.reverse ++ slash :: body.reverse).dropWhile (· ≠ slash) = slash :: body.reverse := by
    have others : ∀ byte ∈ name.reverse, decide (byte ≠ slash) = true := fun byte member =>
      decide_eq_true fun same => named.whole (same ▸ List.mem_reverse.mp member)
    rw [List.dropWhile_append_of_pos others]
    exact List.dropWhile_cons_of_neg (by simp)
  simp only [parent]
  rw [back, trimBack_name named, if_neg (by simp), directory, List.drop_one, List.tail_cons, trimBack_directory ends]
  rfl

theorem joinPath_ok {name wire : String} (joined : joinPath text name = .ok wire) :
    Name (utf8 name) ∧ ∃ child, remoteChildPath text name = .ok child ∧ wirePath child = wire := by
  have nul : (0 : UInt8) ∈ utf8 name ↔ Char.ofNat 0 ∈ name.toList := @mem_utf8_iff name (Char.ofNat 0) (by decide)
  have slashes : slash ∈ utf8 name ↔ '/' ∈ name.toList := @mem_utf8_iff name '/' (by decide)
  obtain ⟨_, checked, joined⟩ := bind_eq_ok.mp joined
  obtain ⟨child, found, same⟩ := bind_eq_ok.mp joined
  have good := ensure_eq_ok.mp checked
  simp only [not_or] at good
  obtain ⟨filled, -, plain, whole, proper, -⟩ := good
  refine ⟨⟨fun empty => filled (utf8_inj empty), fun member => whole (slashes.mp member),
    fun member => plain (nul.mp member), fun only => proper (utf8_inj only)⟩, child, found, pure_eq_ok.mp same⟩

/-- The directory of a joined path is the one that the name was joined to, up to the slashes at its end. -/
theorem remoteParentPath_child {base : RawPath} {name : String} (named : Name (utf8 name))
    (absolute : Absolute (base ++ slash :: utf8 name)) :
    ∃ directory, remoteParentPath (wirePath (base ++ slash :: utf8 name)) = .ok directory ∧
      (¬(fromUtf8 (base ++ slash :: utf8 name) = none ∧ EndsInDot base) →
        trimSlashes directory = trimSlashes base) := by
  have found := remotePath_wirePath absolute
  cases read : fromUtf8 (base ++ slash :: utf8 name) with
  | some text =>
    -- The joined path is a text, in which the last slash is looked for.
    have written := utf8_of_fromUtf8 read
    have itself : wirePath (base ++ slash :: utf8 name) = text := by
      unfold wirePath
      rw [read]
    have plain : ¬rawPathPrefix <+: text.toList := not_token_of_utf8 (by rw [written]; exact absolute.rooted)
    have long : 1 < text.utf8ByteSize := by
      have some_byte := List.length_pos_of_ne_nil named.filled
      rw [← length_utf8, written, List.length_append, List.length_cons]
      omega
    obtain ⟨kept, cut⟩ := @directory_of_child base _ named
    rw [itself] at found ⊢
    refine ⟨if base = [] then [slash] else base, ?_, fun _ => ?_⟩
    · rw [remoteParentPath, if_neg plain, found]
      simp only [if_pos long, written, kept, cut, List.dropLast_concat]
      rfl
    · split
      · next root =>
        subst root
        rfl
      · rfl
  | none =>
    -- The joined path is in a token, and its parent is taken as that of a path.
    have itself : wirePath (base ++ slash :: utf8 name) =
        String.ofList (rawPathPrefix ++ Base64.encode (base ++ slash :: utf8 name)) := by
      unfold wirePath
      rw [read]
    have token : rawPathPrefix <+: (wirePath (base ++ slash :: utf8 name)).toList := by
      rw [itself, String.toList_ofList]
      exact List.prefix_append _ _
    refine ⟨(parent (base ++ slash :: utf8 name)).getD [slash], ?_, fun ends => ?_⟩
    · rw [remoteParentPath, if_pos token, found]
      rfl
    · have ends : ¬EndsInDot base := fun dots => ends ⟨rfl, dots⟩
      obtain ⟨body, rfl⟩ : ∃ body, base = slash :: body := by
        cases base with
        | nil =>
          -- A name after the root is a text.
          have text := fromUtf8_utf8 ("/" ++ name)
          rw [utf8_append] at text
          exact absurd (read.symm.trans text) (by simp)
        | cons first rest => exact ⟨rest, by rw [Option.some.inj absolute.rooted]⟩
      rw [parent_of_child named ends]
      exact (trimSlashes_root body).trans rfl

theorem absolute_child {base directory : RawPath} (absolute : Absolute directory)
    (begins : base <+: directory) (named : Name name) (short : (base ++ slash :: name).length ≤ maxPathBytes) :
    Absolute (base ++ slash :: name) := by
  refine ⟨?_, ?_, short⟩
  · cases base with
    | nil => rfl
    | cons first rest =>
      obtain ⟨more, rfl⟩ := begins
      exact absolute.rooted
  · intro null
    rcases List.mem_append.mp null with inside | after
    · exact absolute.plain (begins.subset inside)
    · rcases List.mem_cons.mp after with differ | inside
      · exact absurd differ (by decide)
      · exact named.plain inside

/-- What is expected of the text for a name in a directory. -/
def JoinsWell (decoded : RawPath) (name wire : String) : Prop :=
  ∃ base, trimSlashes base = trimSlashes decoded ∧ remotePath wire = .ok (base ++ slash :: utf8 name) ∧
    ∃ parent, remoteParentPath wire = .ok parent ∧ trimSlashes parent = trimSlashes decoded

/--
A path is read back from its text, and different paths have different texts.

A joined path is the directory, up to the slashes at its end, a slash and the name. If it is not too long it is read
back, and its parent is the directory up to the slashes at its end, unless the path is no text and the directory ends in
a name for itself.
-/
theorem paths_round_trip :
    (∀ path, Absolute path → remotePath (wirePath path) = .ok path) ∧
      (∀ path other, Absolute path → Absolute other → wirePath path = wirePath other → path = other) ∧
      ∀ directory decoded name wire, remotePath directory = .ok decoded → joinPath directory name = .ok wire →
        ∃ base, trimSlashes base = trimSlashes decoded ∧ wirePath (base ++ slash :: utf8 name) = wire ∧
          ((base ++ slash :: utf8 name).length ≤ maxPathBytes →
            remotePath wire = .ok (base ++ slash :: utf8 name) ∧
              (¬(fromUtf8 (base ++ slash :: utf8 name) = none ∧ EndsInDot decoded) →
                JoinsWell decoded name wire)) := by
  refine ⟨fun path => remotePath_wirePath, fun path other => wirePath_inj, ?_⟩
  intro directory decoded name wire found joined
  obtain ⟨named, child, made, rfl⟩ := joinPath_ok joined
  obtain ⟨base, begins, same, shape⟩ := @remoteChildPath_ok _ _ name found
  obtain rfl := Except.ok.inj (shape.symm.trans made)
  refine ⟨base, same, rfl, fun short => ?_⟩
  have absolute := absolute_child (absolute_of_remotePath found) begins named short
  obtain ⟨parent, above, back⟩ := remoteParentPath_child named absolute
  refine ⟨remotePath_wirePath absolute, fun good => ⟨base, same, remotePath_wirePath absolute, parent, above, ?_⟩⟩
  rw [EndsInDot, ← same] at good
  exact (back good).trans same

end Laws

namespace Demo

def dotted : RawPath := [0x2f, 0xff, 0x2f, 0x2e]

def long (count : Nat) : String := "/" ++ String.ofList (List.replicate count 'a')

theorem utf8_long (count : Nat) : utf8 (long count) = slash :: List.replicate count 0x61 := by
  have one : utf8 (String.singleton 'a') = [0x61] := by decide
  rw [long, utf8_append, utf8_replicate one]
  rfl

variable {count : Nat}

theorem long_absolute (short : count < maxPathBytes) : Absolute (utf8 (long count)) := by
  rw [utf8_long]
  refine ⟨rfl, fun null => ?_, by rwa [List.length_cons, List.length_replicate]⟩
  rcases List.mem_cons.mp null with differ | member
  · exact absurd differ (by decide)
  · exact absurd (List.eq_of_mem_replicate member) (by decide)

theorem long_found (short : count < maxPathBytes) : remotePath (long count) = .ok (utf8 (long count)) :=
  (remotePath_text (not_token_of_utf8 (long_absolute short).rooted)).mpr ⟨rfl, long_absolute short⟩

theorem long_joined (short : count + 1 < maxPathBytes) :
    joinPath (long (count + 1)) "b" = .ok (long (count + 1) ++ "/b") := by
  have plain := not_token_of_utf8 (long_absolute short).rooted
  have kept : trimSlashes (utf8 (long (count + 1))) = utf8 (long (count + 1)) := by
    rw [utf8_long, List.replicate_succ', ← List.cons_append]
    exact List.rdropWhile_concat_neg _ _ _ (by decide)
  have other : long (count + 1) ≠ "/" := fun same => by
    have bytes := congrArg utf8 same
    rw [utf8_long, List.replicate_succ] at bytes
    cases bytes
  have child : remoteChildPath (long (count + 1)) "b" = .ok (utf8 (long (count + 1) ++ "/b")) := by
    rw [remoteChildPath, if_neg plain, long_found short, utf8_append]
    show Except.ok (if _ then _ else _) = _
    rw [if_neg other, kept]
    rfl
  have text : wirePath (utf8 (long (count + 1) ++ "/b")) = long (count + 1) ++ "/b" := by
    unfold wirePath
    rw [fromUtf8_utf8]
  rw [joinPath]
  refine bind_eq_ok.mpr ⟨(), ensure_eq_ok.mpr (by decide), bind_eq_ok.mpr ⟨_, child, pure_eq_ok.mpr text⟩⟩

/-- The parent of a path in a directory that ends in a name for itself is another one, and a joined path is too long. -/
theorem joined_path_changed :
    (remotePath (wirePath dotted) = .ok dotted ∧ joinPath (wirePath dotted) "b" = .ok "cnshell-raw-path:L_8vLi9i" ∧
      ¬JoinsWell dotted "b" "cnshell-raw-path:L_8vLi9i") ∧
    remotePath (long 16383) = .ok (utf8 (long 16383)) ∧ joinPath (long 16383) "b" = .ok (long 16383 ++ "/b") ∧
      ¬JoinsWell (utf8 (long 16383)) "b" (long 16383 ++ "/b") := by
  refine ⟨⟨by decide, by decide, ?_⟩, long_found (by decide), long_joined (by decide), ?_⟩
  · rintro ⟨_, -, -, parent, found, same⟩
    have above : remoteParentPath "cnshell-raw-path:L_8vLi9i" = .ok [0x2f, 0xff] := by decide
    obtain rfl := Except.ok.inj (above.symm.trans found)
    exact absurd same (by decide)
  · rintro ⟨base, -, found, -⟩
    -- What is read back would be as long as its text.
    have plain : ¬rawPathPrefix <+: (long 16383 ++ "/b").toList :=
      not_token_of_utf8 (by rw [utf8_append, utf8_long]; rfl)
    obtain ⟨same, absolute⟩ := (remotePath_text plain).mp found
    have short := absolute.short
    rw [same, utf8_append, List.length_append, utf8_long, List.length_cons, List.length_replicate] at short
    exact absurd short (by decide)

end Demo

end Tokens

end Sftp

end CNShell
