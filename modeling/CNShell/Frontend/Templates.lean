import CNShell.Library.Posix
import CNShell.Frontend.Completion
import Mathlib.Data.Sum.Basic

/-! Command templates: what a shell reads where a parameter has been put in. -/

namespace CNShell

namespace Frontend

open Posix

def isLetter (unit : UInt16) : Bool := (0x41 ≤ unit && unit ≤ 0x5a) || (0x61 ≤ unit && unit ≤ 0x7a)

def isNameUnit (unit : UInt16) : Bool := isLetter unit || (0x30 ≤ unit && unit ≤ 0x39) || unit ∈ [0x2d, 0x2e, 0x5f]

def placeholderAt (text : Units) : Option (Units × Nat) :=
  let inner := (text.drop 2).dropWhile isSpace
  match inner with
  | [] => none
  | first :: rest =>
    let name := first :: (rest.takeWhile isNameUnit).take 63
    let back := (inner.drop name.length).dropWhile isSpace
    if text.take 2 = [0x7b, 0x7b] ∧ isLetter first ∧ back.take 2 = [0x7d, 0x7d] then
      some (name, text.length - (back.length - 2))
    else none

inductive Piece
  | text (unit : UInt16)
  | placeholder (name : Units)
deriving DecidableEq

/-- The pieces of a template behind the first so many units, which belong to a placeholder before. -/
def piecesFrom : Nat → Units → List Piece
  | _, [] => []
  | skip + 1, _ :: template => piecesFrom skip template
  | 0, unit :: template =>
    match placeholderAt (unit :: template) with
    | some (name, length) => .placeholder name :: piecesFrom (length - 1) template
    | none => .text unit :: piecesFrom 0 template

def pieces (template : Units) : List Piece := piecesFrom 0 template

def Piece.name? : Piece → Option Units
  | text _ => none
  | placeholder name => some name

def templateParameters (template : Units) : List Units := ((pieces template).filterMap Piece.name?).eraseDups

def Piece.rendered (values : Units → Units) : Piece → Units
  | text unit => [unit]
  | placeholder name => shellQuote (values name)

def substitute (values : Units → Units) (pieces : List Piece) : Units := pieces.flatMap (Piece.rendered values)

def isLineEnd (unit : UInt16) : Bool := unit ∈ [0x0a, 0x0d, 0x2028, 0x2029]

/-- Whether two closing braces follow on the line. -/
def closes : Units → Bool
  | first :: second :: text => (first = 0x7d && second = 0x7d) || (!isLineEnd first && closes (second :: text))
  | _ => false

/-- Whether two opening braces stand before two closing ones on a line. -/
def hasPlaceholder : Units → Bool
  | first :: second :: text => (first = 0x7b && second = 0x7b && closes text) || hasPlaceholder (second :: text)
  | _ => false

/-- An error: its text, and the name behind that. -/
structure TemplateError where
  text : String
  name : Units

def renderCommandTemplate (template : Units) (parameters : Units → Option Units) : Except TemplateError Units :=
  match (templateParameters template).find? fun name => (parameters name).isNone with
  | some name => .error ⟨"缺少参数 ", name⟩
  | none =>
    let rendered := substitute (fun name => (parameters name).getD []) (pieces template)
    if hasPlaceholder rendered then .error ⟨"模板包含无效参数占位符", []⟩ else .ok rendered

def fill (values : Units → Units) (skeleton : List (Mark ⊕ Units)) : List Mark :=
  skeleton.flatMap (Sum.elim ([·]) fun name => (values name).map .literal)

/-- Two commands that differ only in the literal values of the names. -/
def SameStructure (names : List Units) (values others : Units → Units) (first second : Units) : Prop :=
  (Reader.initial.read first).1 = (Reader.initial.read second).1 ∧
    ∃ skeleton : List (Mark ⊕ Units), skeleton.filterMap Sum.getRight? = names ∧
      (Reader.initial.read first).2 = fill values skeleton ∧ (Reader.initial.read second).2 = fill others skeleton

/-- An apostrophe in the place of a placeholder opens a quotation. -/
def StandOpen : Reader → List Piece → Prop
  | _, [] => True
  | reader, .text unit :: pieces => StandOpen (reader.step unit).1 pieces
  | reader, .placeholder _ :: pieces =>
    (reader.step apostrophe).1.mode = .single ∧ StandOpen (reader.read (shellQuote [])).1 pieces

variable {reader : Reader} {values others : Units → Units}

theorem read_quoted (single : reader.mode = .single) (value : Units) :
    reader.read (value.flatMap quotedUnit) = (reader, value.map .literal) := by
  obtain ⟨_, braces, stack, pending⟩ := reader
  obtain rfl := single
  induction value with
  | nil => rfl
  | cons unit value ih =>
    have one : Reader.read ⟨.single, braces, stack, pending⟩ (quotedUnit unit) =
        (⟨.single, braces, stack, pending⟩, [.literal unit]) := by
      by_cases same : unit = apostrophe
      · subst same
        rfl
      · simp [quotedUnit, same, Reader.read, Reader.step]
    rw [List.flatMap_cons, Reader.read_append, one, ih]
    rfl

theorem step_close (single : reader.mode = .single) : reader.step apostrophe = (reader.go (.bare false), []) := by
  simp [Reader.step, single]

theorem read_shellQuote (single : (reader.step apostrophe).1.mode = .single) (value : Units) :
    reader.read (shellQuote value) =
      ((reader.read (shellQuote [])).1, (reader.step apostrophe).2 ++ value.map .literal) := by
  simp only [shellQuote, List.cons_append, Reader.read, Reader.read_append, read_quoted single, step_close single,
    List.flatMap_nil, List.nil_append, List.append_nil]

theorem substitute_text (values : Units → Units) (unit : UInt16) (pieces : List Piece) :
    substitute values (.text unit :: pieces) = unit :: substitute values pieces := rfl

theorem substitute_placeholder (values : Units → Units) (name : Units) (pieces : List Piece) :
    substitute values (.placeholder name :: pieces) = shellQuote (values name) ++ substitute values pieces := rfl

/-- The marks of pieces that stand open, with the names in the places of the values. -/
def skeleton : Reader → List Piece → List (Mark ⊕ Units)
  | _, [] => []
  | reader, .text unit :: pieces => (reader.step unit).2.map .inl ++ skeleton (reader.step unit).1 pieces
  | reader, .placeholder name :: pieces =>
    (reader.step apostrophe).2.map .inl ++ .inr name :: skeleton (reader.read (shellQuote [])).1 pieces

theorem fill_append (first second : List (Mark ⊕ Units)) :
    fill values (first ++ second) = fill values first ++ fill values second := List.flatMap_append

theorem fill_marks (marks : List Mark) : fill values (marks.map .inl) = marks := by
  induction marks with
  | nil => rfl
  | cons mark marks ih => exact congrArg (mark :: ·) ih

theorem names_marks (marks : List Mark) : (marks.map (Sum.inl (β := Units))).filterMap Sum.getRight? = [] := by
  induction marks with
  | nil => rfl
  | cons mark marks ih => exact ih

theorem names_skeleton (pieces : List Piece) :
    (skeleton reader pieces).filterMap Sum.getRight? = pieces.filterMap Piece.name? := by
  induction pieces generalizing reader with
  | nil => rfl
  | cons piece pieces ih =>
    cases piece with
    | text unit => rw [skeleton, List.filterMap_append, names_marks, ih]; rfl
    | placeholder name =>
      rw [skeleton, List.filterMap_append, names_marks, List.nil_append]
      exact congrArg (name :: ·) ih

theorem read_substitute {pieces : List Piece} (stand : StandOpen reader pieces) (values : Units → Units) :
    reader.read (substitute values pieces) =
      ((reader.read (substitute (fun _ => []) pieces)).1, fill values (skeleton reader pieces)) := by
  induction pieces generalizing reader with
  | nil => rfl
  | cons piece pieces ih =>
    cases piece with
    | text unit =>
      have rest := ih stand
      rw [skeleton, fill_append, fill_marks, substitute_text, substitute_text, Reader.read, Reader.read, rest]
    | placeholder name =>
      have rest := ih stand.2
      rw [skeleton, fill_append, fill_marks, substitute_placeholder, substitute_placeholder, Reader.read_append,
        Reader.read_append, read_shellQuote stand.1 (values name), rest, List.append_assoc]
      rfl

/-! A value of two backslashes and one without them tell whether a placeholder stands open. -/

theorem count_fill (skeleton : List (Mark ⊕ Units)) :
    (fill (fun _ => [backslash, backslash, 0x0a]) skeleton).count (.literal backslash) =
      (fill (fun _ => [0x0a]) skeleton).count (.literal backslash) + 2 * (skeleton.filterMap Sum.getRight?).length := by
  induction skeleton with
  | nil => rfl
  | cons entry skeleton ih =>
    cases entry with
    | inl mark =>
      have cons (values : Units → Units) : fill values (.inl mark :: skeleton) = mark :: fill values skeleton := rfl
      rw [cons, cons, List.count_cons, List.count_cons, ih]
      exact Nat.add_right_comm _ _ _
    | inr name =>
      have cons (values : Units → Units) :
          fill values (.inr name :: skeleton) = (values name).map .literal ++ fill values skeleton := rfl
      have two : ([backslash, backslash, 0x0a].map Mark.literal).count (.literal backslash) = 2 := by decide
      have zero : (([0x0a] : Units).map Mark.literal).count (.literal backslash) = 0 := by decide
      rw [cons, cons, List.count_append, List.count_append, ih, two, zero]
      simp only [List.filterMap_cons, Sum.getRight?, List.length_cons]
      omega

theorem count_substitute (reader : Reader) (pieces : List Piece) :
    (reader.read (substitute (fun _ => [backslash, backslash, 0x0a]) pieces)).1 =
        (reader.read (substitute (fun _ => [0x0a]) pieces)).1 ∧
      (reader.read (substitute (fun _ => [backslash, backslash, 0x0a]) pieces)).2.count (.literal backslash) ≤
        (reader.read (substitute (fun _ => [0x0a]) pieces)).2.count (.literal backslash) +
          2 * (pieces.filterMap Piece.name?).length ∧
      ((reader.read (substitute (fun _ => [backslash, backslash, 0x0a]) pieces)).2.count (.literal backslash) =
        (reader.read (substitute (fun _ => [0x0a]) pieces)).2.count (.literal backslash) +
          2 * (pieces.filterMap Piece.name?).length → StandOpen reader pieces) := by
  induction pieces generalizing reader with
  | nil => exact ⟨rfl, Nat.le_refl _, fun _ => trivial⟩
  | cons piece pieces ih =>
    cases piece with
    | text unit =>
      obtain ⟨same, most, all⟩ := ih (reader.step unit).1
      simp only [substitute_text, Reader.read, List.count_append, List.filterMap_cons, Piece.name?]
      exact ⟨same, by omega, fun equal => all (by omega)⟩
    | placeholder name =>
      obtain ⟨marks, slashes, most, single⟩ := (reader.step apostrophe).1.read_backslashes reader.settled_step
      obtain ⟨same, most', all⟩ := ih ((reader.step apostrophe).1.read [0x0a, apostrophe]).1
      -- both values are read alike behind the two backslashes
      have short (text : Units) : reader.read (shellQuote [0x0a] ++ text) =
          ((((reader.step apostrophe).1.read [0x0a, apostrophe]).1.read text).1, (reader.step apostrophe).2 ++
            (((reader.step apostrophe).1.read [0x0a, apostrophe]).2 ++
              (((reader.step apostrophe).1.read [0x0a, apostrophe]).1.read text).2)) := by
        rw [show shellQuote [0x0a] ++ text = apostrophe :: ([0x0a, apostrophe] ++ text) from rfl, Reader.read,
          Reader.read_append]
      have long (text : Units) : reader.read (shellQuote [backslash, backslash, 0x0a] ++ text) =
          ((((reader.step apostrophe).1.read [0x0a, apostrophe]).1.read text).1, (reader.step apostrophe).2 ++ (marks ++
            (((reader.step apostrophe).1.read [0x0a, apostrophe]).2 ++
              (((reader.step apostrophe).1.read [0x0a, apostrophe]).1.read text).2))) := by
        rw [show shellQuote [backslash, backslash, 0x0a] ++ text =
            apostrophe :: ([backslash, backslash] ++ ([0x0a, apostrophe] ++ text)) from rfl, Reader.read,
          Reader.read_append, slashes, Reader.read_append]
      simp only [substitute_placeholder, long, short, List.count_append, List.filterMap_cons, Piece.name?, List.length_cons]
      refine ⟨same, by omega, fun equal => ?_⟩
      have opens := single (by omega)
      have after := congrArg Prod.fst (read_shellQuote opens [0x0a])
      refine ⟨opens, ?_⟩
      rw [← after]
      exact all (by omega)

theorem standOpen_of_same {pieces : List Piece}
    (same : SameStructure (pieces.filterMap Piece.name?) (fun _ => [backslash, backslash, 0x0a]) (fun _ => [0x0a])
      (substitute (fun _ => [backslash, backslash, 0x0a]) pieces) (substitute (fun _ => [0x0a]) pieces)) :
    StandOpen Reader.initial pieces := by
  obtain ⟨-, skeleton, names, long, short⟩ := same
  refine (count_substitute Reader.initial pieces).2.2 ?_
  rw [long, short, count_fill, names]

/-! The values of several lines leave no placeholder where another rendering has none. -/

theorem closes_append {text : Units} (closed : closes text) (more : Units) : closes (text ++ more) := by
  induction text using closes.induct with
  | case1 first second text ih =>
    simp only [List.cons_append, closes, Bool.or_eq_true, Bool.and_eq_true] at closed ih ⊢
    exact closed.imp_right fun closed => ⟨closed.1, ih closed.2⟩
  | case2 => simp [closes] at closed

theorem hasPlaceholder_append {text : Units} (there : hasPlaceholder text) (more : Units) :
    hasPlaceholder (text ++ more) := by
  induction text using hasPlaceholder.induct with
  | case1 first second text ih =>
    simp only [List.cons_append, hasPlaceholder, Bool.or_eq_true, Bool.and_eq_true] at there ih ⊢
    exact there.imp (fun there => ⟨there.1, closes_append there.2 more⟩) ih
  | case2 => simp [hasPlaceholder] at there

theorem hasPlaceholder_cons {text : Units} (there : hasPlaceholder text) (unit : UInt16) :
    hasPlaceholder (unit :: text) := by
  cases text with
  | nil => cases there
  | cons second text => simp [hasPlaceholder, there]

theorem hasPlaceholder_behind {text : Units} (there : hasPlaceholder text) (front : Units) :
    hasPlaceholder (front ++ text) := by
  induction front with
  | nil => exact there
  | cons unit front ih => exact hasPlaceholder_cons ih unit

/-- A value in quotes behind which a search starts anew. -/
structure Fence (value : Units) : Prop where
  closed (text : Units) : closes (shellQuote value ++ text) = false
  through (text : Units) : hasPlaceholder (shellQuote value ++ text) = hasPlaceholder text

theorem fence_line : Fence [0x0a] := ⟨fun _ => rfl, fun text => by cases text <;> rfl⟩

theorem fence_backslashes : Fence [backslash, backslash, 0x0a] := ⟨fun _ => rfl, fun text => by cases text <;> rfl⟩


namespace Fence

variable {value : Units} (fence : Fence value)

include fence

variable {front : Units}

variable {back : Units}

theorem closes_front (closed : closes (front ++ (shellQuote value ++ back))) : closes front := by
  induction front with
  | nil => rw [List.nil_append, fence.closed] at closed; cases closed
  | cons first front ih =>
    cases front with
    | nil =>
      have rest : closes (apostrophe :: (value.flatMap quotedUnit ++ [apostrophe] ++ back)) = false := fence.closed back
      have closed : closes (first :: apostrophe :: (value.flatMap quotedUnit ++ [apostrophe] ++ back)) := closed
      rw [closes, rest] at closed
      simp [apostrophe] at closed
    | cons second front =>
      simp only [List.cons_append, closes, Bool.or_eq_true, Bool.and_eq_true] at closed ih ⊢
      exact closed.imp_right fun closed => ⟨closed.1, ih closed.2⟩

theorem hasPlaceholder_sides (there : hasPlaceholder (front ++ (shellQuote value ++ back))) :
    hasPlaceholder front ∨ hasPlaceholder back := by
  induction front with
  | nil => exact .inr (fence.through back ▸ there)
  | cons first front ih =>
    cases front with
    | nil =>
      have rest : hasPlaceholder (apostrophe :: (value.flatMap quotedUnit ++ [apostrophe] ++ back)) =
          hasPlaceholder back := fence.through back
      have there : hasPlaceholder (first :: apostrophe :: (value.flatMap quotedUnit ++ [apostrophe] ++ back)) := there
      rw [hasPlaceholder, rest] at there
      exact .inr (by simpa [apostrophe] using there)
    | cons second front =>
      simp only [List.cons_append, hasPlaceholder, Bool.or_eq_true, Bool.and_eq_true] at there ih ⊢
      obtain ⟨opened, closed⟩ | further := there
      · exact .inl (.inl ⟨opened, fence.closes_front closed⟩)
      · exact (ih further).imp_left .inr

theorem left_by_all {pieces : List Piece}
    (there : hasPlaceholder (front ++ substitute (fun _ => value) pieces)) (values : Units → Units) :
    hasPlaceholder (front ++ substitute values pieces) := by
  induction pieces generalizing front with
  | nil => exact there
  | cons piece pieces ih =>
    cases piece with
    | text unit =>
      rw [substitute_text, List.append_cons] at there ⊢
      exact ih there
    | placeholder name =>
      rw [substitute_placeholder] at there ⊢
      obtain before | behind := fence.hasPlaceholder_sides there
      · exact hasPlaceholder_append before _
      · have rest := ih (show hasPlaceholder ([] ++ substitute (fun _ => value) pieces) from behind)
        exact hasPlaceholder_behind (hasPlaceholder_behind rest _) _

end Fence

def assigned (values : Units → Units) (name : Units) : Option Units := some (values name)

theorem render_assigned (template : Units) (values : Units → Units) :
    renderCommandTemplate template (assigned values) =
      if hasPlaceholder (substitute values (pieces template)) then .error ⟨"模板包含无效参数占位符", []⟩
      else .ok (substitute values (pieces template)) := by
  have none : (templateParameters template).find? (fun name => (assigned values name).isNone) = none := by
    simp [List.find?_eq_none, assigned]
  rw [renderCommandTemplate, none]
  rfl

theorem render_eq_ok {template text : Units} {values : Units → Units} :
    renderCommandTemplate template (assigned values) = .ok text ↔
      hasPlaceholder (substitute values (pieces template)) = false ∧ substitute values (pieces template) = text := by
  rw [render_assigned]
  split <;> simp_all

theorem not_renders_of_name {template name : Units} (there : name ∈ templateParameters template) :
    hasPlaceholder (substitute (fun _ => [0x7b, 0x7b, 0x7d, 0x7d]) (pieces template)) = true := by
  rw [templateParameters, List.mem_eraseDups, List.mem_filterMap] at there
  obtain ⟨piece, listed, named⟩ := there
  obtain ⟨front, back, split⟩ := List.append_of_mem listed
  cases piece with
  | text unit => cases named
  | placeholder other =>
    rw [split, substitute, List.flatMap_append, List.flatMap_cons]
    exact hasPlaceholder_behind (hasPlaceholder_append rfl _) _

theorem substitute_of_no_names {pieces : List Piece} (free : pieces.filterMap Piece.name? = [])
    (values others : Units → Units) : substitute values pieces = substitute others pieces := by
  induction pieces with
  | nil => rfl
  | cons piece pieces ih =>
    cases piece with
    | text unit => rw [substitute_text, substitute_text, ih free]
    | placeholder name => cases free

/--
No value makes the rendering of a template fail just if it has no parameters. The renderings of a template are of one
structure, with the values as literals, just if all placeholders stand where an apostrophe opens a quotation.
-/
theorem render_structure_iff {template : Units}
    (accepted : ∃ values text, renderCommandTemplate template (assigned values) = .ok text) :
    ((∀ values, ∃ text, renderCommandTemplate template (assigned values) = .ok text) ↔
      templateParameters template = []) ∧
    ((∀ values others first second, renderCommandTemplate template (assigned values) = .ok first →
        renderCommandTemplate template (assigned others) = .ok second →
        SameStructure ((pieces template).filterMap Piece.name?) values others first second) ↔
      StandOpen Reader.initial (pieces template)) := by
  obtain ⟨values, text, rendered⟩ := accepted
  obtain ⟨quiet, -⟩ := render_eq_ok.1 rendered
  refine ⟨⟨fun all => ?_, fun free others => ?_⟩, ⟨fun all => ?_, fun stand values others first second one two => ?_⟩⟩
  · refine List.eq_nil_iff_forall_not_mem.2 fun name there => ?_
    obtain ⟨other, done⟩ := all fun _ => [0x7b, 0x7b, 0x7d, 0x7d]
    exact absurd (not_renders_of_name there) (by simp [(render_eq_ok.1 done).1])
  · have nameless : (pieces template).filterMap Piece.name? = [] := by
      refine List.eq_nil_iff_forall_not_mem.2 fun name there => ?_
      have listed : name ∈ templateParameters template := List.mem_eraseDups.2 there
      rw [free] at listed
      cases listed
    exact ⟨_, render_eq_ok.2 ⟨substitute_of_no_names nameless values others ▸ quiet, rfl⟩⟩
  · -- the two values of several lines are accepted as some values are
    have accepts {value : Units} (fence : Fence value) :
        renderCommandTemplate template (assigned fun _ => value) = .ok (substitute (fun _ => value) (pieces template)) := by
      refine render_eq_ok.2 ⟨Bool.eq_false_iff.2 fun there => ?_, rfl⟩
      have left := fence.left_by_all (show hasPlaceholder ([] ++ _) from there) values
      rw [List.nil_append, quiet] at left
      cases left
    exact standOpen_of_same (all _ _ _ _ (accepts fence_backslashes) (accepts fence_line))
  · obtain ⟨-, rfl⟩ := render_eq_ok.1 one
    obtain ⟨-, rfl⟩ := render_eq_ok.1 two
    rw [SameStructure, read_substitute stand values, read_substitute stand others]
    exact ⟨rfl, _, names_skeleton _, rfl, rfl⟩

/-- The template of one bare parameter: two values that are read literally. -/
theorem render_structure_bare :
    SameStructure [[0x62]] (fun _ => [0x24, apostrophe]) (fun _ => [])
      (shellQuote [0x24, apostrophe]) (shellQuote []) := by
  have accepted : ∃ values text,
      renderCommandTemplate [0x7b, 0x7b, 0x62, 0x7d, 0x7d] (assigned values) = .ok text := ⟨fun _ => [], _, rfl⟩
  exact (render_structure_iff accepted).2.2 ⟨rfl, trivial⟩ (fun _ => [0x24, apostrophe]) (fun _ => []) _ _ rfl rfl

/-- A parameter within quotes: a semicolon acts. A bare one: braces make the rendering fail. -/
theorem render_structure_quoted :
    renderCommandTemplate [apostrophe, 0x7b, 0x7b, 0x62, 0x7d, 0x7d, apostrophe] (assigned fun _ => [0x3b]) =
        .ok [apostrophe, apostrophe, 0x3b, apostrophe, apostrophe] ∧
      renderCommandTemplate [apostrophe, 0x7b, 0x7b, 0x62, 0x7d, 0x7d, apostrophe] (assigned fun _ => []) =
        .ok [apostrophe, apostrophe, apostrophe, apostrophe] ∧
      ¬ SameStructure [[0x62]] (fun _ => [0x3b]) (fun _ => []) [apostrophe, apostrophe, 0x3b, apostrophe, apostrophe]
        [apostrophe, apostrophe, apostrophe, apostrophe] ∧
      renderCommandTemplate [0x7b, 0x7b, 0x62, 0x7d, 0x7d] (assigned fun _ => [0x7b, 0x7b, 0x7d, 0x7d]) =
        .error ⟨"模板包含无效参数占位符", []⟩ := by
  refine ⟨rfl, rfl, ?_, rfl⟩
  rintro ⟨-, skeleton, names, marks, -⟩
  obtain ⟨entry, listed, named⟩ := List.mem_filterMap.1 (names ▸ List.mem_singleton_self ([0x62] : Units))
  cases entry with
  | inl mark => cases named
  | inr name =>
    -- the value would be a literal of the first command
    have literal : Mark.literal 0x3b ∈ fill (fun _ => [0x3b]) skeleton :=
      List.mem_flatMap.2 ⟨.inr name, listed, List.mem_singleton_self _⟩
    rw [← marks] at literal
    exact absurd literal (by decide)

end Frontend

end CNShell
