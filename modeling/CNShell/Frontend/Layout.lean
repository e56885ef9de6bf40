import CNShell.Library.Tiling
import Mathlib.Data.List.Nodup
import Mathlib.Data.Finset.Basic
import Mathlib.Data.Rat.Defs
import Mathlib.Algebra.Order.Ring.Rat
import Mathlib.Algebra.Field.Rat
import Mathlib.Tactic.NormNum

/-! Split layouts of terminals: the operations on them, what they keep, and the rectangles they show. -/

namespace CNShell

namespace Frontend

inductive SplitDirection
  | horizontal
  | vertical
deriving DecidableEq

inductive TerminalLayout
  | leaf (sessionId : String)
  | split (id : String) (direction : SplitDirection) (ratio : ℚ) (first second : TerminalLayout)
deriving DecidableEq

inductive JsNumber
  | finite (value : ℚ)
  | infinite (negative : Bool)
  | nan

def clampRatio (ratio : JsNumber) : ℚ :=
  min (4 / 5) (max (1 / 5) (match ratio with | .finite value => value | _ => 1 / 2))

namespace TerminalLayout

def layoutSessions : TerminalLayout → List String
  | leaf sessionId => [sessionId]
  | split _ _ _ first second => first.layoutSessions ++ second.layoutSessions

/-- Splits the leaf of a session; `randomUUID` gives the identifier drawn at the leaf a path leads to. -/
def splitLeaf (target sessionId : String) (direction : SplitDirection) :
    TerminalLayout → (List Bool → String) → TerminalLayout
  | leaf session, randomUUID =>
    if session = target then split (randomUUID []) direction (1 / 2) (leaf session) (leaf sessionId) else leaf session
  | split id along ratio first second, randomUUID =>
    split id along ratio (first.splitLeaf target sessionId direction fun path => randomUUID (false :: path))
      (second.splitLeaf target sessionId direction fun path => randomUUID (true :: path))

/-- A split of which both halves may be gone. -/
def joined (split : TerminalLayout → TerminalLayout → TerminalLayout) :
    Option TerminalLayout → Option TerminalLayout → Option TerminalLayout
  | none, second => second
  | first, none => first
  | some first, some second => some (split first second)

def removeLeaf (sessionId : String) : TerminalLayout → Option TerminalLayout
  | leaf session => if session = sessionId then none else some (leaf session)
  | split id direction ratio first second =>
    joined (split id direction ratio) (first.removeLeaf sessionId) (second.removeLeaf sessionId)

def updateRatio (id : String) (ratio : JsNumber) : TerminalLayout → TerminalLayout
  | leaf session => leaf session
  | split name direction old first second =>
    if name = id then split name direction (clampRatio ratio) first second
    else split name direction old (first.updateRatio id ratio) (second.updateRatio id ratio)

/-- The layout with other sessions; a session the map does not name, or names by an empty text, is left out. -/
def mapLayoutSessions (map : String → Option String) : TerminalLayout → Option TerminalLayout
  | leaf session => ((map session).filter (· ≠ "")).map leaf
  | split id direction ratio first second =>
    joined (split id direction (clampRatio (.finite ratio))) (first.mapLayoutSessions map)
      (second.mapLayoutSessions map)

end TerminalLayout

/--
A stored value, by what is read of it: the properties that are strings, what the ratio is as a number, and the
halves. A missing half and everything that is no object is `other`.
-/
inductive StoredLayout
  | other
  | node (type sessionId id direction : Option String) (ratio : JsNumber) (first second : StoredLayout)

def SplitDirection.read (text : String) : Option SplitDirection :=
  if text = "horizontal" then some .horizontal else if text = "vertical" then some .vertical else none

def validateLayout (available : Finset String) : StoredLayout → Option TerminalLayout
  | .other => none
  | .node type sessionId id direction ratio first second =>
    match type, sessionId.filter (· ∈ available), id, direction.bind SplitDirection.read with
    | some "leaf", some session, _, _ => some (.leaf session)
    | some "split", _, some id, some direction =>
      TerminalLayout.joined (.split id direction (clampRatio ratio)) (validateLayout available first)
        (validateLayout available second)
    | _, _, _, _ => none

def TerminalLayout.stored : TerminalLayout → StoredLayout
  | leaf session => .node (some "leaf") (some session) none none .nan .other .other
  | split id direction ratio first second =>
    .node (some "split") none (some id)
      (some (match direction with | .horizontal => "horizontal" | .vertical => "vertical")) (.finite ratio)
      first.stored second.stored

/-- A rectangle of the screen and the session it shows. -/
structure TerminalRect where
  sessionId : String
  area : Area ℚ

def TerminalLayout.layoutRects : TerminalLayout → Area ℚ → List TerminalRect
  | leaf session, area => [⟨session, area⟩]
  | split _ .vertical ratio first second, area =>
    first.layoutRects (area.before (area.width * ratio)) ++ second.layoutRects (area.behind (area.width * ratio))
  | split _ .horizontal ratio first second, area =>
    first.layoutRects (area.above (area.height * ratio)) ++ second.layoutRects (area.below (area.height * ratio))

namespace TerminalLayout

/-- Every ratio is between a fifth and four fifths. -/
def Ratios : TerminalLayout → Prop
  | leaf _ => True
  | split _ _ ratio first second => (1 / 5 ≤ ratio ∧ ratio ≤ 4 / 5) ∧ first.Ratios ∧ second.Ratios

/-- Every session has one leaf, and every ratio is in its range. -/
structure WellFormed (layout : TerminalLayout) : Prop where
  single : layout.layoutSessions.Nodup
  ratios : layout.Ratios

/-- The layouts that the operations make out of leaves. -/
inductive Built : TerminalLayout → Prop
  | leaf (sessionId : String) : Built (leaf sessionId)
  | splitLeaf {layout : TerminalLayout} (target sessionId : String) (direction : SplitDirection)
      (randomUUID : List Bool → String) (fresh : sessionId ∉ layout.layoutSessions) (built : Built layout) :
      Built (layout.splitLeaf target sessionId direction randomUUID)
  | removeLeaf {layout left : TerminalLayout} (sessionId : String) (built : Built layout)
      (rest : layout.removeLeaf sessionId = some left) : Built left
  | updateRatio {layout : TerminalLayout} (id : String) (ratio : JsNumber) (built : Built layout) :
      Built (layout.updateRatio id ratio)
  | mapLayoutSessions {layout mapped : TerminalLayout} (map : String → Option String)
      (injective : ∀ session other name, map session = some name → map other = some name → session = other)
      (built : Built layout) (done : layout.mapLayoutSessions map = some mapped) : Built mapped
  | validateLayout {layout valid : TerminalLayout} (available : Finset String) (built : Built layout)
      (done : validateLayout available layout.stored = some valid) : Built valid

end TerminalLayout

theorem clampRatio_range (ratio : JsNumber) : 1 / 5 ≤ clampRatio ratio ∧ clampRatio ratio ≤ 4 / 5 := by
  have ordered : (1 / 5 : ℚ) ≤ 4 / 5 := by norm_num
  unfold clampRatio
  constructor
  · exact le_min ordered (le_max_left _ _)
  · exact min_le_left _ _

namespace TerminalLayout

def left (layout : Option TerminalLayout) : List String := layout.elim [] layoutSessions

theorem left_joined {split : TerminalLayout → TerminalLayout → TerminalLayout}
    (sessions : ∀ first second, (split first second).layoutSessions = first.layoutSessions ++ second.layoutSessions)
    (first second : Option TerminalLayout) : left (joined split first second) = left first ++ left second := by
  cases first <;> cases second <;> simp [joined, left, sessions]

theorem joined_all {split : TerminalLayout → TerminalLayout → TerminalLayout} {property : TerminalLayout → Prop}
    (keeps : ∀ first second, property first → property second → property (split first second))
    {first second : Option TerminalLayout} (one : ∀ layout ∈ first, property layout)
    (other : ∀ layout ∈ second, property layout) : ∀ layout ∈ joined split first second, property layout := by
  intro layout member
  cases first with
  | none => exact other layout member
  | some first =>
    cases second with
    | none => exact one layout member
    | some second =>
      obtain rfl := Option.some.inj member
      exact keeps first second (one first rfl) (other second rfl)

/-! What each operation does to the sessions. -/

theorem layoutSessions_splitLeaf (layout : TerminalLayout) (target sessionId : String) (direction : SplitDirection)
    (randomUUID : List Bool → String) :
    (layout.splitLeaf target sessionId direction randomUUID).layoutSessions =
      layout.layoutSessions.flatMap fun session => if session = target then [session, sessionId] else [session] := by
  induction layout generalizing randomUUID with
  | leaf session =>
    by_cases here : session = target <;> simp [splitLeaf, layoutSessions, here]
  | split id along ratio first second ihFirst ihSecond =>
    rw [splitLeaf, layoutSessions, ihFirst, ihSecond, layoutSessions, List.flatMap_append]

theorem left_removeLeaf (layout : TerminalLayout) (sessionId : String) :
    left (layout.removeLeaf sessionId) = layout.layoutSessions.filter (· ≠ sessionId) := by
  induction layout with
  | leaf session => by_cases here : session = sessionId <;> simp [removeLeaf, left, layoutSessions, here]
  | split id direction ratio first second ihFirst ihSecond =>
    rw [removeLeaf, left_joined fun _ _ => rfl, ihFirst, ihSecond, layoutSessions, List.filter_append]

theorem layoutSessions_updateRatio (layout : TerminalLayout) (id : String) (ratio : JsNumber) :
    (layout.updateRatio id ratio).layoutSessions = layout.layoutSessions := by
  induction layout with
  | leaf session => rfl
  | split name direction old first second ihFirst ihSecond =>
    by_cases here : name = id <;> simp [updateRatio, layoutSessions, here, ihFirst, ihSecond]

theorem left_mapLayoutSessions (layout : TerminalLayout) (map : String → Option String) :
    left (layout.mapLayoutSessions map) =
      layout.layoutSessions.filterMap fun session => (map session).filter (· ≠ "") := by
  induction layout with
  | leaf session =>
    rw [mapLayoutSessions, layoutSessions, List.filterMap_cons, List.filterMap_nil]
    cases (map session).filter (· ≠ "") <;> rfl
  | split id direction ratio first second ihFirst ihSecond =>
    rw [mapLayoutSessions, left_joined fun _ _ => rfl, ihFirst, ihSecond, layoutSessions, List.filterMap_append]

theorem validateLayout_stored (available : Finset String) (id : String) (direction : SplitDirection) (ratio : ℚ)
    (first second : TerminalLayout) :
    validateLayout available (split id direction ratio first second).stored =
      joined (split id direction (clampRatio (.finite ratio))) (validateLayout available first.stored)
        (validateLayout available second.stored) := by
  cases direction <;> simp [stored, validateLayout, SplitDirection.read]

theorem validateLayout_leaf (available : Finset String) (session : String) :
    validateLayout available (leaf session).stored = if session ∈ available then some (leaf session) else none := by
  by_cases there : session ∈ available <;> simp [stored, validateLayout, Option.filter, there]

theorem left_validateLayout (available : Finset String) (layout : TerminalLayout) :
    left (validateLayout available layout.stored) = layout.layoutSessions.filter (· ∈ available) := by
  induction layout with
  | leaf session =>
    rw [validateLayout_leaf]
    by_cases there : session ∈ available <;> simp [left, layoutSessions, there]
  | split id direction ratio first second ihFirst ihSecond =>
    rw [validateLayout_stored, left_joined fun _ _ => rfl, ihFirst, ihSecond, layoutSessions, List.filter_append]

/-! What each operation does to the ratios. -/

variable {layout : TerminalLayout}

theorem ratios_splitLeaf (ratios : layout.Ratios) (target sessionId : String)
    (direction : SplitDirection) (randomUUID : List Bool → String) :
    (layout.splitLeaf target sessionId direction randomUUID).Ratios := by
  induction layout generalizing randomUUID with
  | leaf session =>
    by_cases here : session = target
    · rw [splitLeaf, if_pos here]
      exact ⟨by norm_num, trivial, trivial⟩
    · rw [splitLeaf, if_neg here]
      exact trivial
  | split id along ratio first second ihFirst ihSecond =>
    exact ⟨ratios.1, ihFirst ratios.2.1 _, ihSecond ratios.2.2 _⟩

theorem ratios_removeLeaf (ratios : layout.Ratios) (sessionId : String) :
    ∀ rest ∈ layout.removeLeaf sessionId, rest.Ratios := by
  induction layout with
  | leaf session =>
    intro rest member
    rw [removeLeaf] at member
    split_ifs at member
    · cases member
    · obtain rfl := Option.some.inj member
      exact trivial
  | split id direction ratio first second ihFirst ihSecond =>
    exact joined_all (fun _ _ one other => ⟨ratios.1, one, other⟩) (ihFirst ratios.2.1) (ihSecond ratios.2.2)

theorem ratios_updateRatio (ratios : layout.Ratios) (id : String) (ratio : JsNumber) :
    (layout.updateRatio id ratio).Ratios := by
  induction layout with
  | leaf session => trivial
  | split name direction old first second ihFirst ihSecond =>
    by_cases here : name = id
    · rw [updateRatio, if_pos here]
      exact ⟨clampRatio_range ratio, ratios.2⟩
    · rw [updateRatio, if_neg here]
      exact ⟨ratios.1, ihFirst ratios.2.1, ihSecond ratios.2.2⟩

theorem ratios_mapLayoutSessions (layout : TerminalLayout) (map : String → Option String) :
    ∀ mapped ∈ layout.mapLayoutSessions map, mapped.Ratios := by
  induction layout with
  | leaf session =>
    intro mapped member
    obtain ⟨name, -, rfl⟩ := Option.map_eq_some_iff.mp member
    exact trivial
  | split id direction ratio first second ihFirst ihSecond =>
    exact joined_all (fun _ _ one other => ⟨clampRatio_range _, one, other⟩) ihFirst ihSecond

theorem ratios_validateLayout (available : Finset String) (value : StoredLayout) :
    ∀ layout ∈ validateLayout available value, layout.Ratios := by
  induction value with
  | other =>
    intro layout member
    cases member
  | node type sessionId id direction ratio first second ihFirst ihSecond =>
    intro layout member
    unfold validateLayout at member
    split at member
    · obtain rfl := Option.some.inj member
      exact trivial
    · exact joined_all (fun _ _ one other => ⟨clampRatio_range _, one, other⟩) ihFirst ihSecond layout member
    · cases member

theorem splitLeaf_of_notMem {target : String} (absent : target ∉ layout.layoutSessions)
    (sessionId : String) (direction : SplitDirection) (randomUUID : List Bool → String) :
    layout.splitLeaf target sessionId direction randomUUID = layout := by
  induction layout generalizing randomUUID with
  | leaf session => exact if_neg fun same => absent (List.mem_singleton.mpr same.symm)
  | split id along ratio first second ihFirst ihSecond =>
    rw [layoutSessions, List.mem_append, not_or] at absent
    rw [splitLeaf, ihFirst absent.1, ihSecond absent.2]

variable {sessionId : String}

theorem removeLeaf_splitLeaf (fresh : sessionId ∉ layout.layoutSessions) (target : String) (direction : SplitDirection)
    (randomUUID : List Bool → String) :
    (layout.splitLeaf target sessionId direction randomUUID).removeLeaf sessionId = some layout := by
  induction layout generalizing randomUUID with
  | leaf session =>
    have other : session ≠ sessionId := fun same => fresh (List.mem_singleton.mpr same.symm)
    by_cases here : session = target
    · rw [splitLeaf, if_pos here, removeLeaf, removeLeaf, removeLeaf, if_neg other, if_pos rfl]
      rfl
    · rw [splitLeaf, if_neg here, removeLeaf, if_neg other]
  | split id along ratio first second ihFirst ihSecond =>
    rw [layoutSessions, List.mem_append, not_or] at fresh
    rw [splitLeaf, removeLeaf, ihFirst fresh.1, ihSecond fresh.2, joined]

theorem map_layoutRects (layout : TerminalLayout) (area : Area ℚ) :
    (layout.layoutRects area).map TerminalRect.sessionId = layout.layoutSessions := by
  induction layout generalizing area with
  | leaf session => rfl
  | split id direction ratio first second ihFirst ihSecond =>
    cases direction <;> rw [layoutRects, List.map_append, ihFirst, ihSecond, layoutSessions]

theorem ratio_part {size ratio : ℚ} (positive : 0 < size) (range : 1 / 5 ≤ ratio ∧ ratio ≤ 4 / 5) :
    0 < size * ratio ∧ size * ratio < size := by
  constructor
  · exact mul_pos positive (by linarith [range.1])
  · nlinarith [range.2]

theorem layoutRects_tiles (ratios : layout.Ratios) {area : Area ℚ}
    (positive : area.Positive) : area.Tiles ((layout.layoutRects area).map TerminalRect.area) := by
  induction layout generalizing area with
  | leaf session => exact Area.tiles_single positive
  | split id direction ratio first second ihFirst ihSecond =>
    obtain ⟨range, front, back⟩ := ratios
    cases direction with
    | horizontal =>
      have part := ratio_part positive.2 range
      rw [layoutRects, List.map_append]
      exact .stacked ⟨part.1.le, part.2.le⟩ (ihFirst front ⟨positive.1, part.1⟩)
        (ihSecond back ⟨positive.1, sub_pos.mpr part.2⟩)
    | vertical =>
      have part := ratio_part positive.1 range
      rw [layoutRects, List.map_append]
      exact .beside ⟨part.1.le, part.2.le⟩ (ihFirst front ⟨part.1, positive.2⟩)
        (ihSecond back ⟨sub_pos.mpr part.2, positive.2⟩)

theorem splitLeaf_sessions (single : layout.layoutSessions.Nodup) {target : String}
    {before after : List String} (found : layout.layoutSessions = before ++ target :: after) (sessionId : String)
    (direction : SplitDirection) (randomUUID : List Bool → String) :
    (layout.splitLeaf target sessionId direction randomUUID).layoutSessions =
      before ++ target :: sessionId :: after := by
  -- The target has no other leaf, in front or behind.
  have others : ∀ sessions : List String, target ∉ sessions →
      (sessions.flatMap fun session => if session = target then [session, sessionId] else [session]) = sessions := by
    intro sessions absent
    induction sessions with
    | nil => rfl
    | cons session sessions ih =>
      rw [List.mem_cons, not_or] at absent
      rw [List.flatMap_cons, if_neg (Ne.symm absent.1), ih absent.2, List.singleton_append]
  rw [found, List.nodup_middle, List.nodup_cons, List.mem_append, not_or] at single
  rw [layoutSessions_splitLeaf, found, List.flatMap_append, List.flatMap_cons, if_pos rfl,
    others before single.1.1, others after single.1.2, List.cons_append, List.singleton_append]

theorem Built.wellFormed (built : Built layout) : layout.WellFormed := by
  induction built with
  | leaf sessionId => exact ⟨List.nodup_singleton _, trivial⟩
  | @splitLeaf layout target sessionId direction randomUUID fresh _ ih =>
    refine ⟨?_, ratios_splitLeaf ih.ratios _ _ _ _⟩
    by_cases there : target ∈ layout.layoutSessions
    · obtain ⟨before, after, found⟩ := List.append_of_mem there
      have single := ih.single
      rw [splitLeaf_sessions single found, List.append_cons, List.nodup_middle, List.nodup_cons, List.append_assoc,
        List.singleton_append, ← found]
      exact ⟨fresh, single⟩
    · exact (splitLeaf_of_notMem there _ _ _).symm ▸ ih.single
  | @removeLeaf layout rest sessionId _ done ih =>
    refine ⟨?_, ratios_removeLeaf ih.ratios sessionId rest done⟩
    have sessions := left_removeLeaf layout sessionId
    rw [done] at sessions
    exact (congrArg List.Nodup sessions).mpr (ih.single.filter _)
  | updateRatio id ratio _ ih =>
    exact ⟨(layoutSessions_updateRatio _ id ratio).symm ▸ ih.single, ratios_updateRatio ih.ratios id ratio⟩
  | @mapLayoutSessions layout mapped map injective _ done ih =>
    refine ⟨?_, ratios_mapLayoutSessions layout map mapped done⟩
    have sessions := left_mapLayoutSessions layout map
    rw [done] at sessions
    refine (congrArg List.Nodup sessions).mpr (ih.single.filterMap fun session other name one two => ?_)
    exact injective session other name (Option.mem_filter_iff.mp one).1 (Option.mem_filter_iff.mp two).1
  | @validateLayout layout valid available _ done ih =>
    refine ⟨?_, ratios_validateLayout available _ valid done⟩
    have sessions := left_validateLayout available layout
    rw [done] at sessions
    exact (congrArg List.Nodup sessions).mpr (ih.single.filter _)

/-- A layout made by the operations is well formed, they change its sessions as they say, and its rectangles tile. -/
theorem built_tiled {layout : TerminalLayout} (built : Built layout) :
    layout.WellFormed ∧
    (∀ target sessionId direction randomUUID, sessionId ∉ layout.layoutSessions →
      (∀ before after, layout.layoutSessions = before ++ target :: after →
        (layout.splitLeaf target sessionId direction randomUUID).layoutSessions =
          before ++ target :: sessionId :: after) ∧
      (target ∉ layout.layoutSessions → layout.splitLeaf target sessionId direction randomUUID = layout) ∧
      (layout.splitLeaf target sessionId direction randomUUID).removeLeaf sessionId = some layout) ∧
    (∀ sessionId, left (layout.removeLeaf sessionId) = layout.layoutSessions.filter (· ≠ sessionId)) ∧
    (∀ id ratio, (layout.updateRatio id ratio).layoutSessions = layout.layoutSessions) ∧
    (∀ map, left (layout.mapLayoutSessions map) =
      layout.layoutSessions.filterMap fun session => (map session).filter (· ≠ "")) ∧
    (∀ available, left (validateLayout available layout.stored) = layout.layoutSessions.filter (· ∈ available)) ∧
    ∀ area : Area ℚ, area.Positive →
      (layout.layoutRects area).map TerminalRect.sessionId = layout.layoutSessions ∧
        area.Tiles ((layout.layoutRects area).map TerminalRect.area) := by
  have good := built.wellFormed
  refine ⟨good, ?_, left_removeLeaf layout, layoutSessions_updateRatio layout, left_mapLayoutSessions layout,
    fun available => left_validateLayout available layout, ?_⟩
  · intro target sessionId direction randomUUID fresh
    exact ⟨fun before after found => splitLeaf_sessions good.single found sessionId direction randomUUID,
      fun absent => splitLeaf_of_notMem absent sessionId direction randomUUID,
      removeLeaf_splitLeaf fresh target direction randomUUID⟩
  · intro area positive
    exact ⟨map_layoutRects layout area, layoutRects_tiles good.ratios positive⟩

/-- Two terminals beside each other, and a third below the second one. -/
theorem built_tiled_three :
    ∃ layout : TerminalLayout, layout.layoutSessions = ["a", "b", "c"] ∧ layout.WellFormed ∧
      Area.Tiles ⟨0, 0, 100, 100⟩ ((layout.layoutRects ⟨0, 0, 100, 100⟩).map TerminalRect.area) := by
  have first := (Built.leaf "a").splitLeaf "a" "b" .vertical (fun _ => "one") (by decide)
  have built := first.splitLeaf "b" "c" .horizontal (fun _ => "two") (by decide)
  have tiled := built_tiled built
  exact ⟨_, by decide, tiled.1, (tiled.2.2.2.2.2.2 ⟨0, 0, 100, 100⟩ ⟨by norm_num, by norm_num⟩).2⟩

end TerminalLayout

end Frontend

end CNShell
