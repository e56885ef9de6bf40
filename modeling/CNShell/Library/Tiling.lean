import Mathlib.Algebra.Order.Field.Basic
import Mathlib.Data.Set.Basic
import Mathlib.Algebra.BigOperators.Group.List.Basic
import Mathlib.Tactic.Ring
import Mathlib.Tactic.Linarith
import Mathlib.Order.CompletePartialOrder

/-! Rectangles that tile a larger one, and how two tilings side by side make one. -/

namespace CNShell

/-- A rectangle by its upper left corner and its size. -/
structure Area (K : Type u) where
  left : K
  top : K
  width : K
  height : K
deriving DecidableEq

namespace Area

variable {K : Type u} [Field K] [LinearOrder K]

def size (area : Area K) : K := area.width * area.height

def Positive (area : Area K) : Prop := 0 < area.width ∧ 0 < area.height

/-- The points strictly inside. -/
def interior (area : Area K) : Set (K × K) :=
  {point | (area.left < point.1 ∧ point.1 < area.left + area.width) ∧
    area.top < point.2 ∧ point.2 < area.top + area.height}

/-- The rectangles have a positive size, share no inner point, stay inside the whole, and add up to it. -/
structure Tiles (whole : Area K) (pieces : List (Area K)) : Prop where
  positive : ∀ piece ∈ pieces, piece.Positive
  apart : pieces.Pairwise fun piece other => Disjoint piece.interior other.interior
  inside : ∀ piece ∈ pieces, piece.interior ⊆ whole.interior
  total : (pieces.map size).sum = whole.size

/-- The part of a width on the left, and the rest of it. -/
def before (area : Area K) (width : K) : Area K := { area with width := width }

def behind (area : Area K) (width : K) : Area K :=
  { area with left := area.left + width, width := area.width - width }

/-- The part of a height at the top, and the rest of it. -/
def above (area : Area K) (height : K) : Area K := { area with height := height }

def below (area : Area K) (height : K) : Area K :=
  { area with top := area.top + height, height := area.height - height }

theorem tiles_single {whole : Area K} (positive : whole.Positive) : whole.Tiles [whole] where
  positive piece member := List.mem_singleton.mp member ▸ positive
  apart := List.pairwise_singleton _ _
  inside piece member := by rw [List.mem_singleton.mp member]
  total := by simp

theorem Tiles.append {whole first second : Area K} {front back : List (Area K)} (tiles : first.Tiles front)
    (others : second.Tiles back) (apart : Disjoint first.interior second.interior)
    (inside : first.interior ⊆ whole.interior ∧ second.interior ⊆ whole.interior)
    (total : first.size + second.size = whole.size) : whole.Tiles (front ++ back) where
  positive piece member := (List.mem_append.mp member).elim (tiles.positive piece) (others.positive piece)
  apart := List.pairwise_append.mpr ⟨tiles.apart, others.apart, fun piece member other there =>
    -- Each piece is apart from the others because its part is.
    apart.mono (tiles.inside piece member) (others.inside other there)⟩
  inside piece member := (List.mem_append.mp member).elim
    (fun member => (tiles.inside piece member).trans inside.1)
    (fun member => (others.inside piece member).trans inside.2)
  total := by rw [List.map_append, List.sum_append, tiles.total, others.total, total]

variable [IsStrictOrderedRing K]

theorem Tiles.beside {whole : Area K} {width : K} {front back : List (Area K)}
    (within : 0 ≤ width ∧ width ≤ whole.width) (tiles : (whole.before width).Tiles front)
    (others : (whole.behind width).Tiles back) : whole.Tiles (front ++ back) := by
  refine tiles.append others ?_ ⟨?_, ?_⟩ ?_
  · rw [Set.disjoint_left]
    rintro point ⟨⟨-, near⟩, -⟩ ⟨⟨far, -⟩, -⟩
    exact lt_asymm near far
  · rintro point ⟨⟨near, far⟩, tall⟩
    exact ⟨⟨near, far.trans_le (by simpa [before] using within.2)⟩, tall⟩
  · rintro point ⟨⟨near, far⟩, tall⟩
    simp only [behind] at near far
    exact ⟨⟨by linarith [within.1], by linarith⟩, tall⟩
  · simp only [size, before, behind]
    ring

theorem Tiles.stacked {whole : Area K} {height : K} {front back : List (Area K)}
    (within : 0 ≤ height ∧ height ≤ whole.height) (tiles : (whole.above height).Tiles front)
    (others : (whole.below height).Tiles back) : whole.Tiles (front ++ back) := by
  refine tiles.append others ?_ ⟨?_, ?_⟩ ?_
  · rw [Set.disjoint_left]
    rintro point ⟨-, -, near⟩ ⟨-, far, -⟩
    exact lt_asymm near far
  · rintro point ⟨wide, near, far⟩
    exact ⟨wide, near, far.trans_le (by simpa [above] using within.2)⟩
  · rintro point ⟨wide, near, far⟩
    simp only [below] at near far
    exact ⟨wide, by linarith [within.1], by linarith⟩
  · simp only [size, above, below]
    ring

end Area

end CNShell
