import AgentSpreadsheet.Library.Interval
import Mathlib.Algebra.BigOperators.Intervals
import Mathlib.Algebra.Order.BigOperators.Group.Finset
import Mathlib.Tactic.Linarith

/-! Tracks laid out one after another, each starting where the one before it ends, and the areas of
blocks of cells between them. -/
namespace AgentSpreadsheet.Library

open scoped BigOperators

/-- A rectangle of cells. -/
structure Block where
  cols : Interval
  rows : Interval

def Interval.Has (interval : Interval) (index : ℕ) : Prop :=
  interval.lo ≤ index ∧ index ≤ interval.hi

def Block.Has (block : Block) (col row : ℕ) : Prop := block.cols.Has col ∧ block.rows.Has row

/-- Blocks without a cell in common are apart one way or the other. -/
theorem Block.not_meets {a b : Block} (h : ∀ col row, a.Has col row → ¬ b.Has col row) :
    ¬ a.cols.Meets b.cols ∨ ¬ a.rows.Meets b.rows := by
  by_contra hboth
  rw [not_or, not_not, not_not] at hboth
  obtain ⟨hcols, hrows⟩ := hboth
  have := a.cols.le
  have := b.cols.le
  have := a.rows.le
  have := b.rows.le
  unfold Interval.Meets at hcols hrows
  apply h (max a.cols.lo b.cols.lo) (max a.rows.lo b.rows.lo)
  · unfold Block.Has Interval.Has
    omega
  · unfold Block.Has Interval.Has
    omega

structure Area (K : Type) where
  x : K
  y : K
  w : K
  h : K
  deriving DecidableEq, Repr

section Tracks
variable {K : Type} [AddCommGroup K] [LinearOrder K] [IsOrderedAddMonoid K]
  {size : ℕ → K} {first : ℕ}

/-- Where a track starts, from track `first` on. -/
def start (size : ℕ → K) (first index : ℕ) : K := ∑ i ∈ Finset.Ico first index, size i

@[simp] theorem start_self (size : ℕ → K) (first : ℕ) : start size first first = 0 := by
  simp [start]

theorem start_succ (size : ℕ → K) {index : ℕ} (h : first ≤ index) :
    start size first (index + 1) = start size first index + size index :=
  Finset.sum_Ico_succ_top h size

theorem start_head (size : ℕ → K) {index : ℕ} (h : first < index) :
    start size first index = size first + start size (first + 1) index :=
  Finset.sum_eq_sum_Ico_succ_bot h size

theorem start_mono (hsize : ∀ i, 0 ≤ size i) {i j : ℕ} (h : i ≤ j) :
    start size first i ≤ start size first j :=
  Finset.sum_le_sum_of_subset_of_nonneg (Finset.Ico_subset_Ico_right h) fun index _ _ => hsize index

theorem start_apart (hsize : ∀ i, 0 ≤ size i) {a b : Interval} (h : ¬ a.Meets b) :
    start size first (a.hi + 1) ≤ start size first b.lo ∨
      start size first (b.hi + 1) ≤ start size first a.lo := by
  unfold Interval.Meets at h
  by_cases hbefore : a.hi < b.lo
  · exact .inl (start_mono hsize hbefore)
  · exact .inr (start_mono hsize (by omega))

def Area.Apart (a b : Area K) : Prop :=
  (a.x + a.w ≤ b.x ∨ b.x + b.w ≤ a.x) ∨ a.y + a.h ≤ b.y ∨ b.y + b.h ≤ a.y

structure Area.Within (inner outer : Area K) : Prop where
  left : outer.x ≤ inner.x
  right : inner.x + inner.w ≤ outer.x + outer.w
  top : outer.y ≤ inner.y
  bottom : inner.y + inner.h ≤ outer.y + outer.h

/-- Columns and rows with their sizes. -/
structure Grid (K : Type) [AddCommGroup K] [LinearOrder K] where
  originX : K
  originY : K
  firstCol : ℕ
  firstRow : ℕ
  colSize : ℕ → K
  rowSize : ℕ → K
  colSize_nonneg : ∀ i, 0 ≤ colSize i
  rowSize_nonneg : ∀ i, 0 ≤ rowSize i

def Grid.left (grid : Grid K) (col : ℕ) : K := start grid.colSize grid.firstCol col

def Grid.top (grid : Grid K) (row : ℕ) : K := start grid.rowSize grid.firstRow row

def Grid.area (grid : Grid K) (block : Block) : Area K where
  x := grid.originX + grid.left block.cols.lo
  y := grid.originY + grid.top block.rows.lo
  w := grid.left (block.cols.hi + 1) - grid.left block.cols.lo
  h := grid.top (block.rows.hi + 1) - grid.top block.rows.lo

variable {grid : Grid K} {a b : Block}

theorem Grid.left_mono {i j : ℕ} (h : i ≤ j) : grid.left i ≤ grid.left j :=
  start_mono grid.colSize_nonneg h

theorem Grid.top_mono {i j : ℕ} (h : i ≤ j) : grid.top i ≤ grid.top j :=
  start_mono grid.rowSize_nonneg h

theorem Grid.area_right (grid : Grid K) (block : Block) :
    (grid.area block).x + (grid.area block).w = grid.originX + grid.left (block.cols.hi + 1) := by
  simp [Grid.area, add_assoc]

theorem Grid.area_bottom (grid : Grid K) (block : Block) :
    (grid.area block).y + (grid.area block).h = grid.originY + grid.top (block.rows.hi + 1) := by
  simp [Grid.area, add_assoc]

/-- Blocks without a cell in common do not overlap. -/
theorem Grid.area_apart (h : ∀ col row, a.Has col row → ¬ b.Has col row) :
    (grid.area a).Apart (grid.area b) := by
  unfold Area.Apart
  rw [grid.area_right, grid.area_right, grid.area_bottom, grid.area_bottom]
  cases Block.not_meets h with
  | inl hcols =>
    left
    exact (start_apart grid.colSize_nonneg hcols).imp (add_le_add_right · _) (add_le_add_right · _)
  | inr hrows =>
    right
    exact (start_apart grid.rowSize_nonneg hrows).imp (add_le_add_right · _) (add_le_add_right · _)

theorem Grid.area_within (hcols : b.cols.lo ≤ a.cols.lo ∧ a.cols.hi ≤ b.cols.hi)
    (hrows : b.rows.lo ≤ a.rows.lo ∧ a.rows.hi ≤ b.rows.hi) :
    (grid.area a).Within (grid.area b) where
  left := add_le_add_right (grid.left_mono hcols.1) _
  right := by
    rw [grid.area_right, grid.area_right]
    exact add_le_add_right (grid.left_mono (by omega)) _
  top := add_le_add_right (grid.top_mono hrows.1) _
  bottom := by
    rw [grid.area_bottom, grid.area_bottom]
    exact add_le_add_right (grid.top_mono (by omega)) _

end Tracks

end AgentSpreadsheet.Library
