import Mathlib.Data.Nat.Notation

/-! Intervals of lines that are inserted and deleted. Growing keeps the order of
all ends, so it neither joins nor parts intervals; shrinking never joins two that
were apart. -/
namespace AgentSpreadsheet.Library

/-- The lines `lo` to `hi`, both included. -/
structure Interval where
  lo : ℕ
  hi : ℕ
  le : lo ≤ hi
  deriving DecidableEq, Repr

namespace Interval

/-- Two intervals with a line in common. -/
def Meets (a b : Interval) : Prop := a.lo ≤ b.hi ∧ b.lo ≤ a.hi

instance (a b : Interval) : Decidable (a.Meets b) := inferInstanceAs (Decidable (_ ∧ _))

theorem Meets.symm {a b : Interval} (h : a.Meets b) : b.Meets a := ⟨h.2, h.1⟩

/-- The interval between two lines in either order. -/
def between (a b : ℕ) : Interval := ⟨min a b, max a b, by omega⟩

/-- Where a line is after `count` lines are inserted before line `first`. -/
def inserted (first count line : ℕ) : ℕ := if line < first then line else line + count

theorem inserted_le_inserted {first count a b : ℕ} :
    inserted first count a ≤ inserted first count b ↔ a ≤ b := by
  unfold inserted
  split <;> split <;> omega

/-- Shift an interval below an insertion; one across it grows. -/
def grow (first count : ℕ) (i : Interval) : Interval :=
  ⟨inserted first count i.lo, inserted first count i.hi, inserted_le_inserted.mpr i.le⟩

/-- Where a line is after the `count` lines from `first` are deleted; a deleted
line goes to the line that takes its place. -/
def deleted (first count line : ℕ) : ℕ := if line < first then line else max first (line - count)

/-- Shift an interval below a deletion; one across it loses the deleted lines, and
one inside it is gone. -/
def shrink (first count : ℕ) (i : Interval) : Option Interval :=
  if h : deleted first count i.lo < deleted first count (i.hi + 1) then
    some ⟨deleted first count i.lo, deleted first count (i.hi + 1) - 1, by omega⟩
  else none

/-- The part of an interval across an insertion lies on both of its sides. -/
def Across (first : ℕ) (i : Interval) : Prop := i.lo < first ∧ first ≤ i.hi

instance (first : ℕ) (i : Interval) : Decidable (i.Across first) :=
  inferInstanceAs (Decidable (_ ∧ _))

def moveBy (distance : ℕ) (i : Interval) : Interval :=
  ⟨distance + i.lo, distance + i.hi, Nat.add_le_add_left i.le distance⟩

variable {a b c : Interval} {first count distance : ℕ}

@[simp] theorem grow_meets_grow : (a.grow first count).Meets (b.grow first count) ↔ a.Meets b := by
  unfold Meets grow
  simp only [inserted_le_inserted]

theorem lt_of_deleted_lt {line other : ℕ}
    (h : deleted first count line < deleted first count other) : line < other := by
  unfold deleted at h
  split at h <;> split at h <;> omega

theorem shrink_eq_some (h : a.shrink first count = some b) :
    b.lo = deleted first count a.lo ∧ b.hi + 1 = deleted first count (a.hi + 1) := by
  unfold shrink at h
  split at h
  next hlt =>
    cases Option.some.inj h
    dsimp only
    omega
  next => contradiction

theorem meets_of_shrink (ha : a.shrink first count = some a') (hb : b.shrink first count = some b')
    (h : a'.Meets b') : a.Meets b := by
  obtain ⟨halo, hahi⟩ := shrink_eq_some ha
  obtain ⟨hblo, hbhi⟩ := shrink_eq_some hb
  obtain ⟨hab, hba⟩ := h
  have hlo : deleted first count a.lo < deleted first count (b.hi + 1) := by omega
  have hhi : deleted first count b.lo < deleted first count (a.hi + 1) := by omega
  exact ⟨Nat.lt_succ_iff.mp (lt_of_deleted_lt hlo), Nat.lt_succ_iff.mp (lt_of_deleted_lt hhi)⟩

/-- Inserted lines belong to the intervals that were across the insertion. -/
theorem grow_meets_inserted (hlo : first ≤ c.lo) (hhi : c.hi < first + count) :
    (a.grow first count).Meets c ↔ a.Across first := by
  have := a.le
  have := c.le
  unfold Meets Across grow inserted
  dsimp only
  split <;> split <;> omega

@[simp] theorem moveBy_meets_moveBy :
    (a.moveBy distance).Meets (b.moveBy distance) ↔ a.Meets b := by
  unfold Meets moveBy
  simp

end Interval

end AgentSpreadsheet.Library
