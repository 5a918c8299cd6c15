import AgentSpreadsheet.Sheets.Typing
import Mathlib.Algebra.Order.Ring.Abs

/-! Differences and comparisons of floating point numbers. -/
namespace AgentSpreadsheet.Sheets.F64

/-- `NaN` where the difference means nothing. -/
def sub (rounding : Rounding) : F64 → F64 → F64
  | .finite a, .finite b => rounding.round (a.1 - b.1)
  | .nan, _ | _, .nan => .nan
  | .infinite a, .infinite b => if a = b then .nan else .infinite a
  | .infinite a, .finite _ => .infinite a
  | .finite _, .infinite b => .infinite !b

theorem representable_abs {q : ℚ} (h : Representable q) : Representable |q| := by
  obtain ⟨m, e, hm, he, he', hq⟩ := h
  have hpow : (0 : ℚ) < 2 ^ e := zpow_pos (by norm_num) e
  refine ⟨|m|, e, ?_, he, he', ?_⟩
  · rw [abs_abs]
    exact hm
  · rw [hq, abs_mul, abs_of_pos hpow, Int.cast_abs]

def abs : F64 → F64
  | .finite d => .finite ⟨|d.1|, representable_abs d.2⟩
  | .infinite _ => .infinite false
  | .nan => .nan

/-- Nothing is below `NaN` or above it. -/
def lt : F64 → F64 → Bool
  | .finite a, .finite b => a.1 < b.1
  | .infinite true, .finite _ | .infinite true, .infinite false | .finite _, .infinite false => true
  | _, _ => false

def le : F64 → F64 → Bool
  | .finite a, .finite b => a.1 ≤ b.1
  | .infinite true, .finite _ | .infinite true, .infinite _ | .finite _, .infinite false
  | .infinite false, .infinite false => true
  | _, _ => false

/-- `1e-9`, as the nearest number of 53 binary digits. -/
def tolerance : Double :=
  ⟨4835703278458517 * 2 ^ (-82 : ℤ), 4835703278458517, -82, by norm_num, by norm_num, by norm_num,
    by norm_num⟩

/-- One of two comparisons with a number holds, but for `NaN`. -/
theorem le_iff_not_lt {x : F64} (hx : x ≠ .nan) (d : Double) :
    le (.finite d) x = true ↔ lt x (.finite d) = false := by
  cases x with
  | finite a => simp [le, lt]
  | infinite negative => cases negative <;> simp [le, lt]
  | nan => contradiction

theorem abs_eq_nan {x : F64} : abs x = .nan ↔ x = .nan := by
  cases x <;> simp [abs]

theorem sub_self_finite (rounding : Rounding) (d : Double) :
    sub rounding (.finite d) (.finite d) = .finite ⟨0, representable_zero⟩ := by
  have hexact := rounding.exact ⟨0, representable_zero⟩
  simp only [sub, sub_self]
  exact hexact

theorem abs_sub_comm {rounding : Rounding}
    (hround : ∀ q, abs (rounding.round (-q)) = abs (rounding.round q)) (x y : F64) :
    abs (sub rounding x y) = abs (sub rounding y x) := by
  cases x with
  | finite a =>
    cases y with
    | finite b =>
      simp only [sub]
      rw [← hround, neg_sub]
    | infinite n => rfl
    | nan => rfl
  | infinite m =>
    cases y with
    | finite b => rfl
    | infinite n => by_cases h : m = n <;> simp [sub, h, Ne.symm, abs]
    | nan => rfl
  | nan => cases y <;> rfl
end AgentSpreadsheet.Sheets.F64
