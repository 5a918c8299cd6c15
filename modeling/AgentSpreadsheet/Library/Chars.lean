import Mathlib.Logic.Basic

/-! Classes of ASCII characters as ranges of their numbers. -/
namespace AgentSpreadsheet.Library
variable {c : Char}

theorem isUpper_iff : c.isUpper = true ↔ 65 ≤ c.toNat ∧ c.toNat ≤ 90 := by
  change decide (c.val ≥ 'A'.val ∧ c.val ≤ 'Z'.val) = true ↔ _
  rw [decide_eq_true_iff]
  exact Iff.rfl

theorem isLower_iff : c.isLower = true ↔ 97 ≤ c.toNat ∧ c.toNat ≤ 122 := by
  change (decide (c.val ≥ 'a'.val) && decide (c.val ≤ 'z'.val)) = true ↔ _
  rw [Bool.and_eq_true, decide_eq_true_iff, decide_eq_true_iff]
  exact Iff.rfl

theorem isDigit_iff : c.isDigit = true ↔ 48 ≤ c.toNat ∧ c.toNat ≤ 57 := by
  change (decide (c.val ≥ '0'.val) && decide (c.val ≤ '9'.val)) = true ↔ _
  rw [Bool.and_eq_true, decide_eq_true_iff, decide_eq_true_iff]
  exact Iff.rfl

theorem isAlpha_iff : c.isAlpha = true ↔ c.isUpper = true ∨ c.isLower = true := by
  change (c.isUpper || c.isLower) = true ↔ _
  rw [Bool.or_eq_true]

theorem isAlpha_of_isUpper (h : c.isUpper = true) : c.isAlpha = true := isAlpha_iff.mpr (.inl h)

theorem not_isUpper_of_isDigit (h : c.isDigit = true) : c.isUpper = false := by
  rw [isDigit_iff] at h
  rw [← Bool.not_eq_true, isUpper_iff]
  omega

theorem not_isDigit_of_isUpper (h : c.isUpper = true) : c.isDigit = false := by
  rw [isUpper_iff] at h
  rw [← Bool.not_eq_true, isDigit_iff]
  omega

theorem not_isLower_of_isDigit (h : c.isDigit = true) : c.isLower = false := by
  rw [isDigit_iff] at h
  rw [← Bool.not_eq_true, isLower_iff]
  omega

theorem not_isLower_of_isUpper (h : c.isUpper = true) : c.isLower = false := by
  rw [isUpper_iff] at h
  rw [← Bool.not_eq_true, isLower_iff]
  omega

theorem not_isAlpha_of_isDigit (h : c.isDigit = true) : c.isAlpha = false := by
  rw [← Bool.not_eq_true, isAlpha_iff, not_isUpper_of_isDigit h, not_isLower_of_isDigit h]
  simp

theorem toUpper_of_not_isLower (h : c.isLower = false) : c.toUpper = c := by
  unfold Char.toUpper
  rw [dif_neg]
  intro hlower
  exact absurd (isLower_iff.mpr hlower) (by simp [h])

theorem toUpper_of_isUpper (h : c.isUpper = true) : c.toUpper = c :=
  toUpper_of_not_isLower (not_isLower_of_isUpper h)

theorem toUpper_of_isDigit (h : c.isDigit = true) : c.toUpper = c :=
  toUpper_of_not_isLower (not_isLower_of_isDigit h)

theorem toLower_of_not_isUpper (h : c.isUpper = false) : c.toLower = c := by
  unfold Char.toLower
  rw [dif_neg]
  intro hupper
  exact absurd (isUpper_iff.mpr hupper) (by simp [h])

end AgentSpreadsheet.Library
