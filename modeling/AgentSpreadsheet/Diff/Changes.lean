import AgentSpreadsheet.Diff.Cells

/-! Two tests for a change of a cell: the one of the difference of two files, and the one of
a prepared write. -/
namespace AgentSpreadsheet.Diff
open Library Sheets

/-- The text of a value. Numbers are displayed. -/
def materializedValueString (display : ℚ → String) : ResidentMaterializedValue → Option String
  | .empty => none
  | .string s | .richText s | .lazy s | .error s => some s
  | .number n => some (display n)
  | .bool b => some (if b then "1" else "0")

section Prepared
variable (rounding : Rounding) (display : ℚ → String)

/-- Whether the texts of two values differ, for a prepared write. -/
def valueChanged : Option String → Option String → Bool
  | some before, some after =>
    match parseF64 rounding before, parseF64 rounding after with
    | some x, some y => F64.le (.finite F64.tolerance) (x.sub rounding y).abs
    | _, _ => before != after
  | before, after => before != after

def preparedCellChange (address : String) (before after : Option ResidentMaterializedCell) :
    Option CellDiff :=
  let beforeValue := before.bind fun cell => materializedValueString display cell.value
  let afterValue := after.bind fun cell => materializedValueString display cell.value
  let beforeFormula := before.bind ResidentMaterializedCell.formula
  let afterFormula := after.bind ResidentMaterializedCell.formula
  match before, after with
  | none, none => none
  | none, some _ =>
    if afterValue.isNone && afterFormula.isNone then none
    else some (.added address afterValue afterFormula)
  | some _, none => some (.deleted address beforeValue)
  | some _, some _ =>
    let formulaChanged := decide (beforeFormula ≠ afterFormula)
    if !formulaChanged && !valueChanged rounding beforeValue afterValue then none
    else
      let subtype := if formulaChanged then .formulaEdit
        else if afterFormula.isSome then .recalcResult else .valueEdit
      some (.modified address subtype beforeValue afterValue beforeFormula afterFormula none none)

end Prepared

/-- Both texts are numbers, and their difference means nothing: one is not a number, or they
are the same infinity. -/
def NoDifference (rounding : Rounding) (a b : Option String) : Prop :=
  ∃ s t x y, a = some s ∧ b = some t ∧ parseF64 rounding s = some x ∧ parseF64 rounding t = some y ∧
    (x = .nan ∨ y = .nan ∨ ∃ negative, x = .infinite negative ∧ y = .infinite negative)

section Agreement
variable {rounding : Rounding} {a b : Option String}

theorem sub_eq_nan_iff (hround : ∀ q, rounding.round q ≠ .nan) {x y : F64} :
    x.sub rounding y = .nan ↔
      x = .nan ∨ y = .nan ∨ ∃ negative, x = .infinite negative ∧ y = .infinite negative := by
  cases x with
  | finite d =>
    cases y with
    | finite e => simp [F64.sub, hround]
    | infinite n => simp [F64.sub]
    | nan => simp [F64.sub]
  | infinite m =>
    cases y with
    | finite e => simp [F64.sub]
    | infinite n => by_cases h : m = n <;> simp [F64.sub, h, eq_comm]
    | nan => simp [F64.sub]
  | nan => cases y <;> simp [F64.sub]

/-- Where no difference is, the one test finds a change and the other does not. -/
theorem tests_of_noDifference (hround : ∀ q, rounding.round q ≠ .nan)
    (h : NoDifference rounding a b) :
    valuesEqual rounding a b = false ∧ valueChanged rounding a b = false := by
  obtain ⟨s, t, x, y, ha, hb, hx, hy, hnan⟩ := h
  rw [← sub_eq_nan_iff hround] at hnan
  rw [ha, hb]
  simp only [valuesEqual, valueChanged, hx, hy, hnan]
  exact ⟨rfl, rfl⟩

theorem valueChanged_eq (hround : ∀ q, rounding.round q ≠ .nan)
    (h : ¬ NoDifference rounding a b) :
    valueChanged rounding a b = !valuesEqual rounding a b := by
  cases a with
  | none => cases b <;> rfl
  | some s =>
    cases b with
    | none => rfl
    | some t =>
      simp only [valuesEqual, valueChanged]
      cases hx : parseF64 rounding s with
      | none => rfl
      | some x =>
        cases hy : parseF64 rounding t with
        | none => rfl
        | some y =>
          have hnumber : (x.sub rounding y).abs ≠ .nan := by
            rw [Ne, F64.abs_eq_nan, sub_eq_nan_iff hround]
            intro hnan
            exact h ⟨s, t, x, y, rfl, rfl, hx, hy, hnan⟩
          have hle := F64.le_iff_not_lt hnumber F64.tolerance
          dsimp only
          rw [Bool.eq_iff_iff, hle, Bool.not_eq_true']

theorem valuesEqual_self (h : ¬ NoDifference rounding a a) : valuesEqual rounding a a = true := by
  cases a with
  | none => rfl
  | some s =>
    simp only [valuesEqual]
    cases hx : parseF64 rounding s with
    | none => simp
    | some x =>
      cases x with
      | finite d =>
        simp only [F64.sub_self_finite, F64.abs, F64.lt, decide_eq_true_eq, F64.tolerance]
        norm_num
      | infinite negative =>
        exact absurd ⟨s, s, _, _, rfl, rfl, hx, hx, .inr (.inr ⟨negative, rfl, rfl⟩)⟩ h
      | nan => exact absurd ⟨s, s, _, _, rfl, rfl, hx, hx, .inl rfl⟩ h

theorem changeKind_eq_none {base fork : RawCell} (hstyle : base.styleId = fork.styleId) :
    changeKind rounding base fork = none ↔
      base.formula = fork.formula ∧ valuesEqual rounding base.value fork.value = true := by
  unfold changeKind
  by_cases hformula : base.formula = fork.formula
  · cases hvalue : valuesEqual rounding base.value fork.value with
    | true => simp [hformula, hstyle]
    | false => cases fork.formula.isSome <;> simp [hformula, hstyle]
  · simp [hformula, hstyle]

theorem compareCells_eq_none {base fork : RawCell} (hstyle : base.styleId = fork.styleId) :
    compareCells rounding base fork = none ↔
      base.formula = fork.formula ∧ valuesEqual rounding base.value fork.value = true := by
  unfold compareCells
  rw [Option.map_eq_none_iff, changeKind_eq_none hstyle]

theorem preparedCellChange_eq_none {display : ℚ → String} {address : String}
    {before after : ResidentMaterializedCell} :
    preparedCellChange rounding display address (some before) (some after) = none ↔
      before.formula = after.formula ∧
        valueChanged rounding (materializedValueString display before.value)
          (materializedValueString display after.value) = false := by
  simp [preparedCellChange]

end Agreement

/-- When the two tests of two cells with the same style agree, and find no change of a cell
that stays: unless the formulas are the same and the values are numbers without a difference. -/
theorem change_tests_agree_iff (rounding : Rounding) (hround : ∀ q, rounding.round q ≠ .nan)
    (display : ℚ → String) (address : String) (base fork : RawCell)
    (before after : ResidentMaterializedCell) (hstyle : base.styleId = fork.styleId)
    (hbase : materializedValueString display before.value = base.value ∧
      before.formula = base.formula)
    (hfork : materializedValueString display after.value = fork.value ∧
      after.formula = fork.formula) :
    ((compareCells rounding base fork = none ↔
        preparedCellChange rounding display address (some before) (some after) = none) ∧
      (base.value = fork.value ∧ base.formula = fork.formula →
        compareCells rounding base fork = none ∧
        preparedCellChange rounding display address (some before) (some after) = none)) ↔
    (base.formula = fork.formula → ¬ NoDifference rounding base.value fork.value) := by
  rw [compareCells_eq_none hstyle, preparedCellChange_eq_none, hbase.1, hbase.2, hfork.1, hfork.2]
  constructor
  · intro ⟨hagree, _⟩ hformula hnone
    have htests := tests_of_noDifference hround hnone
    have hequal := (hagree.mpr ⟨hformula, htests.2⟩).2
    rw [htests.1] at hequal
    contradiction
  · intro h
    constructor
    · by_cases hformula : base.formula = fork.formula
      · rw [valueChanged_eq hround (h hformula), Bool.not_eq_false']
      · simp [hformula]
    · intro ⟨hvalue, hformula⟩
      have hnone := h hformula
      rw [valueChanged_eq hround hnone, Bool.not_eq_false']
      rw [hvalue] at hnone ⊢
      have hself := valuesEqual_self hnone
      exact ⟨⟨hformula, hself⟩, hformula, hself⟩

section Sample

theorem exactRounding_ne_nan (q : ℚ) : exactRounding.round q ≠ .nan := by
  unfold exactRounding
  dsimp only
  split <;> simp

def textAt (text : String) : RawCell := ⟨⟨1, 1, "A1"⟩, parse_a1, some text, none, none⟩

def residentText (text : String) : ResidentMaterializedCell := ⟨.string text, none⟩

/-- Two texts that are no numbers. -/
theorem change_tests_agree_on_texts :
    (compareCells exactRounding (textAt "yes") (textAt "sure") = none ↔
      preparedCellChange exactRounding (fun _ => "") "A1" (some (residentText "yes"))
        (some (residentText "sure")) = none) := by
  have hyes : parseF64 exactRounding "yes" = none :=
    parseF64_eq_none rfl (by decide) (by decide)
  refine ((change_tests_agree_iff exactRounding exactRounding_ne_nan (fun _ => "") "A1"
    (textAt "yes") (textAt "sure") (residentText "yes") (residentText "sure") rfl ⟨rfl, rfl⟩
    ⟨rfl, rfl⟩).mpr ?_).1
  intro _ ⟨s, t, x, y, hs, _, hx, _⟩
  injection hs with hs
  rw [← hs, hyes] at hx
  contradiction

/-- A text that reads as no number, left as it is, is a change for one test only. -/
theorem nan_is_changed_and_is_not :
    compareCells exactRounding (textAt "nan") (textAt "nan") ≠ none ∧
      preparedCellChange exactRounding (fun _ => "") "A1" (some (residentText "nan"))
        (some (residentText "nan")) = none := by
  have hnan : parseF64 exactRounding "nan" = some .nan := rfl
  have hnone : NoDifference exactRounding (some "nan") (some "nan") :=
    ⟨"nan", "nan", _, _, rfl, rfl, hnan, hnan, .inl rfl⟩
  have htests := tests_of_noDifference exactRounding_ne_nan hnone
  constructor
  · rw [Ne, compareCells_eq_none rfl]
    intro h
    have hequal : valuesEqual exactRounding (some "nan") (some "nan") = true := h.2
    rw [htests.1] at hequal
    contradiction
  · rw [preparedCellChange_eq_none]
    exact ⟨rfl, htests.2⟩

end Sample

end AgentSpreadsheet.Diff
