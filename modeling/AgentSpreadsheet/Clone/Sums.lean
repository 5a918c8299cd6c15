import AgentSpreadsheet.Analysis.Dependents
import AgentSpreadsheet.Clone.Grid
import AgentSpreadsheet.Sheets.Staging

/-! When the expansion of sums does what the plan says. The two read the columns of a sum
differently, and only one of them asks for its rows to be in order. -/
namespace AgentSpreadsheet.Clone
open Library
open Sheets (formulaCell)
open Analysis (cellAddress)

section Expansion
variable {tools : CloneTools} {sheetName : String} {atRow count : Nat}

def sumExpanded (tools : CloneTools) (sheetName : String) (atRow count col : Nat)
    (formula : String) : Option String :=
  match sumStep tools sheetName atRow count col formula with
  | .expand formula => some formula
  | _ => none

def sumCell (tools : CloneTools) (sheetName : String) (atRow count col : Nat) (cell : Cell) : Cell :=
  match cell.formula.bind (sumExpanded tools sheetName atRow count col) with
  | some formula => formulaCell tools.toEditTools formula cell
  | none => cell

theorem expandSum_cell (state : SumExpansion) (col : Nat) (position : Position) :
    (expandSum tools sheetName atRow count state col).grid.cell position =
      if position = (col, atRow + count) then
        (state.grid.cell position).map (sumCell tools sheetName atRow count col)
      else state.grid.cell position := by
  unfold expandSum
  cases hcell : state.grid.cell (col, atRow + count) with
  | none =>
    by_cases hplace : position = (col, atRow + count)
    · simp [hplace, hcell]
    · simp [hplace]
  | some cell =>
    by_cases hplace : position = (col, atRow + count)
    · subst hplace
      simp only [if_pos, hcell, Option.map_some, sumCell]
      cases hformula : cell.formula with
      | none => simp [hcell]
      | some formula =>
        cases hstep : sumStep tools sheetName atRow count col formula <;>
          simp [hstep, sumExpanded, hcell, Grid.setCell]
    · rw [if_neg hplace]
      cases hformula : cell.formula with
      | none => simp [hformula]
      | some formula =>
        cases hstep : sumStep tools sheetName atRow count col formula <;>
          simp [hformula, hstep, Grid.setCell, Function.update_of_ne hplace]

theorem foldl_expandSum_cell {cols : List Nat} (hnodup : cols.Nodup) (state : SumExpansion)
    (position : Position) :
    (cols.foldl (expandSum tools sheetName atRow count) state).grid.cell position =
      if position.2 = atRow + count ∧ position.1 ∈ cols then
        (state.grid.cell position).map (sumCell tools sheetName atRow count position.1)
      else state.grid.cell position := by
  induction cols generalizing state with
  | nil => simp
  | cons col cols ih =>
    have hparts := List.nodup_cons.mp hnodup
    rw [List.foldl_cons, ih hparts.2, expandSum_cell]
    by_cases hcol : position.1 = col
    · subst hcol
      by_cases hrow : position.2 = atRow + count
      · have hplace : position = (position.1, atRow + count) := Prod.ext rfl hrow
        rw [if_neg fun h => hparts.1 h.2, if_pos hplace, if_pos ⟨hrow, List.mem_cons_self⟩]
      · have hplace : position ≠ (position.1, atRow + count) := fun h => hrow (congrArg Prod.snd h)
        rw [if_neg fun h => hrow h.1, if_neg hplace, if_neg fun h => hrow h.1]
    · have hplace : position ≠ (col, atRow + count) := fun h => hcol (congrArg Prod.fst h)
      rw [if_neg hplace]
      simp only [List.mem_cons, hcol, false_or]

theorem mem_columns {grid : Grid} {col : Nat} :
    col ∈ grid.columns ↔ 1 ≤ col ∧ col ≤ grid.highestColumn := by
  unfold Grid.columns
  rw [List.mem_range'_1]
  omega

/-- The expansion looks at each cell below the inserted rows by itself. -/
theorem expanded_cell (grid : Grid) (position : Position) :
    (expandAdjacentSumFormulas tools sheetName atRow count grid).grid.cell position =
      if position.2 = atRow + count ∧ position.1 ∈ grid.columns then
        (grid.cell position).map (sumCell tools sheetName atRow count position.1)
      else grid.cell position :=
  foldl_expandSum_cell List.nodup_range' _ position

end Expansion

/-! ### What is planned and what is done -/

section Plan
variable (tools : CloneTools) (sheetName : String) (atRow count : Nat) (grid : Grid)

def Grid.formula (grid : Grid) (position : Position) : Option String :=
  (grid.cell position).bind Cell.formula

/-- The sheet with the rows inserted, and then with its sums expanded. -/
def afterExpansion : Grid :=
  (expandAdjacentSumFormulas tools sheetName atRow count
    (grid.insertNewRow tools atRow count)).grid

/-- The expansion changes the formula at a position. -/
def Rewritten (position : Position) : Prop :=
  (afterExpansion tools sheetName atRow count grid).formula position ≠
    (grid.insertNewRow tools atRow count).formula position

/-- Inserting rows keeps a row number or moves it down. -/
def RowMoves (before after : String) : Prop :=
  rowNumber after = rowNumber before ∨
    rowNumber after = Interval.inserted atRow count (rowNumber before)

/-- Inserting rows leaves a simple sum a simple sum of the same columns, and makes none. -/
def AdjustsSums : Prop :=
  ∀ atRow count formula, match simpleSumRange tools (stripEquals formula),
      simpleSumRange tools (stripEquals (tools.adjustFormula atRow count formula)) with
    | some before, some after =>
      Search.toAsciiUppercase after.col1 = Search.toAsciiUppercase before.col1 ∧
      Search.toAsciiUppercase after.col2 = Search.toAsciiUppercase before.col2 ∧
      RowMoves atRow count before.row1 after.row1 ∧ RowMoves atRow count before.row2 after.row2
    | none, none => True
    | _, _ => False

/-- A formula that stood at the insertion is a sum of one column that ends right above it, and
`formula` is the same sum over the inserted rows as well. -/
def Extends (original formula : String) : Prop :=
  ∃ sum, simpleSumRange tools (stripEquals original) = some sum ∧
    Search.toAsciiUppercase sum.col1 = Search.toAsciiUppercase sum.col2 ∧
    rowNumber sum.row2 + 1 = atRow ∧
    formula = expandedSum (Search.toAsciiUppercase sum.col1) (toString (rowNumber sum.row1))
      (rowNumber sum.row2 + count)

structure SumsAsPlanned : Prop where
  targets : ∀ position : Position, cellAddress position.1 position.2 ∈
    previewAdjacentSumTargets tools atRow count grid ↔
      Rewritten tools sheetName atRow count grid position
  extended : ∀ position, Rewritten tools sheetName atRow count grid position →
    ∃ original formula, grid.formula (position.1, atRow) = some original ∧
      (afterExpansion tools sheetName atRow count grid).formula position = some formula ∧
      Extends tools atRow count original formula

/-- Each sum that ends right above the insertion names one column twice in one spelling, from a
row that is not below its last, or names two columns. -/
def SumsPlain : Prop :=
  ∀ col ∈ grid.columns, ∀ formula, grid.formula (col, atRow) = some formula →
    ∀ sum, simpleSumRange tools (stripEquals formula) = some sum →
      rowNumber sum.row2 + 1 = atRow →
      (sum.col1 = sum.col2 ↔
        Search.toAsciiUppercase sum.col1 = Search.toAsciiUppercase sum.col2 ∧
          1 ≤ rowNumber sum.row1 ∧ rowNumber sum.row1 ≤ rowNumber sum.row2)

end Plan

section Exact
variable {tools : CloneTools} {sheetName : String} {atRow count col : Nat} {grid : Grid}

theorem mem_preview {target : String} :
    target ∈ previewAdjacentSumTargets tools atRow count grid ↔
      ∃ col ∈ grid.columns, ∃ formula sum, grid.formula (col, atRow) = some formula ∧
        simpleSumRange tools (stripEquals formula) = some sum ∧ sum.col1 = sum.col2 ∧
        rowNumber sum.row2 + 1 = atRow ∧ cellAddress col (atRow + count) = target := by
  unfold previewAdjacentSumTargets Grid.formula
  simp only [List.mem_filterMap, bind, Option.bind_eq_some_iff]
  constructor
  · intro h
    obtain ⟨col, hcol, cell, hcell, formula, hformula, sum, hsum, htarget⟩ := h
    split at htarget
    · next hends =>
      exact ⟨col, hcol, formula, sum, ⟨cell, hcell, hformula⟩, hsum, hends.1, hends.2,
        Option.some.inj htarget⟩
    · contradiction
  · intro h
    obtain ⟨col, hcol, formula, sum, ⟨cell, hcell, hformula⟩, hsum, hcols, hends, htarget⟩ := h
    exact ⟨col, hcol, cell, hcell, formula, hformula, sum, hsum, by
      rw [if_pos ⟨hcols, hends⟩, htarget]⟩

theorem sumExpanded_eq_some {formula expanded : String} :
    sumExpanded tools sheetName atRow count col formula = some expanded ↔
      ∃ sum, simpleSumRange tools (stripEquals formula) = some sum ∧
        Search.toAsciiUppercase sum.col1 = Search.toAsciiUppercase sum.col2 ∧
        rowNumber sum.row2 + 1 = atRow ∧ 1 ≤ rowNumber sum.row1 ∧
        rowNumber sum.row1 ≤ rowNumber sum.row2 ∧
        expandedSum (Search.toAsciiUppercase sum.col1) (toString (rowNumber sum.row1))
          (atRow + count - 1) = expanded := by
  unfold sumExpanded sumStep
  dsimp only
  by_cases hempty : formula = ""
  · subst hempty
    simp [stripEquals, simpleSumRange]
  · cases hsum : simpleSumRange tools (stripEquals formula) with
    | none =>
      by_cases hother : Search.strContains (Search.toAsciiUppercase (stripEquals formula)) "SUM" =
          true <;> simp [hempty, hother]
    | some sum =>
      simp only [hempty, if_false, Option.some.injEq, exists_eq_left']
      by_cases hcols : Search.toAsciiUppercase sum.col1 = Search.toAsciiUppercase sum.col2
      · by_cases hends : atRow = 0 ∨ rowNumber sum.row2 + 1 ≠ atRow
        · have hoff : rowNumber sum.row2 + 1 ≠ atRow := by omega
          simp [hcols, hends, hoff]
        · have hends' : rowNumber sum.row2 + 1 = atRow := by omega
          by_cases hrows : rowNumber sum.row2 < rowNumber sum.row1 ∨ rowNumber sum.row1 = 0
          · simp only [hcols, hends, hrows, ne_eq, not_true_eq_false, if_false, if_true,
              reduceCtorEq, false_iff]
            intro h
            omega
          · have hfirst : 1 ≤ rowNumber sum.row1 := by omega
            have hle : rowNumber sum.row1 ≤ rowNumber sum.row2 := by omega
            have habove : atRow ≠ 0 := by omega
            simp [hcols, habove, hrows, hends', hfirst, hle]
      · simp [hcols]

/-! ### Reading back -/

theorem isAlpha_toUpper {c : Char} (h : c.isAlpha = true) : c.toUpper.isAlpha = true := by
  unfold Char.toUpper
  split
  · next hlower =>
    apply isAlpha_of_isUpper
    have hbounds : 97 ≤ c.val.toNat ∧ c.val.toNat ≤ 122 := isLower_iff.mp (by
      rw [isLower_iff]
      exact hlower)
    rw [isUpper_iff, Char.toNat, UInt32.toNat_add]
    change 65 ≤ (c.val.toNat + 4294967264) % 4294967296 ∧
      (c.val.toNat + 4294967264) % 4294967296 ≤ 90
    omega
  · exact h

theorem toUpper_other {c : Char} (h : c.isAlpha = false) : c.toUpper = c := by
  apply toUpper_of_not_isLower
  rw [← Bool.not_eq_true] at h ⊢
  exact fun hlower => h (isAlpha_iff.mpr (.inr hlower))

theorem isColumnLetter_toUpper {c : Char} (h : isColumnLetter c = true) :
    isColumnLetter c.toUpper = true := by
  cases halpha : c.isAlpha with
  | true => simp [isColumnLetter, isAlpha_toUpper halpha]
  | false => rwa [toUpper_other halpha]

theorem sumEnd_letters {text rest : List Char} {column row : String}
    (h : sumEnd tools text = some (column, row, rest)) :
    (∀ c ∈ column.toList, isColumnLetter c = true) ∧ 1 ≤ column.toList.length ∧
      column.toList.length ≤ 3 := by
  unfold sumEnd at h
  dsimp only at h
  split at h
  · next hlength =>
    injection h with h
    injection h with hcolumn h
    rw [← hcolumn, String.toList_ofList]
    exact ⟨fun c hc => List.mem_takeWhile_imp hc, hlength.1, hlength.2.1⟩
  · contradiction

theorem digit_plain {n : Nat} {c : Char} (h : c ∈ (toString n).toList) :
    isDigit tools c = true ∧ isColumnLetter c = false := by
  rw [Analysis.toString_digits] at h
  have hdigit : c.isDigit = true := Nat.isDigit_of_mem_toDigits (by decide) (by decide) h
  refine ⟨by simp [isDigit, hdigit], ?_⟩
  have hbounds := isDigit_iff.mp hdigit
  simp only [isColumnLetter, not_isAlpha_of_isDigit hdigit, Bool.false_or, Bool.or_eq_false_iff,
    beq_eq_false_iff_ne]
  omega

theorem span_stop {α : Type} {p : α → Bool} {xs ys : List α} (hall : ∀ x ∈ xs, p x = true)
    (hstop : ∀ y ∈ ys.head?, p y = false) :
    (xs ++ ys).takeWhile p = xs ∧ (xs ++ ys).dropWhile p = ys := by
  rw [List.takeWhile_append_of_pos hall, List.dropWhile_append_of_pos hall]
  cases ys with
  | nil => simp
  | cons y ys =>
    have hy : p y = false := hstop y rfl
    simp [hy]

theorem sumEnd_read {column : String} {rest : List Char} (n : Nat)
    (hletters : ∀ c ∈ column.toList, isColumnLetter c = true) (hpos : 1 ≤ column.toList.length)
    (hlength : column.toList.length ≤ 3) (hrest : ∀ c ∈ rest.head?, isDigit tools c = false) :
    sumEnd tools (column.toList ++ ((toString n).toList ++ rest)) =
      some (column, toString n, rest) := by
  have hne : (toString n).toList ≠ [] := by
    rw [Analysis.toString_digits]
    exact Nat.toDigits_ne_nil
  have hcolumn := @span_stop _ _ _ ((toString n).toList ++ rest) hletters fun c hc =>
    (@digit_plain tools n c (by
      rw [List.head?_append_of_ne_nil _ hne] at hc
      exact List.mem_of_mem_head? hc)).2
  have hdigits := @span_stop _ (isDigit tools) (toString n).toList rest
    (fun c hc => (digit_plain hc).1) hrest
  unfold sumEnd
  dsimp only
  rw [hcolumn.1, hcolumn.2, hdigits.1, hdigits.2, String.ofList_toList, String.ofList_toList,
    if_pos ⟨hpos, hlength, hne⟩]

theorem simpleSum_letters {formula : String} {sum : SimpleSum}
    (h : simpleSumRange tools formula = some sum) :
    (∀ c ∈ sum.col1.toList, isColumnLetter c = true) ∧ 1 ≤ sum.col1.toList.length ∧
      sum.col1.toList.length ≤ 3 := by
  unfold simpleSumRange at h
  split at h
  · split at h
    · split at h
      · next hfirst =>
        split at h
        · injection h with h
          rw [← h]
          exact sumEnd_letters hfirst
        · contradiction
      · contradiction
    · contradiction
  · contradiction

theorem expandedSum_read {column : String} (first last : Nat)
    (hletters : ∀ c ∈ column.toList, isColumnLetter c = true) (hpos : 1 ≤ column.toList.length)
    (hlength : column.toList.length ≤ 3) :
    simpleSumRange tools (stripEquals (expandedSum column (toString first) last)) =
      some ⟨column, toString first, column, toString last⟩ := by
  have hlist : (expandedSum column (toString first) last).toList = 'S' :: 'U' :: 'M' :: '(' ::
      (column.toList ++ ((toString first).toList ++ (':' :: (column.toList ++
        ((toString last).toList ++ [')']))))) := by
    simp [expandedSum]
  have hstrip : stripEquals (expandedSum column (toString first) last) =
      expandedSum column (toString first) last := by
    unfold stripEquals
    split
    · next h =>
      rw [hlist] at h
      injection h with h
      contradiction
    · rfl
  have hfirst := @sumEnd_read tools column (':' :: (column.toList ++
    ((toString last).toList ++ [')']))) first hletters hpos hlength (by simp [isDigit])
  have hlast := @sumEnd_read tools column [')'] last hletters hpos hlength (by simp [isDigit])
  rw [hstrip]
  unfold simpleSumRange
  have hsum : ('S'.toUpper = 'S' ∨ 'S'.toNat = 383) ∧ 'U'.toUpper = 'U' ∧ 'M'.toUpper = 'M' := by
    decide
  simp only [hlist, if_pos hsum, hfirst, hlast]

theorem rowNumber_toString (n : Nat) :
    rowNumber (toString n) = if n < 2 ^ 32 then n else 0 := by
  unfold rowNumber
  have hall : (toString n).toList.all Char.isDigit = true := by
    rw [Analysis.toString_digits, List.all_eq_true]
    exact fun c hc => Nat.isDigit_of_mem_toDigits (by decide) (by decide) hc
  rw [hall, Analysis.toString_digits, Nat.ofDigitChars_ten_toDigits]
  simp

/-! ### The cells below the inserted rows -/

theorem Grid.origin_below : Grid.origin atRow count (atRow + count) = some atRow := by
  unfold Grid.origin
  split
  · omega
  · simp

theorem inserted_formula : (grid.insertNewRow tools atRow count).formula (col, atRow + count) =
    (grid.formula (col, atRow)).map (tools.adjustFormula atRow count) := by
  unfold Grid.formula Grid.insertNewRow
  dsimp only
  rw [Grid.origin_below, Option.bind_some]
  cases grid.cell (col, atRow) <;> rfl

theorem sumCell_formula (cell : Cell) : (sumCell tools sheetName atRow count col cell).formula =
    (cell.formula.bind (sumExpanded tools sheetName atRow count col)).or cell.formula := by
  unfold sumCell
  cases cell.formula.bind (sumExpanded tools sheetName atRow count col) <;> rfl

theorem afterExpansion_formula (position : Position) :
    (afterExpansion tools sheetName atRow count grid).formula position =
      if position.2 = atRow + count ∧ position.1 ∈ grid.columns then
        (((grid.insertNewRow tools atRow count).formula position).bind
          (sumExpanded tools sheetName atRow count position.1)).or
            ((grid.insertNewRow tools atRow count).formula position)
      else (grid.insertNewRow tools atRow count).formula position := by
  unfold afterExpansion Grid.formula
  rw [expanded_cell]
  change (if position.2 = atRow + count ∧ position.1 ∈ grid.columns then
    ((grid.insertNewRow tools atRow count).cell position).map _ else _ : Option Cell).bind _ = _
  split
  · cases (grid.insertNewRow tools atRow count).cell position with
    | none => rfl
    | some cell => exact sumCell_formula cell
  · rfl

theorem sumExpanded_ne {formula expanded : String} (hcount : 0 < count)
    (h : sumExpanded tools sheetName atRow count col formula = some expanded) :
    expanded ≠ formula := by
  obtain ⟨sum, hsum, _, hends, hfirst, hle, rfl⟩ := sumExpanded_eq_some.mp h
  obtain ⟨hletters, hpos, hlength⟩ := simpleSum_letters hsum
  have hupper : (Search.toAsciiUppercase sum.col1).toList = sum.col1.toList.map Char.toUpper :=
    String.toList_ofList
  have hread := @expandedSum_read tools (Search.toAsciiUppercase sum.col1) (rowNumber sum.row1)
    (atRow + count - 1) (by
      intro c hc
      rw [hupper] at hc
      obtain ⟨d, hd, rfl⟩ := List.mem_map.mp hc
      exact isColumnLetter_toUpper (hletters d hd))
    (by rwa [hupper, List.length_map]) (by rwa [hupper, List.length_map])
  intro hsame
  rw [hsame, hsum] at hread
  have hrow : sum.row2 = toString (atRow + count - 1) :=
    congrArg SimpleSum.row2 (Option.some.inj hread)
  have hnumber := rowNumber_toString (atRow + count - 1)
  rw [← hrow] at hnumber
  split at hnumber <;> omega

theorem rewritten_iff (hcount : 0 < count) {position : Position} :
    Rewritten tools sheetName atRow count grid position ↔
      position.2 = atRow + count ∧ position.1 ∈ grid.columns ∧ ∃ formula expanded,
        (grid.insertNewRow tools atRow count).formula position = some formula ∧
        sumExpanded tools sheetName atRow count position.1 formula = some expanded := by
  unfold Rewritten
  rw [afterExpansion_formula]
  split
  · next hplace =>
    cases hformula : (grid.insertNewRow tools atRow count).formula position with
    | none => simp
    | some formula =>
      cases hexpanded : sumExpanded tools sheetName atRow count position.1 formula with
      | none => simp [hexpanded]
      | some expanded =>
        simp [hexpanded, hplace, sumExpanded_ne hcount hexpanded]
  · next hplace =>
    constructor
    · exact fun h => absurd rfl h
    · exact fun h => absurd ⟨h.1, h.2.1⟩ hplace

theorem adjusted_expanded (hadjust : AdjustsSums tools) {formula expanded : String} :
    sumExpanded tools sheetName atRow count col (tools.adjustFormula atRow count formula) =
        some expanded ↔
      ∃ sum, simpleSumRange tools (stripEquals formula) = some sum ∧
        Search.toAsciiUppercase sum.col1 = Search.toAsciiUppercase sum.col2 ∧
        rowNumber sum.row2 + 1 = atRow ∧ 1 ≤ rowNumber sum.row1 ∧
        rowNumber sum.row1 ≤ rowNumber sum.row2 ∧
        expandedSum (Search.toAsciiUppercase sum.col1) (toString (rowNumber sum.row1))
          (rowNumber sum.row2 + count) = expanded := by
  rw [sumExpanded_eq_some]
  have hlaw := hadjust atRow count formula
  split at hlaw
  · next before after hbefore hafter =>
    obtain ⟨hcol1, hcol2, hrow1, hrow2⟩ := hlaw
    unfold RowMoves Interval.inserted at hrow1 hrow2
    rw [hbefore, hafter]
    simp only [Option.some.injEq, exists_eq_left', hcol1, hcol2]
    constructor
    · intro h
      obtain ⟨hcols, hends, hfirst, hle, hexpanded⟩ := h
      have hrow2' : rowNumber after.row2 = rowNumber before.row2 := by
        split at hrow2 <;> omega
      have hrow1' : rowNumber after.row1 = rowNumber before.row1 := by
        split at hrow1 <;> omega
      rw [hrow1'] at hexpanded
      refine ⟨hcols, by omega, by omega, by omega, ?_⟩
      rw [← hexpanded]
      congr 1
      omega
    · intro h
      obtain ⟨hcols, hends, hfirst, hle, hexpanded⟩ := h
      have hrow2' : rowNumber after.row2 = rowNumber before.row2 := by
        split at hrow2 <;> omega
      have hrow1' : rowNumber after.row1 = rowNumber before.row1 := by
        split at hrow1 <;> omega
      rw [hrow1', hrow2']
      refine ⟨hcols, hends, hfirst, hle, ?_⟩
      rw [← hexpanded]
      congr 1
      omega
  · next hbefore hafter =>
    rw [hbefore, hafter]
    simp
  · contradiction

theorem preview_iff {position : Position} : cellAddress position.1 position.2 ∈
      previewAdjacentSumTargets tools atRow count grid ↔
    position.2 = atRow + count ∧ position.1 ∈ grid.columns ∧ ∃ formula sum,
      grid.formula (position.1, atRow) = some formula ∧
      simpleSumRange tools (stripEquals formula) = some sum ∧ rowNumber sum.row2 + 1 = atRow ∧
      sum.col1 = sum.col2 := by
  rw [mem_preview]
  constructor
  · intro h
    obtain ⟨col, hcol, formula, sum, hformula, hsum, hcols, hends, haddress⟩ := h
    obtain ⟨rfl, hrow⟩ := Analysis.cellAddress_inj haddress
    exact ⟨hrow.symm, hcol, formula, sum, hformula, hsum, hends, hcols⟩
  · intro h
    obtain ⟨hrow, hcol, formula, sum, hformula, hsum, hends, hcols⟩ := h
    exact ⟨position.1, hcol, formula, sum, hformula, hsum, hcols, hends, by rw [hrow]⟩

theorem rewritten_sum (hadjust : AdjustsSums tools) (hcount : 0 < count) {position : Position} :
    Rewritten tools sheetName atRow count grid position ↔
      position.2 = atRow + count ∧ position.1 ∈ grid.columns ∧ ∃ formula sum,
        grid.formula (position.1, atRow) = some formula ∧
        simpleSumRange tools (stripEquals formula) = some sum ∧ rowNumber sum.row2 + 1 = atRow ∧
        Search.toAsciiUppercase sum.col1 = Search.toAsciiUppercase sum.col2 ∧
        1 ≤ rowNumber sum.row1 ∧ rowNumber sum.row1 ≤ rowNumber sum.row2 := by
  rw [rewritten_iff hcount]
  refine and_congr_right fun hrow => and_congr_right fun _ => ?_
  have hplace : position = (position.1, atRow + count) := Prod.ext rfl hrow
  rw [hplace, inserted_formula]
  constructor
  · intro h
    obtain ⟨formula, expanded, hformula, hexpanded⟩ := h
    obtain ⟨original, horiginal, rfl⟩ := Option.map_eq_some_iff.mp hformula
    obtain ⟨sum, hsum, hcols, hends, hfirst, hle, _⟩ := (adjusted_expanded hadjust).mp hexpanded
    exact ⟨original, sum, horiginal, hsum, hends, hcols, hfirst, hle⟩
  · intro h
    obtain ⟨original, sum, horiginal, hsum, hends, hcols, hfirst, hle⟩ := h
    exact ⟨_, _, Option.map_eq_some_iff.mpr ⟨original, horiginal, rfl⟩,
      (adjusted_expanded hadjust).mpr ⟨sum, hsum, hcols, hends, hfirst, hle, rfl⟩⟩

theorem rewritten_extends (hadjust : AdjustsSums tools) (hcount : 0 < count) {position : Position}
    (h : Rewritten tools sheetName atRow count grid position) : ∃ original formula,
      grid.formula (position.1, atRow) = some original ∧
      (afterExpansion tools sheetName atRow count grid).formula position = some formula ∧
      Extends tools atRow count original formula := by
  obtain ⟨hrow, hcol, formula, expanded, hformula, hexpanded⟩ := (rewritten_iff hcount).mp h
  have hafter := @afterExpansion_formula tools sheetName atRow count grid position
  rw [if_pos ⟨hrow, hcol⟩, hformula, Option.bind_some, hexpanded] at hafter
  have hplace : position = (position.1, atRow + count) := Prod.ext rfl hrow
  rw [hplace, inserted_formula] at hformula
  obtain ⟨original, horiginal, rfl⟩ := Option.map_eq_some_iff.mp hformula
  obtain ⟨sum, hsum, hcols, hends, _, _, rfl⟩ := (adjusted_expanded hadjust).mp hexpanded
  exact ⟨original, _, horiginal, hafter, sum, hsum, hcols, hends, rfl⟩

end Exact

/-! ### Footers that differ in case or run upwards -/

def footerTools : CloneTools where
  toStageTools := Sheets.sampleStageTools
  adjustFormula _ _ formula := formula
  isDecimalDigit _ := false
  cellAddsRow := true

/-- A sheet with one formula, in `A4`. -/
def footerSheet (formula : String) : Grid where
  cell position := if position = (1, 4) then some { formula := some formula } else none
  row _ := none
  highestColumn := 1
  placed position h := by
    by_cases hplace : position = (1, 4)
    · simp [hplace]
    · simp [hplace] at h

theorem footer_adjusts : AdjustsSums footerTools := by
  intro atRow count formula
  change match simpleSumRange footerTools (stripEquals formula),
    simpleSumRange footerTools (stripEquals formula) with
    | some before, some after => _
    | none, none => True
    | _, _ => False
  cases simpleSumRange footerTools (stripEquals formula) with
  | none => trivial
  | some sum => exact ⟨rfl, rfl, Or.inl rfl, Or.inl rfl⟩

theorem footer_formula {formula formula' : String} {col : Nat}
    (h : (footerSheet formula).formula (col, 4) = some formula') : col = 1 ∧ formula = formula' := by
  unfold Grid.formula footerSheet at h
  dsimp only at h
  by_cases hcol : (col, 4) = (1, 4)
  · rw [if_pos hcol] at h
    exact ⟨congrArg Prod.fst hcol, Option.some.inj h⟩
  · rw [if_neg hcol] at h
    contradiction

end AgentSpreadsheet.Clone
