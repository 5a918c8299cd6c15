import AgentSpreadsheet.Search.Values
import AgentSpreadsheet.Sheets.Transform

/-! The rows of a sheet under insertion, and the sums that end right above inserted rows. The plan
reads the sheet before the insertion, the expansion after it. -/
namespace AgentSpreadsheet.Clone
open Library
open Sheets (StageTools formulaCell valueCell)
open Analysis (cellAddress)

/-- What a clone copies of a row's dimension, and the rest of it. -/
structure RowDimension where
  height : Rat := 0
  descent : Rat := 0
  thickBot : Bool := false
  customHeight : Bool := false
  hidden : Bool := false
  style : String := ""
  remainder : String := ""
  deriving DecidableEq, Repr

/-- `adjustFormula` is what inserting rows makes of a formula on the same sheet. A new cell may
come with a dimension of its row; `isDecimalDigit` knows the digits that are not ASCII. -/
structure CloneTools extends StageTools where
  adjustFormula : Nat → Nat → String → String
  isDecimalDigit : Char → Bool
  cellAddsRow : Bool

structure Grid where
  cell : Position → Option Cell
  row : Nat → Option RowDimension
  highestColumn : Nat
  placed : ∀ position, (cell position).isSome → position.1 ≤ highestColumn

namespace Grid

@[ext] theorem ext {a b : Grid} (hcell : ∀ position, a.cell position = b.cell position)
    (hrow : ∀ line, a.row line = b.row line) (hcolumn : a.highestColumn = b.highestColumn) :
    a = b := by
  obtain ⟨cell, row, highestColumn, placed⟩ := a
  obtain ⟨cell', row', highestColumn', placed'⟩ := b
  obtain rfl : cell = cell' := funext hcell
  obtain rfl : row = row' := funext hrow
  obtain rfl : highestColumn = highestColumn' := hcolumn
  rfl

def columns (grid : Grid) : List Nat := List.range' 1 grid.highestColumn

variable (tools : CloneTools)

def touchRow (dimension : Option RowDimension) : Option RowDimension :=
  if tools.cellAddsRow then some (dimension.getD {}) else dimension

def setCell (position : Position) (cell : Cell) (grid : Grid) : Grid where
  cell := Function.update grid.cell position (some cell)
  row := Function.update grid.row position.2 (touchRow tools (grid.row position.2))
  highestColumn := max grid.highestColumn position.1
  placed other h := by
    by_cases hsame : other = position
    · subst hsame
      exact Nat.le_max_right _ _
    · rw [Function.update_of_ne hsame] at h
      exact Nat.le_trans (grid.placed other h) (Nat.le_max_left _ _)

def setRow (line : Nat) (dimension : RowDimension) (grid : Grid) : Grid :=
  { grid with row := Function.update grid.row line (some dimension) }

def origin (line count at_ : Nat) : Option Nat :=
  if at_ < line then some at_ else if at_ < line + count then none else some (at_ - count)

def adjusted (line count : Nat) (cell : Cell) : Cell :=
  { cell with formula := cell.formula.map (tools.adjustFormula line count) }

def insertNewRow (line count : Nat) (grid : Grid) : Grid where
  cell position := (origin line count position.2).bind fun source =>
    (grid.cell (position.1, source)).map (adjusted tools line count)
  row other := (origin line count other).bind grid.row
  highestColumn := grid.highestColumn
  placed position h := by
    cases hsource : origin line count position.2 with
    | none =>
      rw [hsource] at h
      contradiction
    | some source =>
      rw [hsource] at h
      exact grid.placed (position.1, source) (by simpa using h)

end Grid

/-! ### Simple sums -/

/-- The captures of `SUM(A1:A9)`. -/
structure SimpleSum where
  col1 : String
  row1 : String
  col2 : String
  row2 : String
  deriving DecidableEq, Repr

/-- Where case does not count, the long s and the Kelvin sign are letters as well. -/
def isColumnLetter (c : Char) : Bool := c.isAlpha || c.toNat == 383 || c.toNat == 8490

section Sums
variable (tools : CloneTools)

def isDigit (c : Char) : Bool := c.isDigit || (127 < c.toNat && tools.isDecimalDigit c)

/-- A column of one to three letters, its row, and what follows. -/
def sumEnd (text : List Char) : Option (String × String × List Char) :=
  let letters := text.takeWhile isColumnLetter
  let rest := text.dropWhile isColumnLetter
  let digits := rest.takeWhile (isDigit tools)
  if 1 ≤ letters.length ∧ letters.length ≤ 3 ∧ digits ≠ [] then
    some (String.ofList letters, String.ofList digits, rest.dropWhile (isDigit tools))
  else none

/-- `(?i)^SUM\(([A-Z]{1,3})(\d+):([A-Z]{1,3})(\d+)\)$`. -/
def simpleSumRange (formula : String) : Option SimpleSum :=
  match formula.toList with
  | s :: u :: m :: '(' :: rest =>
    if (s.toUpper = 'S' ∨ s.toNat = 383) ∧ u.toUpper = 'U' ∧ m.toUpper = 'M' then
      match sumEnd tools rest with
      | some (col1, row1, ':' :: rest) =>
        match sumEnd tools rest with
        | some (col2, row2, [')']) => some ⟨col1, row1, col2, row2⟩
        | _ => none
      | _ => none
    else none
  | _ => none

/-- As a `u32`, or 0. -/
def rowNumber (digits : String) : Nat :=
  if digits.toList.all Char.isDigit ∧ Nat.ofDigitChars 10 digits.toList 0 < 2 ^ 32 then
    Nat.ofDigitChars 10 digits.toList 0
  else 0

def previewAdjacentSumTargets (insertAtRow count : Nat) (grid : Grid) : List String :=
  grid.columns.filterMap fun col => do
    let cell ← grid.cell (col, insertAtRow)
    let formula ← cell.formula
    let sum ← simpleSumRange tools (stripEquals formula)
    if sum.col1 = sum.col2 ∧ rowNumber sum.row2 + 1 = insertAtRow then
      some (cellAddress col (insertAtRow + count))
    else none

/-! ### Expansion -/

inductive SumStep where
  | keep
  | skip (warning : String)
  | expand (formula : String)
  deriving DecidableEq, Repr

def expandedSum (column row1 : String) (desiredEnd : Nat) : String :=
  "SUM(" ++ column ++ row1 ++ ":" ++ column ++ toString desiredEnd ++ ")"

/-- What becomes of a formula below the inserted rows. -/
def sumStep (sheetName : String) (atRow count col : Nat) (formula : String) : SumStep :=
  let bare := stripEquals formula
  let place := sheetName ++ "!" ++ cellAddress col (atRow + count)
  if formula = "" then .keep
  else
    match simpleSumRange tools bare with
    | none =>
      if Search.strContains (Search.toAsciiUppercase bare) "SUM" then
        .skip ("WARN_SUM_EXPANSION_SKIPPED: " ++ place ++ " has complex SUM formula '" ++ bare ++
          "'; skipped.")
      else .keep
    | some sum =>
      let col1 := Search.toAsciiUppercase sum.col1
      let col2 := Search.toAsciiUppercase sum.col2
      if col1 ≠ col2 then
        .skip ("WARN_SUM_EXPANSION_SKIPPED: " ++ place ++ " SUM spans columns " ++ col1 ++ ":" ++
          col2 ++ " — not a single-column range; skipped.")
      else if atRow = 0 ∨ rowNumber sum.row2 + 1 ≠ atRow then .keep
      else if rowNumber sum.row2 < rowNumber sum.row1 ∨ rowNumber sum.row1 = 0 then .keep
      else .expand (expandedSum col1 (toString (rowNumber sum.row1)) (atRow + count - 1))

structure SumExpansion where
  grid : Grid
  warnings : List String := []
  expandedCount : Nat := 0

def expandSum (sheetName : String) (atRow count : Nat) (state : SumExpansion) (col : Nat) :
    SumExpansion :=
  match state.grid.cell (col, atRow + count) with
  | none => state
  | some cell =>
    match cell.formula.map (sumStep tools sheetName atRow count col) with
    | none | some .keep => state
    | some (.skip warning) => { state with warnings := state.warnings ++ [warning] }
    | some (.expand formula) =>
      { state with
        grid := state.grid.setCell tools (col, atRow + count)
          (formulaCell tools.toEditTools formula cell)
        expandedCount := state.expandedCount + 1 }

def expandAdjacentSumFormulas (sheetName : String) (atRow count : Nat) (grid : Grid) :
    SumExpansion :=
  grid.columns.foldl (expandSum tools sheetName atRow count) { grid }

end Sums

end AgentSpreadsheet.Clone
