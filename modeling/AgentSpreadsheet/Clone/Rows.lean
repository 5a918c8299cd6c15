import AgentSpreadsheet.Clone.Grid
import AgentSpreadsheet.Sheets.References

/-! Two ways to clone rows: a row as one operation, and a band of rows that are captured by the
plan and stamped over inserted rows. -/
namespace AgentSpreadsheet.Clone
open Library
open Sheets (Bounds Book formulaCell valueCell CloneMergePolicy resolveCloneAnchor)
open Analysis (cellAddress columnNumberToName)

structure DataValidation where
  sqref : List String
  rule : String
  deriving DecidableEq, Repr

structure CloneSheet where
  grid : Grid
  merges : List String
  validations : Option (List DataValidation)

/-- `insertMerges` is what inserting rows makes of merged ranges, and `rewriteFormulas` of the
formulas on another sheet. -/
structure RowTools extends CloneTools where
  helper : Sheets.CoordinateHelper
  insertMerges : Nat → Nat → List String → List String
  rewriteFormulas : String → Nat → Nat → String → Grid → Result Grid
  parsesAsNumber : String → Bool

/-! ### Ranges as text -/

def parseAppendCoord (raw : String) : Option (Nat × Nat) := do
  let coord := (Legacy.trim raw).toList.dropWhile (· == '$')
  let parts ← coord.foldlM readPart ([], [])
  if parts.1.isEmpty then none
  else
    let row ← Analysis.parseU32 parts.2
    let col := parts.1.foldl (fun col c => min (min (col * 26) 4294967295 + (c.toNat - 64))
      4294967295) 0
    if 0 < col ∧ 0 < row then some (col, row) else none
where
  readPart (parts : List Char × List Char) (c : Char) : Option (List Char × List Char) :=
    if c = '$' then some parts
    else if c.isAlpha then
      if parts.2.isEmpty then some (parts.1 ++ [c.toUpper], parts.2) else none
    else if c.isDigit then some (parts.1, parts.2 ++ [c])
    else none

def parseAppendRegionBounds (raw : String) : Option Bounds := do
  let ends := (Sheets.splitOnce ':' raw).getD (raw, raw)
  let first ← parseAppendCoord ends.1
  let last ← parseAppendCoord ends.2
  pure ⟨.between first.1 last.1, .between first.2 last.2⟩

def formatA1Range (startCol endCol startRow endRow : Nat) : String :=
  let first := columnNumberToName startCol ++ toString startRow
  let last := columnNumberToName endCol ++ toString endRow
  if first = last then first else first ++ ":" ++ last

def rowRange (first last : Nat) : String := toString first ++ ":" ++ toString last

/-! ### Templates -/

structure CloneTemplateCellPreview where
  col : Nat
  value : String
  isFormula : Bool
  deriving DecidableEq, Repr

structure TemplateCellData where
  col : Nat
  value : String
  formula : Option String
  style : String
  deriving DecidableEq, Repr

structure CloneMergeSpan where
  startCol : Nat
  endCol : Nat
  range : String
  deriving DecidableEq, Repr

structure CloneBandMergeSpan where
  startCol : Nat
  endCol : Nat
  startRowOffset : Nat
  endRowOffset : Nat
  range : String
  deriving DecidableEq, Repr

structure CloneValidationSpec where
  dataValidation : DataValidation
  startCol : Nat
  endCol : Nat
  startRowOffset : Nat
  endRowOffset : Nat
  deriving DecidableEq, Repr

structure CloneBandTemplateRow where
  sourceRow : Nat
  rowOffset : Nat
  previewCells : List CloneTemplateCellPreview
  cellData : List TemplateCellData
  rowDimension : Option RowDimension
  deriving DecidableEq, Repr

section Inspect
variable (tools : RowTools)

def Grid.rowCells (grid : Grid) (row : Nat) : List (Nat × Cell) :=
  grid.columns.filterMap fun col => (grid.cell (col, row)).map fun cell => (col, cell)

def captureRowTemplate (grid : Grid) (sourceRow : Nat) : List TemplateCellData :=
  (grid.rowCells sourceRow).map fun (col, cell) =>
    ⟨col, tools.cellText cell.value, cell.formula, cell.style⟩

def inspectTemplateRowCells (grid : Grid) (sourceRow : Nat) : List CloneTemplateCellPreview :=
  (grid.rowCells sourceRow).map fun (col, cell) =>
    ⟨col, tools.cellText cell.value, cell.isFormula⟩

def inspectCloneBandRows (grid : Grid) (first last : Nat) : List CloneBandTemplateRow :=
  (List.range' first (last + 1 - first)).map fun sourceRow =>
    { sourceRow
      rowOffset := sourceRow - first
      previewCells := inspectTemplateRowCells tools grid sourceRow
      cellData := captureRowTemplate tools grid sourceRow
      rowDimension := grid.row sourceRow }

/-- A range apart from the source, inside it, or across its boundary. -/
inductive RangePlace (α : Type) where
  | apart
  | contained (range : α)
  | crossing (raw : String)

def RangePlace.contained? : RangePlace α → Option α
  | .contained range => some range
  | _ => none

def RangePlace.crossing? : RangePlace α → Option String
  | .crossing raw => some raw
  | _ => none

def cloneRowMerge (sourceRow : Nat) (raw : String) : RangePlace CloneMergeSpan :=
  match parseAppendRegionBounds raw with
  | none => .apart
  | some bounds =>
    if ¬(bounds.rows.lo ≤ sourceRow ∧ sourceRow ≤ bounds.rows.hi) then .apart
    else if bounds.rows.lo = sourceRow ∧ bounds.rows.hi = sourceRow then
      .contained ⟨bounds.cols.lo, bounds.cols.hi, raw⟩
    else .crossing raw

def cloneBandMerge (first last : Nat) (raw : String) : RangePlace CloneBandMergeSpan :=
  match parseAppendRegionBounds raw with
  | none => .apart
  | some bounds =>
    if bounds.rows.hi < first ∨ last < bounds.rows.lo then .apart
    else if first ≤ bounds.rows.lo ∧ bounds.rows.hi ≤ last then
      .contained ⟨bounds.cols.lo, bounds.cols.hi, bounds.rows.lo - first, bounds.rows.hi - first,
        raw⟩
    else .crossing raw

def cloneRowValidation (sourceRow : Nat) (validation : DataValidation) (raw : String) :
    RangePlace CloneValidationSpec :=
  match parseAppendRegionBounds raw with
  | none => .apart
  | some bounds =>
    if ¬(bounds.rows.lo ≤ sourceRow ∧ sourceRow ≤ bounds.rows.hi) then .apart
    else if bounds.rows.lo = sourceRow ∧ bounds.rows.hi = sourceRow then
      .contained {
        dataValidation := { validation with
          sqref := [formatA1Range bounds.cols.lo bounds.cols.hi sourceRow sourceRow] }
        startCol := bounds.cols.lo
        endCol := bounds.cols.hi
        startRowOffset := 0
        endRowOffset := 0 }
    else .crossing raw

def cloneBandValidation (first last : Nat) (validation : DataValidation) (raw : String) :
    RangePlace CloneValidationSpec :=
  match parseAppendRegionBounds raw with
  | none => .apart
  | some bounds =>
    if bounds.rows.hi < first ∨ last < bounds.rows.lo then .apart
    else if first ≤ bounds.rows.lo ∧ bounds.rows.hi ≤ last then
      .contained {
        dataValidation := { validation with
          sqref := [formatA1Range bounds.cols.lo bounds.cols.hi bounds.rows.lo bounds.rows.hi] }
        startCol := bounds.cols.lo
        endCol := bounds.cols.hi
        startRowOffset := bounds.rows.lo - first
        endRowOffset := bounds.rows.hi - first }
    else .crossing raw

def inspectValidations (place : DataValidation → String → RangePlace CloneValidationSpec)
    (sheet : CloneSheet) : List CloneValidationSpec :=
  (sheet.validations.getD []).flatMap fun validation =>
    validation.sqref.eraseDups.filterMap fun raw => (place validation raw).contained?

end Inspect

/-! ### Targets -/

inductive ClonePatchTargets where
  | likelyInputs
  | allNonFormula
  | none
  deriving DecidableEq, Repr

def looksLikeFooterLabel (value : String) : Bool :=
  let text := Search.toAsciiLowercase (Legacy.trim value)
  Search.strStartsWith text "total" || Search.strContains text "grand total" ||
    Search.strContains text "subtotal" || Search.strContains text "footer"

section Targets
variable (tools : RowTools)

def CloneValidationSpec.covers (spec : CloneValidationSpec) (rowOffset : Nat) : Bool :=
  spec.startRowOffset ≤ rowOffset && rowOffset ≤ spec.endRowOffset

def likelyInput (validations : List CloneValidationSpec) (rowOffset : Nat)
    (cell : CloneTemplateCellPreview) : Bool :=
  !cell.isFormula && !looksLikeFooterLabel cell.value &&
    (tools.parsesAsNumber (Legacy.trim cell.value) || validations.any fun spec =>
      spec.startCol ≤ cell.col && cell.col ≤ spec.endCol && spec.covers rowOffset)

def getLikelyInputColsForRow (previewCells : List CloneTemplateCellPreview)
    (validations : List CloneValidationSpec) (rowOffset : Nat) (patchTargets : ClonePatchTargets) :
    List Nat :=
  match patchTargets with
  | .none => []
  | .allNonFormula => (Std.TreeSet.ofList ((previewCells.filter fun cell => !cell.isFormula).map
      CloneTemplateCellPreview.col)).toList
  | .likelyInputs => (Std.TreeSet.ofList
      ((previewCells.filter (likelyInput tools validations rowOffset)).map
          CloneTemplateCellPreview.col ++
        (validations.filter fun spec => spec.covers rowOffset).flatMap fun spec =>
          List.range' spec.startCol (spec.endCol + 1 - spec.startCol))).toList

def formulaCols (previewCells : List CloneTemplateCellPreview) : List Nat :=
  (previewCells.filter CloneTemplateCellPreview.isFormula).map CloneTemplateCellPreview.col

def buildCloneFormulaTargets (templateCells : List CloneTemplateCellPreview)
    (insertAtRow count : Nat) : List String :=
  (List.range' insertAtRow count).flatMap fun row =>
    (formulaCols templateCells).map fun col => columnNumberToName col ++ toString row

def buildClonePatchTargets (templateCells : List CloneTemplateCellPreview)
    (validations : List CloneValidationSpec) (insertAtRow count : Nat)
    (patchTargets : ClonePatchTargets) : List String :=
  (List.range' insertAtRow count).flatMap fun row =>
    (getLikelyInputColsForRow tools templateCells validations 0 patchTargets).map fun col =>
      columnNumberToName col ++ toString row

def buildCloneBandFormulaTargets (templateRows : List CloneBandTemplateRow)
    (insertAtRow sourceRowCount repeats : Nat) : List String :=
  (List.range repeats).flatMap fun block => templateRows.flatMap fun row =>
    (formulaCols row.previewCells).map fun col =>
      columnNumberToName col ++ toString (insertAtRow + block * sourceRowCount + row.rowOffset)

def buildCloneBandPatchTargets (templateRows : List CloneBandTemplateRow)
    (validations : List CloneValidationSpec) (insertAtRow sourceRowCount repeats : Nat)
    (patchTargets : ClonePatchTargets) : List String :=
  (List.range repeats).flatMap fun block => templateRows.flatMap fun row =>
    (getLikelyInputColsForRow tools row.previewCells validations row.rowOffset patchTargets).map
      fun col => columnNumberToName col ++
        toString (insertAtRow + block * sourceRowCount + row.rowOffset)

end Targets

/-! ### Plans -/

/-- Where a clone goes and what it may touch: all that the two requests share. -/
structure CloneRequest where
  sheetName : String
  before : Option Nat
  after : Option Nat
  insertAt : Option Nat
  expandAdjacentSums : Bool
  patchTargets : ClonePatchTargets
  mergePolicy : CloneMergePolicy
  deriving DecidableEq, Repr

structure CloneTemplateRowPlan where
  sheetName : String
  sourceRow : Nat
  insertAtRow : Nat
  count : Nat
  insertedRowRange : String
  expandAdjacentSums : Bool
  formulaTargets : List String
  likelyPatchTargets : List String
  adjacentSumTargets : List String
  containedMerges : List CloneMergeSpan
  containedValidations : List CloneValidationSpec
  rowDimension : Option RowDimension

structure CloneRowBandPlan where
  sheetName : String
  sourceRowCount : Nat
  insertAtRow : Nat
  repeats : Nat
  rowsInserted : Nat
  insertedRowRange : String
  expandAdjacentSums : Bool
  formulaTargets : List String
  likelyPatchTargets : List String
  adjacentSumTargets : List String
  templateRows : List CloneBandTemplateRow
  containedMerges : List CloneBandMergeSpan
  containedValidations : List CloneValidationSpec

section Plans
variable (tools : RowTools) (request : CloneRequest) (book : Book CloneSheet)

def sheetWasNotFound (name : String) : String :=
  "invalid argument: sheet '" ++ name ++ "' was not found"

def buildCloneTemplateRowPlan (sourceRow count : Nat) : Result CloneTemplateRowPlan := do
  ensure (sourceRow ≠ 0) "invalid argument: --source-row must be at least 1"
  ensure (count ≠ 0) "invalid argument: --count must be at least 1"
  let insertAtRow ← resolveCloneAnchor request.before request.after request.insertAt
  let sheet ← required (book.sheetByName request.sheetName) (sheetWasNotFound request.sheetName)
  let templateCells := inspectTemplateRowCells tools sheet.grid sourceRow
  let crossing := sheet.merges.filterMap fun raw => (cloneRowMerge sourceRow raw).crossing?
  let validations := inspectValidations (cloneRowValidation sourceRow) sheet
  ensure (¬(request.mergePolicy = .strict ∧ crossing ≠ []))
    ("source row " ++ toString sourceRow ++
      " intersects merged ranges that cross the clone boundary: " ++ ", ".intercalate crossing)
  pure {
    sheetName := request.sheetName
    sourceRow
    insertAtRow
    count
    insertedRowRange := rowRange insertAtRow (insertAtRow + (count - 1))
    expandAdjacentSums := request.expandAdjacentSums
    formulaTargets := buildCloneFormulaTargets templateCells insertAtRow count
    likelyPatchTargets := buildClonePatchTargets tools templateCells validations insertAtRow count
      request.patchTargets
    adjacentSumTargets :=
      if request.expandAdjacentSums then
        previewAdjacentSumTargets tools.toCloneTools insertAtRow count sheet.grid
      else []
    containedMerges := sheet.merges.filterMap fun raw => (cloneRowMerge sourceRow raw).contained?
    containedValidations := validations
    rowDimension := sheet.grid.row sourceRow }

/-- A plus sign may stand before the digits. -/
def parseRow (text : String) : Option Nat :=
  match (Legacy.trim text).toList with
  | '+' :: digits => Analysis.parseU32 digits
  | digits => Analysis.parseU32 digits

def parseCloneRowBand (raw : String) : Result (Nat × Nat) := do
  let ends ← required (Sheets.splitOnce ':' raw)
    "invalid argument: --source-rows must use START:END notation"
  let first ← required (parseRow ends.1)
    "invalid argument: --source-rows start row must be a positive integer"
  let last ← required (parseRow ends.2)
    "invalid argument: --source-rows end row must be a positive integer"
  ensure (¬(first = 0 ∨ last = 0))
    "invalid argument: --source-rows values must both be at least 1"
  ensure (first ≤ last)
    "invalid argument: --source-rows must be an ascending contiguous range like 12:14"
  pure (first, last)

def buildCloneRowBandPlan (sourceRows : String) (repeats : Nat) : Result CloneRowBandPlan := do
  ensure (repeats ≠ 0) "invalid argument: --repeat must be at least 1"
  let (first, last) ← parseCloneRowBand sourceRows
  let sourceRowCount := last - first + 1
  let insertAtRow ← resolveCloneAnchor request.before request.after request.insertAt
  let sheet ← required (book.sheetByName request.sheetName) (sheetWasNotFound request.sheetName)
  let templateRows := inspectCloneBandRows tools sheet.grid first last
  let crossing := sheet.merges.filterMap fun raw => (cloneBandMerge first last raw).crossing?
  let validations := inspectValidations (cloneBandValidation first last) sheet
  ensure (¬(request.mergePolicy = .strict ∧ crossing ≠ []))
    ("source rows " ++ toString first ++ ":" ++ toString last ++
      " intersect merged ranges that cross the clone boundary: " ++ ", ".intercalate crossing)
  let rowsInserted := sourceRowCount * repeats
  pure {
    sheetName := request.sheetName
    sourceRowCount
    insertAtRow
    repeats
    rowsInserted
    insertedRowRange := rowRange insertAtRow (insertAtRow + (rowsInserted - 1))
    expandAdjacentSums := request.expandAdjacentSums
    formulaTargets := buildCloneBandFormulaTargets templateRows insertAtRow sourceRowCount repeats
    likelyPatchTargets := buildCloneBandPatchTargets tools templateRows validations insertAtRow
      sourceRowCount repeats request.patchTargets
    adjacentSumTargets :=
      if request.expandAdjacentSums then
        previewAdjacentSumTargets tools.toCloneTools insertAtRow rowsInserted sheet.grid
      else []
    templateRows
    containedMerges := sheet.merges.filterMap fun raw => (cloneBandMerge first last raw).contained?
    containedValidations := validations }

end Plans

/-! ### Operations -/

section Operations
variable (tools : RowTools)

/-- A validation without ranges is dropped, and so is an empty list of them. -/
def transformDataValidations (atRow count : Nat) :
    Option (List DataValidation) → Result (Option (List DataValidation))
  | none => .ok none
  | some validations => do
    let moved ← validations.mapM fun validation => do
      let sqref ← Sheets.relocateValidation tools.helper .row (.insert atRow count) []
        validation.sqref
      pure { validation with sqref }
    let kept := moved.filter fun validation => !validation.sqref.isEmpty
    pure (if kept.isEmpty then none else some kept)

def CloneSheet.insertRows (atRow count : Nat) (sheet : CloneSheet) : Result CloneSheet := do
  let validations ← transformDataValidations tools atRow count sheet.validations
  pure {
    grid := sheet.grid.insertNewRow tools.toCloneTools atRow count
    merges := tools.insertMerges atRow count sheet.merges
    validations }

def insertedBook (name : String) (atRow count : Nat) (book : Book CloneSheet) :
    Result (Book CloneSheet) := do
  let book ← book.onSheet name (CloneSheet.insertRows tools atRow count)
  book.mapM fun sheet =>
    if sheet.name = name then pure sheet
    else do
      let grid ← tools.rewriteFormulas name atRow count sheet.name sheet.body.grid
      pure { sheet with body := { sheet.body with grid } }

def shiftedTemplate (formula : String) (delta : Int) : String :=
  match tools.shiftFormula formula 0 delta with
  | .ok shifted => stripEquals shifted
  | .error _ => formula

def stampCell (template : TemplateCellData) (delta : Int) (cell : Cell) : Cell :=
  let styled := { cell with style := template.style }
  match template.formula with
  | some formula => formulaCell tools.toEditTools (shiftedTemplate tools formula delta) styled
  | none => valueCell tools.toEditTools template.value styled

def stampRow (template : List TemplateCellData) (sourceRow destRow : Nat) (grid : Grid) : Grid :=
  template.foldl (fun grid cell => grid.setCell tools.toCloneTools (cell.col, destRow)
    (stampCell tools cell (destRow - sourceRow) ((grid.cell (cell.col, destRow)).getD {}))) grid

def stampTemplateRows (template : List TemplateCellData) (sourceRow insertAt count : Nat)
    (grid : Grid) : Grid :=
  (List.range count).foldl (fun grid copy =>
    stampRow tools template sourceRow (insertAt + copy) grid) grid

def CloneSheet.expandSums (sheetName : String) (atRow count : Nat) (expand : Bool)
    (sheet : CloneSheet) : CloneSheet :=
  if expand then
    { sheet with
      grid := (expandAdjacentSumFormulas tools.toCloneTools sheetName atRow count sheet.grid).grid }
  else sheet

def applyInsertRows (name : String) (atRow count : Nat) (expand : Bool) (book : Book CloneSheet) :
    Result (Book CloneSheet) := do
  ensure (¬(atRow = 0 ∨ count = 0)) "insert_rows requires at_row>=1 and count>=1"
  let book ← insertedBook tools name atRow count book
  book.onSheet name fun sheet => .ok (sheet.expandSums tools name atRow count expand)

def applyCloneRow (name : String) (sourceRow insertAt count : Nat) (expand : Bool)
    (book : Book CloneSheet) : Result (Book CloneSheet) := do
  ensure (¬(sourceRow = 0 ∨ insertAt = 0 ∨ count = 0))
    "clone_row requires source_row>=1, insert_at>=1, and count>=1"
  let source ← required (book.sheetByName name) (Book.sheetNotFound name)
  let template := captureRowTemplate tools source.grid sourceRow
  let book ← insertedBook tools name insertAt count book
  let book ← book.onSheet name fun sheet =>
    .ok { sheet with grid := stampTemplateRows tools template sourceRow insertAt count sheet.grid }
  book.onSheet name fun sheet => .ok (sheet.expandSums tools name insertAt count expand)

/-! ### Applying a plan -/

def copySupportedRowDimension (source destination : RowDimension) : RowDimension :=
  { source with remainder := destination.remainder }

def copyRow (source : Option RowDimension) (destRow : Nat) (grid : Grid) : Grid :=
  match source with
  | none => grid
  | some source =>
    grid.setRow destRow (copySupportedRowDimension source ((grid.row destRow).getD {}))

def CloneValidationSpec.copy (spec : CloneValidationSpec) (startRow endRow : Nat) :
    DataValidation :=
  { spec.dataValidation with
    sqref := [formatA1Range spec.startCol spec.endCol startRow endRow] }

def CloneSheet.addValidations (copies : List DataValidation) (specs : List CloneValidationSpec)
    (sheet : CloneSheet) : CloneSheet :=
  if specs.isEmpty then sheet
  else { sheet with validations := some (sheet.validations.getD [] ++ copies) }

def CloneTemplateRowPlan.copySheet (plan : CloneTemplateRowPlan) (sheet : CloneSheet) :
    CloneSheet :=
  let copied := (List.range plan.count).foldl (fun sheet copy =>
    let destRow := plan.insertAtRow + copy
    { sheet with
      grid := copyRow plan.rowDimension destRow sheet.grid
      merges := sheet.merges ++ plan.containedMerges.map fun merge =>
        formatA1Range merge.startCol merge.endCol destRow destRow }) sheet
  copied.addValidations ((List.range plan.count).flatMap fun copy =>
    plan.containedValidations.map fun spec =>
      spec.copy (plan.insertAtRow + copy) (plan.insertAtRow + copy)) plan.containedValidations

def applyCloneTemplateRowPostprocess (plan : CloneTemplateRowPlan) (book : Book CloneSheet) :
    Result (Book CloneSheet) :=
  if plan.containedMerges = [] ∧ plan.containedValidations = [] ∧ plan.rowDimension = none then
    .ok book
  else do
    ensure (book.sheetByName plan.sheetName).isSome (sheetWasNotFound plan.sheetName)
    book.onSheet plan.sheetName fun sheet => .ok (plan.copySheet sheet)

def applyCloneTemplateRowPlan (plan : CloneTemplateRowPlan) (book : Book CloneSheet) :
    Result (Book CloneSheet) := do
  let book ← applyCloneRow tools plan.sheetName plan.sourceRow plan.insertAtRow plan.count
    plan.expandAdjacentSums book
  applyCloneTemplateRowPostprocess plan book

def bandCell (template : TemplateCellData) (delta : Int) (cell : Cell) : Cell :=
  let cleared := { cell with style := template.style, formula := none }
  match template.formula with
  | some formula => formulaCell tools.toEditTools (shiftedTemplate tools formula delta) cleared
  | none => valueCell tools.toEditTools template.value cleared

def CloneBandTemplateRow.stamp (row : CloneBandTemplateRow) (blockStart : Nat) (grid : Grid) :
    Grid :=
  let destRow := blockStart + row.rowOffset
  row.cellData.foldl (fun grid cell => grid.setCell tools.toCloneTools (cell.col, destRow)
    (bandCell tools cell (destRow - row.sourceRow) ((grid.cell (cell.col, destRow)).getD {})))
    (copyRow row.rowDimension destRow grid)

def CloneRowBandPlan.copySheet (plan : CloneRowBandPlan) (sheet : CloneSheet) : CloneSheet :=
  let copied := (List.range plan.repeats).foldl (fun sheet block =>
    let blockStart := plan.insertAtRow + block * plan.sourceRowCount
    { sheet with
      grid := plan.templateRows.foldl (fun grid row => row.stamp tools blockStart grid) sheet.grid
      merges := sheet.merges ++ plan.containedMerges.map fun merge =>
        formatA1Range merge.startCol merge.endCol (blockStart + merge.startRowOffset)
          (blockStart + merge.endRowOffset) }) sheet
  copied.addValidations ((List.range plan.repeats).flatMap fun block =>
    plan.containedValidations.map fun spec =>
      spec.copy (plan.insertAtRow + block * plan.sourceRowCount + spec.startRowOffset)
        (plan.insertAtRow + block * plan.sourceRowCount + spec.endRowOffset))
    plan.containedValidations

def applyCloneRowBandPlan (plan : CloneRowBandPlan) (book : Book CloneSheet) :
    Result (Book CloneSheet) := do
  let book ← applyInsertRows tools plan.sheetName plan.insertAtRow plan.rowsInserted
    plan.expandAdjacentSums book
  ensure (book.sheetByName plan.sheetName).isSome (sheetWasNotFound plan.sheetName)
  book.onSheet plan.sheetName fun sheet => .ok (plan.copySheet tools sheet)

end Operations

end AgentSpreadsheet.Clone
