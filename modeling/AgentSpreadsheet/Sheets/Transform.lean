import AgentSpreadsheet.Sheets.Recalculation

/-! Edits of cell contents: single cells, ranges, matrices, formula patterns,
replacements in formulas, and whole grids. -/
namespace AgentSpreadsheet.Sheets
open Library

inductive RelativeMode where
  | excel
  | absCols
  | absRows
  deriving DecidableEq, Repr

structure ReplaceInFormulasOp where
  sheetName : String
  find : String
  replace : String
  range : Option A1Range
  regex : Bool
  caseSensitive : Bool
  deriving DecidableEq, Repr

/-- Code around the tools: region detection, the formula engine's patterns, the
extent of a sheet, the text of a value, the matcher of a replacement, style
patches as texts, and staged bundles. -/
structure StageTools extends EditTools where
  detectedRegion : OpenWorkbook → String → Nat → Option A1Range
  parseBaseFormula : String → Result Unit
  shiftPattern : RelativeMode → String → Int → Int → Result String
  highestColumnAndRow : OpenWorkbook → String → Position
  cellText : ResidentMaterializedValue → String
  replaceFormula : ReplaceInFormulasOp → Result (String → Option String)
  numberFormatPatch : Option String → String → String
  clearedPatch : String
  applyBundle : String → OpenWorkbook → Result (OpenWorkbook × Nat)

/-- The policy of a batch that names none. -/
def batchPolicy (policy : Option FormulaParsePolicy) : FormulaParsePolicy := policy.getD .warn

def formulaParseFailed (message : String) : String := "formula parse failed: " ++ message

def cellAddress (position : Position) : String :=
  String.ofList (columnName 8 position.1) ++ toString position.2

def formulaCell (tools : EditTools) (text : String) (cell : AgentSpreadsheet.Cell) : AgentSpreadsheet.Cell :=
  (cell.setFormula text).setFormulaResult (tools.guessTypedData "")

def valueCell (tools : EditTools) (text : String) (cell : AgentSpreadsheet.Cell) : AgentSpreadsheet.Cell :=
  cell.setLiteral (tools.guessTypedData text)

/-- Edit cells one after the other. A cell that is not there is `none`. -/
def OpenWorkbook.onCells (edit : α → Option AgentSpreadsheet.Cell → Option AgentSpreadsheet.Cell) (targets : List (CellKey × α))
    (book : OpenWorkbook) : OpenWorkbook :=
  targets.foldl (fun book target => book.setCell target.1 (edit target.2 (book.cells target.1))) book

def OpenWorkbook.onPositions (name : String) (positions : List Position)
    (edit : Option AgentSpreadsheet.Cell → Option AgentSpreadsheet.Cell) (book : OpenWorkbook) : OpenWorkbook :=
  book.onCells (fun _ => edit) (positions.map fun position => ((name, position), ()))

/-! ### Single cells -/

structure CellEdit where
  address : Position
  value : String
  isFormula : Bool
  deriving DecidableEq, Repr

section Edits
variable (tools : StageTools)

def editCell (edit : CellEdit) (cell : Option AgentSpreadsheet.Cell) : Option AgentSpreadsheet.Cell :=
  if edit.isFormula then some (formulaCell tools.toEditTools edit.value (cell.getD {}))
  else some (valueCell tools.toEditTools edit.value (cell.getD {}))

def applyEdits (sheetName : String) (edits : List CellEdit) (book : OpenWorkbook) :
    Result OpenWorkbook := do
  book.requireSheet sheetName
  pure (book.onCells (editCell tools) (edits.map fun edit => ((sheetName, edit.address), edit)))

/-- Formulas that do not parse stop the batch or are left out. -/
def acceptedEdit (policy : FormulaParsePolicy) (edit : CellEdit) : Result (Option CellEdit) :=
  if policy = .off ∨ edit.isFormula = false then .ok (some edit)
  else
    match tools.validateFormula edit.value with
    | .ok () => .ok (some edit)
    | .error message =>
      if policy = .fail then
        .error (formulaParseFailed ("edit at " ++ cellAddress edit.address ++ " failed: " ++ message))
      else .ok none

end Edits

/-! ### Ranges and matrices -/

inductive TransformTarget where
  | range (range : A1Range)
  | region (regionId : Nat)
  | cells (cells : List Position)
  deriving DecidableEq, Repr

def TransformTarget.positions : TransformTarget → Result (List Position)
  | .range target => do
    let bounds ← parseRangeBounds target
    pure bounds.positions
  | .cells targets => .ok targets
  | .region _ => .error "region_id targets must be resolved before apply_transform_ops_to_file"

inductive ReplaceMatchMode where
  | exact
  | contains
  deriving DecidableEq, Repr

inductive TransformOp where
  | clearRange (sheetName : String) (target : TransformTarget) (clearValues clearFormulas : Bool)
  | fillRange (sheetName : String) (target : TransformTarget) (value : String)
      (isFormula overwriteFormulas : Bool)
  | replaceInRange (sheetName : String) (target : TransformTarget) (find replace : String)
      (matchMode : ReplaceMatchMode) (caseSensitive includeFormulas : Bool)
  | writeMatrix (sheetName : String) (anchor : Position) (rows : List (List (Option MatrixCell)))
      (overwriteFormulas : Bool)
  deriving DecidableEq, Repr

/-- Every match that does not overlap an earlier one; an empty pattern matches
before each character and at the end. -/
def replaceChars (find replace : List Char) : Nat → List Char → List Char
  | 0, text => text
  | fuel + 1, text =>
    match find, text with
    | [], [] => replace
    | [], c :: rest => replace ++ c :: replaceChars find replace fuel rest
    | _, [] => []
    | _, c :: rest =>
      if find.isPrefixOf text then replace ++ replaceChars find replace fuel (text.drop find.length)
      else c :: replaceChars find replace fuel rest

def replaceAll (find replace input : String) : String :=
  String.ofList (replaceChars find.toList replace.toList (input.length + 1) input.toList)

def eqIgnoreAsciiCase (a b : String) : Bool :=
  a.toList.map Char.toLower == b.toList.map Char.toLower

def replaceValue (find replace : String) (matchMode : ReplaceMatchMode) (caseSensitive : Bool)
    (input : String) : Option String :=
  match matchMode with
  | .exact =>
    if caseSensitive then if input = find then some replace else none
    else if eqIgnoreAsciiCase input find then some replace else none
  | .contains =>
    if find.toList <:+: input.toList then some (replaceAll find replace input) else none

section Transform
variable (tools : StageTools)

/-- Cells that are not there stay so. A kept formula keeps its value. -/
def clearCell (clearValues clearFormulas : Bool) : Option AgentSpreadsheet.Cell → Option AgentSpreadsheet.Cell :=
  Option.map fun cell =>
    let emptied := if clearFormulas && cell.isFormula then cell.setFormula "" else cell
    if clearValues && !(cell.isFormula && !clearFormulas) then
      valueCell tools.toEditTools "" emptied
    else emptied

def fillCell (value : String) (isFormula overwriteFormulas : Bool) (cell : Option AgentSpreadsheet.Cell) :
    Option AgentSpreadsheet.Cell :=
  let cell := cell.getD {}
  if isFormula then some (formulaCell tools.toEditTools value cell)
  else if cell.isFormula && !overwriteFormulas then some cell
  else some (valueCell tools.toEditTools value cell)

def replaceCell (replacement : String → Option String) (includeFormulas : Bool) :
    Option AgentSpreadsheet.Cell → Option AgentSpreadsheet.Cell :=
  Option.map fun cell =>
    match cell.formula with
    | some formula =>
      if includeFormulas = false ∨ formula = "" then cell
      else (replacement formula).elim cell fun next => formulaCell tools.toEditTools next cell
    | none =>
      if tools.cellText cell.value = "" then cell
      else (replacement (tools.cellText cell.value)).elim cell fun next =>
        valueCell tools.toEditTools next cell

def writeCell (overwriteFormulas : Bool) (written : MatrixCell) (cell : Option AgentSpreadsheet.Cell) :
    Option AgentSpreadsheet.Cell :=
  let cell := cell.getD {}
  if cell.isFormula && !overwriteFormulas then some cell
  else
    match written with
    | .value raw => some (valueCell tools.toEditTools (jsonValueToCellString raw) cell)
    | .formula formula => some (formulaCell tools.toEditTools (stripEquals formula) cell)

/-- The cell of a sheet that an entry of a matrix goes to. -/
def matrixTarget (name : String) (entry : Position × MatrixCell) : CellKey × MatrixCell :=
  ((name, entry.1), entry.2)

def applyTransformOp (op : TransformOp) (book : OpenWorkbook) : Result OpenWorkbook :=
  match op with
  | .clearRange name target clearValues clearFormulas => do
    book.requireSheet name
    let positions ← target.positions
    pure (book.onPositions name positions (clearCell tools clearValues clearFormulas))
  | .fillRange name target value isFormula overwriteFormulas => do
    book.requireSheet name
    let positions ← target.positions
    pure (book.onPositions name positions (fillCell tools value isFormula overwriteFormulas))
  | .replaceInRange name target find replace matchMode caseSensitive includeFormulas => do
    book.requireSheet name
    ensure (¬(matchMode = .contains ∧ caseSensitive = false))
      "match_mode 'contains' requires case_sensitive=true"
    let positions ← target.positions
    pure (book.onPositions name positions
      (replaceCell tools (replaceValue find replace matchMode caseSensitive) includeFormulas))
  | .writeMatrix name anchor rows overwriteFormulas => do
    book.requireSheet name
    pure (book.onCells (writeCell tools overwriteFormulas)
      ((matrixCells anchor rows).map (matrixTarget name)))

def applyTransformOps (ops : List TransformOp) (book : OpenWorkbook) : Result OpenWorkbook :=
  ops.foldlM (fun book op => applyTransformOp tools op book) book

def regionNotFound (regionId : Nat) (sheetName : String) : String :=
  "region_id " ++ toString regionId ++ " not found on sheet '" ++ sheetName ++ "'"

/-- A region target becomes the range the region has in the open workbook. -/
def resolveTransformTarget (book : OpenWorkbook) (sheetName : String) :
    TransformTarget → Result TransformTarget
  | .region regionId => do
    book.requireSheet sheetName
    let bounds ← required (tools.detectedRegion book sheetName regionId)
      (regionNotFound regionId sheetName)
    pure (.range bounds)
  | target => .ok target

def resolveTransformOp (book : OpenWorkbook) : TransformOp → Result TransformOp
  | .clearRange name target clearValues clearFormulas => do
    let target ← resolveTransformTarget tools book name target
    pure (.clearRange name target clearValues clearFormulas)
  | .fillRange name target value isFormula overwriteFormulas => do
    let target ← resolveTransformTarget tools book name target
    pure (.fillRange name target value isFormula overwriteFormulas)
  | .replaceInRange name target find replace matchMode caseSensitive includeFormulas => do
    let target ← resolveTransformTarget tools book name target
    pure (.replaceInRange name target find replace matchMode caseSensitive includeFormulas)
  | .writeMatrix name anchor rows overwriteFormulas =>
    .ok (.writeMatrix name anchor rows overwriteFormulas)

def resolveStyleOp (book : OpenWorkbook) (op : StyleOp) : Result StyleOp :=
  match op.target with
  | .region regionId => do
    book.requireSheet op.sheetName
    let bounds ← required (tools.detectedRegion book op.sheetName regionId)
      (regionNotFound regionId op.sheetName)
    pure { op with target := .range bounds }
  | _ => .ok op

/-- A matrix without the formulas that do not parse. -/
def validCell : Option MatrixCell → Option MatrixCell
  | some (.formula formula) =>
    match tools.validateFormula formula with
    | .ok _ => some (.formula formula)
    | .error _ => none
  | cell => cell

def validRows (rows : List (List (Option MatrixCell))) : List (List (Option MatrixCell)) :=
  rows.map fun row => row.map (validCell tools)

/-- The first formula that does not parse stops the batch. -/
def checkMatrix (label : String) (cells : List (Position × MatrixCell)) : Result Unit :=
  cells.forM fun (position, written) =>
    match written with
    | .value _ => .ok ()
    | .formula formula =>
      match tools.validateFormula formula with
      | .ok _ => .ok ()
      | .error message => .error (formulaParseFailed
          (label ++ " formula failed at " ++ cellAddress position ++ ": " ++ message))

def acceptedMatrix (label : String) (policy : FormulaParsePolicy) (name : String)
    (anchor : Position) (rows : List (List (Option MatrixCell))) (overwriteFormulas : Bool) :
    Result TransformOp :=
  match policy with
  | .off => .ok (.writeMatrix name anchor rows overwriteFormulas)
  | .warn => .ok (.writeMatrix name anchor (validRows tools rows) overwriteFormulas)
  | .fail => do
    checkMatrix tools label (matrixCells anchor rows)
    pure (.writeMatrix name anchor rows overwriteFormulas)

def acceptedTransform (policy : FormulaParsePolicy) (op : TransformOp) :
    Result (Option TransformOp) :=
  match op with
  | .fillRange _ _ value true _ =>
    if policy = .off then .ok (some op)
    else
      match tools.validateFormula value with
      | .ok _ => .ok (some op)
      | .error message =>
        if policy = .fail then
          .error (formulaParseFailed ("FillRange formula failed: " ++ message))
        else .ok none
  | .writeMatrix name anchor rows overwriteFormulas =>
    some <$> acceptedMatrix tools "WriteMatrix" policy name anchor rows overwriteFormulas
  | op => .ok (some op)

end Transform

/-! ### Formula patterns and replacements -/

inductive FillDirection where
  | down
  | right
  | both
  deriving DecidableEq, Repr

structure FormulaPattern where
  sheetName : String
  targetRange : A1Range
  anchorCell : Position
  baseFormula : String
  fillDirection : Option FillDirection
  relativeMode : Option RelativeMode
  deriving DecidableEq, Repr

def validateFormulaPatternBounds (bounds : Bounds) (anchor : Position)
    (fillDirection : FillDirection) : Result Unit := do
  ensure (bounds.cols.lo ≤ anchor.1 ∧ anchor.1 ≤ bounds.cols.hi ∧ bounds.rows.lo ≤ anchor.2 ∧
      anchor.2 ≤ bounds.rows.hi)
    ("anchor_cell must be inside target_range (anchor " ++ cellAddress anchor ++ " not within " ++
      cellAddress (bounds.cols.lo, bounds.rows.lo) ++ ":" ++
      cellAddress (bounds.cols.hi, bounds.rows.hi) ++ ")")
  ensure (bounds.cols.lo = anchor.1 ∧ bounds.rows.lo = anchor.2)
    "target_range must start at anchor_cell (anchor should be top-left of fill range)"
  match fillDirection with
  | .down =>
    ensure (bounds.cols.lo = bounds.cols.hi)
      "fill_direction=down requires a single-column target_range"
  | .right =>
    ensure (bounds.rows.lo = bounds.rows.hi)
      "fill_direction=right requires a single-row target_range"
  | .both => .ok ()

section Patterns
variable (tools : StageTools)

def FormulaPattern.validate (pattern : FormulaPattern) : Result Unit := do
  let bounds ← parseRangeBounds pattern.targetRange
  validateFormulaPatternBounds bounds pattern.anchorCell (pattern.fillDirection.getD .both)

/-- The base formula is shifted from the anchor to each cell. -/
def fillPattern (pattern : FormulaPattern) (relativeMode : RelativeMode) (book : OpenWorkbook)
    (position : Position) : Result OpenWorkbook := do
  let shifted ← tools.shiftPattern relativeMode pattern.baseFormula
    (position.1 - pattern.anchorCell.1) (position.2 - pattern.anchorCell.2)
  let key := (pattern.sheetName, position)
  pure (book.setCell key
    (some (formulaCell tools.toEditTools (stripEquals shifted) ((book.cells key).getD {}))))

def applyFormulaPatternTo (pattern : FormulaPattern) (relativeMode : RelativeMode)
    (book : OpenWorkbook) : Result OpenWorkbook := do
  tools.parseBaseFormula pattern.baseFormula
  let bounds ← parseRangeBounds pattern.targetRange
  book.requireSheet pattern.sheetName
  bounds.positions.foldlM (fillPattern tools pattern relativeMode) book

/-- The book and the number of formulas changed. -/
def replaceInFormula (op : ReplaceInFormulasOp) (policy : FormulaParsePolicy)
    (replacement : String → Option String) (result : OpenWorkbook × Nat) (position : Position) :
    Result (OpenWorkbook × Nat) :=
  let key := (op.sheetName, position)
  match result.1.cells key with
  | none => .ok result
  | some cell =>
    match cell.formula.filter (· ≠ "") with
    | none => .ok result
    | some formula =>
      match replacement formula with
      | none => .ok result
      | some next =>
        let replaced := (result.1.setCell key (some (formulaCell tools.toEditTools next cell)),
          result.2 + 1)
        match policy, tools.validateFormula next with
        | .off, _ => .ok replaced
        | _, .ok _ => .ok replaced
        | .fail, .error message => .error (formulaParseFailed
            ("replaced formula at " ++ cellAddress position ++ " failed parse: " ++ message))
        | .warn, .error _ => .ok result

def ReplaceInFormulasOp.bounds (op : ReplaceInFormulasOp) (book : OpenWorkbook) : Result Bounds :=
  match op.range with
  | some range => parseRangeBounds range
  | none =>
    let extent := tools.highestColumnAndRow book op.sheetName
    .ok ⟨.between 1 (max extent.1 1), .between 1 (max extent.2 1)⟩

def applyReplaceInFormulas (op : ReplaceInFormulasOp) (policy : FormulaParsePolicy)
    (book : OpenWorkbook) : Result (OpenWorkbook × Nat) := do
  book.requireSheet op.sheetName
  let bounds ← op.bounds tools book
  let replacement ← tools.replaceFormula op
  bounds.positions.foldlM (replaceInFormula tools op policy replacement) (book, 0)

end Patterns

/-! ### Grids -/

structure GridCell where
  offset : Nat × Nat
  v : Option MatrixValue
  f : Option String
  fmt : Option String
  style : Option String
  deriving DecidableEq, Repr

structure Grid where
  columns : List (Nat × Rat)
  merges : List A1Range
  rows : List (List GridCell)
  deriving DecidableEq, Repr

structure GridImport where
  sheetName : String
  anchor : Position
  grid : Grid
  clearTarget : Bool
  formulaParsePolicy : Option FormulaParsePolicy
  deriving DecidableEq, Repr

/-- A formula wins over a value. -/
def GridCell.written (cell : GridCell) : Option MatrixCell :=
  (cell.f.map .formula).or (cell.v.map .value)

def GridCell.stylePatch (tools : StageTools) (cell : GridCell) : Option String :=
  match cell.fmt with
  | some fmt => some (tools.numberFormatPatch cell.style fmt)
  | none => cell.style

/-- Rows and cells up to the offset are there before a cell is set. -/
def placeCell (rows : List (List (Option MatrixCell))) (cell : GridCell) :
    List (List (Option MatrixCell)) :=
  (rows ++ List.replicate (cell.offset.1 + 1 - rows.length) []).modify cell.offset.1 fun row =>
    let row := row ++ List.replicate (cell.offset.2 + 1 - row.length) none
    if cell.written.isSome then row.set cell.offset.2 cell.written else row

namespace GridImport
variable (request : GridImport) (tools : StageTools)

def cells : List GridCell := request.grid.rows.flatten

def writeRows : List (List (Option MatrixCell)) := request.cells.foldl placeCell []

def matrix : List (Position × MatrixCell) := matrixCells request.anchor request.writeRows

/-- The range the grid covers; its merged ranges have no part in it. -/
def footprint : A1Range :=
  ImportRequest.footprint ⟨request.sheetName, request.anchor,
    ⟨request.anchor, request.grid.merges, request.cells.map GridCell.offset⟩, request.clearTarget⟩

def position (cell : GridCell) : Position :=
  (request.anchor.1 + cell.offset.2, request.anchor.2 + cell.offset.1)

/-- One operation for each patch, in the order of the patches' texts. -/
def styleOps : List StyleOp :=
  let styled := request.cells.filterMap fun cell =>
    (cell.stylePatch tools).map fun patch => (patch, request.position cell)
  let patches := (styled.map Prod.fst).dedup.insertionSort (· ≤ ·)
  (if request.clearTarget then
    [⟨request.sheetName, .range request.footprint, tools.clearedPatch⟩] else []) ++
  patches.map fun patch => ⟨request.sheetName, .cells
    ((styled.filter fun entry => entry.1 = patch).map Prod.snd), patch⟩

def clearOps : List TransformOp :=
  if request.clearTarget then
    [.clearRange request.sheetName (.range request.footprint) true true] else []

def columnOps : List ColumnSizeOp :=
  request.grid.columns.map fun (offset, widthChars) =>
    ⟨request.sheetName, request.anchor.1 + offset, request.anchor.1 + offset, .width widthChars⟩

def structureOps : List StructureOp :=
  if request.grid.merges = [] then []
  else (if request.clearTarget then [.unmergeCells request.sheetName request.footprint] else []) ++
    request.grid.merges.map (.mergeCells request.sheetName)

/-- The edit of a grid whose transformations are accepted. -/
def apply (transformOps : List TransformOp) (styleOps : List StyleOp) (book : OpenWorkbook) :
    Result OpenWorkbook := do
  let book ← book.structureOps tools.toEditTools .off request.structureOps
  let book ← request.columnOps.foldlM
    (fun book op => applyColumnSizeOp tools.toFormatTools op book) book
  let book ← applyTransformOps tools transformOps book
  styleOps.foldlM (fun book op => applyStyleOp tools.toFormatTools op book) book

end GridImport

/-! ### What an edit of cells does -/

section OnCells
variable {edit : α → Option AgentSpreadsheet.Cell → Option AgentSpreadsheet.Cell} {targets : List (CellKey × α)}
  {book : OpenWorkbook} {key : CellKey}

theorem onCells_frame (edit : α → Option AgentSpreadsheet.Cell → Option AgentSpreadsheet.Cell) (targets : List (CellKey × α))
    (book : OpenWorkbook) : (book.onCells edit targets).sheets = book.sheets ∧
      (book.onCells edit targets).format = book.format ∧
      (book.onCells edit targets).definedNames = book.definedNames := by
  induction targets generalizing book with
  | nil => exact ⟨rfl, rfl, rfl⟩
  | cons target rest ih => exact ih _

theorem onCells_notMem (h : ∀ a, (key, a) ∉ targets) :
    (book.onCells edit targets).cells key = book.cells key := by
  induction targets generalizing book with
  | nil => rfl
  | cons target rest ih =>
    have hne : key ≠ target.1 := by
      intro heq
      apply h target.2
      simp [heq]
    have hrest : ∀ a, (key, a) ∉ rest := fun a ha => h a (List.mem_cons_of_mem _ ha)
    unfold OpenWorkbook.onCells at ih ⊢
    rw [List.foldl_cons, ih hrest]
    exact Function.update_of_ne hne _ _

/-- Each key is written once, over the cell the book had. -/
theorem onCells_mem (hnodup : (targets.map Prod.fst).Nodup) {a : α} (h : (key, a) ∈ targets) :
    (book.onCells edit targets).cells key = edit a (book.cells key) := by
  induction targets generalizing book with
  | nil => simp at h
  | cons target rest ih =>
    rw [List.map_cons, List.nodup_cons] at hnodup
    rcases List.mem_cons.mp h with rfl | hrest
    · have hnot : ∀ b, (key, b) ∉ rest := by
        intro b hb
        apply hnodup.1
        exact List.mem_map.mpr ⟨_, hb, rfl⟩
      have hcells : ((book.setCell key (edit a (book.cells key))).onCells edit rest).cells key =
          (book.setCell key (edit a (book.cells key))).cells key := onCells_notMem hnot
      exact hcells.trans (Function.update_self _ _ _)
    · have hne : key ≠ target.1 := by
        rintro rfl
        apply hnodup.1
        exact List.mem_map.mpr ⟨_, hrest, rfl⟩
      have hcells : ((book.setCell target.1 (edit target.2 (book.cells target.1))).onCells edit
          rest).cells key = edit a ((book.setCell target.1
            (edit target.2 (book.cells target.1))).cells key) := ih hnodup.2 hrest
      have hbefore : (book.setCell target.1 (edit target.2 (book.cells target.1))).cells key =
          book.cells key := Function.update_of_ne hne _ _
      rw [hbefore] at hcells
      exact hcells

theorem onCells_property {P : Option AgentSpreadsheet.Cell → Prop} (hedit : ∀ a cell, P (edit a cell)) {a : α}
    (h : (key, a) ∈ targets) : P ((book.onCells edit targets).cells key) := by
  induction targets generalizing book a with
  | nil => simp at h
  | cons target rest ih =>
    by_cases hrest : ∃ b, (key, b) ∈ rest
    · obtain ⟨b, hb⟩ := hrest
      exact ih hb
    · have hnot : ∀ b, (key, b) ∉ rest := fun b hb => hrest ⟨b, hb⟩
      have hkey : (key, a) = target := (List.mem_cons.mp h).resolve_right (hnot a)
      subst hkey
      have hcells : ((book.setCell key (edit a (book.cells key))).onCells edit rest).cells key =
          (book.setCell key (edit a (book.cells key))).cells key := onCells_notMem hnot
      have hlast : (book.onCells edit ((key, a) :: rest)).cells key = edit a (book.cells key) :=
        hcells.trans (Function.update_self _ _ _)
      rw [hlast]
      exact hedit a _

theorem OpenWorkbook.ext_cells {book book' : OpenWorkbook} (hsheets : book.sheets = book'.sheets)
    (hformat : book.format = book'.format) (hnames : book.definedNames = book'.definedNames)
    (hcells : ∀ key, book.cells key = book'.cells key) : book = book' := by
  cases book
  cases book'
  simp only [OpenWorkbook.mk.injEq]
  exact ⟨hsheets, funext hcells, hformat, hnames⟩

theorem onCells_filter (hnodup : (targets.map Prod.fst).Nodup) (keep : CellKey × α → Bool)
    (h : ∀ target ∈ targets, keep target = false →
      edit target.2 (book.cells target.1) = book.cells target.1) :
    book.onCells edit (targets.filter keep) = book.onCells edit targets := by
  have hnodup' : ((targets.filter keep).map Prod.fst).Nodup :=
    hnodup.sublist (List.filter_sublist.map _)
  apply OpenWorkbook.ext_cells
  · rw [(onCells_frame _ _ _).1, (onCells_frame _ _ _).1]
  · rw [(onCells_frame _ _ _).2.1, (onCells_frame _ _ _).2.1]
  · rw [(onCells_frame _ _ _).2.2, (onCells_frame _ _ _).2.2]
  · intro key
    by_cases hkey : ∃ a, (key, a) ∈ targets
    · obtain ⟨a, ha⟩ := hkey
      rw [onCells_mem hnodup ha]
      by_cases hkeep : keep (key, a) = true
      · exact onCells_mem hnodup' (List.mem_filter.mpr ⟨ha, hkeep⟩)
      · have hsame := h (key, a) ha (by simpa using hkeep)
        rw [hsame]
        apply onCells_notMem
        intro b hb
        have hb' := List.mem_filter.mp hb
        have hab : (key, b) = (key, a) := List.inj_on_of_nodup_map hnodup hb'.1 ha rfl
        rw [hab] at hb'
        exact hkeep hb'.2
    · have hnot : ∀ a, (key, a) ∉ targets := fun a ha => hkey ⟨a, ha⟩
      rw [onCells_notMem hnot]
      apply onCells_notMem
      intro a ha
      exact hnot a (List.mem_filter.mp ha).1

end OnCells

/-! ### What a matrix writes -/

section Matrix
variable {anchor : Position} {rows : List (List (Option MatrixCell))} {position : Position}
  {written : MatrixCell}

theorem mem_matrixCells :
    (position, written) ∈ matrixCells anchor rows ↔
      ∃ row col values, rows[row]? = some values ∧ values[col]? = some (some written) ∧
        position = (anchor.1 + col, anchor.2 + row) := by
  unfold matrixCells
  simp only [List.mem_flatMap, List.mem_filterMap, Prod.exists, List.mem_zipIdx_iff_getElem?,
    Option.map_eq_some_iff, Prod.mk.injEq]
  constructor
  · rintro ⟨values, row, hrow, value, col, hcol, w, rfl, rfl, rfl⟩
    exact ⟨row, col, values, hrow, hcol, rfl⟩
  · rintro ⟨row, col, values, hrow, hcol, rfl⟩
    exact ⟨values, row, hrow, some written, col, hcol, written, rfl, rfl, rfl⟩

theorem pairwise_zipIdx (l : List α) : l.zipIdx.Pairwise fun a b => a.2 ≠ b.2 := by
  rw [List.pairwise_iff_getElem]
  intro i j hi hj hij
  simp only [List.getElem_zipIdx]
  omega

theorem nodup_matrixCells (anchor : Position) (rows : List (List (Option MatrixCell))) :
    ((matrixCells anchor rows).map Prod.fst).Nodup := by
  unfold matrixCells
  rw [List.Nodup, List.pairwise_map, List.pairwise_flatMap]
  constructor
  · intro row _
    rw [List.pairwise_filterMap]
    refine (pairwise_zipIdx row.1).imp ?_
    intro a b hne x hx y hy
    rw [Option.map_eq_some_iff] at hx hy
    obtain ⟨_, _, rfl⟩ := hx
    obtain ⟨_, _, rfl⟩ := hy
    simpa using hne
  · refine (pairwise_zipIdx rows).imp ?_
    intro a b hne x hx y hy heq
    rw [List.mem_filterMap] at hx hy
    obtain ⟨_, _, hx⟩ := hx
    obtain ⟨_, _, hy⟩ := hy
    rw [Option.map_eq_some_iff] at hx hy
    obtain ⟨_, _, rfl⟩ := hx
    obtain ⟨_, _, rfl⟩ := hy
    simp only [Prod.mk.injEq] at heq
    omega

theorem nodup_matrixTargets (name : String) (anchor : Position)
    (rows : List (List (Option MatrixCell))) :
    (((matrixCells anchor rows).map (matrixTarget name)).map Prod.fst).Nodup := by
  have hmap : Prod.fst ∘ matrixTarget name = (fun position => (name, position)) ∘ Prod.fst := rfl
  rw [List.map_map, hmap, ← List.map_map]
  apply (nodup_matrixCells anchor rows).map
  intro a b hab
  exact (Prod.mk.inj hab).2

/-- Whether the cell of a matrix is kept where formulas must parse. -/
def kept (tools : StageTools) (target : Position × MatrixCell) : Bool :=
  (validCell tools (some target.2)).isSome

theorem validCell_some (tools : StageTools) (position : Position) (written : MatrixCell) :
    validCell tools (some written) =
      if kept tools (position, written) = true then some written else none := by
  unfold kept
  cases written with
  | value raw => rfl
  | formula formula =>
    cases hvalid : tools.validateFormula formula <;> simp [validCell, hvalid]

theorem filter_matrixCells (tools : StageTools) (anchor : Position)
    (rows : List (List (Option MatrixCell))) :
    matrixCells anchor (validRows tools rows) =
      (matrixCells anchor rows).filter (kept tools) := by
  unfold matrixCells validRows
  rw [List.zipIdx_map, List.flatMap_map, List.filter_flatMap]
  congr 1
  funext row
  simp only [Prod.map, List.zipIdx_map, List.filterMap_map, List.filter_filterMap]
  congr 1
  funext cell
  obtain ⟨value, col⟩ := cell
  cases value with
  | none => rfl
  | some written =>
    simp only [Function.comp, Prod.map, id, Option.map_some]
    rw [validCell_some tools (anchor.1 + col, anchor.2 + row.2) written]
    split
    next h => rw [Option.map_some, Option.filter_some, if_pos h]
    next h => rw [Option.map_none, Option.filter_some, if_neg h]

theorem getElem_padded {l : List α} {n i : Nat} {d x : α}
    (h : (l ++ List.replicate n d)[i]? = some x) : l[i]? = some x ∨ x = d := by
  rcases Nat.lt_or_ge i l.length with hi | hi
  · rw [List.getElem?_append_left hi] at h
    exact .inl h
  · rw [List.getElem?_append_right hi] at h
    exact .inr (List.eq_of_mem_replicate (List.mem_of_getElem? h))

/-- What a placed cell adds to the matrix stands at its offset. -/
theorem placeCell_getElem {rows : List (List (Option MatrixCell))} {cell : GridCell}
    {row col : Nat} {values : List (Option MatrixCell)}
    (hrow : (placeCell rows cell)[row]? = some values) (hcol : values[col]? = some (some written)) :
    cell.offset = (row, col) ∨
      ∃ values, rows[row]? = some values ∧ values[col]? = some (some written) := by
  unfold placeCell at hrow
  rw [List.getElem?_modify, Option.map_eq_map, Option.map_eq_some_iff] at hrow
  obtain ⟨before, hbefore, hvalues⟩ := hrow
  have hold : before[col]? = some (some written) →
      ∃ values, rows[row]? = some values ∧ values[col]? = some (some written) := by
    intro h
    rcases getElem_padded hbefore with hrows | hempty
    · exact ⟨before, hrows, h⟩
    · simp [hempty] at h
  split at hvalues
  next hoffset =>
    -- the cell's own row: padded, and set where the cell has content
    have hpadded : (before ++ List.replicate (cell.offset.2 + 1 - before.length) none)[col]? =
        some (some written) → before[col]? = some (some written) := by
      intro h
      rcases getElem_padded h with h | h
      · exact h
      · simp at h
    dsimp only at hvalues
    split at hvalues
    next =>
      subst hvalues
      rw [List.getElem?_set] at hcol
      split at hcol
      next hoffset' => exact .inl (Prod.ext hoffset hoffset')
      next => exact .inr (hold (hpadded hcol))
    next =>
      subst hvalues
      exact .inr (hold (hpadded hcol))
  next =>
    subst hvalues
    exact .inr (hold hcol)

theorem foldl_placeCell_getElem {cells : List GridCell} {row col : Nat}
    {values : List (Option MatrixCell)} (hrow : (cells.foldl placeCell [])[row]? = some values)
    (hcol : values[col]? = some (some written)) : ∃ cell ∈ cells, cell.offset = (row, col) := by
  induction cells using List.reverseRecOn generalizing values with
  | nil => simp at hrow
  | append_singleton cells cell ih =>
    rw [List.foldl_append, List.foldl_cons, List.foldl_nil] at hrow
    rcases placeCell_getElem hrow hcol with hoffset | ⟨values, hrow, hcol⟩
    · exact ⟨cell, by simp, hoffset⟩
    · obtain ⟨cell, hcell, hoffset⟩ := ih hrow hcol
      exact ⟨cell, List.mem_append_left _ hcell, hoffset⟩

theorem le_foldl_max (f : α → Nat) (l : List α) (start : Nat) :
    start ≤ l.foldl (fun n a => max n (f a)) start ∧
      ∀ a ∈ l, f a ≤ l.foldl (fun n a => max n (f a)) start := by
  induction l generalizing start with
  | nil => simp
  | cons a rest ih =>
    rw [List.foldl_cons]
    have h := ih (max start (f a))
    constructor
    · omega
    · intro b hb
      rcases List.mem_cons.mp hb with rfl | hb
      · omega
      · exact h.2 b hb

theorem mem_positions {bounds : Bounds} {position : Position} :
    position ∈ bounds.positions ↔ (bounds.cols.lo ≤ position.1 ∧ position.1 ≤ bounds.cols.hi) ∧
      bounds.rows.lo ≤ position.2 ∧ position.2 ≤ bounds.rows.hi := by
  have hcols := bounds.cols.le
  have hrows := bounds.rows.le
  simp only [Bounds.positions, List.mem_flatMap, List.mem_map, List.mem_range'_1]
  constructor
  · intro h
    obtain ⟨row, hrow, col, hcol, rfl⟩ := h
    dsimp only
    omega
  · intro h
    exact ⟨position.2, by omega, position.1, by omega, rfl⟩

theorem ImportRequest.mem_footprint {request : ImportRequest} {bounds : Bounds} {row col : Nat}
    (hbounds : parseRangeBounds request.footprint = .ok bounds)
    (hmem : (row, col) ∈ request.grid.offsets) :
    (request.anchor.1 + col, request.anchor.2 + row) ∈ bounds.positions := by
  have hcols := (le_foldl_max (fun offset : Nat × Nat => request.anchor.1 + offset.2)
    request.grid.offsets request.anchor.1).2 _ hmem
  have hrows := (le_foldl_max (fun offset : Nat × Nat => request.anchor.2 + offset.1)
    request.grid.offsets request.anchor.2).2 _ hmem
  simp only [ImportRequest.footprint, parseRangeBounds, Except.ok.injEq] at hbounds
  subst hbounds
  rw [mem_positions]
  dsimp only [Interval.between]
  omega

theorem mem_footprint {request : GridImport} {bounds : Bounds}
    (hbounds : parseRangeBounds request.footprint = .ok bounds)
    (h : (position, written) ∈ request.matrix) : position ∈ bounds.positions := by
  obtain ⟨row, col, values, hrow, hcol, rfl⟩ := mem_matrixCells.mp h
  obtain ⟨cell, hcell, hoffset⟩ := foldl_placeCell_getElem hrow hcol
  exact ImportRequest.mem_footprint hbounds (List.mem_map.mpr ⟨cell, hcell, hoffset⟩)

end Matrix

end AgentSpreadsheet.Sheets
