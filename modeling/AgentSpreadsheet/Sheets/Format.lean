import AgentSpreadsheet.Sheets.Merges
import AgentSpreadsheet.Workbook

/-! How a sheet looks: styles, column widths, views, page layout, data validation
and conditional formats, and the operations that change them. -/
namespace AgentSpreadsheet.Sheets
open Library

structure ColumnDimension where
  width : Rat
  bestFit : Bool
  autoWidth : Bool
  deriving DecidableEq, Repr

inductive PaneValues where
  | bottomRight
  | bottomLeft
  deriving DecidableEq, Repr

structure Pane where
  horizontalSplit : Option Nat
  verticalSplit : Option Nat
  topLeftCell : Position
  activePane : PaneValues
  deriving DecidableEq, Repr

structure SheetView where
  zoomScale : Nat
  zoomScaleNormal : Nat
  showGridLines : Bool
  topLeftCell : Option Position
  pane : Option Pane
  selection : List Position
  deriving DecidableEq, Repr

structure PageMargins where
  left : Rat
  right : Rat
  top : Rat
  bottom : Rat
  header : Rat
  footer : Rat
  deriving DecidableEq, Repr

inductive PageOrientation where
  | portrait
  | landscape
  deriving DecidableEq, Repr

structure PageSetup where
  orientation : PageOrientation
  fitToWidth : Nat
  fitToHeight : Nat
  scale : Nat
  deriving DecidableEq, Repr

structure DefinedName where
  name : String
  address : String
  localSheetId : Option Nat
  deriving DecidableEq, Repr

inductive DataValidationKind where
  | list
  | whole
  | decimal
  | date
  | custom
  deriving DecidableEq, Repr

/-- A validation's type; other types are kept and never made. -/
inductive DataValidationValues where
  | list
  | whole
  | decimal
  | date
  | custom
  | other (kind : String)
  deriving DecidableEq, Repr

def DataValidationKind.toUmya : DataValidationKind → DataValidationValues
  | .list => .list
  | .whole => .whole
  | .decimal => .decimal
  | .date => .date
  | .custom => .custom

inductive DataValidationOperator where
  | between
  | equal
  | other (operator : String)
  deriving DecidableEq, Repr

structure ValidationMessage where
  title : String
  message : String
  deriving DecidableEq, Repr

structure DataValidation where
  sqref : String
  kind : DataValidationValues
  allowBlank : Option Bool
  formula1 : String
  formula2 : Option String
  operator : Option DataValidationOperator
  prompt : Option ValidationMessage
  error : Option ValidationMessage
  deriving DecidableEq, Repr

inductive ConditionalFormatOperator where
  | lessThan
  | lessThanOrEqual
  | greaterThan
  | greaterThanOrEqual
  | equal
  | notEqual
  | between
  | notBetween
  deriving DecidableEq, Repr

/-- A rule's type with its operator; other types are kept and never made. -/
inductive ConditionalFormatValues where
  | expression
  | cellIs (operator : ConditionalFormatOperator)
  | other (kind : String)
  deriving DecidableEq, Repr

structure ConditionalFormatStyle where
  fillArgb : String
  fontArgb : String
  bold : Bool
  deriving DecidableEq, Repr

structure ConditionalFormattingRule where
  kind : ConditionalFormatValues
  formula : String
  style : Option ConditionalFormatStyle
  priority : Nat
  deriving DecidableEq, Repr

structure ConditionalFormatting where
  sqref : String
  rules : List ConditionalFormattingRule
  deriving DecidableEq, Repr

structure SheetFormat where
  merges : Merges := []
  columns : Nat → ColumnDimension := fun _ => ⟨8, false, false⟩
  view : SheetView := ⟨100, 100, true, none, none, []⟩
  margins : PageMargins := ⟨0, 0, 0, 0, 0, 0⟩
  setup : PageSetup := ⟨.portrait, 1, 1, 100⟩
  rowBreaks : List Nat := []
  colBreaks : List Nat := []
  definedNames : List DefinedName := []
  validations : List DataValidation := []
  conditionalFormats : List ConditionalFormatting := []

/-- A workbook open for editing. Cells and formats go by sheet name. -/
structure OpenWorkbook where
  sheets : List String
  cells : CellKey → Option AgentSpreadsheet.Cell
  format : String → SheetFormat
  definedNames : List DefinedName

/-- Code around the operations: the formula parser, what a style patch makes of a
style, and the widths the library measures. -/
structure FormatTools where
  validateFormula : String → Result Unit
  applyStylePatch : String → String → String
  calculationAutoWidth : OpenWorkbook → String → Nat → Rat

namespace OpenWorkbook

def requireSheet (book : OpenWorkbook) (name : String) : Result Unit :=
  ensure (name ∈ book.sheets) (Book.sheetNotFound name)

def setFormat (book : OpenWorkbook) (name : String) (format : SheetFormat) : OpenWorkbook :=
  { book with format := Function.update book.format name format }

def setCell (book : OpenWorkbook) (key : CellKey) (cell : Option AgentSpreadsheet.Cell) : OpenWorkbook :=
  { book with cells := Function.update book.cells key cell }

end OpenWorkbook

/-! ### Styles and columns -/

inductive StyleTarget where
  | range (range : A1Range)
  | region (regionId : Nat)
  | cells (cells : List Position)
  deriving DecidableEq, Repr

structure StyleOp where
  sheetName : String
  target : StyleTarget
  patch : String
  deriving DecidableEq, Repr

def Bounds.positions (bounds : Bounds) : List Position :=
  (List.range' bounds.rows.lo (bounds.rows.hi + 1 - bounds.rows.lo)).flatMap fun row =>
    (List.range' bounds.cols.lo (bounds.cols.hi + 1 - bounds.cols.lo)).map fun col => (col, row)

def StyleTarget.positions : StyleTarget → Result (List Position)
  | .range target => do
    let bounds ← parseRangeBounds target
    pure bounds.positions
  | .cells targets => .ok targets
  | .region _ => .error "region_id targets must be resolved before apply_style_ops_to_file"

/-- A cell that is not there is created. -/
def styleCell (tools : FormatTools) (op : StyleOp) (book : OpenWorkbook) (position : Position) :
    OpenWorkbook :=
  let cell := (book.cells (op.sheetName, position)).getD {}
  book.setCell (op.sheetName, position)
    (some { cell with style := tools.applyStylePatch cell.style op.patch })

def applyStyleOp (tools : FormatTools) (op : StyleOp) (book : OpenWorkbook) :
    Result OpenWorkbook := do
  book.requireSheet op.sheetName
  let positions ← op.target.positions
  pure (positions.foldl (styleCell tools op) book)

inductive ColumnSizeSpec where
  | auto (minWidthChars maxWidthChars : Option Rat)
  | width (widthChars : Rat)
  deriving DecidableEq, Repr

/-- Columns `first` to `last` of one sheet, in either order. -/
structure ColumnSizeOp where
  sheetName : String
  first : Nat
  last : Nat
  size : ColumnSizeSpec
  deriving DecidableEq, Repr

def sizedColumn (size : ColumnSizeSpec) (measured : Rat) : ColumnDimension :=
  match size with
  | .width widthChars => ⟨widthChars, false, false⟩
  | .auto minWidthChars maxWidthChars =>
    let width := minWidthChars.elim measured fun limit => if measured < limit then limit else measured
    let width := maxWidthChars.elim width fun limit => if limit < width then limit else width
    ⟨width, true, false⟩

def applyColumnSizeOp (tools : FormatTools) (op : ColumnSizeOp) (book : OpenWorkbook) :
    Result OpenWorkbook := do
  book.requireSheet op.sheetName
  ensure (op.first ≠ 0 ∧ op.last ≠ 0) "invalid column span"
  let format := book.format op.sheetName
  pure (book.setFormat op.sheetName { format with
    columns := fun col =>
      if min op.first op.last ≤ col ∧ col ≤ max op.first op.last then
        sizedColumn op.size (tools.calculationAutoWidth book op.sheetName col)
      else format.columns col })

/-! ### Layout -/

inductive SheetLayoutOp where
  | freezePanes (sheetName : String) (freezeRows freezeCols : Nat) (topLeftCell : Option Position)
  | setZoom (sheetName : String) (zoomPercent : Nat)
  | setGridlines (sheetName : String) (showLines : Bool)
  | setPageMargins (sheetName : String) (left right top bottom : Rat) (header footer : Option Rat)
  | setPageSetup (sheetName : String) (orientation : PageOrientation)
      (fitToWidth fitToHeight scalePercent : Option Nat)
  | setPrintArea (sheetName : String) (range : A1Range)
  | setPageBreaks (sheetName : String) (rowBreaks colBreaks : List Nat)
  deriving DecidableEq, Repr

def SheetLayoutOp.sheetName : SheetLayoutOp → String
  | .freezePanes name .. | .setZoom name _ | .setGridlines name _ | .setPageMargins name ..
  | .setPageSetup name .. | .setPrintArea name _ | .setPageBreaks name .. => name

/-- `TopRight` is avoided. -/
def activePaneForFreeze (freezeRows freezeCols : Nat) : PaneValues :=
  if 0 < freezeRows ∧ freezeCols = 0 then .bottomLeft else .bottomRight

def applyFreezePanes (freezeRows freezeCols : Nat) (topLeftCell : Option Position)
    (view : SheetView) : Result SheetView := do
  ensure (freezeRows ≠ 0 ∨ freezeCols ≠ 0) "freeze_rows and freeze_cols cannot both be 0"
  let inferred := topLeftCell.getD (freezeCols + 1, freezeRows + 1)
  pure { view with
    topLeftCell := none
    pane := some {
      horizontalSplit := if 0 < freezeCols then some freezeCols else none
      verticalSplit := if 0 < freezeRows then some freezeRows else none
      topLeftCell := inferred
      activePane := activePaneForFreeze freezeRows freezeCols }
    selection := [inferred] }

def validateMarginValue (field : String) (value : Rat) : Result Unit :=
  ensure (0 ≤ value) (field ++ " margin must be >= 0")

def columnName : Nat → Nat → List Char
  | 0, _ => []
  | fuel + 1, index =>
    if index = 0 then []
    else columnName fuel ((index - 1) / 26) ++ [Char.ofNat ('A'.toNat + (index - 1) % 26)]

def quotedCharacters : List Char :=
  [' ', '!', '"', '#', '$', '%', '&', '\'', '(', ')', '*', '+', ',', '-', '.', '/', ':', ';', '<',
    '=', '>', '?', '@', '[', '\\', ']', '^', '\x60', '\x7b', '|', '\x7d', '~']

/-- The dotless i and the long s are the letters besides the ASCII ones with an ASCII letter
for their upper case. -/
def upperLetter (c : Char) : Char :=
  if c = 'ı' then 'I' else if c = 'ſ' then 'S' else c.toUpper

def sheetNameNeedsQuoting (name : String) : Bool :=
  match name.toList with
  | [] => false
  | first :: rest => first.isDigit || (first :: rest).any (· ∈ quotedCharacters) ||
    decide (String.ofList ((first :: rest).map upperLetter) ∈
      ["TRUE", "FALSE", "NULL", "REF", "DIV", "NAME", "NUM", "VALUE", "N/A"])

def formatSheetPrefix (sheetName : String) : String :=
  if sheetNameNeedsQuoting sheetName then
    "'" ++ String.ofList (sheetName.toList.flatMap fun c => if c = '\'' then [c, c] else [c]) ++ "'!"
  else sheetName ++ "!"

/-- The text a print area refers to, with locked corners. -/
def printAreaAddress (sheetName : String) (bounds : Bounds) : String :=
  let corner (col row : Nat) : String :=
    "$" ++ String.ofList (columnName 8 col) ++ "$" ++ toString row
  formatSheetPrefix sheetName ++ corner bounds.cols.lo bounds.rows.lo ++ ":" ++
    corner bounds.cols.hi bounds.rows.hi

def printArea : String := "_xlnm.Print_Area"

/-- The first print area of the sheet is kept and moved; there is one at the end. -/
def setPrintArea (index : Nat) (address : String) (names : List DefinedName) : List DefinedName :=
  match names.find? fun d => d.name = printArea with
  | none => names ++ [⟨printArea, address, some index⟩]
  | some _ =>
    let rest := names.dropWhile fun d => d.name ≠ printArea
    names.takeWhile (fun d => d.name ≠ printArea) ++ ⟨printArea, address, some index⟩ ::
      rest.tail.filter fun d => d.name ≠ printArea

def applySheetLayoutOp (op : SheetLayoutOp) (book : OpenWorkbook) : Result OpenWorkbook :=
  let format := book.format op.sheetName
  match op with
  | .freezePanes name freezeRows freezeCols topLeftCell => do
    book.requireSheet name
    let view ← applyFreezePanes freezeRows freezeCols topLeftCell format.view
    pure (book.setFormat name { format with view })
  | .setZoom name zoomPercent => do
    ensure (10 ≤ zoomPercent ∧ zoomPercent ≤ 400) "zoom_percent must be between 10 and 400"
    book.requireSheet name
    pure (book.setFormat name { format with
      view := { format.view with zoomScale := zoomPercent, zoomScaleNormal := zoomPercent } })
  | .setGridlines name showLines => do
    book.requireSheet name
    pure (book.setFormat name { format with
      view := { format.view with showGridLines := showLines } })
  | .setPageMargins name left right top bottom header footer => do
    validateMarginValue "left" left
    validateMarginValue "right" right
    validateMarginValue "top" top
    validateMarginValue "bottom" bottom
    header.elim (.ok ()) (validateMarginValue "header")
    footer.elim (.ok ()) (validateMarginValue "footer")
    book.requireSheet name
    pure (book.setFormat name { format with
      margins := ⟨left, right, top, bottom, header.getD format.margins.header,
        footer.getD format.margins.footer⟩ })
  | .setPageSetup name orientation fitToWidth fitToHeight scalePercent => do
    ensure ((fitToWidth.all fun v => decide (1 ≤ v)) = true) "fit_to_width must be >= 1"
    ensure ((fitToHeight.all fun v => decide (1 ≤ v)) = true) "fit_to_height must be >= 1"
    ensure ((scalePercent.all fun v => decide (10 ≤ v ∧ v ≤ 400)) = true)
      "scale_percent must be between 10 and 400"
    book.requireSheet name
    pure (book.setFormat name { format with
      setup := ⟨orientation, fitToWidth.getD format.setup.fitToWidth,
        fitToHeight.getD format.setup.fitToHeight, scalePercent.getD format.setup.scale⟩ })
  | .setPrintArea name range => do
    let index ← required (book.sheets.idxOf? name) (Book.sheetNotFound name)
    let bounds ← parseRangeBounds range
    let book := { book with
      definedNames := book.definedNames.filter fun d =>
        !(decide (d.name = printArea) && decide (d.localSheetId = some index)) }
    pure (book.setFormat name { format with
      definedNames := setPrintArea index (printAreaAddress name bounds) format.definedNames })
  | .setPageBreaks name rowBreaks colBreaks => do
    ensure (0 ∉ rowBreaks) "row_breaks entries must be >= 1"
    ensure (0 ∉ colBreaks) "col_breaks entries must be >= 1"
    book.requireSheet name
    pure (book.setFormat name { format with rowBreaks, colBreaks })

/-! ### Rules -/

structure DataValidationSpec where
  kind : DataValidationKind
  formula1 : String
  formula2 : Option String
  allowBlank : Option Bool
  prompt : Option ValidationMessage
  error : Option ValidationMessage
  deriving DecidableEq, Repr

inductive ConditionalFormatRuleSpec where
  | cellIs (operator : ConditionalFormatOperator) (formula : String)
  | expression (formula : String)
  deriving DecidableEq, Repr

structure ConditionalFormatStyleSpec where
  fillColor : Option String
  fontColor : Option String
  bold : Option Bool
  deriving DecidableEq, Repr

inductive RulesOp where
  | setDataValidation (sheetName targetRange : String) (validation : DataValidationSpec)
  | addConditionalFormat (sheetName targetRange : String) (rule : ConditionalFormatRuleSpec)
      (style : ConditionalFormatStyleSpec)
  | setConditionalFormat (sheetName targetRange : String) (rule : ConditionalFormatRuleSpec)
      (style : ConditionalFormatStyleSpec)
  | clearConditionalFormats (sheetName targetRange : String)
  deriving DecidableEq, Repr

def RulesOp.sheetName : RulesOp → String
  | .setDataValidation name .. | .addConditionalFormat name .. | .setConditionalFormat name ..
  | .clearConditionalFormats name _ => name

def ConditionalFormatRuleSpec.formula : ConditionalFormatRuleSpec → String
  | .cellIs _ formula | .expression formula => formula

def ConditionalFormatRuleSpec.kind : ConditionalFormatRuleSpec → ConditionalFormatValues
  | .cellIs operator _ => .cellIs operator
  | .expression _ => .expression

def extractRuleOpFormulas : RulesOp → List String
  | .setDataValidation _ _ validation => validation.formula1 :: validation.formula2.toList
  | .addConditionalFormat _ _ rule _ | .setConditionalFormat _ _ rule _ => [rule.formula]
  | .clearConditionalFormats _ _ => []

/-- A text without its blanks and in capitals. -/
def squeezed (text : String) : String :=
  String.ofList ((text.toList.filter (· ≠ ' ')).map Char.toUpper)

def normalizeSqref (input : String) : Result String := do
  ensure (Legacy.trim input ≠ "") "target_range is required"
  pure (squeezed (Legacy.trim input))

def normalizeCfFormula (field value : String) : Result String := do
  ensure (Legacy.trim value ≠ "") (field ++ " is required")
  pure (stripEquals (Legacy.trim value))

def isHexDigit (c : Char) : Bool :=
  c.isDigit || decide ('a' ≤ c ∧ c ≤ 'f') || decide ('A' ≤ c ∧ c ≤ 'F')

def normalizeColorHex (input : String) : Option String :=
  let hex := match (Legacy.trim input).toList with
    | '#' :: rest => rest
    | text => text
  if hex = [] ∨ hex.all isHexDigit = false then none
  else
    match hex.length with
    | 3 => some (String.ofList (['F', 'F'] ++ (hex.flatMap fun c => [c, c]).map Char.toUpper))
    | 6 => some (String.ofList (['F', 'F'] ++ hex.map Char.toUpper))
    | 8 => some (String.ofList (hex.map Char.toUpper))
    | _ => none

def normalizeArgbColor (field input : String) : Result String :=
  required (normalizeColorHex input)
    ("invalid color for " ++ field ++ ": expected #RGB/#RRGGBB/#AARRGGBB")

def ConditionalFormatStyleSpec.resolve (style : ConditionalFormatStyleSpec) :
    Result ConditionalFormatStyle := do
  let fillArgb ← normalizeArgbColor "style.fill_color" (style.fillColor.getD "FFFFE0E0")
  let fontArgb ← normalizeArgbColor "style.font_color" (style.fontColor.getD "FF000000")
  pure ⟨fillArgb, fontArgb, style.bold.getD false⟩

def nextCfPriority (formats : List ConditionalFormatting) : Nat :=
  (formats.flatMap fun cf => cf.rules.map ConditionalFormattingRule.priority).foldl max 0 + 1

def appendCfRule (sqref : String) (kind : ConditionalFormatValues) (formula : String)
    (style : ConditionalFormatStyle) (formats : List ConditionalFormatting) :
    List ConditionalFormatting :=
  formats ++ [⟨sqref, [⟨kind, formula, some style, nextCfPriority formats⟩]⟩]

def cfRuleCoreMatches (kind : ConditionalFormatValues) (formula : String)
    (existing : ConditionalFormattingRule) : Bool :=
  existing.kind == kind && existing.formula == formula

/-- An exact match is not added again. -/
def addConditionalFormat (targetRange : String) (rule : ConditionalFormatRuleSpec)
    (style : ConditionalFormatStyleSpec) (formats : List ConditionalFormatting) :
    Result (List ConditionalFormatting) := do
  let sqref ← normalizeSqref targetRange
  let formula ← normalizeCfFormula "rule.formula" rule.formula
  let style ← style.resolve
  if formats.any fun cf => squeezed cf.sqref == sqref &&
      cf.rules.any (cfRuleCoreMatches rule.kind formula) then
    pure formats
  else pure (appendCfRule sqref rule.kind formula style formats)

/-- What targets the same range is replaced, unless it is the same rule already. -/
def setConditionalFormat (targetRange : String) (rule : ConditionalFormatRuleSpec)
    (style : ConditionalFormatStyleSpec) (formats : List ConditionalFormatting) :
    Result (List ConditionalFormatting) := do
  let sqref ← normalizeSqref targetRange
  let formula ← normalizeCfFormula "rule.formula" rule.formula
  let style ← style.resolve
  let replaced := appendCfRule sqref rule.kind formula style
    (formats.filter fun cf => squeezed cf.sqref != sqref)
  match formats.filter fun cf => squeezed cf.sqref == sqref with
  | [⟨_, [existing]⟩] =>
    if cfRuleCoreMatches rule.kind formula existing && existing.style == some style then
      pure formats
    else pure replaced
  | _ => pure replaced

def clearConditionalFormats (targetRange : String) (formats : List ConditionalFormatting) :
    Result (List ConditionalFormatting) := do
  let sqref ← normalizeSqref targetRange
  pure (formats.filter fun cf => squeezed cf.sqref != sqref)

def normalizeDvFormula (value : String) : String := stripEquals (Legacy.trim value)

/-- Ranged kinds compare; lists and custom formulas have no operator. -/
def validationOperator (spec : DataValidationSpec) : Option DataValidationOperator :=
  match spec.kind with
  | .whole | .decimal | .date =>
    if spec.formula2.any fun s => decide (Legacy.trim s ≠ "") then some .between else some .equal
  | .list | .custom => none

def setDataValidation (targetRange : String) (spec : DataValidationSpec)
    (validations : List DataValidation) : Result (List DataValidation) := do
  let sqref ← normalizeSqref targetRange
  pure (validations.filter (fun dv => squeezed dv.sqref != sqref) ++ [{
    sqref
    kind := spec.kind.toUmya
    allowBlank := spec.allowBlank
    formula1 := normalizeDvFormula spec.formula1
    formula2 := (spec.formula2.map normalizeDvFormula).filter (· ≠ "")
    operator := validationOperator spec
    prompt := spec.prompt
    error := spec.error }])

/-- With `warn`, an operation whose formula does not parse is left out. -/
def ruleAccepted (tools : FormatTools) (policy : FormulaParsePolicy) (op : RulesOp) :
    Result Bool :=
  let parses := (extractRuleOpFormulas op).all fun formula =>
    let text := stripEquals (Legacy.trim formula)
    decide (text = "") || (tools.validateFormula text).isOk
  match policy with
  | .off => .ok true
  | .warn => .ok parses
  | .fail => if parses then .ok true else .error "formula parse failed"

def applyRulesOp (tools : FormatTools) (policy : FormulaParsePolicy) (op : RulesOp)
    (book : OpenWorkbook) : Result OpenWorkbook := do
  let accepted ← ruleAccepted tools policy op
  if accepted = false then pure book
  else
    let format := book.format op.sheetName
    match op with
    | .setDataValidation name targetRange validation => do
      book.requireSheet name
      let validations ← setDataValidation targetRange validation format.validations
      pure (book.setFormat name { format with validations })
    | .addConditionalFormat name targetRange rule style => do
      book.requireSheet name
      let conditionalFormats ← addConditionalFormat targetRange rule style
        format.conditionalFormats
      pure (book.setFormat name { format with conditionalFormats })
    | .setConditionalFormat name targetRange rule style => do
      book.requireSheet name
      let conditionalFormats ← setConditionalFormat targetRange rule style
        format.conditionalFormats
      pure (book.setFormat name { format with conditionalFormats })
    | .clearConditionalFormats name targetRange => do
      book.requireSheet name
      let conditionalFormats ← clearConditionalFormats targetRange format.conditionalFormats
      pure (book.setFormat name { format with conditionalFormats })

end AgentSpreadsheet.Sheets
