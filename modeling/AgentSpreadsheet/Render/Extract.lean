import AgentSpreadsheet.Library.Layout
import AgentSpreadsheet.Render.NumberFormat

/-! The layout of a range: tracks for its columns, a plan for every cell with something to show,
tracks for its rows, and the rectangle of each plan. Sizes are exact rationals. -/
namespace AgentSpreadsheet.Render
open Library

/-! ### Sheets -/

inductive PatternType where
  | solid
  | darkGray | darkTrellis
  | mediumGray | darkHorizontal | darkVertical | darkDown | darkUp | darkGrid
  | lightGrid
  | lightTrellis
  | lightGray | lightHorizontal | lightVertical | lightDown | lightUp
  | gray125
  | gray0625
  | none
  deriving DecidableEq, Repr

/-- Colors as they are resolved against the theme. -/
structure PatternFill where
  patternType : PatternType
  foregroundColor : Option Rgba
  backgroundColor : Option Rgba

structure Border where
  borderStyle : String
  color : Option Rgba

structure Borders where
  top : Border
  bottom : Border
  left : Border
  right : Border

structure Font where
  bold : Bool
  italic : Bool
  underline : Bool
  strikethrough : Bool
  size : ℚ
  color : Option Rgba

inductive Horizontal where
  | center | centerContinuous | right | left | justify | other
  deriving DecidableEq, Repr

inductive Vertical where
  | center | top | other
  deriving DecidableEq, Repr

structure Alignment where
  horizontal : Horizontal
  vertical : Vertical
  wrapText : Bool

inductive RawValue where
  | empty
  | numeric (value : ℚ)
  | other (text : String)

structure Cell where
  rawValue : RawValue
  formatCode : String
  fill : Option PatternFill
  borders : Option Borders
  font : Option Font
  alignment : Option Alignment

structure ColumnDimension where
  width : ℚ
  hidden : Bool

structure RowDimension where
  height : ℚ
  hidden : Bool
  customHeight : Bool

/-- A merged range as it is written; a coordinate can be missing. -/
structure MergeRange where
  startCol : Option Nat
  startRow : Option Nat
  endCol : Option Nat
  endRow : Option Nat

structure Sheet where
  defaultColumnWidth : ℚ
  baseColumnWidth : Nat
  defaultRowHeight : ℚ
  columnDimension : Nat → Option ColumnDimension
  rowDimension : Nat → Option RowDimension
  mergeCells : List MergeRange
  cell : Nat → Nat → Option Cell

structure Merge where
  firstCol : Nat
  firstRow : Nat
  lastCol : Nat
  lastRow : Nat
  deriving DecidableEq, Repr

def Merge.contains (merge : Merge) (col row : Nat) : Bool :=
  merge.firstCol ≤ col && col ≤ merge.lastCol && merge.firstRow ≤ row && row ≤ merge.lastRow

def merges (sheet : Sheet) : List Merge :=
  sheet.mergeCells.map fun range =>
    let firstCol := range.startCol.getD 1
    let firstRow := range.startRow.getD 1
    ⟨firstCol, firstRow, range.endCol.getD firstCol, range.endRow.getD firstRow⟩

/-- The Normal font. A size that is missing or not positive is replaced when the styles are read. -/
structure NormalFont where
  family : String
  sizePt : ℚ
  positive : 0 < sizePt

/-! ### Measures -/

def pxPerPt : ℚ := 96 / 72

def roundHalfUpPt (value : ℚ) : ℚ := ⌊value + 1 / 2⌋

def referenceDigitAdvanceEm (family : String) : Option ℚ :=
  match family.toLower with
  | "calibri" | "carlito" => some (506836 / 1000000)
  | "arial" | "helvetica" | "liberation sans" => some (556152 / 1000000)
  | "verdana" => some (635742 / 1000000)
  | "courier new" => some (600098 / 1000000)
  | "times new roman" => some (1 / 2)
  | "malgun gothic" | "맑은 고딕" => some (550781 / 1000000)
  | _ => none

def columnUnitPt (normal : NormalFont) : ℚ :=
  roundHalfUpPt ((referenceDigitAdvanceEm normal.family).getD (506836 / 1000000) * normal.sizePt)

def defaultColumnWidthPt (declared : Option ℚ) (base : Option Nat) (unitPt : ℚ) : ℚ :=
  match declared with
  | some width => roundHalfUpPt (width * unitPt)
  | none => base.getD 8 * unitPt + 5

def patternInkCoverage : PatternType → ℚ
  | .solid => 1
  | .darkGray | .darkTrellis => 3 / 4
  | .mediumGray | .darkHorizontal | .darkVertical | .darkDown | .darkUp | .darkGrid => 1 / 2
  | .lightGrid => 7 / 16
  | .lightTrellis => 3 / 8
  | .lightGray | .lightHorizontal | .lightVertical | .lightDown | .lightUp => 1 / 4
  | .gray125 => 1 / 8
  | .gray0625 => 1 / 16
  | .none => 0

def blendColor (background foreground : Rgba) (coverage : ℚ) : Rgba :=
  let mix (below above : UInt8) : UInt8 :=
    UInt8.ofNat (roundAway (below.toNat * (1 - coverage) + above.toNat * coverage)).toNat
  ⟨mix background.red foreground.red, mix background.green foreground.green,
    mix background.blue foreground.blue, 255⟩

inductive Dash where
  | solid | dotted | dashed | dashDot | dashDotDot | double
  deriving DecidableEq, Repr

def borderStyleToWidth : String → Option ℚ
  | "hair" | "thin" | "dashed" | "dotted" | "dashDot" | "dashDotDot" | "double" => some 1
  | "medium" | "mediumDashed" | "mediumDashDot" | "mediumDashDotDot" | "slantDashDot" => some 2
  | "thick" => some 3
  | _ => none

def borderStyleToLineStyle : String → Dash
  | "dashed" | "mediumDashed" => .dashed
  | "dotted" | "hair" => .dotted
  | "dashDot" | "mediumDashDot" | "slantDashDot" => .dashDot
  | "dashDotDot" | "mediumDashDotDot" => .dashDotDot
  | "double" => .double
  | _ => .solid

def black : Rgba := ⟨0, 0, 0, 255⟩

def white : Rgba := ⟨255, 255, 255, 255⟩

/-! ### Plans -/

structure RangeBounds where
  firstCol : Nat
  lastCol : Nat
  firstRow : Nat
  lastRow : Nat

structure Track where
  index : Nat
  offset : ℚ
  size : ℚ
  hidden : Bool

structure Edge where
  widthPx : ℚ
  dash : Dash
  color : Rgba
  deriving DecidableEq, Repr

structure Edges where
  top : Option Edge
  bottom : Option Edge
  left : Option Edge
  right : Option Edge
  deriving DecidableEq, Repr

inductive HAlign where
  | left | center | right
  deriving DecidableEq, Repr

inductive VAlign where
  | top | center | bottom
  deriving DecidableEq, Repr

structure CellPlan where
  col : Nat
  row : Nat
  merge : Option Merge
  fill : Option Rgba
  edges : Edges
  text : String
  sizePx : ℚ
  color : Rgba
  bold : Bool
  italic : Bool
  underline : Bool
  strike : Bool
  halign : HAlign
  valign : VAlign
  wrap : Bool

/-- Fonts and the workbook library: how a number is written that the formatter declines, and how
many lines a text is wrapped into. -/
structure PlanTools extends NumberTools where
  formattedValue : Cell → String
  wrapLines : (text : String) → (available sizePx : ℚ) → (bold : Bool) → Nat

def formatText (text : String) (code : String) : Option (String × Option Rgba) := do
  let sections ← splitSections code
  match sections[3]? with
  | none => some (text, none)
  | some sectionText =>
    let (color, body) ← takeColor sectionText
    let tokens ← tokenize body
    let pieces ← tokens.mapM fun token => match token with
      | .text => some text.toList
      | .literal c => some [c]
      | _ => none
    some (String.ofList pieces.flatten, color)

section Plan
variable (tools : PlanTools) (sheet : Sheet)

def renderValue (cell : Cell) : String × Option Rgba :=
  let plain := cell.formatCode = "" ∨ cell.formatCode.toLower = "general"
  match cell.rawValue with
  | .empty => ("", none)
  | .numeric value =>
    if plain then (String.ofList (tools.general value), none)
    else
      match formatNumber tools.toNumberTools value cell.formatCode with
      | some formatted => (formatted.text, formatted.color)
      | none => (tools.formattedValue cell, none)
  | .other text =>
    if plain then (text, none)
    else (formatText text cell.formatCode).getD (tools.formattedValue cell, none)

def cellFill (cell : Cell) : Option Rgba := do
  let pattern ← cell.fill
  let coverage := patternInkCoverage pattern.patternType
  if 0 < coverage then
    let foreground := pattern.foregroundColor.getD black
    some (if 1 ≤ coverage then foreground
      else blendColor (pattern.backgroundColor.getD white) foreground coverage)
  else none

def edgeOf (border : Border) (scale : ℚ) : Option Edge :=
  (borderStyleToWidth border.borderStyle).map fun widthPt =>
    ⟨widthPt * pxPerPt * scale, borderStyleToLineStyle border.borderStyle,
      border.color.getD black⟩

def cellBorders (cell : Cell) (scale : ℚ) : Edges :=
  match cell.borders with
  | none => ⟨none, none, none, none⟩
  | some borders => ⟨edgeOf borders.top scale, edgeOf borders.bottom scale,
      edgeOf borders.left scale, edgeOf borders.right scale⟩

/-- `first..=last`. -/
def indices (first last : Nat) : List Nat := List.range' first (last + 1 - first)

/-- The first cell along an edge that declares it. -/
def side (scale : ℚ) (cells : List (Nat × Nat)) (edge : Edges → Option Edge) : Option Edge :=
  cells.findSome? fun (col, row) => (sheet.cell col row).bind fun cell => edge (cellBorders cell scale)

def mergedRangeBorder (merge : Merge) (scale : ℚ) : Edges where
  top := side sheet scale ((indices merge.firstCol merge.lastCol).map (·, merge.firstRow)) Edges.top
  bottom := side sheet scale ((indices merge.firstCol merge.lastCol).map (·, merge.lastRow))
    Edges.bottom
  left := side sheet scale ((indices merge.firstRow merge.lastRow).map (merge.firstCol, ·)) Edges.left
  right := side sheet scale ((indices merge.firstRow merge.lastRow).map (merge.lastCol, ·)) Edges.right

def Edges.isEmpty (edges : Edges) : Bool :=
  edges.top.isNone && edges.bottom.isNone && edges.left.isNone && edges.right.isNone

def findTrack (tracks : List Track) (index : Nat) : Option Track :=
  tracks.find? (·.index == index)

def planCell (columns : List Track) (normal : NormalFont) (scale : ℚ) (col row : Nat) :
    Option CellPlan := do
  if (findTrack columns col).any Track.hidden then none
  else
    let merge := (merges sheet).find? (·.contains col row)
    if merge.any fun merge => merge.firstCol ≠ col || merge.firstRow ≠ row then none
    else
      let cell ← sheet.cell col row
      let fill := cellFill cell
      let edges := match merge with
        | some merge => mergedRangeBorder sheet merge scale
        | none => cellBorders cell scale
      let (text, formatColor) := renderValue tools cell
      let sizePt := match cell.font with
        | some font => if 0 < font.size then font.size else normal.sizePt
        | none => normal.sizePt
      let fontColor := (cell.font.bind Font.color).getD black
      let explicitHalign := cell.alignment.bind fun alignment => match alignment.horizontal with
        | .center | .centerContinuous => some HAlign.center
        | .right => some .right
        | .left | .justify => some .left
        | .other => none
      let valign := match cell.alignment.map Alignment.vertical with
        | some .center => VAlign.center
        | some .top => .top
        | _ => .bottom
      let numeric := match cell.rawValue with
        | .numeric _ => true
        | _ => false
      let plan : CellPlan :=
        { col := col
          row := row
          merge := merge
          fill := fill
          edges := edges
          text := text
          sizePx := sizePt * pxPerPt * scale
          color := formatColor.getD fontColor
          bold := cell.font.any Font.bold
          italic := cell.font.any Font.italic
          underline := cell.font.any Font.underline
          strike := cell.font.any Font.strikethrough
          halign := explicitHalign.getD (if numeric then .right else .left)
          valign := valign
          wrap := cell.alignment.any Alignment.wrapText }
      if fill.isNone && edges.isEmpty && text = "" then none else some plan

def planCells (columns : List Track) (bounds : RangeBounds) (normal : NormalFont) (scale : ℚ) :
    List CellPlan :=
  (indices bounds.firstRow bounds.lastRow).flatMap fun row =>
    (indices bounds.firstCol bounds.lastCol).filterMap fun col =>
      planCell tools sheet columns normal scale col row

/-! ### Tracks -/

def tracksFrom (size : Nat → ℚ) (hidden : Nat → Bool) : ℚ → List Nat → List Track
  | _, [] => []
  | offset, index :: rest =>
    ⟨index, offset, size index, hidden index⟩ :: tracksFrom size hidden (offset + size index) rest

def columnHidden (col : Nat) : Bool := (sheet.columnDimension col).any ColumnDimension.hidden

def columnSize (normal : NormalFont) (scale : ℚ) (col : Nat) : ℚ :=
  let unitPt := columnUnitPt normal
  let declaredDefault := if 0 < sheet.defaultColumnWidth then some sheet.defaultColumnWidth else none
  let base := if 0 < sheet.baseColumnWidth then some sheet.baseColumnWidth else none
  let defaultPt := defaultColumnWidthPt declaredDefault base unitPt
  let widthPt := match sheet.columnDimension col with
    | some dimension =>
      if 0 < dimension.width then roundHalfUpPt (dimension.width * unitPt) else defaultPt
    | none => defaultPt
  if columnHidden sheet col then 0 else widthPt * pxPerPt * scale

def buildColumnTracks (bounds : RangeBounds) (normal : NormalFont) (scale : ℚ) : List Track :=
  tracksFrom (columnSize sheet normal scale) (columnHidden sheet) 0
    (indices bounds.firstCol bounds.lastCol)

def mergedWidth (columns : List Track) (plan : CellPlan) : ℚ :=
  match plan.merge with
  | some merge => ((columns.filter fun track =>
      merge.firstCol ≤ track.index && track.index ≤ merge.lastCol).map Track.size).sum
  | none => ((findTrack columns plan.col).map Track.size).getD 0

def autofitPx (columns : List Track) (plan : CellPlan) : ℚ :=
  if plan.text = "" then 0
  else
    let available := mergedWidth columns plan - 6 * pxPerPt
    let lines := if plan.wrap && 0 < available then
      tools.wrapLines plan.text available plan.sizePx plan.bold else 1
    if plan.merge.any fun merge => merge.lastRow ≠ merge.firstRow then 0
    else ⌈plan.sizePx * (12 / 10) * lines⌉ + 2

def rowHidden (row : Nat) : Bool := (sheet.rowDimension row).any RowDimension.hidden

def rowSize (columns : List Track) (plans : List CellPlan) (scale : ℚ) (row : Nat) : ℚ :=
  let defaultPt := if 0 < sheet.defaultRowHeight then sheet.defaultRowHeight else 15
  let recorded := ((sheet.rowDimension row).map RowDimension.height).filter (0 < ·)
  let custom := (sheet.rowDimension row).any RowDimension.customHeight
  let basePx := recorded.getD defaultPt * pxPerPt * scale
  let heightPx := if custom && recorded.isSome then basePx
    else (plans.filter (·.row == row)).foldl (fun needed plan => max needed (autofitPx tools columns plan))
      basePx
  if rowHidden sheet row then 0 else heightPx

def buildRowTracks (bounds : RangeBounds) (columns : List Track) (plans : List CellPlan) (scale : ℚ) :
    List Track :=
  tracksFrom (rowSize tools sheet columns plans scale) (rowHidden sheet) 0
    (indices bounds.firstRow bounds.lastRow)

end Plan

/-! ### Rectangles -/

abbrev Rect := Area ℚ

structure RenderOptions where
  scale : ℚ
  headings : Bool

structure Layout where
  bounds : RangeBounds
  columns : List Track
  plans : List CellPlan
  rows : List Track
  originX : ℚ
  originY : ℚ

def extent (tracks : List Track) : ℚ := (tracks.getLast?.map fun track => track.offset + track.size).getD 0

def Layout.gridRect (layout : Layout) : Rect :=
  ⟨layout.originX, layout.originY, extent layout.columns, extent layout.rows⟩

def Layout.rectBetween (layout : Layout) (firstCol firstRow lastCol lastRow : Nat) : Option Rect := do
  let firstCol ← findTrack layout.columns firstCol
  let firstRow ← findTrack layout.rows firstRow
  let lastCol ← findTrack layout.columns lastCol
  let lastRow ← findTrack layout.rows lastRow
  some ⟨layout.originX + firstCol.offset, layout.originY + firstRow.offset,
    lastCol.offset + lastCol.size - firstCol.offset, lastRow.offset + lastRow.size - firstRow.offset⟩

def Layout.cellRect (layout : Layout) (plan : CellPlan) : Option Rect :=
  match plan.merge with
  | some merge => layout.rectBetween merge.firstCol merge.firstRow
      (min merge.lastCol layout.bounds.lastCol) (min merge.lastRow layout.bounds.lastRow)
  | none => do
    let col ← findTrack layout.columns plan.col
    let row ← findTrack layout.rows plan.row
    some ⟨layout.originX + col.offset, layout.originY + row.offset, col.size, row.size⟩

def extract (tools : PlanTools) (sheet : Sheet) (normal : NormalFont) (bounds : RangeBounds)
    (options : RenderOptions) : Except String Layout :=
  if bounds.firstCol = 0 ∨ bounds.firstRow = 0 then .error "range bounds are 1-based"
  else if bounds.lastCol < bounds.firstCol ∨ bounds.lastRow < bounds.firstRow then
    .error "range bounds are inverted"
  else if ¬ 0 < options.scale then .error "scale must be positive"
  else
    let columns := buildColumnTracks sheet bounds normal options.scale
    let plans := planCells tools sheet columns bounds normal options.scale
    .ok
      { bounds := bounds
        columns := columns
        plans := plans
        rows := buildRowTracks tools sheet bounds columns plans options.scale
        originX := if options.headings then 44 * options.scale else 0
        originY := if options.headings then 20 * options.scale else 0 }

end AgentSpreadsheet.Render
