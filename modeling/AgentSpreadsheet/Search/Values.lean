import AgentSpreadsheet.Analysis.Trace
import AgentSpreadsheet.Library.Offsets
import AgentSpreadsheet.Reads.Cells

/-! Searches for values and formulas. The shared tools search a page at a time, the session
searches its own workbook. -/
namespace AgentSpreadsheet.Search
open Library

/-- `ν` is the type of numbers. -/
inductive CellValue (ν : Type) where
  | text (s : String)
  | number (n : ν)
  | bool (b : Bool)
  | error (e : String)
  | date (d : String)
  deriving DecidableEq, Repr

/-- `parse` reads a number and `display` writes it; `regex` compiles a pattern. -/
structure ValueTools (ν : Type) where
  parse : String → Option ν
  display : ν → String
  excelSerialToIso : ν → String
  regex : String → Option (String → Bool)

structure StoredCell where
  col : Nat
  row : Nat
  value : String
  dataType : String := ""
  formula : Option String := none
  dateFormatted : Bool := false
  deriving DecidableEq, Repr

/-- The cells in the order in which the workbook library lists them. -/
structure Worksheet where
  name : String
  cells : List StoredCell
  distinct : (cells.map fun cell => (cell.col, cell.row)).Nodup
  placed : ∀ cell ∈ cells, 1 ≤ cell.col ∧ 1 ≤ cell.row

inductive NamedItemKind where
  | namedRange
  | table
  | formula
  | unknown
  deriving DecidableEq, Repr

structure NamedRangeDescriptor where
  name : String
  kind : NamedItemKind
  sheetName : Option String
  refersTo : String
  deriving DecidableEq, Repr

structure DetectedRegion where
  bounds : String
  headerRow : Option Nat
  deriving DecidableEq, Repr

structure WorkbookContext where
  sheets : List Worksheet
  distinct : (sheets.map Worksheet.name).Nodup
  namedItems : List NamedRangeDescriptor
  detectedRegion : String → Nat → Option DetectedRegion

def WorkbookContext.sheetNames (book : WorkbookContext) : List String :=
  book.sheets.map Worksheet.name

def WorkbookContext.withSheet (book : WorkbookContext) (name : String) : Except String Worksheet :=
  required (book.sheets.find? fun sheet => sheet.name = name) ("sheet " ++ name ++ " not found")

/-- `max` is on the empty list 0. -/
def Worksheet.highestColumn (sheet : Worksheet) : Nat :=
  (sheet.cells.map StoredCell.col).foldr max 0

def Worksheet.highestRow (sheet : Worksheet) : Nat :=
  (sheet.cells.map StoredCell.row).foldr max 0

def Worksheet.cell (sheet : Worksheet) (col row : Nat) : Option StoredCell :=
  sheet.cells.find? fun cell => cell.col = col ∧ cell.row = row

def StoredCell.isFormula (cell : StoredCell) : Bool := cell.formula.isSome

def StoredCell.address (cell : StoredCell) : String := Analysis.cellAddress cell.col cell.row

def toAsciiLowercase (text : String) : String := String.ofList (text.toList.map Char.toLower)

def toAsciiUppercase (text : String) : String := String.ofList (text.toList.map Char.toUpper)

def strContains (text query : String) : Bool := decide (query.toList <:+: text.toList)

def strStartsWith (text query : String) : Bool := query.toList.isPrefixOf text.toList

def isSpreadsheetError (raw : String) : Bool :=
  toAsciiUppercase (Legacy.trim raw) ∈ ["#DIV/0!", "#VALUE!", "#NAME?", "#REF!", "#N/A", "#NULL!",
    "#NUM!", "#SPILL!", "#CALC!", "#CIRC!", "#BUSY!", "#FIELD!", "#UNKNOWN!", "#CONNECT!",
    "#GETTING_DATA", "#DATA!"]

section Values
variable {ν : Type} (tools : ValueTools ν)

def cellToValue (cell : StoredCell) : Option (CellValue ν) :=
  let raw := cell.value
  if raw = "" then none
  else if cell.dataType = "e" ∨ (cell.isFormula ∧ isSpreadsheetError raw) then some (.error raw)
  else
    match tools.parse raw with
    | some number =>
      if cell.dateFormatted then some (.date (tools.excelSerialToIso number))
      else some (.number number)
    | none =>
      if toAsciiLowercase raw = "true" then some (.bool true)
      else if toAsciiLowercase raw = "false" then some (.bool false)
      else some (.text raw)

def boolText (b : Bool) : String := if b then "true" else "false"

def cellValueToString : CellValue ν → String
  | .text s => s
  | .number n => tools.display n
  | .bool b => boolText b
  | .error e => e
  | .date d => d

/-- As the shared tools have it; a Boolean is lower case as it is. -/
def cellValueToStringLower : CellValue ν → String
  | .text s => toAsciiLowercase s
  | .number n => toAsciiLowercase (tools.display n)
  | .bool b => boolText b
  | .error e => toAsciiLowercase e
  | .date d => toAsciiLowercase d

/-! ### Requests -/

inductive FindMode where
  | value
  | label
  deriving DecidableEq, Repr

inductive MatchMode where
  | contains
  | exact
  | prefixMatch
  | regex
  deriving DecidableEq, Repr

inductive LabelDirection where
  | right
  | below
  | any
  deriving DecidableEq, Repr

inductive ValueTypeFilter where
  | text
  | number
  | bool
  | date
  | null
  deriving DecidableEq, Repr

inductive FindContext where
  | none
  | neighbors
  | row
  | both
  deriving DecidableEq, Repr

structure FindValueParams where
  query : String
  label : Option String := none
  mode : Option FindMode := none
  matchMode : Option MatchMode := none
  caseSensitive : Bool := false
  sheetName : Option String := none
  regionId : Option Nat := none
  tableName : Option String := none
  valueTypes : Option (List ValueTypeFilter) := none
  searchHeadersOnly : Bool := false
  direction : Option LabelDirection := none
  limit : Nat := 50
  offset : Option Nat := none
  context : Option FindContext := none
  contextWidth : Option Nat := none
  deriving DecidableEq, Repr

structure RowContext (ν : Type) where
  headers : List String
  values : List (Option (CellValue ν))
  deriving DecidableEq, Repr

structure NeighborValues (ν : Type) where
  left : Option (CellValue ν)
  right : Option (CellValue ν)
  up : Option (CellValue ν)
  down : Option (CellValue ν)
  deriving DecidableEq, Repr

structure LabelHit where
  labelAddress : String
  label : String
  deriving DecidableEq, Repr

structure FindValueMatch (ν : Type) where
  address : String
  sheetName : String
  value : Option (CellValue ν)
  rowContext : Option (RowContext ν)
  neighbors : Option (NeighborValues ν)
  labelHit : Option LabelHit
  deriving DecidableEq, Repr

structure FindValueResponse (ν : Type) where
  results : List (FindValueMatch ν)
  matchCount : Nat
  nextOffset : Option Nat
  deriving DecidableEq, Repr

/-! ### Matching -/

def textMatches (haystack needle : String) (regex : Option (String → Bool)) : MatchMode → Bool
  | .exact => haystack == needle
  | .prefixMatch => strStartsWith haystack needle
  | .regex => (regex.map fun isMatch => isMatch haystack).getD false
  | .contains => strContains haystack needle

def needleOf (query : String) (caseSensitive : Bool) : String :=
  if caseSensitive then query else toAsciiLowercase query

def valueMatches (value : Option (CellValue ν)) (query : String) (mode : MatchMode)
    (caseSensitive : Bool) (regex : Option (String → Bool)) : Bool :=
  match value with
  | none => false
  | some value =>
    textMatches (cellValueToStringLower tools value) (needleOf query caseSensitive) regex mode

def labelMatches (cell : StoredCell) (label : String) (mode : MatchMode) (caseSensitive : Bool)
    (regex : Option (String → Bool)) : Bool :=
  valueMatches tools (cellToValue tools cell) label mode caseSensitive regex

def valueTypeMatches (value : Option (CellValue ν)) (allowed : List ValueTypeFilter) : Bool :=
  match value with
  | none => .null ∈ allowed
  | some (.text _) => .text ∈ allowed
  | some (.number _) => .number ∈ allowed
  | some (.bool _) => .bool ∈ allowed
  | some (.date _) => .date ∈ allowed
  | some (.error _) => true

def labelFromCell (cell : StoredCell) : String :=
  ((cellToValue tools cell).map (cellValueToString tools)).getD cell.value

/-! ### Context -/

def valueAt (sheet : Worksheet) (col row : Nat) : Option (CellValue ν) :=
  (sheet.cell col row).bind (cellToValue tools)

def collectNeighbors (sheet : Worksheet) (row col : Nat) : NeighborValues ν where
  left := if 1 < col then valueAt tools sheet (col - 1) row else none
  right := valueAt tools sheet (col + 1) row
  up := if 1 < row then valueAt tools sheet col (row - 1) else none
  down := valueAt tools sheet col (row + 1)

def buildRowContext (sheet : Worksheet) (row col width : Nat) : RowContext ν :=
  let half := max width 1 / 2
  let maxCol := max sheet.highestColumn 1
  let startCol := max (col - half) 1
  let endCol := min (col + half) maxCol
  let columns := List.range' startCol (endCol + 1 - startCol)
  { headers := columns.map fun current =>
      ((valueAt tools sheet current 1).map (cellValueToString tools)).getD
        ("Col" ++ toString current)
    values := columns.map fun current => valueAt tools sheet current row }

/-! ### The value search of the shared tools -/

abbrev Bounds : Type := (Nat × Nat) × (Nat × Nat)

def parseRange (range : String) : Option Bounds :=
  let corners : Option (List Char × List Char) :=
    match range.toList.splitOn ':' with
    | [first] => some (first, first)
    | [first, second] => some (first, second)
    | _ => none
  corners.bind fun (first, second) =>
    (Reads.parseCell (String.ofList first)).bind fun start =>
      (Reads.parseCell (String.ofList second)).map fun stop =>
        ((min start.1 stop.1, min start.2 stop.2), (max start.1 stop.1, max start.2 stop.2))

def FindValueParams.findMode (params : FindValueParams) : FindMode :=
  params.mode.getD (if params.label.isSome then .label else .value)

def FindValueParams.regexOf (params : FindValueParams) : Option (String → Bool) :=
  if params.matchMode.getD .contains = .regex then tools.regex params.query else none

section Sheet
variable (params : FindValueParams) (sheet : Worksheet) (region : Option DetectedRegion)
  (tableBounds : Option Bounds)

def defaultBounds : Bounds :=
  ((1, 1), (max sheet.highestColumn 1, max sheet.highestRow 1))

def searchBounds : Bounds :=
  (tableBounds.or (region.bind fun r => parseRange r.bounds)).getD (defaultBounds sheet)

def headerRow : Nat :=
  ((tableBounds.map fun bounds => bounds.1.2).or (region.bind DetectedRegion.headerRow)).getD 1

def inBounds (bounds : Bounds) (cell : StoredCell) : Bool :=
  bounds.1.1 ≤ cell.col && cell.col ≤ bounds.2.1 && bounds.1.2 ≤ cell.row &&
    cell.row ≤ bounds.2.2

def matchesText (cell : StoredCell) : Bool :=
  let matchMode := params.matchMode.getD .contains
  match params.findMode, params.label with
  | .value, _ => valueMatches tools (cellToValue tools cell) params.query matchMode
      params.caseSensitive (params.regexOf tools)
  | .label, some label =>
    labelMatches tools cell label matchMode params.caseSensitive (params.regexOf tools)
  | .label, none => false

/-- The cells that count. -/
def isCandidate (cell : StoredCell) : Bool :=
  inBounds (searchBounds sheet region tableBounds) cell &&
    !(params.searchHeadersOnly && cell.row != headerRow region tableBounds) &&
    params.valueTypes.all (valueTypeMatches (cellToValue tools cell)) &&
    matchesText tools params cell

def targetValue (cell : StoredCell) : Option (CellValue ν) :=
  let right := sheet.cell (cell.col + 1) cell.row
  let below := sheet.cell cell.col (cell.row + 1)
  let target := match params.direction.getD .any with
    | .right => right
    | .below => below
    | .any => right.or below
  target.bind (cellToValue tools)

/-- What a candidate delivers: a label without a value beside it delivers nothing. -/
def matchOf (cell : StoredCell) : Option (FindValueMatch ν) :=
  let context := params.context.getD .none
  let found (labelHit : Option LabelHit) (value : Option (CellValue ν)) : FindValueMatch ν :=
    { address := cell.address
      sheetName := sheet.name
      value
      rowContext := if context = .row ∨ context = .both then
          some (buildRowContext tools sheet cell.row cell.col (max (params.contextWidth.getD 3) 1))
        else none
      neighbors := if context = .neighbors ∨ context = .both then
          some (collectNeighbors tools sheet cell.row cell.col) else none
      labelHit }
  match params.findMode with
  | .label => (targetValue tools params sheet cell).map fun value =>
      found (some ⟨cell.address, labelFromCell tools cell⟩) (some value)
  | .value => some (found none (cellToValue tools cell))

/-- What is in question on a sheet, in the order in which its cells are listed. -/
def collectValueMatches : List (Option (FindValueMatch ν)) :=
  (sheet.cells.filter (isCandidate tools params sheet region tableBounds)).map
    (matchOf tools params sheet)

end Sheet

section Book
variable (book : WorkbookContext) (params : FindValueParams)

/-- The sheet and the corners of the table that is asked for. -/
def tableTarget : Except String (Option (String × Bounds)) :=
  match params.tableName with
  | none => .ok none
  | some tableName => do
    let item ← required (book.namedItems.find? fun item =>
        item.kind = .table ∧ toAsciiLowercase item.name = toAsciiLowercase tableName)
      ("table " ++ tableName ++ " not found")
    let sheetName ← required item.sheetName ("table " ++ tableName ++ " has no owning sheet")
    ensure (params.sheetName.all fun requested => requested = sheetName)
      ("table " ++ tableName ++ " is on sheet " ++ sheetName ++ ", not " ++
        params.sheetName.getD "")
    let range ← required (parseRange (String.ofList (item.refersTo.toList.dropWhile (· = '='))))
      ("table " ++ tableName ++ " has invalid bounds " ++ item.refersTo)
    pure (some (sheetName, range))

def targetSheets (table : Option (String × Bounds)) (sheetName : Option String) : List String :=
  match table, sheetName with
  | some (sheet, _), _ => [sheet]
  | none, some sheet => [sheet]
  | none, none => book.sheetNames

def valueGroup (table : Option (String × Bounds)) (name : String) :
    Except String (List (Option (FindValueMatch ν))) := do
  let sheet ← book.withSheet name
  pure (collectValueMatches tools params sheet (params.regionId.bind (book.detectedRegion name))
    (table.map Prod.snd))

def findValueSemantic : Except String (FindValueResponse ν) := do
  let table ← tableTarget book params
  let offset := params.offset.getD 0
  let (results, truncated) ← collectGroups params.limit (valueGroup tools book params table) offset
    (targetSheets book table params.sheetName) [] 0
  pure { results, matchCount := results.length
         nextOffset := if truncated then some (offset + results.length) else none }

variable {tools book params}

theorem findValueSemantic_eq {table : Option (String × Bounds)}
    (htable : tableTarget book params = .ok table) :
    findValueSemantic tools book params =
      (collectGroups params.limit (valueGroup tools book params table) (params.offset.getD 0)
        (targetSheets book table params.sheetName) [] 0).map fun found =>
          ⟨found.1, found.1.length,
            if found.2 then some (params.offset.getD 0 + found.1.length) else none⟩ := by
  unfold findValueSemantic
  rw [htable]
  simp only [bind, Except.bind]
  cases collectGroups params.limit (valueGroup tools book params table) (params.offset.getD 0)
    (targetSheets book table params.sheetName) [] 0 <;> rfl

end Book

/-! ### The formula search of the shared tools -/

structure FindFormulaParams where
  query : String
  sheetName : Option String := none
  caseSensitive : Bool := false
  includeContext : Bool := false
  limit : Nat := 50
  offset : Nat := 0
  contextRows : Option Nat := none
  contextCols : Option Nat := none
  deriving DecidableEq, Repr

structure CellSnapshot (ν : Type) where
  address : String
  value : Option (CellValue ν)
  formula : Option String
  cachedValue : Option (CellValue ν)
  deriving DecidableEq, Repr

structure FindFormulaMatch (ν : Type) where
  address : String
  sheetName : String
  formula : String
  cachedValue : Option (CellValue ν)
  context : List (Reads.RowSnapshot (CellSnapshot ν))
  deriving DecidableEq, Repr

structure FindFormulaResponse (ν : Type) where
  results : List (FindFormulaMatch ν)
  nextOffset : Option Nat
  deriving DecidableEq, Repr

def buildCellSnapshot (cell : StoredCell) (includeFormulas : Bool) : CellSnapshot ν where
  address := cell.address
  value := cellToValue tools cell
  formula := if includeFormulas then cell.formula else none
  cachedValue := if cell.isFormula then cellToValue tools cell else none

def buildRowSnapshot (sheet : Worksheet) (rowIndex : Nat) (columns : List Nat)
    (includeFormulas : Bool) : Reads.RowSnapshot (CellSnapshot ν) where
  rowIndex := rowIndex
  cells := columns.map fun col =>
    match sheet.cell col rowIndex with
    | some cell => buildCellSnapshot tools cell includeFormulas
    | none => ⟨Analysis.cellAddress col rowIndex, none, none, none⟩

def formulaContext (sheet : Worksheet) (cell : StoredCell) (contextRows contextCols : Nat) :
    List (Reads.RowSnapshot (CellSnapshot ν)) :=
  let colStart := max (cell.col - contextCols / 2) 1
  let colEnd := cell.col + contextCols / 2
  let columns := List.range' colStart (colEnd + 1 - colStart)
  let rowStart := max (cell.row - contextRows / 2) 1
  let rowEnd := min (cell.row + contextRows / 2) sheet.highestRow
  let header := if 0 < contextRows then [buildRowSnapshot tools sheet 1 columns false] else []
  header ++ (List.range' rowStart (rowEnd + 1 - rowStart)).map fun row =>
    buildRowSnapshot tools sheet row columns true

section Book
variable (book : WorkbookContext) (params : FindFormulaParams)

def formulaMatches (cell : StoredCell) : Bool :=
  cell.formula.any fun formula =>
    strContains (needleOf formula params.caseSensitive) (needleOf params.query params.caseSensitive)

def formulaMatchOf (sheet : Worksheet) (cell : StoredCell) : FindFormulaMatch ν where
  address := cell.address
  sheetName := sheet.name
  formula := cell.formula.getD ""
  cachedValue := cellToValue tools cell
  context := if params.includeContext then
      formulaContext tools sheet cell (params.contextRows.getD 1) (params.contextCols.getD 1)
    else []

def collectFormulaMatches (sheet : Worksheet) : List (Option (FindFormulaMatch ν)) :=
  (sheet.cells.filter (formulaMatches params)).map fun cell =>
    some (formulaMatchOf tools params sheet cell)

def formulaGroup (name : String) : Except String (List (Option (FindFormulaMatch ν))) := do
  let sheet ← book.withSheet name
  pure (collectFormulaMatches tools params sheet)

def formulaLimit : Nat := Analysis.clamp params.limit 1 500

def findFormula : Except String (FindFormulaResponse ν) := do
  let (results, truncated) ← collectGroups (formulaLimit params) (formulaGroup tools book params)
    params.offset (targetSheets book none params.sheetName) [] 0
  pure { results, nextOffset := if truncated then some (params.offset + results.length) else none }

theorem findFormula_eq : findFormula tools book params =
    (collectGroups (formulaLimit params) (formulaGroup tools book params) params.offset
      (targetSheets book none params.sheetName) [] 0).map fun found =>
        ⟨found.1, if found.2 then some (params.offset + found.1.length) else none⟩ := by
  unfold findFormula
  cases collectGroups (formulaLimit params) (formulaGroup tools book params) params.offset
    (targetSheets book none params.sheetName) [] 0 <;> rfl

end Book

/-! ### The value search of a session -/

structure SessionFindValueParams where
  query : String
  sheetName : Option String := none
  caseSensitive : Bool := false
  limit : Nat := 50
  offset : Option Nat := none
  deriving DecidableEq, Repr

section Session
variable (book : WorkbookContext) (params : SessionFindValueParams)

def sessionHaystack (value : CellValue ν) : String :=
  if params.caseSensitive then cellValueToString tools value
  else toAsciiLowercase (cellValueToString tools value)

def sessionMatch (sheet : Worksheet) (row col : Nat) : Option (FindValueMatch ν) :=
  (valueAt tools sheet col row).bind fun value =>
    if strContains (sessionHaystack tools params value)
        (needleOf params.query params.caseSensitive) then
      some ⟨Analysis.cellAddress col row, sheet.name, some value, none, none, none⟩
    else none

/-- Row by row, over all places up to the last row and column. -/
def sessionMatches (sheet : Worksheet) : List (FindValueMatch ν) :=
  (List.range' 1 (max sheet.highestRow 1)).flatMap fun row =>
    (List.range' 1 (max sheet.highestColumn 1)).filterMap fun col =>
      sessionMatch tools params sheet row col

def WorkbookContext.sheetByNameRequired (name : String) : Except String Worksheet :=
  required (book.sheets.find? fun sheet => sheet.name = name)
    ("sheet '" ++ name ++ "' not found")

def WorkbookContext.sessionFindValue : Except String (FindValueResponse ν) := do
  ensure (Legacy.trim params.query ≠ "") "query is required"
  let offset := params.offset.getD 0
  let limit := max params.limit 1
  let names := match params.sheetName with
    | some name => [name]
    | none => book.sheetNames
  let sheets ← names.mapM book.sheetByNameRequired
  let found := (sheets.flatMap (sessionMatches tools params)).map some
  let (results, _, truncated) := collect limit offset found [] 0
  pure { results, matchCount := results.length
         nextOffset := if truncated then some (offset + limit) else none }

variable {tools book params}

theorem sessionFindValue_eq {sheets : List Worksheet} {results : List (FindValueMatch ν)}
    {seen : Nat} {truncated : Bool} (hquery : Legacy.trim params.query ≠ "")
    (hsheetName : params.sheetName = none)
    (hsheets : book.sheetNames.mapM book.sheetByNameRequired = .ok sheets)
    (hcollect : collect (max params.limit 1) (params.offset.getD 0)
      ((sheets.flatMap (sessionMatches tools params)).map some) [] 0 = (results, seen, truncated)) :
    book.sessionFindValue tools params = .ok ⟨results, results.length,
      if truncated then some (params.offset.getD 0 + max params.limit 1) else none⟩ := by
  unfold WorkbookContext.sessionFindValue
  rw [ensure_pos hquery, hsheetName]
  simp only [bind, Except.bind, hsheets, hcollect, pure, Except.pure]

end Session

end Values

end AgentSpreadsheet.Search
