import AgentSpreadsheet.Analysis.AddressOrder
import AgentSpreadsheet.Sheets.RelocationExact
import AgentSpreadsheet.Sheets.Transform

/-! The formula graph of a sheet. Single cells are indexed by their text, large and open ranges
are kept as they are and tested cell by cell. -/
namespace AgentSpreadsheet.Analysis
open Library

/-- A reference as the parser gives it. Where only its text is used, the text stands for it. -/
inductive ReferenceType where
  | cell (sheet : Option String) (row col : Nat)
  | range (sheet : Option String) (startRow startCol endRow endCol : Option Nat) (text : String)
  | namedRange (name : String)
  | table (text : String)
  | external (text : String)
  | cell3D (text : String)
  | range3D (text : String)
  deriving DecidableEq, Repr

def rangeExpansionLimit : Nat := 500

def columnNumberToName (column : Nat) : String := String.ofList (Sheets.columnName column column)

def cellAddress (column row : Nat) : String := columnNumberToName column ++ toString row

def formatCellAddress (sheet : Option String) (row col : Nat) : String :=
  match sheet with
  | some s => s ++ "!" ++ columnNumberToName col ++ toString row
  | none => columnNumberToName col ++ toString row

def isLargeOrInfiniteRange : (startRow startCol endRow endCol : Option Nat) → Bool
  | some sr, some sc, some er, some ec =>
    (er - sr + 1) * (ec - sc + 1) > rangeExpansionLimit
  | _, _, _, _ => true

/-- The cells that the parser puts for a range. -/
def expandRange (sheet : Option String) (sr sc er ec : Nat) : List ReferenceType :=
  (List.range' sr (er + 1 - sr)).flatMap fun row =>
    (List.range' sc (ec + 1 - sc)).map fun col => .cell sheet row col

/-- A bounded range of few cells is replaced by its cells; all else stays. -/
def ReferenceType.expand : ReferenceType → List ReferenceType
  | .range sheet (some sr) (some sc) (some er) (some ec) text =>
    if (er - sr + 1) * (ec - sc + 1) ≤ rangeExpansionLimit then expandRange sheet sr sc er ec
    else [.range sheet (some sr) (some sc) (some er) (some ec) text]
  | reference => [reference]

/-- What the sheet and the bounds of a range are, less its text. -/
def ReferenceType.region : ReferenceType → Option (Option String × List (Option Nat))
  | .range sheet sr sc er ec _ => some (sheet, [sr, sc, er, ec])
  | _ => none

def ReferenceType.text : ReferenceType → String
  | .cell sheet row col => formatCellAddress sheet row col
  | .range _ _ _ _ _ text => text
  | .namedRange name => name
  | .table text => text
  | .external text => text
  | .cell3D text => text
  | .range3D text => text

/-- The formula parser. It collects the references that are written in a formula, small ranges
expanded, and the text of a range tells its sheet and bounds. -/
structure FormulaParser (Ast : Type) where
  parse : String → Except String Ast
  fingerprint : Ast → String
  canonical : Ast → String
  containsVolatile : Ast → Bool
  written : Ast → List ReferenceType
  collectReferences : Ast → List ReferenceType
  mem_collect : ∀ ast reference, reference ∈ collectReferences ast ↔
    ∃ w ∈ written ast, reference ∈ w.expand
  region_text : ∀ ast ast', ∀ r ∈ written ast, ∀ r' ∈ written ast', r.region ≠ none →
    r'.region ≠ none → r.text = r'.text → r.region = r'.region

inductive CellFormulaValues where
  | normal
  | array
  | shared
  deriving DecidableEq, Repr

structure SheetCell where
  col : Nat
  row : Nat
  isFormula : Bool
  formula : String
  formulaType : CellFormulaValues := .normal
  sharedIndex : Option Nat := none
  deriving DecidableEq, Repr

def SheetCell.address (cell : SheetCell) : String := cellAddress cell.col cell.row

/-- The cells of a worksheet, each at a place of its own. -/
structure Worksheet where
  name : String
  cells : List SheetCell
  distinct : (cells.map fun cell => (cell.col, cell.row)).Nodup

structure FormulaGroupAccumulator where
  canonical : String
  addresses : List String
  isVolatile : Bool
  isArray : Bool
  isShared : Bool
  deriving DecidableEq, Repr

structure RangeDependentEntry where
  rangeKey : String
  reference : ReferenceType
  dependents : List String
  deriving DecidableEq, Repr

structure FormulaGraph where
  precedents : String → List String
  dependents : String → List String
  groups : List (String × FormulaGroupAccumulator)
  rangeDependents : List RangeDependentEntry
  sheetName : String

structure FormulaParseRecord where
  sheet : String
  address : String
  formula : String
  error : String
  deriving DecidableEq, Repr

def insertUnder (key value : String) (sets : String → List String) : String → List String :=
  Function.update sets key ((sets key).insert value)

/-- One more dependent of a range, which is entered when it is new. -/
def insertRange (key : String) (reference : ReferenceType) (address : String) :
    List RangeDependentEntry → List RangeDependentEntry
  | [] => [⟨key, reference, [address]⟩]
  | entry :: rest =>
    if entry.rangeKey = key then
      { entry with dependents := entry.dependents.insert address } :: rest
    else entry :: insertRange key reference address rest

namespace FormulaGraph

def addReference (address : String) (graph : FormulaGraph) (reference : ReferenceType) :
    FormulaGraph :=
  let precedents := insertUnder address reference.text graph.precedents
  match reference with
  | .cell sheet row col =>
    { graph with
      precedents
      dependents := insertUnder (formatCellAddress sheet row col) address graph.dependents }
  | .range _ startRow startCol endRow endCol text =>
    { graph with
      precedents
      rangeDependents :=
        if isLargeOrInfiniteRange startRow startCol endRow endCol then
          insertRange text reference address graph.rangeDependents
        else graph.rangeDependents }
  | _ => { graph with precedents }

section Build
variable {Ast : Type} (parser : FormulaParser Ast)

def addGroup (cell : SheetCell) (ast : Ast) :
    List (String × FormulaGroupAccumulator) → List (String × FormulaGroupAccumulator)
  | [] => [(parser.fingerprint ast, {
      canonical := parser.canonical ast
      addresses := [cell.address]
      isVolatile := parser.containsVolatile ast
      isArray := cell.formulaType == .array
      isShared := cell.formulaType == .shared || cell.sharedIndex.isSome })]
  | (fingerprint, group) :: rest =>
    if fingerprint = parser.fingerprint ast then
      (fingerprint, { group with
        addresses := group.addresses ++ [cell.address]
        isVolatile := group.isVolatile || parser.containsVolatile ast
        isShared := group.isShared || cell.sharedIndex.isSome }) :: rest
    else (fingerprint, group) :: addGroup cell ast rest

def withPrefix (formula : String) : String :=
  if formula.toList.head? = some '=' then formula else "=" ++ formula

def formulaParseFailedPrefix : String := "formula parse failed: "

/-- One cell of the sheet; a formula that does not parse is skipped, or refused. -/
def addCell (sheetName : String) (policy : FormulaParsePolicy)
    (built : FormulaGraph × List FormulaParseRecord) (cell : SheetCell) :
    Except String (FormulaGraph × List FormulaParseRecord) :=
  if !cell.isFormula || cell.formula == "" then .ok built
  else
    match parser.parse (withPrefix cell.formula) with
    | .ok ast =>
      let graph := { built.1 with groups := addGroup parser cell ast built.1.groups }
      .ok ((parser.collectReferences ast).foldl (addReference cell.address) graph, built.2)
    | .error error =>
      match policy with
      | .off => .ok built
      | .warn => .ok (built.1,
          built.2 ++ [⟨sheetName, cell.address, withPrefix cell.formula, error⟩])
      | .fail => .error (formulaParseFailedPrefix ++ "sheet '" ++ sheetName ++ "' cell " ++
          cell.address ++ ": " ++ error)

def empty (sheetName : String) : FormulaGraph := ⟨fun _ => [], fun _ => [], [], [], sheetName⟩

def build (sheet : Worksheet) (policy : FormulaParsePolicy) :
    Except String (FormulaGraph × List FormulaParseRecord) :=
  sheet.cells.foldlM (addCell parser sheet.name policy) (empty sheet.name, [])

end Build

end FormulaGraph

/-! ### Queries -/

def columnNameToNumber (letters : List Char) : Nat :=
  letters.foldl (fun result ch => (result * 26 + (ch.toNat - 'A'.toNat + 1)) % 2 ^ 32) 0

/-- The quotes around the sheet are dropped. -/
def splitSheetPrefix (address : String) : Option String × String :=
  let text := address.toList
  if '!' ∈ text then
    let sheet := (text.takeWhile (· ≠ '!')).dropWhile (· == '\'')
    (some (String.ofList (sheet.reverse.dropWhile (· == '\'')).reverse),
      String.ofList (text.dropWhile (· ≠ '!')).tail)
  else (none, address)

/-- Letters before the first digit, and digits; all else is passed over. -/
def readCellPart (parts : List Char × List Char) (ch : Char) : List Char × List Char :=
  if ch = '$' then parts
  else if ch.isAlpha && parts.2.isEmpty then (parts.1 ++ [ch.toUpper], parts.2)
  else if ch.isDigit then (parts.1, parts.2 ++ [ch])
  else parts

def parseCellAddress (address : String) : Option (Nat × Nat) := do
  let cell := (splitSheetPrefix address).2.toList.dropWhile (· == '$')
  let parts := cell.foldl readCellPart ([], [])
  let row ← parseU32 parts.2
  if parts.1.isEmpty || parts.2.isEmpty then none else some (row, columnNameToNumber parts.1)

def withinBounds (low high : Option Nat) (value : Nat) : Bool :=
  match low, high with
  | some low, some high => low ≤ value && value ≤ high
  | some low, none => low ≤ value
  | none, some high => value ≤ high
  | none, none => true

def rangeContainsCell (range : ReferenceType) (querySheet : Option String) (currentSheet : String)
    (row col : Nat) : Bool :=
  match range with
  | .range rangeSheet startRow startCol endRow endCol _ =>
    Sheets.eqIgnoreAsciiCase (rangeSheet.getD currentSheet) (querySheet.getD currentSheet) &&
      (withinBounds startRow endRow row && withinBounds startCol endCol col)
  | _ => false

/-- No limit is one that no list reaches. -/
def reached (limit : Option Nat) (count : Nat) : Bool := limit.any (· ≤ count)

/-- The dependents that are new, until the limit. -/
def pushNew (limit : Option Nat) : List String → List String → List String
  | result, [] => result
  | result, address :: rest =>
    if address ∈ result then pushNew limit result rest
    else if reached limit (result.length + 1) then result ++ [address]
    else pushNew limit (result ++ [address]) rest

namespace FormulaGraph

/-- The dependents of the ranges that contain a cell. -/
def rangeHits (graph : FormulaGraph) (address : String) : List String :=
  match parseCellAddress address with
  | some (row, col) =>
    (graph.rangeDependents.filter fun entry => rangeContainsCell entry.reference
      (splitSheetPrefix address).1 graph.sheetName row col).flatMap RangeDependentEntry.dependents
  | none => []

def dependentsLimited (graph : FormulaGraph) (address : String) (limit : Option Nat) :
    List String × Bool :=
  let direct := graph.dependents address
  if reached limit direct.length then (direct.take (limit.getD direct.length), true)
  else
    let result := pushNew limit direct (graph.rangeHits address)
    (result, reached limit result.length)

/-- `dependents`: no limit. -/
def allDependents (graph : FormulaGraph) (address : String) : List String :=
  (graph.dependentsLimited address none).1

end FormulaGraph

end AgentSpreadsheet.Analysis
