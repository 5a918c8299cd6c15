import AgentSpreadsheet.Search.Values

/-! The rows of a table: its headers, the filters on its columns, and samples of it. -/
namespace AgentSpreadsheet.Tables
open Library Search

/-- What a filter compares with, in JSON. Numbers are as `as_f64` has them. -/
inductive Operand (ν : Type) where
  | null
  | bool (b : Bool)
  | number (n : ν)
  | string (t : String)
  | array (items : List (Operand ν))
  | object
  deriving Repr

inductive FilterOp where
  | eq
  | neq
  | gt
  | lt
  | gte
  | lte
  | contains
  | startsWith
  | endsWith
  | isIn
  deriving DecidableEq, Repr

/-- A filter names its column by letter or by header. -/
structure TableFilter (ν : Type) where
  column : String
  op : FilterOp
  value : Operand ν

inductive SampleMode where
  | first
  | last
  | distributed
  deriving DecidableEq, Repr

/-- `near` is a difference below the machine epsilon; `columnIndex` is the workbook library's
reading of a column. -/
structure TableTools (ν : Type) extends ValueTools ν where
  near : ν → ν → Bool
  lt : ν → ν → Bool
  le : ν → ν → Bool
  columnIndex : String → Nat

/-- What a row has under a header, if the row has the header. -/
abbrev TableRow (ν : Type) := String → Option (Option (CellValue ν))

/-! ### Filters -/

section Filters
variable {ν : Type} (tools : TableTools ν)

def valueEq : Option (CellValue ν) → Operand ν → Bool
  | some (.text s), .string t => s == t
  | some (.number n), .number f => tools.near n f
  | some (.number n), .string t => (tools.parse t).any (tools.near n)
  | some (.bool b), .bool v => b == v
  | some (.bool b), .string t => (toAsciiLowercase t == "true") == b
  | some (.date d), .string t => d == t
  | none, .null => true
  | _, _ => false

/-- Of two texts, ignoring case. -/
def compareText (p : String → String → Bool) : Option (CellValue ν) → Operand ν → Bool
  | some (.text s), .string t => p (toAsciiLowercase s) (toAsciiLowercase t)
  | _, _ => false

def compareNumber (p : ν → ν → Bool) : Option (CellValue ν) → Operand ν → Bool
  | some (.number n), .number f => p n f
  | _, _ => false

def valueContains : Option (CellValue ν) → Operand ν → Bool := compareText strContains

def valueStartsWith : Option (CellValue ν) → Operand ν → Bool := compareText strStartsWith

def valueEndsWith : Option (CellValue ν) → Operand ν → Bool :=
  compareText fun s t => t.toList.isSuffixOf s.toList

def valueGt : Option (CellValue ν) → Operand ν → Bool := compareNumber fun n f => tools.lt f n

def valueLt : Option (CellValue ν) → Operand ν → Bool := compareNumber tools.lt

def valueGte : Option (CellValue ν) → Operand ν → Bool := compareNumber fun n f => tools.le f n

def valueLte : Option (CellValue ν) → Operand ν → Bool := compareNumber tools.le

/-- An operand that is no list stands for the list of itself. -/
def Operand.list : Operand ν → List (Operand ν)
  | .array items => items
  | value => [value]

def passesFilter (value : Option (CellValue ν)) (filter : TableFilter ν) : Bool :=
  match filter.op with
  | .eq => valueEq tools value filter.value
  | .neq => !valueEq tools value filter.value
  | .contains => valueContains value filter.value
  | .gt => valueGt tools value filter.value
  | .lt => valueLt tools value filter.value
  | .gte => valueGte tools value filter.value
  | .lte => valueLte tools value filter.value
  | .startsWith => valueStartsWith value filter.value
  | .endsWith => valueEndsWith value filter.value
  | .isIn => filter.value.list.any (valueEq tools value)

/-- A filter under no header of the row is passed over. -/
def rowPassesFilters (row : TableRow ν) (filters : Option (List (TableFilter ν))) : Bool :=
  (filters.getD []).all fun filter =>
    (row filter.column).all fun value => passesFilter tools value filter

/-! ### Headers -/

/-- What a header cell adds to the header, unless it is blank text. -/
def headerPart : CellValue ν → Option String
  | .text s => if Legacy.trim s = "" then none else some s
  | value => some (cellValueToString tools.toValueTools value)

/-- A header that came before gets its number. -/
def dedupeHeaders : List String → (String → Nat) → List String
  | [], _ => []
  | header :: rest, seen =>
    if Legacy.trim header = "" then header :: dedupeHeaders rest seen
    else
      let count := seen header
      (if 0 < count then header ++ "_" ++ toString (count + 1) else header) ::
        dedupeHeaders rest (Function.update seen header (count + 1))

/-- `origin` takes a cell to the first one of its merged range. -/
def buildHeaders (sheet : Worksheet) (origin : Nat × Nat → Nat × Nat) (columns : List Nat)
    (headerStart headerRows : Nat) : List String :=
  let headers := columns.map fun col =>
    let parts := (List.range' headerStart headerRows).filterMap fun row =>
      let (originCol, originRow) := origin (col, row)
      (valueAt tools.toValueTools sheet originCol originRow).bind (headerPart tools)
    if parts = [] then Analysis.columnNumberToName col else " / ".intercalate parts
  if headers.all (Legacy.trim · = "") then columns.map Analysis.columnNumberToName
  else dedupeHeaders headers fun _ => 0

/-- The columns of a list of letters and spans, each once, from the left. -/
def resolveColumns (specs : List String) : List Nat :=
  let columns := specs.flatMap fun spec =>
    let parts := spec.toList
    if ':' ∈ parts then
      let first := tools.columnIndex (String.ofList (parts.takeWhile (· ≠ ':')))
      let last := tools.columnIndex (String.ofList (parts.dropWhile (· ≠ ':')).tail)
      Reads.between (min first last) (max first last)
    else [tools.columnIndex spec]
  (columns.mergeSort (· ≤ ·)).dedup

/-! ### Rows -/

/-- The places in a list of `length` rows that a spread sample takes. -/
def distributedIndices (length step : Nat) : Nat → Nat → List Nat
  | 0, _ => []
  | wanted + 1, idx => if idx < length then idx :: distributedIndices length step wanted (idx + step)
    else []

def sampleIndices (length limit offset : Nat) : List Nat :=
  let step := max 1 ((length - 1) / max 1 (limit - 1))
  let indices := distributedIndices length step limit offset
  if indices.length < limit ∧ length - 1 ∉ indices then indices ++ [length - 1] else indices

def sampleRows {ρ : Type} (rows : List ρ) (limit offset : Nat) : SampleMode → List ρ
  | .distributed =>
    if rows = [] ∨ limit = 0 then [] else (sampleIndices rows.length limit offset).filterMap (rows[·]?)
  | .last => (rows.drop (rows.length - (limit + offset) + offset)).take limit
  | .first => (rows.drop offset).take limit

structure TableTarget where
  startCol : Nat
  startRow : Nat
  endCol : Nat
  endRow : Nat
  headerHint : Option Nat
  deriving DecidableEq, Repr

/-- What a call says of the table itself. -/
structure TableShape where
  headerRow : Option Nat := none
  headerRows : Option Nat := none
  columns : Option (List String) := none
  deriving DecidableEq, Repr

variable (sheet : Worksheet) (origin : Nat × Nat → Nat × Nat) (target : TableTarget)
  (shape : TableShape)

def headerStart : Nat :=
  let start := max ((shape.headerRow.or target.headerHint).getD target.startRow) target.startRow
  if target.endRow < start then target.startRow else start

def headerRowsCount : Nat := max (shape.headerRows.getD 1) 1

def dataRows : List Nat :=
  Reads.between (max (headerStart target shape + headerRowsCount shape)
    (target.startRow + headerRowsCount shape)) target.endRow

def columnIndices : List Nat :=
  match shape.columns with
  | some specs => resolveColumns tools specs
  | none => Reads.between target.startCol target.endCol

def tableHeaders : List String :=
  buildHeaders tools sheet origin (columnIndices tools target shape) (headerStart target shape)
    (headerRowsCount shape)

/-- Of equal headers the last one stands. -/
def tableRow (row : Nat) : TableRow ν :=
  ((tableHeaders tools sheet origin target shape).zip (columnIndices tools target shape)).foldl
    (fun map (header, col) =>
      Function.update map header (some (valueAt tools.toValueTools sheet col row)))
    fun _ => none

/-- One row of the loop: what was kept and how many rows passed so far. -/
def keepRow (filters : Option (List (TableFilter ν))) (bound : Option Nat)
    (kept : List (TableRow ν) × Nat) (row : Nat) : List (TableRow ν) × Nat :=
  let values := tableRow tools sheet origin target shape row
  if rowPassesFilters tools values filters then
    if bound.any (· < kept.2 + 1) then (kept.1, kept.2 + 1) else (kept.1 ++ [values], kept.2 + 1)
  else kept

def extractTableRows (filters : Option (List (TableFilter ν))) (limit offset : Nat)
    (sampleMode : SampleMode) : List String × List (TableRow ν) × Nat :=
  let bound := if sampleMode = .first then some (offset + limit) else none
  let (allRows, totalRows) := (dataRows target shape).foldl
    (keepRow tools sheet origin target shape filters bound) ([], 0)
  (tableHeaders tools sheet origin target shape, sampleRows allRows limit offset sampleMode,
    totalRows)

end Filters

end AgentSpreadsheet.Tables
