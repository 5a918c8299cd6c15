import AgentSpreadsheet.Library.Guard
import AgentSpreadsheet.Library.Paging
import AgentSpreadsheet.Sheets.Format

/-! Reading cells page by page. A cursor names the place where the next page starts; a page
ends where its rows, its cells or its bytes are used up. -/
namespace AgentSpreadsheet.Reads
open Library

inductive ReadCellField where
  | value
  | formula
  | cachedValue
  | storedKind
  | numberFormat
  | styleTags
  deriving DecidableEq, Repr

inductive ReadCellsFormat where
  | dense
  | values
  | csv
  | json
  | rows
  | full
  | compact
  | valuesOnly
  deriving DecidableEq, Repr

inductive RowColumnSelection where
  | all
  | letters (values : List String)
  | headers (values : List String) (headerRow : Option UInt32)

inductive ReadCellsSelection where
  | range (ranges : List String) (includeHeaders : Option Bool)
  | rows (startRow rowCount : UInt32) (columns : Option RowColumnSelection)
      (includeHeader : Option Bool)

structure CanonicalReadPage where
  limitRows : Option UInt32
  cursor : Option String

structure ReadCellsRequest where
  sheetName : String
  selection : ReadCellsSelection
  fields : List ReadCellField := []
  includeFormulas : Option Bool := none
  includeStyles : Option Bool := none
  format : Option ReadCellsFormat := none
  encoding : Option ReadCellsFormat := none
  pageSize : Option UInt32 := none
  cursor : Option String := none
  page : Option CanonicalReadPage := none

inductive ReadErrorCode where
  | invalidRequest
  | staleCursor
  | cursorMismatch
  | rowExceedsBudget
  | operationFailed
  deriving DecidableEq, Repr

structure ReadError where
  code : ReadErrorCode
  message : String
  path : Option String
  deriving DecidableEq, Repr

/-- The largest `u32`. -/
def maxRow : Nat := 4294967295

/-- `κ` is what is reported of one cell. -/
structure RowSnapshot (κ : Type) where
  rowIndex : Nat
  cells : List κ
  deriving DecidableEq, Repr

/-- What the rows of a block are rendered from. -/
inductive ReadCellsPayload (κ : Type) where
  | range (encoding : ReadCellsFormat) (returnedRange : String) (rows : List (RowSnapshot κ))
      (includeFormulas includeProjection : Bool)
  | rows (encoding : ReadCellsFormat) (header : Option (RowSnapshot κ))
      (rows : List (RowSnapshot κ)) (includeHeader includeSnapshots includeProjection : Bool)
  deriving DecidableEq, Repr

structure ReadCellsBlock (κ : Type) where
  selectionIndex : Nat
  requestedRange : String
  returnedRange : String
  rowCount : Nat
  columnCount : Nat
  rowIndices : Option (List Nat)
  payload : ReadCellsPayload κ
  deriving DecidableEq, Repr

structure ReadCellsLimits where
  requestedRows : Nat
  maxCells : Option Nat
  maxPayloadBytes : Option Nat
  deriving DecidableEq, Repr

structure ReadCellsPage where
  rowsReturned : Nat
  cellsReturned : Nat
  complete : Bool
  nextCursor : Option String
  limits : ReadCellsLimits
  deriving DecidableEq, Repr

structure ReadCellsData (κ : Type) where
  sheetName : String
  encoding : ReadCellsFormat
  blocks : List (ReadCellsBlock κ)
  header : Option (RowSnapshot κ)
  page : ReadCellsPage
  deriving DecidableEq, Repr

structure ReadCellsCursor where
  revisionId : String
  fingerprint : String
  selectionIndex : Nat
  nextRow : Nat
  deriving DecidableEq, Repr

structure SheetView (κ : Type) where
  highestColumn : Nat
  highestRow : Nat
  cellSnapshot : Bool → Bool → Nat → Nat → κ
  resolveColumnsWithHeaders : Option (List String) → Option (List String) → Nat → Nat → List Nat

/-- The JSON of cursors and blocks, the hash of a request, and the sheets. -/
structure CellsReader (κ : Type) where
  sheet : String → Option (SheetView κ)
  digest : String → ReadCellsSelection → List ReadCellField → Option Bool → Option Bool →
    Option ReadCellsFormat → String
  toVec : ReadCellsCursor → List UInt8
  fromSlice : List UInt8 → Option ReadCellsCursor
  blockLength : ReadCellsBlock κ → Nat

/-! ### Cursors -/

def hexDigit (c : Char) : Option Nat :=
  if c.isDigit then some (c.toNat - '0'.toNat)
  else if 'a' ≤ c ∧ c ≤ 'f' then some (c.toNat - 'a'.toNat + 10)
  else if 'A' ≤ c ∧ c ≤ 'F' then some (c.toNat - 'A'.toNat + 10)
  else none

def lowerHex (n : Nat) : Char :=
  if n < 10 then Char.ofNat ('0'.toNat + n) else Char.ofNat ('a'.toNat + (n - 10))

/-- A plus sign stands for no digit. -/
def fromStrRadix (high low : Char) : Option UInt8 :=
  if high = '+' then (hexDigit low).map UInt8.ofNat
  else do
    let first ← hexDigit high
    let second ← hexDigit low
    some (UInt8.ofNat (first * 16 + second))

def hexBytes : List Char → Option (List UInt8)
  | high :: low :: rest => do
    let byte ← fromStrRadix high low
    let bytes ← hexBytes rest
    some (byte :: bytes)
  | _ => some []

def hexText (bytes : List UInt8) : List Char :=
  bytes.flatMap fun byte => [lowerHex (byte.toNat / 16), lowerHex (byte.toNat % 16)]

def requestedCursor (request : ReadCellsRequest) : Option String :=
  request.cursor.or (request.page.bind CanonicalReadPage.cursor)

def requestedPageSize (request : ReadCellsRequest) : Nat :=
  let size := ((request.pageSize.or (request.page.bind CanonicalReadPage.limitRows)).getD 50).toNat
  min (max size 1) 500

def requestedEncoding (request : ReadCellsRequest) : ReadCellsFormat :=
  (request.format.or request.encoding).getD .dense

section Reader
variable {κ : Type} (reader : CellsReader κ)

def fingerprintReadCells (request : ReadCellsRequest) : String :=
  reader.digest request.sheetName request.selection request.fields request.includeFormulas
    request.includeStyles (request.format.or request.encoding)

def encodeCursor (cursor : ReadCellsCursor) : String :=
  String.ofList ("rc1_".toList ++ hexText (reader.toVec cursor))

def decodeCursor (value : String) : Except String ReadCellsCursor :=
  if "rc1_".toList.isPrefixOf value.toList then
    let hex := value.toList.drop 4
    if hex.length % 2 ≠ 0 then .error "cursor has invalid length"
    else
      match hexBytes hex with
      | none => .error "cursor is not valid hexadecimal"
      | some bytes => required (reader.fromSlice bytes) "cursor payload is invalid"
  else .error "cursor is not a read_cells v1 cursor"

/-- The request's place: none before the first page. -/
def requestedPlace (request : ReadCellsRequest) (revisionId : String) :
    Except ReadError (Option ReadCellsCursor) :=
  match requestedCursor request with
  | none => .ok none
  | some value =>
    match decodeCursor reader value with
    | .error message => .error ⟨.invalidRequest, message, some "$.cursor"⟩
    | .ok cursor =>
      if cursor.revisionId ≠ revisionId then
        .error ⟨.staleCursor, "cursor is bound to a different resource revision",
          some "$.cursor"⟩
      else if cursor.fingerprint ≠ fingerprintReadCells reader request then
        .error ⟨.cursorMismatch, "cursor does not match the invariant read_cells request",
          some "$.cursor"⟩
      else .ok (some cursor)

end Reader

/-! ### Ranges -/

structure CellRange where
  c1 : Nat
  r1 : Nat
  c2 : Nat
  r2 : Nat
  deriving DecidableEq, Repr

def isAsciiAlphabetic (c : Char) : Bool := ('a' ≤ c ∧ c ≤ 'z') ∨ ('A' ≤ c ∧ c ≤ 'Z')

def isAsciiDigit (c : Char) : Bool := '0' ≤ c ∧ c ≤ '9'

/-- On `u32`, failing where it overflows. -/
def pushLetter (column : Nat) (c : Char) : Option Nat :=
  let next := column * 26 + (c.toUpper.toNat - 'A'.toNat + 1)
  if next ≤ maxRow then some next else none

def columnNumber (letters : List Char) : Option Nat := letters.foldlM pushLetter 0

def digitsValue (digits : List Char) : Nat :=
  digits.foldl (fun value c => value * 10 + (c.toNat - '0'.toNat)) 0

def stripLock : List Char → List Char
  | '$' :: rest => rest
  | rest => rest

def parseCell (cell : String) : Option (Nat × Nat) := do
  let column := stripLock (Legacy.trim cell).toList
  let letters := column.takeWhile isAsciiAlphabetic
  let number ← columnNumber letters
  let digits := stripLock (column.dropWhile isAsciiAlphabetic)
  let row := digitsValue digits
  if letters = [] ∨ digits = [] ∨ digits.all isAsciiDigit = false ∨ maxRow < row ∨ row = 0 then none
  else some (number, row)

/-- After the last exclamation mark. -/
def bareRange (range : String) : List Char :=
  (range.toList.reverse.takeWhile (· ≠ '!')).reverse

def parseRange (range : String) : Except String CellRange :=
  let corners : Option (String × String) :=
    match (bareRange range).splitOn ':' with
    | [first] => some (String.ofList first, String.ofList first)
    | [first, second] => some (String.ofList first, String.ofList second)
    | _ => none
  let parsed : Option CellRange := do
    let (first, second) ← corners
    let (c1, r1) ← parseCell first
    let (c2, r2) ← parseCell second
    if c2 < c1 ∨ r2 < r1 then none else some ⟨c1, r1, c2, r2⟩
  required parsed ("invalid range: " ++ range)

def rangeString (c1 r1 c2 r2 : Nat) : String :=
  String.ofList (Sheets.columnName 8 c1) ++ toString r1 ++ ":" ++
    String.ofList (Sheets.columnName 8 c2) ++ toString r2

/-! ### Budgets -/

structure CanonicalBudgetDecision where
  rows : Nat
  firstRowFits : Bool

section Budget
variable {κ : Type} (blockLength : ReadCellsBlock κ → Nat)

/-- The length of the blocks' JSON: brackets around, commas between. -/
def payloadLength (blocks : List (ReadCellsBlock κ)) : Nat :=
  2 + (blocks.map blockLength).sum + (blocks.length - 1)

def fitsPayload (maxPayloadBytes : Option Nat) (blocks : List (ReadCellsBlock κ)) : Bool :=
  maxPayloadBytes.all fun limit => payloadLength blockLength blocks ≤ limit

def cellLimitedRows (availableRows cellsPerRow cellsAlreadyEmitted : Nat) : Option Nat → Nat
  | none => availableRows
  | some limit =>
    if cellsPerRow = 0 then availableRows
    else min ((limit - cellsAlreadyEmitted) / cellsPerRow) availableRows

def canonicalBudgetDecision (availableRows cellsPerRow cellsAlreadyEmitted : Nat)
    (maxCells maxPayloadBytes : Option Nat) (existingBlocks : List (ReadCellsBlock κ))
    (buildBlock : Nat → ReadCellsBlock κ) : CanonicalBudgetDecision :=
  let high := cellLimitedRows availableRows cellsPerRow cellsAlreadyEmitted maxCells
  { rows := bisect (fun count => fitsPayload blockLength maxPayloadBytes
      (existingBlocks ++ [buildBlock count])) high 0 high
    firstRowFits := availableRows = 0 ||
      (maxCells.all (cellsPerRow ≤ ·) && fitsPayload blockLength maxPayloadBytes [buildBlock 1]) }

end Budget

/-! ### Pages -/

namespace ReadCellsRequest
variable (request : ReadCellsRequest)

def formulas : Bool := request.includeFormulas.getD (request.fields.contains .formula)

def styles : Bool :=
  request.includeStyles.getD (request.fields.any fun field =>
    field = .numberFormat || field = .styleTags)

def detailed : Bool := !request.fields.isEmpty

end ReadCellsRequest

def buildRowSnapshot (sheet : SheetView κ) (rowIndex : Nat) (columns : List Nat)
    (includeFormulas includeStyles : Bool) : RowSnapshot κ where
  rowIndex := rowIndex
  cells := columns.map fun column =>
    sheet.cellSnapshot includeFormulas includeStyles column rowIndex

def between (first last : Nat) : List Nat := List.range' first (last + 1 - first)

def saturatingAdd (a b : Nat) : Nat := min (a + b) maxRow

section Read
variable {κ : Type} (reader : CellsReader κ) (request : ReadCellsRequest)
  (maxCells maxPayloadBytes : Option Nat)

def withSheet (f : SheetView κ → α) : Except ReadError α :=
  match reader.sheet request.sheetName with
  | none => .error ⟨.operationFailed, "sheet " ++ request.sheetName ++ " not found", none⟩
  | some sheet => .ok (f sheet)

def rowExceedsBudget (row : Nat) (path : String) : ReadError where
  code := .rowExceedsBudget
  message := "row " ++ toString row ++ " cannot fit within the configured read payload budget; " ++
    "narrow the requested range or use inspect_cells for targeted cells"
  path := some path

structure Emitted (κ : Type) where
  blocks : List (ReadCellsBlock κ) := []
  rowsReturned : Nat := 0
  cellsReturned : Nat := 0

def rangeRow (sheet : SheetView κ) (range : CellRange) (row : Nat) : RowSnapshot κ :=
  buildRowSnapshot sheet row (between range.c1 range.c2)
    (request.formulas || request.detailed) (request.styles || request.detailed)

def rangeBlock (index : Nat) (requestedRange : String) (c1 c2 r1 : Nat)
    (snapshots : List (RowSnapshot κ)) (count : Nat) : ReadCellsBlock κ where
  selectionIndex := index
  requestedRange := requestedRange
  returnedRange := rangeString c1 r1 c2 (r1 + count - 1)
  rowCount := count
  columnCount := c2 - c1 + 1
  rowIndices := none
  payload := .range (requestedEncoding request) (rangeString c1 r1 c2 (r1 + count - 1))
    (snapshots.take count) request.formulas request.detailed

inductive RangeEnd (κ : Type) where
  | skipped
  | paused (emitted : Emitted κ) (nextRow : Nat)
  | done (emitted : Emitted κ)

def readRange (index : Nat) (requestedRange : String) (range : CellRange) (r1 : Nat)
    (emitted : Emitted κ) : Except ReadError (RangeEnd κ) :=
  if range.r2 < r1 then .ok .skipped
  else do
    let remaining := requestedPageSize request - emitted.rowsReturned
    let candidateEnd := min range.r2 (saturatingAdd r1 remaining - 1)
    let snapshots ← withSheet reader request fun sheet =>
      (between r1 candidateEnd).map (rangeRow request sheet range)
    let columnCount := range.c2 - range.c1 + 1
    let buildBlock := rangeBlock request index requestedRange range.c1 range.c2 r1 snapshots
    let decision := canonicalBudgetDecision reader.blockLength snapshots.length columnCount
      emitted.cellsReturned maxCells maxPayloadBytes emitted.blocks buildBlock
    if decision.rows = 0 then
      if decision.firstRowFits then pure (.paused emitted r1)
      else .error (rowExceedsBudget r1 "$.selection.ranges")
    else
      let returnedEnd := r1 + decision.rows - 1
      let emitted : Emitted κ := {
        blocks := emitted.blocks ++ [buildBlock decision.rows]
        rowsReturned := emitted.rowsReturned + decision.rows
        cellsReturned := emitted.cellsReturned + decision.rows * columnCount }
      if returnedEnd < range.r2 then pure (.paused emitted (returnedEnd + 1))
      else pure (.done emitted)

def parsedRange (requestedRange : String) : Except ReadError CellRange :=
  match parseRange requestedRange with
  | .ok range => .ok range
  | .error message => .error ⟨.invalidRequest, message, some "$.selection.ranges"⟩

/-- The ranges from the index on; the first of them from the cursor's row. -/
def readRanges (index : Nat) (cursorRow : Option Nat) (emitted : Emitted κ) :
    List String → Except ReadError (Emitted κ × Option (Nat × Nat))
  | [] => .ok (emitted, none)
  | requestedRange :: rest =>
    if requestedPageSize request ≤ emitted.rowsReturned then .ok (emitted, none)
    else do
      let range ← parsedRange requestedRange
      let stop ← readRange reader request maxCells maxPayloadBytes index requestedRange range
        (cursorRow.getD range.r1) emitted
      match stop with
      | .skipped => readRanges (index + 1) none emitted rest
      | .paused emitted nextRow => pure (emitted, some (index, nextRow))
      | .done emitted =>
        match rest with
        | [] => pure (emitted, none)
        | next :: _ =>
          if requestedPageSize request ≤ emitted.rowsReturned then do
            let range ← parsedRange next
            pure (emitted, some (index + 1, range.r1))
          else readRanges (index + 1) none emitted rest

/-- On `u32` in a release build, where sums wrap. -/
def pageEnd (startRow pageSize highestRow : Nat) : Nat :=
  min ((startRow + pageSize + maxRow) % (maxRow + 1)) (max highestRow startRow)

def rowColumns : Option RowColumnSelection → Option (List String) × Option (List String) × Nat
  | some (.letters values) => (some values, none, 1)
  | some (.headers values headerRow) => (none, some values, max ((headerRow.map UInt32.toNat).getD 1) 1)
  | _ => (none, none, 1)

def sheetRow (sheet : SheetView κ) (columns : Option RowColumnSelection) (row : Nat) :
    RowSnapshot κ :=
  let (letters, headers, headerRow) := rowColumns columns
  buildRowSnapshot sheet row
    (sheet.resolveColumnsWithHeaders letters headers sheet.highestColumn headerRow)
    (request.formulas || request.detailed) (request.styles || request.detailed)

def sheetHeader (sheet : SheetView κ) (columns : Option RowColumnSelection) (includeHeader : Bool) :
    Option (RowSnapshot κ) :=
  if includeHeader then some (sheetRow request sheet columns (rowColumns columns).2.2) else none

def sheetRows (sheet : SheetView κ) (columns : Option RowColumnSelection)
    (startRow pageSize : Nat) : List (RowSnapshot κ) :=
  (between (max startRow 1)
    (pageEnd (max startRow 1) (min pageSize 500) sheet.highestRow)).map
      (sheetRow request sheet columns)

def ReadCellsFormat.compactRows : ReadCellsFormat → Bool
  | .compact | .dense | .csv | .rows => true
  | _ => false

def rowsBlock (startRow rowCount : Nat) (includeHeader : Bool) (header : Option (RowSnapshot κ))
    (currentRow : Nat) (snapshots : List (RowSnapshot κ)) (count : Nat) : ReadCellsBlock κ :=
  let shown := snapshots.take count
  let returnedEnd := (shown.getLast?.map RowSnapshot.rowIndex).getD currentRow
  { selectionIndex := 0
    requestedRange := "rows:" ++ toString startRow ++ "+" ++ toString rowCount
    returnedRange := "rows:" ++ toString currentRow ++ "-" ++ toString returnedEnd
    rowCount := count
    columnCount := (snapshots.head?.map fun row => row.cells.length).getD 0
    rowIndices := some (shown.map RowSnapshot.rowIndex)
    payload := .rows (requestedEncoding request) header shown includeHeader
      (request.formulas || request.styles || request.detailed)
      (request.detailed || ((requestedEncoding request).compactRows &&
        (request.formulas || request.styles))) }

def finalRow (startRow rowCount : Nat) : Nat := saturatingAdd (max startRow 1) rowCount - 1

def readRows (startRow rowCount : Nat) (columns : Option RowColumnSelection) (includeHeader : Bool)
    (currentRow : Nat) :
    Except ReadError (Option (RowSnapshot κ) × Emitted κ × Option (Nat × Nat)) := do
  let remaining := min (saturatingAdd (finalRow startRow rowCount - currentRow) 1)
    (requestedPageSize request)
  let (header, snapshots) ← withSheet reader request fun sheet =>
    (sheetHeader request sheet columns includeHeader,
      sheetRows request sheet columns currentRow remaining)
  let columnCount := (snapshots.head?.map fun row => row.cells.length).getD 0
  let buildBlock := rowsBlock request startRow rowCount includeHeader header currentRow snapshots
  let decision := canonicalBudgetDecision reader.blockLength snapshots.length columnCount 0
    maxCells maxPayloadBytes [] buildBlock
  if decision.rows = 0 ∧ 0 < remaining then
    .error (rowExceedsBudget currentRow "$.selection")
  else
    let block := buildBlock decision.rows
    let returnedEnd := (block.rowIndices.bind List.getLast?).getD currentRow
    pure (header, ⟨[block], decision.rows, decision.rows * columnCount⟩,
      if returnedEnd < finalRow startRow rowCount then some (0, returnedEnd + 1) else none)

def readSelection (cursor : Option ReadCellsCursor) :
    Except ReadError (Option (RowSnapshot κ) × Emitted κ × Option (Nat × Nat)) :=
  match request.selection with
  | .range ranges _ => do
    ensure (ranges ≠ []) (⟨.invalidRequest, "selection.ranges must not be empty",
      some "$.selection.ranges"⟩ : ReadError)
    let startIndex := (cursor.map ReadCellsCursor.selectionIndex).getD 0
    let (emitted, place) ← readRanges reader request maxCells maxPayloadBytes startIndex
      (cursor.map ReadCellsCursor.nextRow) {} (ranges.drop startIndex)
    pure (none, emitted, place)
  | .rows startRow rowCount columns includeHeader => do
    ensure (rowCount ≠ 0) (⟨.invalidRequest, "selection.row_count must be greater than zero",
      some "$.selection.row_count"⟩ : ReadError)
    readRows reader request maxCells maxPayloadBytes startRow.toNat rowCount.toNat columns
      (includeHeader.getD true)
      ((cursor.map ReadCellsCursor.nextRow).getD (max startRow.toNat 1))

def readCellsData (revisionId : String) (header : Option (RowSnapshot κ)) (emitted : Emitted κ)
    (place : Option (Nat × Nat)) : ReadCellsData κ :=
  let nextCursor := place.map fun (index, row) =>
    encodeCursor reader ⟨revisionId, fingerprintReadCells reader request, index, row⟩
  { sheetName := request.sheetName
    encoding := requestedEncoding request
    blocks := emitted.blocks
    header := header
    page := {
      rowsReturned := emitted.rowsReturned
      cellsReturned := emitted.cellsReturned
      complete := nextCursor.isNone
      nextCursor := nextCursor
      limits := ⟨requestedPageSize request, maxCells, maxPayloadBytes⟩ } }

def readCellsFromView (revisionId : String) : Except ReadError (ReadCellsData κ) := do
  let cursor ← requestedPlace reader request revisionId
  let (header, emitted, place) ← readSelection reader request maxCells maxPayloadBytes cursor
  pure (readCellsData reader request maxCells maxPayloadBytes revisionId header emitted place)

def readFrom (revisionId : String) (cursor : Option String) : Except ReadError (ReadCellsData κ) :=
  readCellsFromView reader { request with cursor := cursor } maxCells maxPayloadBytes revisionId

/-- The calls that follow the cursors from the first call on. -/
def readPages (revisionId : String) (calls : Nat) :
    Option (List (ReadCellsData κ) × Option ReadError) :=
  follow (readFrom reader request maxCells maxPayloadBytes revisionId)
    (fun data => data.page.nextCursor.map some) calls none

end Read

end AgentSpreadsheet.Reads
