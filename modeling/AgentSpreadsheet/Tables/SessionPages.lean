import AgentSpreadsheet.Library.Cuts
import AgentSpreadsheet.Library.Faults
import AgentSpreadsheet.Reads.Paging
import AgentSpreadsheet.Sheets.References
import AgentSpreadsheet.Tables.DedupeHeaders

/-! The pages of a session: of a sheet, of a table, of the values found. Rows, sizes and offsets
are `u32`; a sum that is none is a fault. -/
namespace AgentSpreadsheet.Tables.Session
open Library Search

def u32Max : Nat := 4294967295

structure WorkbookSession where
  book : WorkbookContext
  rows : ∀ sheet ∈ book.sheets, sheet.highestRow ≤ u32Max

/-- `helper` and `columnIndexFromString` are the workbook library's. -/
structure SessionTools (ν : Type) where
  values : ValueTools ν
  helper : Sheets.CoordinateHelper
  columnIndexFromString : String → Nat

structure RangeBounds where
  minCol : Nat
  minRow : Nat
  maxCol : Nat
  maxRow : Nat
  ordered : minRow ≤ maxRow

structure SessionReadTableParams where
  sheetName : Option String := none
  range : Option String := none
  columns : Option (List String) := none
  limit : Nat := 100
  includeHeaders : Bool := true

structure SessionSheetPageParams where
  sheetName : String
  startRow : Nat := 1
  pageSize : Nat := 50
  columns : Option (List String) := none
  columnsByHeader : Option (List String) := none
  includeFormulas : Bool := true
  includeHeader : Bool := true

/-! ### Ranges and columns -/

section Columns
variable {ν : Type} (tools : SessionTools ν)

def parseCellRef (cell : String) : Except String (Nat × Nat) :=
  match tools.helper.indexFromCoordinate cell with
  | (some col, some row, _, _) => .ok (col, row)
  | _ => .error ("invalid cell reference: " ++ cell)

def parseRangeBounds (range : String) : Except String RangeBounds := do
  let (start, stop) ← match range.toList.splitOn ':' with
    | [first] => do
      let start ← parseCellRef tools (String.ofList first)
      pure (start, start)
    | [first, second] => do
      let start ← parseCellRef tools (String.ofList first)
      let stop ← parseCellRef tools (String.ofList second)
      pure (start, stop)
    | _ => throw ("invalid range '" ++ range ++ "'; expected 'A1' or 'A1:Z99'")
  pure
    { minCol := min start.1 stop.1
      minRow := min start.2 stop.2
      maxCol := max start.1 stop.1
      maxRow := max start.2 stop.2
      ordered := Nat.le_trans (Nat.min_le_left _ _) (Nat.le_max_left _ _) }

def parseColumnIndex (spec : String) : Except String Nat := do
  let trimmed := Legacy.trim spec
  ensure (trimmed ≠ "") "invalid column spec: empty"
  ensure (trimmed.toList.all Char.isAlpha)
    ("invalid column spec '" ++ spec ++ "'; expected letters like 'A' or 'A:C'")
  ensure (trimmed.length ≤ 3)
    ("invalid column spec '" ++ spec ++ "'; expected at most 3 column letters")
  pure (tools.columnIndexFromString (toAsciiUppercase trimmed))

def columnSet (columns : List Nat) : List Nat := columns.dedup.insertionSort (· ≤ ·)

def resolveColumns (columns : Option (List String)) (maxColumn : Nat) : Except String (List Nat) :=
  match columns with
  | none => .ok (Reads.between 1 (max maxColumn 1))
  | some specs => do
    let indices ← specs.mapM fun spec =>
      match Sheets.splitOnce ':' spec with
      | some (start, stop) => do
        let start ← parseColumnIndex tools start
        let stop ← parseColumnIndex tools stop
        pure (Reads.between (min start stop) (max start stop))
      | none => do
        let index ← parseColumnIndex tools spec
        pure [index]
    pure (columnSet indices.flatten)

def resolveColumnsWithHeaders (sheet : Worksheet) (columns columnsByHeader : Option (List String))
    (maxColumn : Nat) : Except String (List Nat) :=
  match columnsByHeader with
  | none => resolveColumns tools columns maxColumn
  | some headers => do
    let selected ← if columns.isSome then resolveColumns tools columns maxColumn else pure []
    let targets := headers.map fun header => toAsciiLowercase (Legacy.trim header)
    let named := (Reads.between 1 (max maxColumn 1)).filter fun col =>
      (valueAt tools.values sheet col 1).any fun value =>
        toAsciiLowercase (cellValueToString tools.values value) ∈ targets
    if named = [] ∧ columns = none then resolveColumns tools none maxColumn
    else pure (columnSet (selected ++ named))

end Columns

/-! ### Sheets -/

structure SheetPage (ν : Type) where
  header : Option (Reads.RowSnapshot (CellSnapshot ν))
  rows : List (Reads.RowSnapshot (CellSnapshot ν))
  nextStartRow : Option Nat

section Calls
variable {ν : Type} (tools : SessionTools ν) (session : WorkbookSession)

section Sheet
variable (params : SessionSheetPageParams)

def sheetSelection : Except String (Worksheet × List Nat) := do
  ensure (params.pageSize ≠ 0) "page_size must be greater than zero"
  let sheet ← session.book.sheetByNameRequired params.sheetName
  let columns ← resolveColumnsWithHeaders tools sheet params.columns params.columnsByHeader
    sheet.highestColumn
  pure (sheet, columns)

def sheetRow (sheet : Worksheet) (columns : List Nat) (row : Nat) :
    Reads.RowSnapshot (CellSnapshot ν) :=
  buildRowSnapshot tools.values sheet row columns params.includeFormulas

def buildSheetPage (sheet : Worksheet) (columns : List Nat) (startRow pageSize : Nat) :
    List (Reads.RowSnapshot (CellSnapshot ν)) :=
  let endRow := min (Sheets.saturatingAdd startRow (pageSize - 1)) sheet.highestRow
  (Reads.between startRow endRow).map (sheetRow tools params sheet columns)

def sheetPage (row : Nat) : Except String (SheetPage ν) := do
  let (sheet, columns) ← sheetSelection tools session params
  let startRow := max row 1
  let rows := buildSheetPage tools params sheet columns startRow (min params.pageSize 500)
  let lastRowIndex := (rows.getLast?.map (·.rowIndex)).getD (startRow - 1)
  pure
    { header := if params.includeHeader then some (sheetRow tools params sheet columns 1) else none
      rows
      nextStartRow := if lastRowIndex < sheet.highestRow then some (lastRowIndex + 1) else none }

end Sheet

/-! ### Tables -/

structure TableSelection where
  sheet : Worksheet
  bounds : RangeBounds
  columns : List Nat
  headers : List String

structure ReadTablePage (ν : Type) where
  headers : List String
  rows : List (List (Option (CellValue ν)))
  totalRows : Nat
  nextOffset : Option Nat

section Table
variable (params : SessionReadTableParams)

def tableSelection : Except String TableSelection := do
  let name ← match params.sheetName with
    | some name => pure name
    | none => required session.book.sheetNames.head? "workbook has no sheets"
  let sheet ← session.book.sheetByNameRequired name
  let bounds ← match params.range with
    | some range => parseRangeBounds tools range
    | none => pure ⟨1, 1, max sheet.highestColumn 1, max sheet.highestRow 1, Nat.le_max_right _ _⟩
  let columns ← match params.columns with
    | some columns => do
      let indices ← resolveColumns tools (some columns) bounds.maxCol
      pure (indices.filter fun col => bounds.minCol ≤ col ∧ col ≤ bounds.maxCol)
    | none => pure (Reads.between bounds.minCol bounds.maxCol)
  ensure (columns ≠ []) "no columns selected for read_table"
  let header (col : Nat) : String :=
    if params.includeHeaders then
      (((valueAt tools.values sheet col bounds.minRow).map (cellValueToString tools.values)).filter
        fun header => Legacy.trim header ≠ "").getD (Analysis.columnNumberToName col)
    else Analysis.columnNumberToName col
  pure
    { sheet, bounds, columns
      headers := dedupeHeadersInPlace (columns.map header) fun _ => 0 }

def rowValues (table : TableSelection) (row : Nat) : List (Option (CellValue ν)) :=
  table.columns.map fun col => valueAt tools.values table.sheet col row

/-- The loop over the rows, with as many rounds as there are rows up to the end. -/
def rowsUntil (table : TableSelection) (rowEnd : Nat) : Nat → Nat → List (List (Option (CellValue ν)))
  | 0, _ => []
  | rounds + 1, row =>
    if row ≤ table.bounds.maxRow ∧ row < rowEnd then
      rowValues tools table row :: rowsUntil table rowEnd rounds (Sheets.saturatingAdd row 1)
    else []

def dataStartRow (table : TableSelection) : Nat :=
  if params.includeHeaders then Sheets.saturatingAdd table.bounds.minRow 1 else table.bounds.minRow

def dataRowsCount (table : TableSelection) : Checked String Nat :=
  if table.bounds.maxRow < dataStartRow params table then .ok 0
  else checkedAdd u32Max (table.bounds.maxRow - dataStartRow params table) 1

def tablePageOf (table : TableSelection) (offset : Nat) : Checked String (ReadTablePage ν) := do
  let count ← dataRowsCount params table
  let rowStart := Sheets.saturatingAdd (dataStartRow params table) offset
  let rowEnd := Sheets.saturatingAdd rowStart (max params.limit 1)
  let rows := rowsUntil tools table rowEnd (rowEnd - rowStart) rowStart
  pure
    { headers := table.headers
      rows
      totalRows := count
      nextOffset := if offset + rows.length < count then some (offset + rows.length) else none }

def readTable (offset : Nat) : Checked String (ReadTablePage ν) := do
  let table ← faultless (tableSelection tools session params)
  tablePageOf tools params table offset

end Table

/-! ### Searches -/

/-- The loop over the matches: what is on the page, and whether a match is left. -/
def collectMatches {β ε : Type} (limit offset : Nat) :
    List β → List β → Nat → Checked ε (List β × Bool)
  | [], results, _ => .ok (results, false)
  | item :: items, results, seen =>
    if seen < offset then do
      let seen ← checkedAdd u32Max seen 1
      collectMatches limit offset items results seen
    else if limit ≤ results.length then .ok (results, true)
    else do
      let seen ← checkedAdd u32Max seen 1
      collectMatches limit offset items (results ++ [item]) seen

section Find
variable (params : SessionFindValueParams)

def foundValues : Except String (List (FindValueMatch ν)) := do
  ensure (Legacy.trim params.query ≠ "") "query is required"
  let names := match params.sheetName with
    | some name => [name]
    | none => session.book.sheetNames
  let sheets ← names.mapM session.book.sheetByNameRequired
  pure (sheets.flatMap (sessionMatches tools.values params))

/-- The call for the page from the offset on. The next offset is added up on each page, also on
one that does not need it. -/
def findValue (offset : Nat) : Checked String (FindValueResponse ν) := do
  let found ← faultless (foundValues tools session params)
  let limit := max params.limit 1
  let (results, truncated) ← collectMatches limit offset found [] 0
  let next ← checkedAdd u32Max offset limit
  pure
    { results, matchCount := results.length
      nextOffset := if truncated then some next else none }

end Find

end Calls

/-! ### Paging -/

inductive PagedRequest where
  | sheetPage (params : SessionSheetPageParams)
  | readTable (params : SessionReadTableParams)
  | findValue (params : SessionFindValueParams)

section Exact
variable {ν : Type} (tools : SessionTools ν) (session : WorkbookSession)

/-- The rows of the sheet from the first one asked for. -/
def sheetAnswer (params : SessionSheetPageParams) (sheet : Worksheet) (columns : List Nat) :
    List (Reads.RowSnapshot (CellSnapshot ν)) :=
  (Reads.between (max params.startRow 1) sheet.highestRow).map (sheetRow tools params sheet columns)

def tableAnswer (params : SessionReadTableParams) (table : TableSelection) :
    List (List (Option (CellValue ν))) :=
  (Reads.between (if params.includeHeaders then table.bounds.minRow + 1 else table.bounds.minRow)
    table.bounds.maxRow).map (rowValues tools table)

/-- An accepted request is answered in full by its pages. -/
def PagedExactly : PagedRequest → Prop
  | .sheetPage params => ∀ sheet columns, sheetSelection tools session params = .ok (sheet, columns) →
      Paged (sheetPage tools session params) SheetPage.nextStartRow SheetPage.rows params.startRow
        (sheetAnswer tools params sheet columns)
  | .readTable params => ∀ table, tableSelection tools session params = .ok table →
      Paged (readTable tools session params) ReadTablePage.nextOffset ReadTablePage.rows 0
        (tableAnswer tools params table)
  | .findValue params => ∀ found, foundValues tools session params = .ok found →
      Paged (findValue tools session params) FindValueResponse.nextOffset FindValueResponse.results 0
        found

def pagesNeeded (size count : Nat) : Nat := max 1 ((count + size - 1) / size)

/-- A table ends before the last row there can be, and the pages of a search end at an offset. -/
def InRange : PagedRequest → Prop
  | .sheetPage _ => True
  | .readTable params => ∀ table, tableSelection tools session params = .ok table →
      table.bounds.maxRow < u32Max
  | .findValue params => ∀ found, foundValues tools session params = .ok found →
      pagesNeeded (max params.limit 1) found.length * max params.limit 1 ≤ u32Max

end Exact

section Pages
variable {ν : Type} {tools : SessionTools ν} {session : WorkbookSession}

theorem rows_page (f : Nat → β) (base pos size count : Nat) :
    (((List.range' base count).map f).drop pos).take size =
      (List.range' (base + pos) (min size (count - pos))).map f := by
  rw [← List.map_drop, ← List.map_take, List.drop_range', Nat.mul_one]
  rcases Nat.le_total size (count - pos) with hle | hle
  · rw [List.take_range'_of_length_ge hle, Nat.min_eq_left hle]
  · rw [List.take_range'_of_length_le hle, Nat.min_eq_right hle]

/-! #### Of a sheet -/

section Sheet
variable {params : SessionSheetPageParams} {sheet : Worksheet} {columns : List Nat}

theorem lastRow_eq (rows : List Nat) {first count : Nat} (h : rows = List.range' first count) :
    rows.getLast?.getD (first - 1) = first + count - 1 := by
  rw [h, List.getLast?_range']
  by_cases hzero : count = 0
  · rw [if_pos hzero, hzero]
    rfl
  · rw [if_neg hzero]
    rfl

theorem pageSize_pos (h : sheetSelection tools session params = .ok (sheet, columns)) :
    0 < min params.pageSize 500 := by
  simp only [sheetSelection, bind_eq_ok, ensure_eq_ok] at h
  obtain ⟨_, hpage, _⟩ := h
  omega

theorem buildSheetPage_eq (hrows : sheet.highestRow ≤ u32Max) {size : Nat} (hsize : 0 < size)
    (start : Nat) : buildSheetPage tools params sheet columns start size =
      (List.range' start (min size (sheet.highestRow + 1 - start))).map
        (sheetRow tools params sheet columns) := by
  have hcount : min (Sheets.saturatingAdd start (size - 1)) sheet.highestRow + 1 - start =
      min size (sheet.highestRow + 1 - start) := by
    unfold Sheets.saturatingAdd
    unfold u32Max at hrows
    omega
  unfold buildSheetPage Reads.between
  dsimp only
  rw [hcount]

theorem sheetPage_ok (h : sheetSelection tools session params = .ok (sheet, columns))
    (hrows : sheet.highestRow ≤ u32Max) (row : Nat) : ∃ page,
      sheetPage tools session params row = .ok page ∧
      page.rows = (List.range' (max row 1)
        (min (min params.pageSize 500) (sheet.highestRow + 1 - max row 1))).map
          (sheetRow tools params sheet columns) ∧
      page.nextStartRow = if max row 1 + page.rows.length < sheet.highestRow + 1 then
        some (max row 1 + page.rows.length) else none := by
  have hsize := pageSize_pos h
  have hpage := @buildSheetPage_eq _ tools params sheet columns hrows _ hsize (max row 1)
  refine ⟨_, by unfold sheetPage; rw [h]; rfl, hpage, ?_⟩
  dsimp only
  rw [hpage, ← List.getLast?_map, lastRow_eq _ (List.map_map.trans (List.map_id' _)), List.length_map,
    List.length_range']
  have hlast : max row 1 + min (min params.pageSize 500) (sheet.highestRow + 1 - max row 1) - 1 + 1 =
      max row 1 + min (min params.pageSize 500) (sheet.highestRow + 1 - max row 1) := by omega
  rw [hlast]
  apply if_congr _ rfl rfl
  omega

theorem sheetPage_paged (h : sheetSelection tools session params = .ok (sheet, columns)) :
    Paged (sheetPage tools session params) SheetPage.nextStartRow SheetPage.rows params.startRow
      (sheetAnswer tools params sheet columns) := by
  have hrows : sheet.highestRow ≤ u32Max := by
    apply session.rows
    have haccepted := h
    simp only [sheetSelection, bind_eq_ok, pure_eq_ok, Prod.mk.injEq] at haccepted
    obtain ⟨_, _, sheet', hsheet, _, _, rfl, _⟩ := haccepted
    exact List.mem_of_find?_eq_some (required_eq_ok.mp hsheet)
  have hsize := pageSize_pos h
  have hout : Budget.HandsOut (Budget.sized _ hsize) (sheetPage tools session params)
      SheetPage.nextStartRow SheetPage.rows (fun row => max params.startRow 1 ≤ max row 1)
      (fun row => max row 1 - max params.startRow 1)
      (fun _ => sheetAnswer tools params sheet columns)
      (sheetAnswer tools params sheet columns).length := by
    intro row hrow
    have hrow : max params.startRow 1 ≤ max row 1 := hrow
    obtain ⟨page, hpage, hfound, hnext⟩ := sheetPage_ok h hrows row
    have hlength : (sheetAnswer tools params sheet columns).length =
        sheet.highestRow + 1 - max params.startRow 1 := by
      unfold sheetAnswer
      rw [List.length_map, Reads.between_length]
    refine ⟨page, hpage, ?_, ?_⟩
    · change page.rows = ((sheetAnswer tools params sheet columns).drop
        (max row 1 - max params.startRow 1)).take (min params.pageSize 500)
      have hstart : max params.startRow 1 + (max row 1 - max params.startRow 1) = max row 1 := by
        omega
      have hleft : sheet.highestRow + 1 - max params.startRow 1 -
          (max row 1 - max params.startRow 1) = sheet.highestRow + 1 - max row 1 := by omega
      unfold sheetAnswer Reads.between
      rw [rows_page, hfound, hstart, hleft]
    · change if max row 1 - max params.startRow 1 + page.rows.length < _ then
        ∃ row', page.nextStartRow = some row' ∧ max params.startRow 1 ≤ max row' 1 ∧
          max row' 1 - max params.startRow 1 =
            max row 1 - max params.startRow 1 + page.rows.length
        else page.nextStartRow = none
      rw [hlength, hnext]
      split
      · exact ⟨_, if_pos (by omega), by omega, by omega⟩
      · exact if_neg (by omega)
  have hpaged := hout.paged trivial (fun _ => trivial) (Nat.le_refl (max params.startRow 1))
  rwa [Nat.sub_self, List.drop_zero] at hpaged

end Sheet

/-! #### Of a table -/

section Table
variable {params : SessionReadTableParams} {table : TableSelection}

theorem rowsUntil_eq {rowEnd rounds row : Nat} (hend : row + rounds = rowEnd)
    (hmax : rowEnd ≤ u32Max) : rowsUntil tools table rowEnd rounds row =
      (List.range' row (min rounds (table.bounds.maxRow + 1 - row))).map (rowValues tools table) := by
  induction rounds generalizing row with
  | zero => simp [rowsUntil]
  | succ rounds ih =>
    have hnext : Sheets.saturatingAdd row 1 = row + 1 := by
      unfold Sheets.saturatingAdd
      unfold u32Max at hmax
      omega
    unfold rowsUntil
    by_cases hrow : row ≤ table.bounds.maxRow
    · have hcount : min (rounds + 1) (table.bounds.maxRow + 1 - row) =
          min rounds (table.bounds.maxRow + 1 - (row + 1)) + 1 := by omega
      rw [if_pos ⟨hrow, by omega⟩, hnext, ih (by omega), hcount, List.range'_succ, List.map_cons]
    · have hcount : min (rounds + 1) (table.bounds.maxRow + 1 - row) = 0 := by omega
      rw [if_neg (fun h => hrow h.1), hcount]
      rfl

theorem tablePageOf_ok {offset : Nat} {page : ReadTablePage ν}
    (h : tablePageOf tools params table offset = .ok page) :
    page.rows = (List.range' (Sheets.saturatingAdd (dataStartRow params table) offset)
        (min (min (max params.limit 1)
          (u32Max - Sheets.saturatingAdd (dataStartRow params table) offset))
          (table.bounds.maxRow + 1 - Sheets.saturatingAdd (dataStartRow params table) offset))).map
        (rowValues tools table) ∧
      page.nextOffset = if offset + page.rows.length <
        table.bounds.maxRow + 1 - dataStartRow params table then some (offset + page.rows.length)
        else none := by
  simp only [tablePageOf, bind_eq_ok, pure_eq_ok] at h
  obtain ⟨count, hcount, rfl⟩ := h
  have hrows : table.bounds.maxRow + 1 - dataStartRow params table = count := by
    unfold dataRowsCount checkedAdd at hcount
    split at hcount
    · have := Except.ok.inj hcount
      omega
    · split at hcount
      · have := Except.ok.inj hcount
        omega
      · contradiction
  have hend : Sheets.saturatingAdd (Sheets.saturatingAdd (dataStartRow params table) offset)
      (max params.limit 1) ≤ u32Max := Nat.min_le_right _ _
  have hstart : Sheets.saturatingAdd (dataStartRow params table) offset ≤
      Sheets.saturatingAdd (Sheets.saturatingAdd (dataStartRow params table) offset)
        (max params.limit 1) := by
    unfold Sheets.saturatingAdd
    omega
  have hrounds : Sheets.saturatingAdd (Sheets.saturatingAdd (dataStartRow params table) offset)
      (max params.limit 1) - Sheets.saturatingAdd (dataStartRow params table) offset =
        min (max params.limit 1)
          (u32Max - Sheets.saturatingAdd (dataStartRow params table) offset) := by
    unfold Sheets.saturatingAdd u32Max
    omega
  rw [hrows]
  refine ⟨?_, rfl⟩
  dsimp only
  rw [rowsUntil_eq (Nat.add_sub_cancel' hstart) hend, hrounds]

theorem readTable_eq (h : tableSelection tools session params = .ok table) (offset : Nat) :
    readTable tools session params offset = tablePageOf tools params table offset := by
  unfold readTable
  rw [h]
  rfl

theorem readTable_paged (h : tableSelection tools session params = .ok table)
    (hmax : table.bounds.maxRow < u32Max) :
    Paged (readTable tools session params) ReadTablePage.nextOffset ReadTablePage.rows 0
      (tableAnswer tools params table) := by
  have hordered := table.bounds.ordered
  have hstart : (if params.includeHeaders then table.bounds.minRow + 1 else table.bounds.minRow) =
      dataStartRow params table := by
    unfold dataStartRow Sheets.saturatingAdd
    unfold u32Max at hmax
    split <;> omega
  have hlength : (tableAnswer tools params table).length =
      table.bounds.maxRow + 1 - dataStartRow params table := by
    unfold tableAnswer
    rw [List.length_map, Reads.between_length, hstart]
  have hout : Budget.HandsOut (Budget.sized (max params.limit 1) (by omega))
      (readTable tools session params) ReadTablePage.nextOffset ReadTablePage.rows (fun _ => True) id
      (fun _ => tableAnswer tools params table) (tableAnswer tools params table).length := by
    intro offset _
    have hok : ∃ page, tablePageOf tools params table offset = .ok page := by
      have hcount : ∃ count, dataRowsCount params table = .ok count := by
        unfold dataRowsCount checkedAdd
        split
        · exact ⟨_, rfl⟩
        · exact ⟨_, if_pos (by omega)⟩
      obtain ⟨count, hcount⟩ := hcount
      unfold tablePageOf
      rw [hcount]
      exact ⟨_, rfl⟩
    obtain ⟨page, hpage⟩ := hok
    obtain ⟨hfound, hnext⟩ := tablePageOf_ok hpage
    refine ⟨page, (readTable_eq h offset).trans hpage, ?_, ?_⟩
    · change page.rows = ((tableAnswer tools params table).drop offset).take (max params.limit 1)
      rw [hfound]
      unfold tableAnswer Reads.between
      rw [rows_page, hstart]
      by_cases hin : dataStartRow params table + offset ≤ table.bounds.maxRow
      · have hrow : Sheets.saturatingAdd (dataStartRow params table) offset =
            dataStartRow params table + offset := by
          unfold Sheets.saturatingAdd
          unfold u32Max at hmax
          omega
        have hcount : min (min (max params.limit 1)
            (u32Max - (dataStartRow params table + offset)))
            (table.bounds.maxRow + 1 - (dataStartRow params table + offset)) =
              min (max params.limit 1)
                (table.bounds.maxRow + 1 - dataStartRow params table - offset) := by omega
        rw [hrow, hcount]
      · have hrow : table.bounds.maxRow < Sheets.saturatingAdd (dataStartRow params table) offset := by
          unfold Sheets.saturatingAdd
          unfold u32Max at hmax
          omega
        have hnone : table.bounds.maxRow + 1 -
            Sheets.saturatingAdd (dataStartRow params table) offset = 0 := by omega
        have hnone' : table.bounds.maxRow + 1 - dataStartRow params table - offset = 0 := by omega
        rw [hnone, hnone', Nat.min_zero, Nat.min_zero]
        rfl
    · rw [hlength, hnext]
      split
      · rename_i hmore
        exact ⟨_, if_pos hmore, trivial, rfl⟩
      · rename_i hmore
        exact if_neg hmore
  have hpaged := hout.paged trivial (fun _ => trivial) (s := 0) trivial
  exact hpaged

theorem readTable_not_paged (h : tableSelection tools session params = .ok table)
    (hmax : u32Max ≤ table.bounds.maxRow) (answer : List (List (Option (CellValue ν)))) :
    ¬ Paged (readTable tools session params) ReadTablePage.nextOffset ReadTablePage.rows 0
      answer := by
  have hordered := table.bounds.ordered
  have hstart : dataStartRow params table ≤ table.bounds.maxRow := by
    unfold dataStartRow Sheets.saturatingAdd
    unfold u32Max at hmax
    split <;> omega
  apply @not_paged _ _ _ _ _ _ _ fun offset => dataStartRow params table + offset ≤
    max (dataStartRow params table) u32Max
  · intro offset page hoffset hpage
    obtain ⟨hfound, hnext⟩ := tablePageOf_ok ((readTable_eq h offset).symm.trans hpage)
    have hlength := congrArg List.length hfound
    rw [List.length_map, List.length_range'] at hlength
    have hsaturated : dataStartRow params table + offset ≤ u32Max ∧
        Sheets.saturatingAdd (dataStartRow params table) offset =
          dataStartRow params table + offset ∨
        offset = 0 ∧ u32Max ≤ Sheets.saturatingAdd (dataStartRow params table) offset := by
      unfold Sheets.saturatingAdd
      unfold u32Max at hoffset ⊢
      omega
    have hkept : dataStartRow params table + (offset + page.rows.length) ≤
        max (dataStartRow params table) u32Max := by omega
    refine ⟨offset + page.rows.length, ?_, hkept⟩
    rw [hnext, if_pos (by omega)]
  · exact Nat.le_max_left _ _

end Table

/-! #### Of a search -/

section Find
variable {params : SessionFindValueParams} {found : List (FindValueMatch ν)}

theorem collectMatches_eq {β ε : Type} {limit offset seen : Nat} {items results : List β}
    (hresults : results.length = seen - offset) (hlimit : results.length ≤ limit)
    (hseen : seen ≤ u32Max) : (collectMatches limit offset items results seen : Checked ε _) =
      if min (seen + items.length) (max seen (offset + limit)) ≤ u32Max then
        .ok (results ++ (items.drop (offset - seen)).take (limit - results.length),
          decide (offset + limit < seen + items.length))
      else .error .panicked := by
  induction items generalizing results seen with
  | nil =>
    have hlast : ¬ offset + limit < seen := by omega
    rw [List.length_nil, Nat.add_zero, if_pos (Nat.le_trans (Nat.min_le_left _ _) hseen),
      decide_eq_false hlast]
    simp [collectMatches]
  | cons item items ih =>
    unfold collectMatches checkedAdd
    rw [List.length_cons]
    by_cases hskip : seen < offset
    · have hdrop : offset - seen = offset - (seen + 1) + 1 := by omega
      rw [if_pos hskip]
      by_cases hmax : seen + 1 ≤ u32Max
      · have hcount : min (seen + 1 + items.length) (max (seen + 1) (offset + limit)) =
            min (seen + (items.length + 1)) (max seen (offset + limit)) := by omega
        have hlength : seen + 1 + items.length = seen + (items.length + 1) := by omega
        rw [if_pos hmax]
        change collectMatches limit offset items results (seen + 1) = _
        rw [ih (by omega) hlimit hmax, hcount, hlength, hdrop, List.drop_succ_cons]
      · rw [if_neg hmax, if_neg (by omega)]
        rfl
    · have hdrop : offset - seen = 0 := by omega
      rw [if_neg hskip, hdrop, List.drop_zero]
      by_cases hfull : limit ≤ results.length
      · have hmore : offset + limit < seen + (items.length + 1) := by omega
        have hnone : limit - results.length = 0 := by omega
        rw [if_pos hfull, if_pos (by omega), decide_eq_true hmore, hnone]
        simp
      · rw [if_neg hfull]
        by_cases hmax : seen + 1 ≤ u32Max
        · have hcount : min (seen + 1 + items.length) (max (seen + 1) (offset + limit)) =
              min (seen + (items.length + 1)) (max seen (offset + limit)) := by omega
          have hlength : seen + 1 + items.length = seen + (items.length + 1) := by omega
          have hdrop' : offset - (seen + 1) = 0 := by omega
          have hleft : limit - results.length = limit - (results ++ [item]).length + 1 := by
            rw [List.length_append, List.length_singleton]
            omega
          have hresults' : (results ++ [item]).length = seen + 1 - offset := by
            rw [List.length_append, List.length_singleton]
            omega
          rw [if_pos hmax]
          change collectMatches limit offset items (results ++ [item]) (seen + 1) = _
          rw [ih hresults' (by omega) hmax, hcount, hlength, hdrop', List.drop_zero, hleft,
            List.take_succ_cons, List.append_assoc, List.singleton_append]
        · rw [if_neg hmax, if_neg (by omega)]
          rfl

theorem findValue_ok (h : foundValues tools session params = .ok found) {offset : Nat}
    (hoffset : offset + max params.limit 1 ≤ u32Max) : ∃ page,
      findValue tools session params offset = .ok page ∧
      page.results = (found.drop offset).take (max params.limit 1) ∧
      page.nextOffset = if offset + max params.limit 1 < found.length then
        some (offset + max params.limit 1) else none := by
  have hcollect := @collectMatches_eq _ String (max params.limit 1) offset 0 found [] (by simp)
    (Nat.zero_le _) (Nat.zero_le _)
  rw [Nat.zero_add, if_pos (by omega), Nat.sub_zero, List.nil_append, List.length_nil,
    Nat.sub_zero] at hcollect
  have hadd : (checkedAdd u32Max offset (max params.limit 1) : Checked String Nat) =
      .ok (offset + max params.limit 1) := if_pos hoffset
  refine ⟨⟨(found.drop offset).take (max params.limit 1),
    ((found.drop offset).take (max params.limit 1)).length,
    if offset + max params.limit 1 < found.length then some (offset + max params.limit 1)
      else none⟩, ?_, rfl, rfl⟩
  unfold findValue
  simp only [h, faultless_ok, bind, Except.bind, hcollect, hadd, pure, Except.pure,
    decide_eq_true_eq]

theorem findValue_offset (h : foundValues tools session params = .ok found) {offset : Nat}
    {page : FindValueResponse ν} (hpage : findValue tools session params offset = .ok page) :
    offset + max params.limit 1 ≤ u32Max := by
  simp only [findValue, bind_eq_ok, h, faultless_ok] at hpage
  obtain ⟨_, _, _, _, next, hnext, _⟩ := hpage
  unfold checkedAdd at hnext
  split at hnext
  · assumption
  · contradiction

def Begins (size count offset : Nat) : Prop :=
  ∃ pages, offset = pages * size ∧ (pages = 0 ∨ offset < count)

theorem pagesNeeded_bound {size count offset : Nat} (hsize : 0 < size)
    (h : Begins size count offset) : offset + size ≤ pagesNeeded size count * size := by
  obtain ⟨pages, rfl, hpages⟩ := h
  have hneeded : pages + 1 ≤ pagesNeeded size count := by
    unfold pagesNeeded
    rcases hpages with rfl | hpages
    · exact Nat.le_max_left _ _
    · have hdiv : pages + 1 ≤ (count + size - 1) / size := by
        rw [Nat.le_div_iff_mul_le hsize, Nat.succ_mul]
        omega
      exact Nat.le_trans hdiv (Nat.le_max_right _ _)
  rw [← Nat.succ_mul]
  exact Nat.mul_le_mul_right size hneeded

theorem pagesNeeded_last {size count offset : Nat} (hsize : 0 < size)
    (h : Begins size count offset) (hlast : count ≤ offset + size) :
    pagesNeeded size count * size ≤ offset + size := by
  obtain ⟨pages, rfl, _⟩ := h
  rw [← Nat.succ_mul] at hlast ⊢
  apply Nat.mul_le_mul_right
  unfold pagesNeeded
  apply Nat.max_le.mpr
  constructor
  · exact Nat.succ_le_succ (Nat.zero_le _)
  · apply Nat.le_of_lt_succ
    rw [Nat.div_lt_iff_lt_mul hsize, Nat.succ_mul (pages + 1)]
    have hlast : count ≤ (pages + 1) * size := hlast
    omega

theorem Begins.next {size count offset : Nat} (h : Begins size count offset)
    (hmore : offset + size < count) : Begins size count (offset + size) := by
  obtain ⟨pages, rfl, _⟩ := h
  exact ⟨pages + 1, (Nat.succ_mul _ _).symm, .inr hmore⟩

theorem findValue_paged_iff (h : foundValues tools session params = .ok found) :
    Paged (findValue tools session params) FindValueResponse.nextOffset FindValueResponse.results 0
        found ↔
      pagesNeeded (max params.limit 1) found.length * max params.limit 1 ≤ u32Max := by
  have hsize : 0 < max params.limit 1 := by omega
  constructor
  · intro hpaged
    by_contra hrange
    revert hpaged
    apply @not_paged _ _ _ _ _ _ _ (Begins (max params.limit 1) found.length)
    · intro offset page hbegins hpage
      have hoffset := findValue_offset h hpage
      obtain ⟨page', hpage', _, hnext⟩ := findValue_ok h hoffset
      obtain rfl := Except.ok.inj (hpage.symm.trans hpage')
      by_cases hmore : offset + max params.limit 1 < found.length
      · exact ⟨_, by rw [hnext, if_pos hmore], hbegins.next hmore⟩
      · have hlast := pagesNeeded_last hsize hbegins (by omega)
        omega
    · exact ⟨0, (Nat.zero_mul _).symm, .inl rfl⟩
  · intro hrange
    have hout : Budget.HandsOut (Budget.sized _ hsize) (findValue tools session params)
        FindValueResponse.nextOffset FindValueResponse.results
        (Begins (max params.limit 1) found.length) id (fun _ => found) found.length := by
      intro offset hbegins
      have hoffset := Nat.le_trans (pagesNeeded_bound hsize hbegins) hrange
      obtain ⟨page, hpage, hfound, hnext⟩ := findValue_ok h hoffset
      refine ⟨page, hpage, hfound, ?_⟩
      have hlength := congrArg List.length hfound
      rw [List.length_take, List.length_drop] at hlength
      rw [hnext]
      by_cases hmore : offset + max params.limit 1 < found.length
      · have hfull : page.results.length = max params.limit 1 := by omega
        rw [if_pos (by rw [hfull]; exact hmore), if_pos hmore, hfull]
        exact ⟨_, rfl, hbegins.next hmore, rfl⟩
      · rw [if_neg hmore, if_neg]
        rw [hlength, id_eq]
        obtain ⟨pages, hpages, hin⟩ := hbegins
        rcases hin with rfl | hin
        · omega
        · omega
    exact hout.paged trivial (fun _ => trivial) (s := 0) ⟨0, (Nat.zero_mul _).symm, .inl rfl⟩

end Find

end Pages

/-- The pages are exact for each request that stays below the last row and the last offset. -/
theorem paging_exact_iff {ν : Type} (tools : SessionTools ν) (session : WorkbookSession)
    (request : PagedRequest) :
    PagedExactly tools session request ↔ InRange tools session request := by
  cases request with
  | sheetPage params =>
    constructor
    · intro _
      exact trivial
    · intro _ sheet columns h
      exact sheetPage_paged h
  | readTable params =>
    apply forall_congr'
    intro table
    apply forall_congr'
    intro h
    constructor
    · intro hpaged
      by_contra hmax
      exact readTable_not_paged h (by omega) _ hpaged
    · intro hmax
      exact readTable_paged h hmax
  | findValue params =>
    apply forall_congr'
    intro found
    apply forall_congr'
    intro h
    exact findValue_paged_iff h

/-- The coordinates of one cell in the last row. -/
def lastRowTools : SessionTools Nat where
  values := digitTools
  helper :=
    { indexFromCoordinate := fun cell =>
        if cell = "A4294967295" then (some 1, some 4294967295, some false, some false)
        else (none, none, none, none)
      coordinateFromIndexWithLock := fun col row _ _ => Analysis.cellAddress col row
      stringFromColumnIndex := Analysis.columnNumberToName }
  columnIndexFromString _ := 1

def plainSession : WorkbookSession where
  book :=
    { sheets := [totalSheet "Sheet1"]
      distinct := by decide
      namedItems := []
      detectedRegion := fun _ _ => none }
  rows := by decide

/-- The one row of the range is never handed out, and its page is asked for again and again. -/
theorem last_row_repeated : ∃ table, tableSelection lastRowTools plainSession
      { range := some "A4294967295", includeHeaders := false } = .ok table ∧
    ¬ PagedExactly lastRowTools plainSession
      (.readTable { range := some "A4294967295", includeHeaders := false }) := by
  refine ⟨⟨totalSheet "Sheet1", ⟨1, 4294967295, 1, 4294967295, Nat.le_refl _⟩, [1], ["A"]⟩, ?_, ?_⟩
  · rfl
  · intro h
    exact readTable_not_paged rfl (by decide) _ (h _ rfl)

end AgentSpreadsheet.Tables.Session
