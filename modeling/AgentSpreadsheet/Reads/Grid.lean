import AgentSpreadsheet.Analysis.Dependents
import AgentSpreadsheet.Analysis.FormulaMap
import AgentSpreadsheet.Legacy.Integrity
import AgentSpreadsheet.Reads.Checked

/-! A grid, exported page by page. The rows of a page go through the text of a range, whose
corners are put in order when it is read again; the differences taken afterwards are not. -/
namespace AgentSpreadsheet.Reads
open Library

/-- `κ` is what is reported of a cell. -/
structure GridCell (κ : Type) where
  offset : Nat × Nat
  content : Option κ
  deriving DecidableEq, Repr

/-- `β` is what is reported of widths and merges. -/
structure GridPayload (κ β : Type) where
  sheet : String
  anchor : String
  hints : β
  rows : List (List (GridCell κ))
  deriving DecidableEq, Repr

structure GridSheet (κ β : Type) where
  hints : Analysis.AddressRange → β
  cell : Nat → Nat → Option κ

structure ExportGridRequest where
  sheetName : String
  range : String
  cursor : Option String
  pageSize : Option Nat

structure ExportGridData (κ β : Type) where
  requestedRange : String
  returnedRange : String
  grid : GridPayload κ β
  complete : Bool
  nextCursor : Option String
  deriving DecidableEq, Repr

/-- The workbook, which may not open, and the hash of a sheet's name and a range. -/
structure GridSource (κ β : Type) where
  workbook : Except String (String → Option (GridSheet κ β))
  digest : String → String → String

section Export
variable {κ β : Type}

def gridRow (sheet : GridSheet κ β) (bounds : Analysis.AddressRange) (row : Nat) :
    List (GridCell κ) :=
  (between bounds.minCol bounds.maxCol).filterMap fun col =>
    (sheet.cell col row).map fun content => ⟨(row - bounds.minRow, col - bounds.minCol), content⟩

/-- Rows and cells with nothing to report are left out. -/
def gridExport (source : GridSource κ β) (sheetName range : String) :
    Except String (GridPayload κ β) := do
  let sheets ← source.workbook
  let bounds ← required (Analysis.parseRange range) ("invalid range: " ++ range)
  let sheet ← required (sheets sheetName) ("sheet " ++ sheetName ++ " not found")
  pure {
    sheet := sheetName
    anchor := String.ofList (Sheets.columnName 8 bounds.minCol) ++ toString bounds.minRow
    hints := sheet.hints bounds
    rows := ((between bounds.minRow bounds.maxRow).map (gridRow sheet bounds)).filter (· ≠ []) }

/-- Every cell of the rows, with what is reported of it. -/
def populatedRows (rows : List (List (GridCell κ))) (height width : Nat) :
    List (List (GridCell κ)) :=
  (between 0 height).map fun row => (between 0 width).map fun column =>
    (rows.flatten.reverse.find? fun cell => cell.offset = (row, column)).getD
      ⟨(row, column), none⟩

def gridPageSize (request : ExportGridRequest) : Nat :=
  min (max (request.pageSize.getD 500) 1) 5000

variable (codec : ReadCodec) (source : GridSource κ β) (request : ExportGridRequest)
  (revisionId : String)

def startRow (range : CellRange) : Checked ReadError Nat :=
  match request.cursor with
  | none => .ok range.r1
  | some value => do
    let cursor ← decodedCursor (decodeReadCursor codec value)
    ReadCellsCursor.nextRow <$> faultless (boundCursor cursor revisionId
      (source.digest request.sheetName request.range) "export_grid request")

def gridEnd (range : CellRange) (start : Nat) : Nat :=
  min range.r2 (saturatingAdd start (gridPageSize request) - 1)

def nextGridCursor (range : CellRange) (stop : Nat) : Checked ReadError (Option String) :=
  if stop < range.r2 then
    (fun next => some (encodeReadCursor codec
      ⟨revisionId, source.digest request.sheetName request.range, 0, next⟩)) <$>
        checkedAdd maxRow stop 1
  else .ok none

def operationFailed (message : String) : ReadError := ⟨.operationFailed, message, none⟩

def exportRows (range : CellRange) (start : Nat) : Checked ReadError (ExportGridData κ β) := do
  let stop := gridEnd request range start
  let returnedRange := rangeString range.c1 start range.c2 stop
  let grid ← faultless ((gridExport source request.sheetName returnedRange).mapError operationFailed)
  let height ← checkedSub stop start
  let width ← checkedSub range.c2 range.c1
  let nextCursor ← nextGridCursor codec source request revisionId range stop
  pure {
    requestedRange := request.range
    returnedRange := returnedRange
    grid := { grid with rows := populatedRows grid.rows height width }
    complete := nextCursor.isNone
    nextCursor := nextCursor }

def executeExportGrid : Checked ReadError (ExportGridData κ β) := do
  let range ← faultless ((parseRange request.range).mapError fun message =>
    (⟨.invalidRequest, message, some "$.range"⟩ : ReadError))
  let start ← startRow codec source request revisionId range
  exportRows codec source request revisionId range start

end Export

/-! ### The text of a range is read again -/

section Ranges
variable {letters digits : List Char}

def cornerText (column row : Nat) : List Char := Sheets.columnName 8 column ++ Nat.toDigits 10 row

theorem digit_plain {c : Char} (h : c.isDigit = true) : c.isAlpha = false ∧ c ≠ '$' := by
  constructor
  · exact not_isAlpha_of_isDigit h
  · intro hdollar
    rw [hdollar] at h
    exact absurd h (by decide)

theorem cornerText_plain {column row : Nat} :
    ∀ c ∈ cornerText column row, c.isAlphanum = true := by
  intro c hc
  rcases List.mem_append.mp hc with hc | hc
  · have halpha := isAlpha_of_isUpper (Sheets.columnName_upper 8 column c hc)
    simp [Char.isAlphanum, halpha]
  · have hdigit := Nat.isDigit_of_mem_toDigits (by decide) (by decide) hc
    simp [Char.isAlphanum, hdigit]

theorem takeWhile_letters (hletters : ∀ c ∈ letters, c.isAlpha = true)
    (hdigits : ∀ c ∈ digits, c.isAlpha = false) :
    (letters ++ digits).takeWhile Char.isAlpha = letters ∧
      (letters ++ digits).dropWhile Char.isAlpha = digits := by
  rw [List.takeWhile_append_of_pos hletters, List.dropWhile_append_of_pos hletters]
  cases digits with
  | nil => simp
  | cons c rest => simp [hdigits c List.mem_cons_self]

theorem dropDollar_plain {text : List Char} (h : '$' ∉ text) : Analysis.dropDollar text = text := by
  unfold Analysis.dropDollar
  split
  · exact absurd List.mem_cons_self h
  · rfl

/-- Letters of a column that is a number of 32 bits are read. -/
theorem foldlM_columnDigit {start : Nat} (hupper : ∀ c ∈ letters, c.isUpper = true)
    (hbound : letters.foldl (fun value c => value * 26 + (c.toNat - 'A'.toNat + 1)) start < 2 ^ 32) :
    letters.foldlM Analysis.columnDigit start =
      some (letters.foldl (fun value c => value * 26 + (c.toNat - 'A'.toNat + 1)) start) := by
  induction letters generalizing start with
  | nil => rfl
  | cons c rest ih =>
    have hgrows (start : Nat) : start ≤
        rest.foldl (fun value c => value * 26 + (c.toNat - 'A'.toNat + 1)) start := by
      clear ih hbound hupper
      induction rest generalizing start with
      | nil => exact Nat.le_refl _
      | cons d rest ih =>
        rw [List.foldl_cons]
        exact Nat.le_trans (by omega) (ih _)
    rw [List.foldl_cons] at hbound ⊢
    have hnext := Nat.lt_of_le_of_lt (hgrows _) hbound
    rw [List.foldlM_cons]
    unfold Analysis.columnDigit
    dsimp only
    rw [toUpper_of_isUpper (hupper c List.mem_cons_self), if_pos hnext]
    exact ih (fun d hd => hupper d (List.mem_cons_of_mem _ hd)) hbound

theorem parseAddress_corner {column row : Nat} (hcolumn : 0 < column) (hwide : column ≤ maxRow)
    (hlong : row ≤ maxRow) : Analysis.parseAddress (String.ofList (cornerText column row)) =
      if 0 < row then some (column, row) else none := by
  have hmax : maxRow < 2 ^ 32 := by decide
  have hindex := Sheets.columnIndex_columnName 8 column
    (Nat.lt_trans (Nat.lt_of_le_of_lt hwide hmax) (by decide))
  have hupper := Sheets.columnName_upper 8 column
  have hletters : Sheets.columnName 8 column ≠ [] := by
    intro hnil
    rw [hnil] at hindex
    change 0 = column at hindex
    omega
  have hdigits : ∀ c ∈ Nat.toDigits 10 row, c.isDigit = true :=
    fun c hc => Nat.isDigit_of_mem_toDigits (by decide) (by decide) hc
  have htrim : Legacy.trim (String.ofList (cornerText column row)) =
      String.ofList (cornerText column row) := by
    apply Legacy.trim_of_valid
    unfold Legacy.validSessionId
    have hne : String.ofList (cornerText column row) ≠ "" := by
      intro h
      have hlist := congrArg String.toList h
      rw [String.toList_ofList] at hlist
      exact hletters (List.append_eq_nil_iff.mp hlist).1
    have hall : (cornerText column row).all (fun c => c.isAlphanum || c == '_' || c == '-') = true := by
      rw [List.all_eq_true]
      intro c hc
      simp [cornerText_plain c hc]
    rw [String.toList_ofList, hall]
    simp [hne]
  have hplain : '$' ∉ cornerText column row := fun h => absurd (cornerText_plain _ h) (by decide)
  have hparts := @takeWhile_letters (Sheets.columnName 8 column) (Nat.toDigits 10 row)
    (fun c hc => isAlpha_of_isUpper (hupper c hc)) fun c hc => (digit_plain (hdigits c hc)).1
  have hcolumn : (Sheets.columnName 8 column).foldlM Analysis.columnDigit 0 = some column := by
    unfold Sheets.columnIndex at hindex
    rw [foldlM_columnDigit hupper (by rw [hindex]; exact Nat.lt_of_le_of_lt hwide hmax), hindex]
  have hrow : Analysis.parseU32 (Nat.toDigits 10 row) = some row := by
    simpa [Analysis.parseU32, Nat.toDigits_ne_nil, Nat.ofDigitChars_ten_toDigits] using
      ⟨hdigits, Nat.lt_of_le_of_lt hlong hmax⟩
  unfold Analysis.parseAddress
  rw [htrim, String.toList_ofList]
  dsimp only
  rw [dropDollar_plain hplain]
  unfold cornerText
  rw [hparts.1, hparts.2, dropDollar_plain fun h => (digit_plain (hdigits _ h)).2 rfl, hcolumn, hrow]
  simp [hletters]

theorem rangeString_toList (c1 r1 c2 r2 : Nat) :
    (rangeString c1 r1 c2 r2).toList = cornerText c1 r1 ++ ':' :: cornerText c2 r2 := by
  simp [rangeString, cornerText, Analysis.toString_digits]

theorem parseRange_rangeString {range : CellRange} {r1 r2 : Nat} (hcolumn : 0 < range.c1)
    (hcolumns : range.c1 ≤ range.c2) (hwide : range.c2 ≤ maxRow) (hr1 : r1 ≤ maxRow)
    (hr2 : r2 ≤ maxRow) : Analysis.parseRange (rangeString range.c1 r1 range.c2 r2) =
      if 0 < r1 ∧ 0 < r2 then some ⟨range.c1, min r1 r2, range.c2, max r1 r2⟩ else none := by
  have hcolon (column row : Nat) : ':' ∉ cornerText column row :=
    fun h => absurd (cornerText_plain _ h) (by decide)
  unfold Analysis.parseRange
  rw [rangeString_toList, List.splitOn_append_cons_self_of_not_mem (hcolon _ _),
    List.splitOn_eq_singleton (hcolon _ _)]
  dsimp only [bind, Option.bind]
  rw [parseAddress_corner hcolumn (by omega) hr1, parseAddress_corner (by omega) hwide hr2]
  by_cases hfirst : 0 < r1
  · by_cases hsecond : 0 < r2
    · simp [hfirst, hsecond, hcolumns]
    · simp [hfirst, hsecond]
  · simp [hfirst]

end Ranges

/-! ### Faults of an export -/

section Faults
variable {κ β : Type} (codec : ReadCodec) (source : GridSource κ β) (request : ExportGridRequest)
  (revisionId : String)

def StartsFrom (range : CellRange) (start : Nat) : Prop :=
  match request.cursor with
  | none => start = range.r1
  | some value => ∃ cursor, Spells codec "rc1_" value cursor ∧ cursor.revisionId = revisionId ∧
      cursor.fingerprint = source.digest request.sheetName request.range ∧ start = cursor.nextRow

def Exported : Prop :=
  ∃ sheets sheet, source.workbook = .ok sheets ∧ sheets request.sheetName = some sheet

/-- The cursor is cut within a character, or its row is after the range or the last there can be. -/
def FaultyExport : Prop :=
  ∃ range, parseRange request.range = .ok range ∧
    ((∃ value, request.cursor = some value ∧ CutsCursor "rc1_" value) ∨
      ∃ start, StartsFrom codec source request revisionId range start ∧ Exported source request ∧
        0 < start ∧ (range.r2 < start ∨ start = maxRow))

variable {codec source request revisionId} {range : CellRange} {start : Nat}

theorem startRow_eq_ok : startRow codec source request revisionId range = .ok start ↔
    StartsFrom codec source request revisionId range start := by
  unfold startRow StartsFrom
  split
  · simp [eq_comm]
  · rename_i value _
    have hspells (cursor : ReadCellsCursor) : decodeReadCursor codec value = .ok cursor ↔
        Spells codec "rc1_" value cursor := decodeAfter_eq_ok _ _ _ _
    simp only [bind_eq_ok, decodedCursor_eq_ok, hspells, map_eq_ok, faultless_eq_ok,
      boundCursor_eq_ok]
    constructor
    · rintro ⟨cursor, hcursor, bound, ⟨hbound, hrevision, hfingerprint⟩, hstart⟩
      exact ⟨cursor, hcursor, hrevision, hfingerprint, by rw [← hstart, hbound]⟩
    · rintro ⟨cursor, hcursor, hrevision, hfingerprint, hstart⟩
      exact ⟨cursor, hcursor, cursor, ⟨rfl, hrevision, hfingerprint⟩, hstart.symm⟩

theorem calm_startRow : Calm (startRow codec source request revisionId range) ↔
    ¬ ∃ value, request.cursor = some value ∧ CutsCursor "rc1_" value := by
  unfold startRow
  split
  · simp [*]
  · rename_i value hvalue
    have hdecode : Calm (decodeReadCursor codec value) ↔ ¬ CutsCursor "rc1_" value :=
      calm_decodeAfter _ _ _
    rw [calm_bind, calm_decodedCursor, hdecode]
    simp [calm_map, calm_faultless, hvalue]

theorem startsFrom_le (hlong : range.r1 ≤ maxRow)
    (h : StartsFrom codec source request revisionId range start) : start ≤ maxRow := by
  unfold StartsFrom at h
  split at h
  · omega
  · obtain ⟨cursor, ⟨_, _, _, _, _, hslice⟩, _, _, hstart⟩ := h
    rw [hstart]
    exact (codec.fromSlice_valid _ _ hslice).2

theorem gridPageSize_pos (request : ExportGridRequest) : 0 < gridPageSize request := by
  unfold gridPageSize
  omega

theorem gridEnd_bounds (hfirst : 0 < range.r2) (hlong : range.r2 ≤ maxRow) :
    gridEnd request range start ≤ maxRow ∧ (0 < start → 0 < gridEnd request range start) := by
  have hsize := gridPageSize_pos request
  have hlarge : 2 ≤ maxRow := by
    unfold maxRow
    omega
  unfold gridEnd saturatingAdd
  omega

theorem gridEnd_lt (hstart : start ≤ maxRow) :
    gridEnd request range start < start ↔ 0 < start ∧ (range.r2 < start ∨ start = maxRow) := by
  have hsize := gridPageSize_pos request
  unfold gridEnd saturatingAdd
  omega

/-- The text of a page's range is read, and the sheet found, before its rows are counted. -/
theorem gridExport_isOk (hcolumn : 0 < range.c1) (hcolumns : range.c1 ≤ range.c2)
    (hwide : range.c2 ≤ maxRow) (hfirst : 0 < range.r2) (hlong : range.r2 ≤ maxRow)
    (hstart : start ≤ maxRow) :
    (∃ grid, gridExport source request.sheetName (rangeString range.c1 start range.c2
      (gridEnd request range start)) = .ok grid) ↔ Exported source request ∧ 0 < start := by
  have hend := @gridEnd_bounds request range start hfirst hlong
  have hread : ∀ bounds, Analysis.parseRange (rangeString range.c1 start range.c2
      (gridEnd request range start)) = some bounds → 0 < start := by
    intro bounds h
    rw [parseRange_rangeString hcolumn hcolumns hwide hstart hend.1] at h
    by_cases hpos : 0 < start
    · exact hpos
    · simp [hpos] at h
  unfold gridExport Exported
  simp only [bind_eq_ok, required_eq_ok, pure_eq_ok]
  constructor
  · rintro ⟨_, sheets, hsheets, bounds, hbounds, sheet, hsheet, _⟩
    exact ⟨⟨sheets, sheet, hsheets, hsheet⟩, hread bounds hbounds⟩
  · rintro ⟨⟨sheets, sheet, hsheets, hsheet⟩, hpos⟩
    have hbounds := parseRange_rangeString hcolumn hcolumns hwide hstart hend.1
    rw [if_pos ⟨hpos, hend.2 hpos⟩] at hbounds
    exact ⟨_, sheets, hsheets, _, hbounds, sheet, hsheet, rfl⟩

theorem calm_nextGridCursor {stop : Nat} (hlong : range.r2 ≤ maxRow) :
    Calm (nextGridCursor codec source request revisionId range stop) := by
  unfold nextGridCursor
  split
  · rw [calm_map, calm_checkedAdd]
    omega
  · exact calm_ok _

/-- The rows of a page are counted without a fault where it ends no earlier than it starts. -/
theorem calm_exportRows (hcolumn : 0 < range.c1) (hcolumns : range.c1 ≤ range.c2)
    (hwide : range.c2 ≤ maxRow) (hfirst : 0 < range.r2) (hlong : range.r2 ≤ maxRow)
    (hstart : start ≤ maxRow) :
    Calm (exportRows codec source request revisionId range start) ↔
      ¬ (Exported source request ∧ 0 < start ∧ (range.r2 < start ∨ start = maxRow)) := by
  have hok := @gridExport_isOk κ β source request range start hcolumn hcolumns hwide hfirst hlong
    hstart
  have hend := @gridEnd_lt request range start hstart
  unfold exportRows
  dsimp only
  rw [calm_bind, iff_true_intro (calm_faultless _), true_and]
  cases hexport : gridExport source request.sheetName (rangeString range.c1 start range.c2
      (gridEnd request range start)) with
  | error message =>
    rw [hexport] at hok
    simp only [reduceCtorEq, exists_false, false_iff] at hok
    simp only [Except.mapError, faultless_error, reduceCtorEq, false_imp_iff, implies_true, true_iff]
    exact fun h => hok ⟨h.1, h.2.1⟩
  | ok grid =>
    rw [hexport] at hok
    have hexported := hok.mp ⟨grid, rfl⟩
    simp only [Except.mapError, faultless_ok, Except.ok.injEq, forall_eq', calm_bind,
      calm_checkedSub, checkedSub_of_le hcolumns, hcolumns, true_and, calm_nextGridCursor hlong,
      calm_ok, pure, Except.pure, implies_true, and_true]
    rw [← Nat.not_lt, hend]
    simp [hexported.1]

theorem calm_executeExportGrid : Calm (executeExportGrid codec source request revisionId) ↔
    ¬ FaultyExport codec source request revisionId := by
  unfold executeExportGrid FaultyExport
  rw [calm_bind, iff_true_intro (calm_faultless _), true_and]
  cases hrange : parseRange request.range with
  | error message => simp [Except.mapError]
  | ok range =>
    have hordered := parseRange_ordered hrange
    have hbounds := parseRange_bounds hrange
    simp only [Except.mapError, faultless_ok, Except.ok.injEq, forall_eq', exists_eq_left']
    rw [calm_bind, calm_startRow, not_or]
    apply and_congr_right
    intro _
    simp only [startRow_eq_ok, not_exists, not_and]
    apply forall₂_congr
    intro start hstart
    rw [calm_exportRows hbounds.1 hordered.1 hbounds.2.1 (by omega) hbounds.2.2
      (startsFrom_le (by omega) hstart)]
    simp only [not_and]

end Faults

end AgentSpreadsheet.Reads
