import AgentSpreadsheet.Reads.Cursors

/-! Reading cells with the sums, differences and slices of the code as it checks them. A cursor
is any that decodes, so its row is any number of 32 bits. -/
namespace AgentSpreadsheet.Reads
open Library

/-- The cursors of a reader are those of the codec. -/
def CellsReader.withCodec {κ : Type} (reader : CellsReader κ)
    (codec : ReadCodec) : CellsReader κ :=
  { reader with toVec := codec.toVec, fromSlice := codec.fromSlice }

def boundCursor (cursor : ReadCellsCursor) (revisionId fingerprint invariant : String) :
    Except ReadError ReadCellsCursor :=
  if cursor.revisionId ≠ revisionId then
    .error ⟨.staleCursor, "cursor is bound to a different resource revision", some "$.cursor"⟩
  else if cursor.fingerprint ≠ fingerprint then
    .error ⟨.cursorMismatch, "cursor does not match the " ++ invariant, some "$.cursor"⟩
  else .ok cursor

def decodedCursor (decoded : Checked String α) : Checked ReadError α :=
  match decoded with
  | .ok cursor => .ok cursor
  | .error (.refused message) => .error (.refused ⟨.invalidRequest, message, some "$.cursor"⟩)
  | .error .panicked => .error .panicked

/-! ### Budgets -/

section Budget
variable {κ : Type} (blockLength : ReadCellsBlock κ → Nat)

def firstRowChecked (availableRows cellsPerRow : Nat) (maxCells maxPayloadBytes : Option Nat)
    (buildBlock : Nat → Checked ReadError (ReadCellsBlock κ)) : Checked ReadError Bool :=
  if availableRows = 0 then .ok true
  else if maxCells.all (cellsPerRow ≤ ·) then
    (fun block => fitsPayload blockLength maxPayloadBytes [block]) <$> buildBlock 1
  else .ok false

def canonicalBudgetChecked (availableRows cellsPerRow cellsAlreadyEmitted : Nat)
    (maxCells maxPayloadBytes : Option Nat) (existingBlocks : List (ReadCellsBlock κ))
    (buildBlock : Nat → Checked ReadError (ReadCellsBlock κ)) :
    Checked ReadError CanonicalBudgetDecision := do
  let high := cellLimitedRows availableRows cellsPerRow cellsAlreadyEmitted maxCells
  let rows ← checkedBisect (fun count =>
    (fun block => fitsPayload blockLength maxPayloadBytes (existingBlocks ++ [block])) <$>
      buildBlock count) high 0 high
  let firstRowFits ← firstRowChecked blockLength availableRows cellsPerRow maxCells
    maxPayloadBytes buildBlock
  pure ⟨rows, firstRowFits⟩

variable {blockLength} {maxCells maxPayloadBytes : Option Nat}
  {existing : List (ReadCellsBlock κ)} {available cellsPerRow emitted : Nat}
  {checkedBlock : Nat → Checked ReadError (ReadCellsBlock κ)} {buildBlock : Nat → ReadCellsBlock κ}

/-- Blocks of the rows there are are built without a fault. -/
theorem canonicalBudgetChecked_eq
    (h : ∀ count, 0 < count → count ≤ available → checkedBlock count = .ok (buildBlock count)) :
    canonicalBudgetChecked blockLength available cellsPerRow emitted maxCells maxPayloadBytes
      existing checkedBlock = .ok (canonicalBudgetDecision blockLength available cellsPerRow
        emitted maxCells maxPayloadBytes existing buildBlock) := by
  have hlimited : cellLimitedRows available cellsPerRow emitted maxCells ≤ available :=
    cellLimitedRows_le
  have hfirst : firstRowChecked blockLength available cellsPerRow maxCells maxPayloadBytes
      checkedBlock = .ok (decide (available = 0) || (maxCells.all (cellsPerRow ≤ ·) &&
        fitsPayload blockLength maxPayloadBytes [buildBlock 1])) := by
    unfold firstRowChecked
    by_cases hnone : available = 0
    · simp [hnone]
    · rw [if_neg hnone, h 1 (by decide) (by omega)]
      split
      · rename_i hcells
        simp [hnone, hcells, Functor.map, Except.map]
      · rename_i hcells
        simp [hnone, hcells]
  unfold canonicalBudgetChecked canonicalBudgetDecision
  dsimp only
  rw [checkedBisect_eq (fun count hpos hle => by rw [h count hpos (Nat.le_trans hle hlimited)]; rfl)
    _ (Nat.le_refl _), hfirst]
  rfl

end Budget

/-! ### Pages -/

section Read
variable {κ : Type} (codec : ReadCodec) (reader : CellsReader κ)
  (request : ReadCellsRequest) (maxCells maxPayloadBytes : Option Nat)

def requestedPlaceChecked (revisionId : String) : Checked ReadError (Option ReadCellsCursor) :=
  match requestedCursor request with
  | none => .ok none
  | some value => do
    let cursor ← decodedCursor (decodeReadCursor codec value)
    some <$> faultless (boundCursor cursor revisionId (fingerprintReadCells reader request)
      "invariant read_cells request")

def rangeBlockChecked (index : Nat) (requestedRange : String) (c1 c2 r1 : Nat)
    (snapshots : List (RowSnapshot κ)) (count : Nat) : Checked ReadError (ReadCellsBlock κ) := do
  let sum ← checkedAdd maxRow r1 count
  let returnedEnd ← checkedSub sum 1
  let shown ← sliceTo snapshots count
  pure {
    selectionIndex := index
    requestedRange := requestedRange
    returnedRange := rangeString c1 r1 c2 returnedEnd
    rowCount := count
    columnCount := c2 - c1 + 1
    rowIndices := none
    payload := .range (requestedEncoding request) (rangeString c1 r1 c2 returnedEnd) shown
      request.formulas request.detailed }

def pushRangeChecked (range : CellRange) (r1 columnCount rows : Nat)
    (buildBlock : Nat → Checked ReadError (ReadCellsBlock κ)) (emitted : Emitted κ) :
    Checked ReadError (RangeEnd κ) := do
  let sum ← checkedAdd maxRow r1 rows
  let returnedEnd ← checkedSub sum 1
  let block ← buildBlock rows
  let emitted : Emitted κ := {
    blocks := emitted.blocks ++ [block]
    rowsReturned := emitted.rowsReturned + rows
    cellsReturned := emitted.cellsReturned + rows * columnCount }
  if returnedEnd < range.r2 then RangeEnd.paused emitted <$> checkedAdd maxRow returnedEnd 1
  else .ok (.done emitted)

def readRangeChecked (index : Nat) (requestedRange : String) (range : CellRange) (r1 : Nat)
    (emitted : Emitted κ) : Checked ReadError (RangeEnd κ) :=
  if range.r2 < r1 then .ok .skipped
  else do
    let remaining ← checkedSub (requestedPageSize request) emitted.rowsReturned
    let candidateEnd := min range.r2 (saturatingAdd r1 remaining - 1)
    let snapshots ← faultless (withSheet reader request fun sheet =>
      (between r1 candidateEnd).map (rangeRow request sheet range))
    let width ← checkedSub range.c2 range.c1
    let columnCount ← checkedAdd maxRow width 1
    let buildBlock := rangeBlockChecked request index requestedRange range.c1 range.c2 r1 snapshots
    let decision ← canonicalBudgetChecked reader.blockLength snapshots.length columnCount
      emitted.cellsReturned maxCells maxPayloadBytes emitted.blocks buildBlock
    if decision.rows = 0 then
      if decision.firstRowFits then .ok (.paused emitted r1)
      else .error (.refused (rowExceedsBudget r1 "$.selection.ranges"))
    else pushRangeChecked range r1 columnCount decision.rows buildBlock emitted

def readRangesChecked (index : Nat) (cursorRow : Option Nat) (emitted : Emitted κ) :
    List String → Checked ReadError (Emitted κ × Option (Nat × Nat))
  | [] => .ok (emitted, none)
  | requestedRange :: rest =>
    if requestedPageSize request ≤ emitted.rowsReturned then .ok (emitted, none)
    else do
      let range ← faultless (parsedRange requestedRange)
      let stop ← readRangeChecked reader request maxCells maxPayloadBytes index requestedRange range
        (cursorRow.getD range.r1) emitted
      match stop with
      | .skipped => readRangesChecked (index + 1) none emitted rest
      | .paused emitted nextRow => pure (emitted, some (index, nextRow))
      | .done emitted =>
        match rest with
        | [] => pure (emitted, none)
        | next :: _ =>
          if requestedPageSize request ≤ emitted.rowsReturned then do
            let range ← faultless (parsedRange next)
            pure (emitted, some (index + 1, range.r1))
          else readRangesChecked (index + 1) none emitted rest

def pageEndChecked (startRow pageSize highestRow : Nat) : Checked ReadError Nat := do
  let sum ← checkedAdd maxRow startRow pageSize
  let last ← checkedSub sum 1
  pure (min last (max highestRow startRow))

def sheetRowsChecked (sheet : SheetView κ) (columns : Option RowColumnSelection)
    (startRow pageSize : Nat) : Checked ReadError (List (RowSnapshot κ)) := do
  let last ← pageEndChecked (max startRow 1) (min pageSize 500) sheet.highestRow
  pure ((between (max startRow 1) last).map (sheetRow request sheet columns))

def rowsBlockChecked (startRow rowCount : Nat) (includeHeader : Bool)
    (header : Option (RowSnapshot κ)) (currentRow : Nat) (snapshots : List (RowSnapshot κ))
    (count : Nat) : Checked ReadError (ReadCellsBlock κ) := do
  let _ ← sliceTo snapshots count
  pure (rowsBlock request startRow rowCount includeHeader header currentRow snapshots count)

def withSheetChecked (f : SheetView κ → Checked ReadError α) : Checked ReadError α := do
  let sheet ← faultless (withSheet reader request id)
  f sheet

def rowSnapshotsChecked (columns : Option RowColumnSelection) (includeHeader : Bool)
    (currentRow remaining : Nat) :
    Checked ReadError (Option (RowSnapshot κ) × List (RowSnapshot κ)) :=
  withSheetChecked reader request fun sheet =>
    (fun rows => (sheetHeader request sheet columns includeHeader, rows)) <$>
      sheetRowsChecked request sheet columns currentRow remaining

def emitRowsChecked (startRow rowCount currentRow rows columnCount : Nat)
    (header : Option (RowSnapshot κ))
    (buildBlock : Nat → Checked ReadError (ReadCellsBlock κ)) :
    Checked ReadError (Option (RowSnapshot κ) × Emitted κ × Option (Nat × Nat)) := do
  let block ← buildBlock rows
  let returnedEnd := (block.rowIndices.bind List.getLast?).getD currentRow
  let emitted : Emitted κ := ⟨[block], rows, rows * columnCount⟩
  if returnedEnd < finalRow startRow rowCount then
    (fun next => (header, emitted, some (0, next))) <$> checkedAdd maxRow returnedEnd 1
  else .ok (header, emitted, none)

def readRowsChecked (startRow rowCount : Nat) (columns : Option RowColumnSelection)
    (includeHeader : Bool) (currentRow : Nat) :
    Checked ReadError (Option (RowSnapshot κ) × Emitted κ × Option (Nat × Nat)) := do
  let remaining := min (saturatingAdd (finalRow startRow rowCount - currentRow) 1)
    (requestedPageSize request)
  let (header, snapshots) ← rowSnapshotsChecked reader request columns includeHeader currentRow
    remaining
  let columnCount := (snapshots.head?.map fun row => row.cells.length).getD 0
  let buildBlock := rowsBlockChecked request startRow rowCount includeHeader header currentRow
    snapshots
  let decision ← canonicalBudgetChecked reader.blockLength snapshots.length columnCount 0
    maxCells maxPayloadBytes [] buildBlock
  if decision.rows = 0 ∧ 0 < remaining then
    .error (.refused (rowExceedsBudget currentRow "$.selection"))
  else emitRowsChecked startRow rowCount currentRow decision.rows columnCount header buildBlock

def currentRow (cursor : Option ReadCellsCursor) (startRow : UInt32) : Nat :=
  (cursor.map ReadCellsCursor.nextRow).getD (max startRow.toNat 1)

def readSelectionChecked (cursor : Option ReadCellsCursor) :
    Checked ReadError (Option (RowSnapshot κ) × Emitted κ × Option (Nat × Nat)) :=
  match request.selection with
  | .range ranges _ => do
    faultless (ensure (ranges ≠ []) (⟨.invalidRequest, "selection.ranges must not be empty",
      some "$.selection.ranges"⟩ : ReadError))
    let startIndex := (cursor.map ReadCellsCursor.selectionIndex).getD 0
    let (emitted, place) ← readRangesChecked reader request maxCells maxPayloadBytes startIndex
      (cursor.map ReadCellsCursor.nextRow) {} (ranges.drop startIndex)
    pure (none, emitted, place)
  | .rows startRow rowCount columns includeHeader => do
    faultless (ensure (rowCount ≠ 0) (⟨.invalidRequest,
      "selection.row_count must be greater than zero",
      some "$.selection.row_count"⟩ : ReadError))
    readRowsChecked reader request maxCells maxPayloadBytes startRow.toNat rowCount.toNat columns
      (includeHeader.getD true) (currentRow cursor startRow)

def readCellsChecked (revisionId : String) : Checked ReadError (ReadCellsData κ) := do
  let cursor ← requestedPlaceChecked codec (reader.withCodec codec) request revisionId
  let (header, emitted, place) ← readSelectionChecked (reader.withCodec codec) request maxCells
    maxPayloadBytes cursor
  pure (readCellsData (reader.withCodec codec) request maxCells maxPayloadBytes revisionId header
    emitted place)

/-! ### Ranges without faults -/

variable {request reader maxCells maxPayloadBytes} {index : Nat} {requestedRange : String}
  {range : CellRange} {r1 : Nat} {emitted : Emitted κ}

theorem columnNumber_bounds {letters : List Char} {column : Nat} (hletters : letters ≠ [])
    (h : columnNumber letters = some column) : 0 < column ∧ column ≤ maxRow := by
  unfold columnNumber at h
  rw [← List.dropLast_append_getLast hletters, List.foldlM_append] at h
  simp only [List.foldlM_cons, List.foldlM_nil, Option.bind_eq_bind, Option.bind_eq_some_iff,
    Option.pure_def, Option.some.injEq, exists_eq_right] at h
  obtain ⟨before, -, hlast⟩ := h
  unfold pushLetter at hlast
  dsimp only at hlast
  split at hlast
  · injection hlast with hlast
    omega
  · contradiction

theorem parseCell_bounds {cell : String} {column row : Nat}
    (h : parseCell cell = some (column, row)) : 0 < column ∧ column ≤ maxRow ∧ row ≤ maxRow := by
  simp only [parseCell, Option.bind_eq_bind, Option.bind_eq_some_iff, ite_eq_iff, reduceCtorEq,
    and_false, false_or, Option.some.injEq, Prod.mk.injEq, not_or] at h
  obtain ⟨number, hnumber, hvalid, hcolumn, hrow⟩ := h
  have hbounds := columnNumber_bounds hvalid.1 hnumber
  omega

theorem parseRange_bounds {text : String} {range : CellRange} (h : parseRange text = .ok range) :
    0 < range.c1 ∧ range.c2 ≤ maxRow ∧ range.r2 ≤ maxRow := by
  simp only [parseRange, required_eq_ok, Option.bind_eq_bind, Option.bind_eq_some_iff,
    ite_eq_iff, reduceCtorEq, and_false, false_or, Option.some.injEq, not_or] at h
  obtain ⟨_, -, ⟨c1, r1⟩, hfirst, ⟨c2, r2⟩, hsecond, -, rfl⟩ := h
  have hone := parseCell_bounds hfirst
  have htwo := parseCell_bounds hsecond
  exact ⟨hone.1, htwo.2.1, htwo.2.2⟩

theorem rangeBlockChecked_eq {c1 c2 count : Nat} {snapshots : List (RowSnapshot κ)}
    (hpos : 0 < count) (hcount : count ≤ snapshots.length) (hlast : r1 + snapshots.length ≤ maxRow) :
    rangeBlockChecked request index requestedRange c1 c2 r1 snapshots count =
      .ok (rangeBlock request index requestedRange c1 c2 r1 snapshots count) := by
  unfold rangeBlockChecked
  rw [checkedAdd_of_le (by omega), sliceTo_of_le hcount]
  dsimp only [bind, Except.bind]
  rw [checkedSub_of_le (by omega)]
  rfl

theorem pushRangeChecked_eq {columnCount rows : Nat}
    {checkedBlock : Nat → Checked ReadError (ReadCellsBlock κ)} {block : ReadCellsBlock κ}
    (hpos : 0 < rows) (hsum : r1 + rows ≤ maxRow) (hblock : checkedBlock rows = .ok block) :
    pushRangeChecked range r1 columnCount rows checkedBlock emitted =
      faultless (if r1 + rows - 1 < range.r2 then .ok (.paused ⟨emitted.blocks ++ [block],
          emitted.rowsReturned + rows, emitted.cellsReturned + rows * columnCount⟩
            (r1 + rows - 1 + 1))
        else .ok (.done ⟨emitted.blocks ++ [block], emitted.rowsReturned + rows,
          emitted.cellsReturned + rows * columnCount⟩)) := by
  unfold pushRangeChecked
  rw [checkedAdd_of_le hsum]
  dsimp only [bind, Except.bind]
  rw [checkedSub_of_le (by omega), hblock]
  dsimp only
  split
  · rw [checkedAdd_of_le (by omega)]
    rfl
  · rfl

theorem readRangeChecked_eq (hcolumn : 0 < range.c1) (hcolumns : range.c1 ≤ range.c2)
    (hwide : range.c2 ≤ maxRow) (hlong : range.r2 ≤ maxRow)
    (hroom : emitted.rowsReturned < requestedPageSize request) :
    readRangeChecked reader request maxCells maxPayloadBytes index requestedRange range r1 emitted =
      faultless (readRange reader request maxCells maxPayloadBytes index requestedRange range r1
        emitted) := by
  unfold readRangeChecked readRange
  by_cases hempty : range.r2 < r1
  · rw [if_pos hempty, if_pos hempty]
    rfl
  rw [if_neg hempty, if_neg hempty, checkedSub_of_le (Nat.le_of_lt hroom)]
  dsimp only [bind, Except.bind]
  cases hsheet : reader.sheet request.sheetName with
  | none => simp [withSheet, hsheet]
  | some sheet =>
    simp only [withSheet, hsheet, faultless_ok]
    have hlength : r1 + ((between r1 (min range.r2 (saturatingAdd r1
        (requestedPageSize request - emitted.rowsReturned) - 1))).map
          (rangeRow request sheet range)).length ≤ maxRow := by
      have hsum := saturatingAdd_le r1 (requestedPageSize request - emitted.rowsReturned)
      rw [List.length_map, between_length]
      omega
    generalize (between r1 (min range.r2 (saturatingAdd r1
      (requestedPageSize request - emitted.rowsReturned) - 1))).map
        (rangeRow request sheet range) = snapshots at hlength ⊢
    rw [checkedSub_of_le hcolumns]
    dsimp only
    rw [checkedAdd_of_le (by omega)]
    dsimp only
    have hbuild (count : Nat) (hpos : 0 < count) (hcount : count ≤ snapshots.length) :=
      @rangeBlockChecked_eq κ request index requestedRange r1 range.c1 range.c2 count snapshots
        hpos hcount hlength
    rw [canonicalBudgetChecked_eq hbuild]
    dsimp only
    split
    · split <;> rfl
    · rename_i hrows
      have hle := @decision_rows_le κ reader.blockLength maxCells maxPayloadBytes emitted.blocks
        (rangeBlock request index requestedRange range.c1 range.c2 r1 snapshots) snapshots.length
          (range.c2 - range.c1 + 1) emitted.cellsReturned
      rw [pushRangeChecked_eq (Nat.pos_of_ne_zero hrows)
        (Nat.le_trans (Nat.add_le_add_left hle r1) hlength) (hbuild _ (Nat.pos_of_ne_zero hrows) hle)]
      rfl

theorem readRangesChecked_eq (ranges : List String) (cursorRow : Option Nat) :
    readRangesChecked reader request maxCells maxPayloadBytes index cursorRow emitted ranges =
      faultless (readRanges reader request maxCells maxPayloadBytes index cursorRow emitted ranges) := by
  induction ranges generalizing index cursorRow emitted with
  | nil => rfl
  | cons requestedRange rest ih =>
    unfold readRangesChecked readRanges
    by_cases hroom : requestedPageSize request ≤ emitted.rowsReturned
    · rw [if_pos hroom, if_pos hroom]
      rfl
    rw [if_neg hroom, if_neg hroom]
    cases hparsed : parsedRange requestedRange with
    | error e => rfl
    | ok range =>
      have hrange : parseRange requestedRange = .ok range := by
        unfold parsedRange at hparsed
        split at hparsed
        · injection hparsed with hparsed
          rw [← hparsed]
          assumption
        · contradiction
      have hordered := parseRange_ordered hrange
      have hbounds := parseRange_bounds hrange
      dsimp only [bind, Except.bind, faultless_ok]
      rw [readRangeChecked_eq hbounds.1 hordered.1 hbounds.2.1 hbounds.2.2 (by omega)]
      cases readRange reader request maxCells maxPayloadBytes index requestedRange range
          (cursorRow.getD range.r1) emitted with
      | error e => rfl
      | ok stop =>
        dsimp only [faultless_ok]
        cases stop with
        | skipped => exact ih none
        | paused emitted nextRow => rfl
        | done emitted =>
          cases rest with
          | nil => rfl
          | cons next rest =>
            dsimp only
            split
            · cases parsedRange next <;> rfl
            · exact ih none

/-! ### Rows without faults -/

theorem pageEndChecked_eq {startRow pageSize highestRow : Nat} (hpos : 0 < pageSize)
    (hlast : startRow + pageSize ≤ maxRow) :
    pageEndChecked startRow pageSize highestRow = .ok (pageEnd startRow pageSize highestRow) := by
  have hwrap : startRow + pageSize + maxRow = (startRow + pageSize - 1) + (maxRow + 1) := by omega
  unfold pageEndChecked pageEnd
  rw [checkedAdd_of_le hlast, hwrap, Nat.add_mod_right, Nat.mod_eq_of_lt (by omega)]
  dsimp only [bind, Except.bind]
  rw [checkedSub_of_le (by omega)]
  rfl

theorem pageEndChecked_panics {startRow pageSize highestRow : Nat}
    (hlast : maxRow < startRow + pageSize) :
    pageEndChecked startRow pageSize highestRow = .error .panicked := by
  unfold pageEndChecked checkedAdd
  rw [if_neg (by omega)]
  rfl

theorem rowsBlockChecked_eq {startRow rowCount count : Nat} {includeHeader : Bool}
    {header : Option (RowSnapshot κ)} {row : Nat} {snapshots : List (RowSnapshot κ)}
    (hcount : count ≤ snapshots.length) :
    rowsBlockChecked request startRow rowCount includeHeader header row snapshots count =
      .ok (rowsBlock request startRow rowCount includeHeader header row snapshots count) := by
  unfold rowsBlockChecked
  rw [sliceTo_of_le hcount]
  rfl

section Rows
variable {startRow rowCount row : Nat} {columns : Option RowColumnSelection} {includeHeader : Bool}

theorem finalRow_le : finalRow startRow rowCount < maxRow := by
  have hsum := saturatingAdd_le (max startRow 1) rowCount
  have hpos := maxRow_pos
  unfold finalRow
  omega

theorem remaining_bounds (hrow : row ≤ maxRow) :
    let remaining := min (saturatingAdd (finalRow startRow rowCount - row) 1)
      (requestedPageSize request)
    0 < remaining ∧ (max row 1 + min remaining 500 ≤ maxRow ↔ row ≠ maxRow) := by
  have hfinal := @finalRow_le startRow rowCount
  have hsize := requestedPageSize_bounds request
  have hlarge : 501 ≤ maxRow := by
    unfold maxRow
    omega
  dsimp only
  unfold saturatingAdd
  omega

theorem rowSnapshotsChecked_eq (hrow : row ≤ maxRow) (hbelow : row ≠ maxRow) :
    let remaining := min (saturatingAdd (finalRow startRow rowCount - row) 1)
      (requestedPageSize request)
    rowSnapshotsChecked reader request columns includeHeader row remaining =
      faultless (withSheet reader request fun sheet => (sheetHeader request sheet columns includeHeader,
        sheetRows request sheet columns row remaining)) := by
  have hremaining := @remaining_bounds request startRow rowCount row hrow
  dsimp only at hremaining ⊢
  unfold rowSnapshotsChecked withSheetChecked
  cases hsheet : reader.sheet request.sheetName with
  | none => simp [withSheet, hsheet, bind, Except.bind]
  | some sheet =>
    simp only [withSheet, hsheet, faultless_ok, bind, Except.bind, id]
    unfold sheetRowsChecked sheetRows
    rw [pageEndChecked_eq (by omega) (hremaining.2.mpr hbelow)]
    rfl

theorem emitRowsChecked_eq {columnCount rows : Nat} {header : Option (RowSnapshot κ)}
    {checkedBlock : Nat → Checked ReadError (ReadCellsBlock κ)} {block : ReadCellsBlock κ}
    (hblock : checkedBlock rows = .ok block) :
    emitRowsChecked startRow rowCount row rows columnCount header checkedBlock =
      .ok (header, ⟨[block], rows, rows * columnCount⟩,
        if (block.rowIndices.bind List.getLast?).getD row < finalRow startRow rowCount then
          some (0, (block.rowIndices.bind List.getLast?).getD row + 1) else none) := by
  have hfinal := @finalRow_le startRow rowCount
  unfold emitRowsChecked
  rw [hblock]
  dsimp only [bind, Except.bind]
  split
  · rw [checkedAdd_of_le (by omega)]
    rfl
  · rfl

theorem readRowsChecked_eq (hrow : row ≤ maxRow) (hbelow : row ≠ maxRow) :
    readRowsChecked reader request maxCells maxPayloadBytes startRow rowCount columns includeHeader
      row = faultless (readRows reader request maxCells maxPayloadBytes startRow rowCount columns
        includeHeader row) := by
  unfold readRowsChecked readRows
  dsimp only
  rw [rowSnapshotsChecked_eq hrow hbelow]
  cases withSheet reader request fun sheet => (sheetHeader request sheet columns includeHeader,
      sheetRows request sheet columns row (min (saturatingAdd (finalRow startRow rowCount - row) 1)
        (requestedPageSize request))) with
  | error e => rfl
  | ok both =>
    obtain ⟨header, snapshots⟩ := both
    dsimp only [bind, Except.bind, faultless_ok]
    rw [canonicalBudgetChecked_eq fun count _ hcount => rowsBlockChecked_eq hcount]
    dsimp only
    split
    · rfl
    · have hle := @decision_rows_le κ reader.blockLength maxCells maxPayloadBytes []
        (rowsBlock request startRow rowCount includeHeader header row snapshots) snapshots.length
          ((snapshots.head?.map fun row => row.cells.length).getD 0) 0
      rw [emitRowsChecked_eq (rowsBlockChecked_eq hle)]
      rfl

theorem readRowsChecked_panics {sheet : SheetView κ} (hrow : row = maxRow)
    (hsheet : reader.sheet request.sheetName = some sheet) :
    readRowsChecked reader request maxCells maxPayloadBytes startRow rowCount columns includeHeader
      row = .error .panicked := by
  have hremaining := @remaining_bounds request startRow rowCount row (Nat.le_of_eq hrow)
  unfold readRowsChecked rowSnapshotsChecked withSheetChecked
  dsimp only at hremaining ⊢
  simp only [withSheet, hsheet, faultless_ok, bind, Except.bind, id]
  unfold sheetRowsChecked
  rw [pageEndChecked_panics (by omega)]
  rfl

end Rows

/-! ### Calm pages -/

variable (reader request) in
/-- A page of rows would start from the last row there can be. -/
def StartsLast (cursor : Option ReadCellsCursor) : Prop :=
  (∃ sheet, reader.sheet request.sheetName = some sheet) ∧
    ∃ startRow rowCount columns includeHeader,
      request.selection = .rows startRow rowCount columns includeHeader ∧ rowCount ≠ 0 ∧
        currentRow cursor startRow = maxRow

theorem currentRow_le {cursor : Option ReadCellsCursor}
    (hcursor : ∀ c, cursor = some c → c.nextRow ≤ maxRow) (startRow : UInt32) :
    currentRow cursor startRow ≤ maxRow := by
  have hstart := toNat_le_maxRow startRow
  have hpos := maxRow_pos
  unfold currentRow
  cases cursor with
  | none =>
    change max startRow.toNat 1 ≤ maxRow
    omega
  | some c => exact hcursor c rfl

theorem readSelectionChecked_eq {cursor : Option ReadCellsCursor}
    (hcursor : ∀ c, cursor = some c → c.nextRow ≤ maxRow)
    (hbelow : ¬ StartsLast reader request cursor) :
    readSelectionChecked reader request maxCells maxPayloadBytes cursor =
      faultless (readSelection reader request maxCells maxPayloadBytes cursor) := by
  unfold readSelectionChecked readSelection
  cases hselection : request.selection with
  | range ranges includeHeaders =>
    dsimp only
    rw [readRangesChecked_eq]
    simp only [faultless_bind]
    rfl
  | rows startRow rowCount columns includeHeader =>
    dsimp only
    rw [faultless_bind]
    by_cases hcount : rowCount = 0
    · rw [ensure_neg (by simp [hcount])]
      rfl
    rw [ensure_pos hcount]
    dsimp only [bind, Except.bind, faultless_ok]
    by_cases hrow : currentRow cursor startRow = maxRow
    · have hnone : reader.sheet request.sheetName = none := by
        cases hsheet : reader.sheet request.sheetName with
        | none => rfl
        | some sheet => exact absurd ⟨⟨sheet, hsheet⟩, startRow, rowCount, columns, includeHeader,
            hselection, hcount, hrow⟩ hbelow
      simp [readRowsChecked, readRows, rowSnapshotsChecked, withSheetChecked, withSheet, hnone,
        bind, Except.bind]
    · exact readRowsChecked_eq (currentRow_le hcursor startRow) hrow

theorem calm_readSelectionChecked {cursor : Option ReadCellsCursor}
    (hcursor : ∀ c, cursor = some c → c.nextRow ≤ maxRow) :
    Calm (readSelectionChecked reader request maxCells maxPayloadBytes cursor) ↔
      ¬ StartsLast reader request cursor := by
  constructor
  · intro hcalm hlast
    obtain ⟨⟨sheet, hsheet⟩, startRow, rowCount, columns, includeHeader, hselection, hcount,
      hrow⟩ := hlast
    unfold readSelectionChecked at hcalm
    rw [hselection] at hcalm
    dsimp only at hcalm
    rw [ensure_pos hcount, calm_bind] at hcalm
    have hrows := hcalm.2 () rfl
    rw [readRowsChecked_panics hrow hsheet] at hrows
    exact not_calm_panicked hrows
  · intro hbelow
    rw [readSelectionChecked_eq hcursor hbelow]
    exact calm_faultless _

/-! ### Places -/

variable {codec : ReadCodec} {revisionId : String}

theorem decodedCursor_eq_ok {decoded : Checked String α} {cursor : α} :
    decodedCursor decoded = .ok cursor ↔ decoded = .ok cursor := by
  unfold decodedCursor
  split <;> simp

theorem calm_decodedCursor {decoded : Checked String α} :
    Calm (decodedCursor decoded) ↔ Calm decoded := by
  unfold decodedCursor
  split <;> simp

theorem boundCursor_eq_ok {cursor bound : ReadCellsCursor} {fingerprint invariant : String} :
    boundCursor cursor revisionId fingerprint invariant = .ok bound ↔
      cursor = bound ∧ cursor.revisionId = revisionId ∧ cursor.fingerprint = fingerprint := by
  unfold boundCursor
  split
  · simp [*]
  · split <;> simp_all

variable (codec reader request revisionId) in
/-- The place that the request names: none, or that of a cursor for this revision and request. -/
def NamesPlace (place : Option ReadCellsCursor) : Prop :=
  match requestedCursor request with
  | none => place = none
  | some value => ∃ cursor, place = some cursor ∧ Spells codec "rc1_" value cursor ∧
      cursor.revisionId = revisionId ∧ cursor.fingerprint = fingerprintReadCells reader request

theorem requestedPlaceChecked_eq_ok {place : Option ReadCellsCursor} :
    requestedPlaceChecked codec reader request revisionId = .ok place ↔
      NamesPlace reader request codec revisionId place := by
  unfold requestedPlaceChecked NamesPlace
  split
  · simp [eq_comm]
  · rename_i value _
    have hspells (cursor : ReadCellsCursor) : decodeReadCursor codec value = .ok cursor ↔
        Spells codec "rc1_" value cursor := decodeAfter_eq_ok _ _ _ _
    simp only [bind_eq_ok, decodedCursor_eq_ok, hspells, map_eq_ok, faultless_eq_ok, boundCursor_eq_ok]
    constructor
    · rintro ⟨cursor, hcursor, bound, ⟨hbound, hrevision, hfingerprint⟩, hplace⟩
      exact ⟨cursor, by rw [← hplace, hbound], hcursor, hrevision, hfingerprint⟩
    · rintro ⟨cursor, hplace, hcursor, hrevision, hfingerprint⟩
      exact ⟨cursor, hcursor, cursor, ⟨rfl, hrevision, hfingerprint⟩, hplace.symm⟩

theorem calm_requestedPlaceChecked : Calm (requestedPlaceChecked codec reader request revisionId) ↔
    ¬ ∃ value, requestedCursor request = some value ∧ CutsCursor "rc1_" value := by
  unfold requestedPlaceChecked
  split
  · simp [*]
  · rename_i value hvalue
    have hdecode : Calm (decodeReadCursor codec value) ↔ ¬ CutsCursor "rc1_" value :=
      calm_decodeAfter _ _ _
    rw [calm_bind, calm_decodedCursor, hdecode]
    simp [calm_map, calm_faultless, hvalue]

variable (codec reader request revisionId) in
/-- The cursor is cut within a character, or the place is the last row there can be. -/
def FaultyRead : Prop :=
  (∃ value, requestedCursor request = some value ∧ CutsCursor "rc1_" value) ∨
    ∃ place, NamesPlace reader request codec revisionId place ∧ StartsLast reader request place

theorem namesPlace_le {place : Option ReadCellsCursor}
    (h : NamesPlace reader request codec revisionId place) :
    ∀ c, place = some c → c.nextRow ≤ maxRow := by
  intro c hplace
  unfold NamesPlace at h
  split at h
  · rw [h] at hplace
    contradiction
  · obtain ⟨cursor, hcursor, ⟨_, _, _, _, _, hslice⟩, _⟩ := h
    rw [hplace] at hcursor
    injection hcursor with hcursor
    rw [hcursor]
    exact (codec.fromSlice_valid _ _ hslice).2

/-- A page of cells or an error, exactly where the read is not faulty. -/
theorem calm_readCellsChecked :
    Calm (readCellsChecked codec reader request maxCells maxPayloadBytes revisionId) ↔
      ¬ FaultyRead reader request codec revisionId := by
  change _ ↔ ¬ FaultyRead (reader.withCodec codec) request codec revisionId
  unfold readCellsChecked FaultyRead
  rw [calm_bind, calm_requestedPlaceChecked, not_or]
  apply and_congr_right
  intro _
  simp only [requestedPlaceChecked_eq_ok, calm_bind, not_exists, not_and]
  apply forall₂_congr
  intro place hplace
  rw [calm_readSelectionChecked (namesPlace_le hplace)]
  exact and_iff_left fun _ _ => calm_ok _

theorem decodeCursor_of_spells {value : String} {cursor : ReadCellsCursor}
    (h : Spells codec "rc1_" value cursor) :
    decodeCursor (reader.withCodec codec) value = .ok cursor := by
  obtain ⟨hex, bytes, hvalue, heven, hbytes, hslice⟩ := h
  have hdrop : value.toList.drop 4 = hex := by
    rw [hvalue]
    exact List.drop_left' rfl
  have hslice : (reader.withCodec codec).fromSlice bytes = some cursor := hslice
  unfold decodeCursor
  rw [if_pos (List.isPrefixOf_iff_prefix.mpr ⟨hex, hvalue.symm⟩)]
  dsimp only
  rw [hdrop, if_neg (by omega), hbytes]
  dsimp only
  rw [hslice]
  rfl

end Read

end AgentSpreadsheet.Reads
