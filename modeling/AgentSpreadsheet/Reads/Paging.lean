import AgentSpreadsheet.Reads.Cells
import Mathlib.Data.Nat.Digits.Defs
import Mathlib.Logic.Equiv.List

/-! Pages hand out what was requested, within the budgets. -/
namespace AgentSpreadsheet.Reads
open Library

/-! ### Cursors -/

theorem hexDigit_lowerHex : ∀ n < 16, hexDigit (lowerHex n) = some n := by decide

theorem lowerHex_ne_plus : ∀ n < 16, lowerHex n ≠ '+' := by decide

theorem fromStrRadix_lowerHex (byte : UInt8) :
    fromStrRadix (lowerHex (byte.toNat / 16)) (lowerHex (byte.toNat % 16)) = some byte := by
  have hbyte := byte.toNat_lt
  have hhigh : byte.toNat / 16 < 16 := by omega
  have hlow : byte.toNat % 16 < 16 := by omega
  have hsum : UInt8.ofNat (byte.toNat / 16 * 16 + byte.toNat % 16) = byte := by
    rw [Nat.div_add_mod']
    exact UInt8.ofNat_toNat
  unfold fromStrRadix
  rw [if_neg (lowerHex_ne_plus _ hhigh), hexDigit_lowerHex _ hhigh, hexDigit_lowerHex _ hlow]
  dsimp only [bind, Option.bind]
  rw [hsum]

theorem hexBytes_hexText (bytes : List UInt8) : hexBytes (hexText bytes) = some bytes := by
  induction bytes with
  | nil => rfl
  | cons byte bytes ih =>
    have htext : hexText (byte :: bytes) = lowerHex (byte.toNat / 16) ::
        lowerHex (byte.toNat % 16) :: hexText bytes := rfl
    rw [htext, hexBytes, fromStrRadix_lowerHex, ih]
    rfl

theorem hexText_length (bytes : List UInt8) : (hexText bytes).length = 2 * bytes.length := by
  induction bytes with
  | nil => rfl
  | cons byte bytes ih =>
    have htext : hexText (byte :: bytes) = lowerHex (byte.toNat / 16) ::
        lowerHex (byte.toNat % 16) :: hexText bytes := rfl
    rw [htext]
    simp only [List.length_cons, ih]
    omega

section Reader
variable {κ : Type} {reader : CellsReader κ}

theorem decodeCursor_encodeCursor {cursor : ReadCellsCursor}
    (h : reader.fromSlice (reader.toVec cursor) = some cursor) :
    decodeCursor reader (encodeCursor reader cursor) = .ok cursor := by
  have htext : (encodeCursor reader cursor).toList =
      "rc1_".toList ++ hexText (reader.toVec cursor) := String.toList_ofList
  have hhex : (encodeCursor reader cursor).toList.drop 4 = hexText (reader.toVec cursor) := by
    rw [htext]
    rfl
  unfold decodeCursor
  rw [if_pos (by rw [htext]; exact List.isPrefixOf_iff_prefix.mpr ⟨_, rfl⟩)]
  dsimp only
  rw [hhex, hexBytes_hexText, hexText_length, if_neg (by omega)]
  dsimp only
  rw [h]
  rfl

end Reader

/-! ### Budgets -/

section Budget
variable {κ : Type} (blockLength : ReadCellsBlock κ → Nat) (maxCells maxPayloadBytes : Option Nat)

structure FitsAlone (block : ReadCellsBlock κ) : Prop where
  cells : maxCells.all (block.columnCount ≤ ·) = true
  payload : fitsPayload blockLength maxPayloadBytes [block] = true

variable {blockLength maxCells maxPayloadBytes} {existing : List (ReadCellsBlock κ)}
  {buildBlock : Nat → ReadCellsBlock κ} {available cellsPerRow emitted : Nat}

theorem cellLimitedRows_le : cellLimitedRows available cellsPerRow emitted maxCells ≤ available := by
  unfold cellLimitedRows
  split
  · exact Nat.le_refl _
  · split
    · exact Nat.le_refl _
    · exact Nat.min_le_right _ _

theorem cellLimitedRows_cells {rows limit : Nat} (hlimit : maxCells = some limit)
    (hemitted : emitted ≤ limit)
    (h : rows ≤ cellLimitedRows available cellsPerRow emitted maxCells) :
    emitted + rows * cellsPerRow ≤ limit := by
  subst hlimit
  unfold cellLimitedRows at h
  dsimp only at h
  split at h
  · rename_i hzero
    rw [hzero, Nat.mul_zero]
    exact hemitted
  · have hrows : rows ≤ (limit - emitted) / cellsPerRow := Nat.le_trans h (Nat.min_le_left _ _)
    have := Nat.mul_le_of_le_div _ _ _ hrows
    omega

variable (blockLength maxCells maxPayloadBytes existing buildBlock available cellsPerRow emitted) in
abbrev decision : CanonicalBudgetDecision :=
  canonicalBudgetDecision blockLength available cellsPerRow emitted maxCells maxPayloadBytes
    existing buildBlock

theorem decision_rows_le : (decision blockLength maxCells maxPayloadBytes existing buildBlock
    available cellsPerRow emitted).rows ≤ available :=
  Nat.le_trans (bisect_le _ (Nat.zero_le _)).2 cellLimitedRows_le

theorem decision_cells {limit : Nat} (hlimit : maxCells = some limit) (hemitted : emitted ≤ limit) :
    emitted + (decision blockLength maxCells maxPayloadBytes existing buildBlock available
      cellsPerRow emitted).rows * cellsPerRow ≤ limit :=
  cellLimitedRows_cells hlimit hemitted (bisect_le _ (Nat.zero_le _)).2

theorem decision_payload (h : (decision blockLength maxCells maxPayloadBytes existing buildBlock
    available cellsPerRow emitted).rows ≠ 0) :
    fitsPayload blockLength maxPayloadBytes (existing ++ [buildBlock (decision blockLength maxCells
      maxPayloadBytes existing buildBlock available cellsPerRow emitted).rows]) = true :=
  bisect_fits _ (Nat.pos_of_ne_zero h)

theorem decision_firstRowFits (havailable : available ≠ 0)
    (hcolumns : (buildBlock 1).columnCount = cellsPerRow) :
    (decision blockLength maxCells maxPayloadBytes existing buildBlock available cellsPerRow
      emitted).firstRowFits = true ↔
      FitsAlone blockLength maxCells maxPayloadBytes (buildBlock 1) := by
  simp only [decision, canonicalBudgetDecision, decide_eq_false havailable, Bool.false_or,
    Bool.and_eq_true]
  constructor
  · intro h
    exact ⟨by rw [hcolumns]; exact h.1, h.2⟩
  · intro h
    exact ⟨by rw [← hcolumns]; exact h.cells, h.payload⟩

theorem decision_pos (havailable : available ≠ 0)
    (hcolumns : (buildBlock 1).columnCount = cellsPerRow)
    (hfits : FitsAlone blockLength maxCells maxPayloadBytes (buildBlock 1)) :
    (decision blockLength maxCells maxPayloadBytes [] buildBlock available cellsPerRow 0).rows ≠
      0 := by
  have hcells := hfits.cells
  rw [hcolumns] at hcells
  have hhigh : 0 < cellLimitedRows available cellsPerRow 0 maxCells := by
    unfold cellLimitedRows
    split
    · omega
    · rename_i limit
      split
      · omega
      · rename_i hcolumn
        have hlimit : cellsPerRow ≤ limit := by simpa using hcells
        have hone : 1 ≤ (limit - 0) / cellsPerRow :=
          (Nat.le_div_iff_mul_le (Nat.pos_of_ne_zero hcolumn)).mpr (by omega)
        omega
  exact Nat.ne_of_gt (bisect_pos (Nat.le_refl _) hhigh hfits.payload)

end Budget

/-! ### Rows of pages -/

theorem between_take {first last count : Nat} (hpos : 0 < count) (hle : count ≤ last + 1 - first) :
    (between first last).take count = between first (first + count - 1) := by
  have hlength : first + count - 1 + 1 - first = count := by omega
  unfold between
  rw [List.take_range'_of_length_ge hle, hlength]

theorem between_split {first middle last : Nat} (hfirst : first ≤ middle + 1)
    (hlast : middle ≤ last) :
    between first last = between first middle ++ between (middle + 1) last := by
  have hlength : last + 1 - first = (middle + 1 - first) + (last + 1 - (middle + 1)) := by omega
  unfold between
  rw [hlength, ← List.range'_append_1]
  congr 2
  omega

theorem between_cons {first last : Nat} (h : first ≤ last) :
    between first last = first :: between (first + 1) last := by
  have hlength : last + 1 - first = (last + 1 - (first + 1)) + 1 := by omega
  unfold between
  rw [hlength]
  rfl

theorem between_empty {first last : Nat} (h : last < first) : between first last = [] := by
  have hlength : last + 1 - first = 0 := by omega
  unfold between
  rw [hlength]
  rfl

theorem between_length (first last : Nat) : (between first last).length = last + 1 - first :=
  List.length_range'

section Rows
variable {κ : Type}

def ReadCellsPayload.snapshots : ReadCellsPayload κ → List (RowSnapshot κ)
  | .range _ _ shown _ _ => shown
  | .rows _ _ shown _ _ _ => shown

/-- A block's rows, each with the index of its selection. -/
def ReadCellsBlock.items (block : ReadCellsBlock κ) : List (Nat × RowSnapshot κ) :=
  block.payload.snapshots.map fun row => (block.selectionIndex, row)

def itemsOf (blocks : List (ReadCellsBlock κ)) : List (Nat × RowSnapshot κ) :=
  blocks.flatMap ReadCellsBlock.items

def cellsOf (items : List (Nat × RowSnapshot κ)) : Nat :=
  (items.map fun item => item.2.cells.length).sum

theorem itemsOf_append (blocks : List (ReadCellsBlock κ)) (block : ReadCellsBlock κ) :
    itemsOf (blocks ++ [block]) = itemsOf blocks ++ block.items := by
  simp [itemsOf]

/-- The page so far respects the page size and both budgets. -/
structure Emitted.Within (blockLength : ReadCellsBlock κ → Nat) (pageSize : Nat)
    (maxCells maxPayloadBytes : Option Nat) (emitted : Emitted κ) : Prop where
  rows : emitted.rowsReturned = (itemsOf emitted.blocks).length
  pageSize : emitted.rowsReturned ≤ pageSize
  cells : emitted.cellsReturned = cellsOf (itemsOf emitted.blocks)
  maxCells : ∀ limit, maxCells = some limit → emitted.cellsReturned ≤ limit
  payload : emitted.blocks ≠ [] → fitsPayload blockLength maxPayloadBytes emitted.blocks = true
  someRow : emitted.blocks ≠ [] → itemsOf emitted.blocks ≠ []

variable {blockLength : ReadCellsBlock κ → Nat} {pageSize : Nat}
  {maxCells maxPayloadBytes : Option Nat}

theorem Emitted.within_empty : ({} : Emitted κ).Within blockLength pageSize maxCells maxPayloadBytes where
  rows := rfl
  pageSize := Nat.zero_le _
  cells := rfl
  maxCells _ _ := Nat.zero_le _
  payload h := absurd rfl h
  someRow h := absurd rfl h

theorem cellsOf_append (items items' : List (Nat × RowSnapshot κ)) :
    cellsOf (items ++ items') = cellsOf items + cellsOf items' := by
  simp [cellsOf]

theorem cellsOf_uniform {items : List (Nat × RowSnapshot κ)} {columns : Nat}
    (h : ∀ item ∈ items, item.2.cells.length = columns) :
    cellsOf items = items.length * columns := by
  unfold cellsOf
  rw [List.map_congr_left h]
  simp

/-- A block of as many rows as the budgets allow keeps the page within them. -/
theorem Emitted.Within.push {emitted : Emitted κ} {available columns : Nat}
    {buildBlock : Nat → ReadCellsBlock κ}
    (h : emitted.Within blockLength pageSize maxCells maxPayloadBytes)
    (hroom : emitted.rowsReturned + available ≤ pageSize)
    (hsome : (decision blockLength maxCells maxPayloadBytes emitted.blocks buildBlock available
      columns emitted.cellsReturned).rows ≠ 0)
    (hitems : ∀ count ≤ available, (buildBlock count).items.length = count ∧
      ∀ item ∈ (buildBlock count).items, item.2.cells.length = columns) :
    let rows := (decision blockLength maxCells maxPayloadBytes emitted.blocks buildBlock available
      columns emitted.cellsReturned).rows
    Emitted.Within blockLength pageSize maxCells maxPayloadBytes
      ⟨emitted.blocks ++ [buildBlock rows], emitted.rowsReturned + rows,
        emitted.cellsReturned + rows * columns⟩ := by
  intro rows
  have hle : rows ≤ available := decision_rows_le
  have hblock := hitems rows hle
  constructor
  · dsimp only
    rw [itemsOf_append, List.length_append, hblock.1, h.rows]
  · dsimp only
    omega
  · dsimp only
    rw [itemsOf_append, cellsOf_append, ← h.cells, cellsOf_uniform hblock.2, hblock.1]
  · intro limit hlimit
    exact decision_cells hlimit (h.maxCells limit hlimit)
  · intro _
    exact decision_payload hsome
  · intro _
    dsimp only
    rw [itemsOf_append]
    intro hnil
    have hzero := congrArg List.length (List.append_eq_nil_iff.mp hnil).2
    rw [hblock.1] at hzero
    exact hsome hzero

end Rows

/-! ### Ranges -/

section Ranges
variable {κ : Type} (reader : CellsReader κ) (request : ReadCellsRequest)
  (maxCells maxPayloadBytes : Option Nat) (sheet : SheetView κ)

def rangeItems (index : Nat) (range : CellRange) (first last : Nat) :
    List (Nat × RowSnapshot κ) :=
  (between first last).map fun row => (index, rangeRow request sheet range row)

variable {reader request maxCells maxPayloadBytes sheet} {index : Nat} {requestedRange : String}
  {range : CellRange} {r1 : Nat} {emitted : Emitted κ}

theorem rangeBlock_items (last count : Nat) :
    (rangeBlock request index requestedRange range.c1 range.c2 r1
      ((between r1 last).map (rangeRow request sheet range)) count).items =
      ((between r1 last).take count).map fun row => (index, rangeRow request sheet range row) := by
  simp [rangeBlock, ReadCellsBlock.items, ReadCellsPayload.snapshots, List.map_take, Function.comp_def]

theorem rangeRow_cells (hcolumns : range.c1 ≤ range.c2) (row : Nat) :
    (rangeRow request sheet range row).cells.length = range.c2 - range.c1 + 1 := by
  have hlength := between_length range.c1 range.c2
  simp only [rangeRow, buildRowSnapshot, List.length_map, hlength]
  omega

theorem readRange_ends (index : Nat) (requestedRange : String)
    (hsheet : reader.sheet request.sheetName = some sheet)
    (hcolumns : range.c1 ≤ range.c2) (hfirst : 0 < r1) (hrows : r1 ≤ range.r2) (hlast : range.r2 < maxRow)
    (hroom : emitted.rowsReturned < requestedPageSize request)
    (hwithin : emitted.Within reader.blockLength (requestedPageSize request) maxCells
      maxPayloadBytes) :
    match readRange reader request maxCells maxPayloadBytes index requestedRange range r1
      emitted with
    | .error e => e = rowExceedsBudget r1 "$.selection.ranges" ∧
        ¬FitsAlone reader.blockLength maxCells maxPayloadBytes
          (rangeBlock request index requestedRange range.c1 range.c2 r1
            [rangeRow request sheet range r1] 1)
    | .ok .skipped => False
    | .ok (.paused emitted' nextRow) => r1 ≤ nextRow ∧ nextRow ≤ range.r2 ∧
        itemsOf emitted'.blocks = itemsOf emitted.blocks ++
          rangeItems request sheet index range r1 (nextRow - 1) ∧
        itemsOf emitted'.blocks ≠ [] ∧
        emitted'.Within reader.blockLength (requestedPageSize request) maxCells maxPayloadBytes
    | .ok (.done emitted') =>
        itemsOf emitted'.blocks = itemsOf emitted.blocks ++
          rangeItems request sheet index range r1 range.r2 ∧
        itemsOf emitted'.blocks ≠ [] ∧
        emitted'.Within reader.blockLength (requestedPageSize request) maxCells
          maxPayloadBytes := by
  obtain ⟨candidateEnd, hcandidate⟩ : ∃ n, n = min range.r2
      (saturatingAdd r1 (requestedPageSize request - emitted.rowsReturned) - 1) := ⟨_, rfl⟩
  have hbounds : r1 ≤ candidateEnd ∧ candidateEnd ≤ range.r2 ∧
      emitted.rowsReturned + (candidateEnd + 1 - r1) ≤ requestedPageSize request := by
    unfold saturatingAdd at hcandidate
    omega
  have hne : candidateEnd + 1 - r1 ≠ 0 := by omega
  have havailable : ((between r1 candidateEnd).map (rangeRow request sheet range)).length =
      candidateEnd + 1 - r1 := by
    rw [List.length_map, between_length]
  obtain ⟨build, hbuild⟩ : ∃ f, f = rangeBlock request index requestedRange range.c1 range.c2 r1
      ((between r1 candidateEnd).map (rangeRow request sheet range)) := ⟨_, rfl⟩
  have hcolumn : (build 1).columnCount = range.c2 - range.c1 + 1 := by
    rw [hbuild]
    rfl
  have hsole : build 1 = rangeBlock request index requestedRange range.c1 range.c2 r1
      [rangeRow request sheet range r1] 1 := by
    rw [hbuild, between_cons hbounds.1]
    rfl
  have hitems (count : Nat) : (build count).items =
      ((between r1 candidateEnd).take count).map fun row =>
        (index, rangeRow request sheet range row) := by
    rw [hbuild, rangeBlock_items]
  unfold readRange
  rw [if_neg (Nat.not_lt.mpr hrows)]
  simp only [withSheet, hsheet, bind, Except.bind, pure, Except.pure, ← hcandidate, havailable,
    ← hbuild]
  by_cases hzero : (decision reader.blockLength maxCells maxPayloadBytes emitted.blocks build
      (candidateEnd + 1 - r1) (range.c2 - range.c1 + 1) emitted.cellsReturned).rows = 0
  · rw [if_pos hzero]
    by_cases hfits : FitsAlone reader.blockLength maxCells maxPayloadBytes (build 1)
    · rw [if_pos ((decision_firstRowFits hne hcolumn).mpr hfits)]
      have hblocks : emitted.blocks ≠ [] := by
        intro hnil
        have hcells : emitted.cellsReturned = 0 := by
          rw [hwithin.cells, hnil]
          rfl
        rw [hnil, hcells] at hzero
        exact decision_pos hne hcolumn hfits hzero
      have hnothing : rangeItems request sheet index range r1 (r1 - 1) = [] := by
        unfold rangeItems
        rw [between_empty (by omega), List.map_nil]
      dsimp only
      rw [hnothing, List.append_nil]
      exact ⟨Nat.le_refl _, hrows, rfl, hwithin.someRow hblocks, hwithin⟩
    · rw [if_neg (hfits ∘ (decision_firstRowFits hne hcolumn).mp)]
      rw [hsole] at hfits
      exact ⟨rfl, hfits⟩
  · rw [if_neg hzero]
    have hpush := hwithin.push hbounds.2.2 hzero (by
      intro count hcount
      rw [hitems]
      constructor
      · rw [List.length_map, List.length_take, between_length]
        omega
      · intro item hitem
        obtain ⟨row, -, rfl⟩ := List.mem_map.mp hitem
        exact rangeRow_cells hcolumns row)
    have hle : (decision reader.blockLength maxCells maxPayloadBytes emitted.blocks build
        (candidateEnd + 1 - r1) (range.c2 - range.c1 + 1) emitted.cellsReturned).rows ≤
        candidateEnd + 1 - r1 := decision_rows_le
    dsimp only at hpush
    generalize (canonicalBudgetDecision reader.blockLength _ _ _ _ _ _ build).rows = rows at *
    have hpushed : itemsOf (emitted.blocks ++ [build rows]) = itemsOf emitted.blocks ++
        rangeItems request sheet index range r1 (r1 + rows - 1) := by
      rw [itemsOf_append, hitems, between_take (Nat.pos_of_ne_zero hzero) hle]
      rfl
    have hsome := hpush.someRow (List.append_ne_nil_of_right_ne_nil _ (List.cons_ne_nil _ _))
    by_cases hend : r1 + rows - 1 < range.r2
    · rw [if_pos hend]
      dsimp only
      rw [Nat.add_sub_cancel]
      exact ⟨by omega, hend, hpushed, hsome, hpush⟩
    · rw [if_neg hend]
      have hlastRow : r1 + rows - 1 = range.r2 := by omega
      rw [hlastRow] at hpushed
      exact ⟨hpushed, hsome, hpush⟩

/-! No page of ranges shows the last `u32`. -/

def Emitted.BelowLast (emitted : Emitted κ) : Prop :=
  ∀ item ∈ itemsOf emitted.blocks, item.2.rowIndex < maxRow

def RangeEnd.BelowLast : RangeEnd κ → Prop
  | .skipped => True
  | .paused emitted _ => emitted.BelowLast
  | .done emitted => emitted.BelowLast

theorem saturatingAdd_le (a b : Nat) : saturatingAdd a b ≤ maxRow := Nat.min_le_right _ _

theorem maxRow_pos : 0 < maxRow := by
  unfold maxRow
  omega

theorem rangeBlock_below {size last count : Nat} (hlast : last ≤ saturatingAdd r1 size - 1) :
    ∀ item ∈ (rangeBlock request index requestedRange range.c1 range.c2 r1
      ((between r1 last).map (rangeRow request sheet range)) count).items,
      item.2.rowIndex < maxRow := by
  intro item hitem
  rw [rangeBlock_items] at hitem
  obtain ⟨row, hrow, rfl⟩ := List.mem_map.mp hitem
  have hmem := List.mem_range'_1.mp (List.mem_of_mem_take hrow)
  have hsum := saturatingAdd_le r1 size
  have hpos := maxRow_pos
  have hindex : (rangeRow request sheet range row).rowIndex = row := rfl
  dsimp only
  rw [hindex]
  omega

theorem readRange_below {stop : RangeEnd κ} (hsheet : reader.sheet request.sheetName = some sheet)
    (hbelow : emitted.BelowLast)
    (h : readRange reader request maxCells maxPayloadBytes index requestedRange range r1 emitted =
      .ok stop) :
    stop.BelowLast := by
  have hpush (rows : Nat) : ∀ item ∈ itemsOf (emitted.blocks ++ [rangeBlock request index
      requestedRange range.c1 range.c2 r1 ((between r1 (min range.r2 (saturatingAdd r1
        (requestedPageSize request - emitted.rowsReturned) - 1))).map
          (rangeRow request sheet range)) rows]), item.2.rowIndex < maxRow := by
    intro item hitem
    rw [itemsOf_append] at hitem
    rcases List.mem_append.mp hitem with hitem | hitem
    · exact hbelow item hitem
    · exact rangeBlock_below (Nat.min_le_right _ _) item hitem
  unfold readRange at h
  simp only [withSheet, hsheet, bind, Except.bind, pure, Except.pure] at h
  split at h
  · injection h with h
    rw [← h]
    trivial
  · split at h
    · split at h
      · injection h with h
        rw [← h]
        exact hbelow
      · contradiction
    · split at h
      · injection h with h
        rw [← h]
        exact hpush _
      · injection h with h
        rw [← h]
        exact hpush _

end Ranges

theorem parseCell_row {cell : String} {column row : Nat} (h : parseCell cell = some (column, row)) :
    0 < row := by
  simp only [parseCell, Option.bind_eq_bind, Option.bind_eq_some_iff, ite_eq_iff, reduceCtorEq,
    and_false, false_or, Option.some.injEq, Prod.mk.injEq, not_or] at h
  obtain ⟨number, -, hvalid, -, rfl⟩ := h
  exact Nat.pos_of_ne_zero hvalid.2.2.2.2

theorem parseRange_ordered {text : String} {range : CellRange} (h : parseRange text = .ok range) :
    range.c1 ≤ range.c2 ∧ 0 < range.r1 ∧ range.r1 ≤ range.r2 := by
  simp only [parseRange, required_eq_ok, Option.bind_eq_bind, Option.bind_eq_some_iff,
    ite_eq_iff, reduceCtorEq, and_false, false_or, Option.some.injEq, not_or] at h
  obtain ⟨_, -, ⟨c1, r1⟩, hfirst, ⟨c2, r2⟩, -, hordered, rfl⟩ := h
  exact ⟨Nat.not_lt.mp hordered.1, parseCell_row hfirst, Nat.not_lt.mp hordered.2⟩

section Selection
variable {κ : Type} (reader : CellsReader κ) (request : ReadCellsRequest)
  (maxCells maxPayloadBytes : Option Nat) (sheet : SheetView κ)

def pendingFrom (index : Nat) (cursorRow : Option Nat) : List String → List (Nat × RowSnapshot κ)
  | [] => []
  | text :: rest =>
    (match parseRange text with
      | .ok range => rangeItems request sheet index range (cursorRow.getD range.r1) range.r2
      | .error _ => []) ++ pendingFrom (index + 1) none rest

def Inside (ranges : List String) (index row : Nat) : Prop :=
  ∃ text range, ranges[index]? = some text ∧ parseRange text = .ok range ∧
    range.r1 ≤ row ∧ row ≤ range.r2

/-- The error is about the row, which not even an empty response has room for. -/
def RefusedRange (ranges : List String) (e : ReadError) (item : Nat × RowSnapshot κ) : Prop :=
  ∃ text range, ranges[item.1]? = some text ∧ parseRange text = .ok range ∧
    e = rowExceedsBudget item.2.rowIndex "$.selection.ranges" ∧
    ¬FitsAlone reader.blockLength maxCells maxPayloadBytes
      (rangeBlock request item.1 text range.c1 range.c2 item.2.rowIndex [item.2] 1)

variable {reader request maxCells maxPayloadBytes sheet} {ranges suffix : List String}
  {index : Nat} {cursorRow : Option Nat} {emitted : Emitted κ}

theorem rangeItems_split {range : CellRange} {first middle last : Nat} (hpos : 0 < middle)
    (hfirst : first ≤ middle) (hlast : middle ≤ last) :
    rangeItems request sheet index range first last =
      rangeItems request sheet index range first (middle - 1) ++
        rangeItems request sheet index range middle last := by
  have hsplit : between first last = between first (middle - 1) ++ between (middle - 1 + 1) last :=
    between_split (by omega) (by omega)
  rw [Nat.sub_add_cancel hpos] at hsplit
  unfold rangeItems
  rw [hsplit, List.map_append]

theorem readRanges_ends (hsheet : reader.sheet request.sheetName = some sheet)
    (hranges : ∀ text ∈ ranges, ∃ range, parseRange text = .ok range ∧ range.r2 < maxRow)
    (hsuffix : ranges.drop index = suffix)
    (hcursor : ∀ row, cursorRow = some row → Inside ranges index row)
    (hroom : suffix ≠ [] → emitted.rowsReturned < requestedPageSize request)
    (hwithin : emitted.Within reader.blockLength (requestedPageSize request) maxCells
      maxPayloadBytes) :
    match readRanges reader request maxCells maxPayloadBytes index cursorRow emitted suffix with
    | .error e => ∃ before item after,
        pendingFrom request sheet index cursorRow suffix = before ++ item :: after ∧
        RefusedRange reader request maxCells maxPayloadBytes ranges e item
    | .ok (emitted', place) =>
        emitted'.Within reader.blockLength (requestedPageSize request) maxCells maxPayloadBytes ∧
        (suffix ≠ [] → itemsOf emitted'.blocks ≠ []) ∧
        match place with
        | none => itemsOf emitted'.blocks = itemsOf emitted.blocks ++
            pendingFrom request sheet index cursorRow suffix
        | some (i, row) => Inside ranges i row ∧
            itemsOf emitted.blocks ++ pendingFrom request sheet index cursorRow suffix =
              itemsOf emitted'.blocks ++
                pendingFrom request sheet i (some row) (ranges.drop i) := by
  induction suffix generalizing index cursorRow emitted with
  | nil =>
    refine ⟨hwithin, fun h => absurd rfl h, ?_⟩
    exact (List.append_nil _).symm
  | cons text rest ih =>
    have hget : ranges[index]? = some text := by
      rw [← List.head?_drop, hsuffix]
      rfl
    have hrest : ranges.drop (index + 1) = rest := by
      rw [← List.tail_drop, hsuffix]
      rfl
    have hspace := hroom (List.cons_ne_nil _ _)
    obtain ⟨range, hparse, hlast⟩ := hranges text (List.mem_of_getElem? hget)
    have hordered := parseRange_ordered hparse
    have hstart : range.r1 ≤ cursorRow.getD range.r1 ∧ cursorRow.getD range.r1 ≤ range.r2 := by
      cases cursorRow with
      | none => exact ⟨Nat.le_refl _, hordered.2.2⟩
      | some row =>
        obtain ⟨text', range', hget', hparse', hinside⟩ := hcursor row rfl
        rw [hget] at hget'
        injection hget' with hget'
        rw [← hget', hparse] at hparse'
        injection hparse' with hparse'
        rw [← hparse'] at hinside
        exact hinside
    have hends := readRange_ends index text hsheet hordered.1 (by omega)
      hstart.2 hlast hspace hwithin
    have hpending : pendingFrom request sheet index cursorRow (text :: rest) =
        rangeItems request sheet index range (cursorRow.getD range.r1) range.r2 ++
          pendingFrom request sheet (index + 1) none rest := by
      rw [pendingFrom, hparse]
    unfold readRanges
    rw [if_neg (Nat.not_le.mpr hspace)]
    simp only [parsedRange, hparse, bind, Except.bind]
    generalize readRange reader request maxCells maxPayloadBytes index text range
      (cursorRow.getD range.r1) emitted = stop at hends
    cases stop with
    | error e =>
      refine ⟨[], (index, rangeRow request sheet range (cursorRow.getD range.r1)),
        rangeItems request sheet index range (cursorRow.getD range.r1 + 1) range.r2 ++
          pendingFrom request sheet (index + 1) none rest, ?_, text, range, hget, hparse, hends⟩
      rw [hpending]
      unfold rangeItems
      rw [between_cons hstart.2]
      rfl
    | ok stop =>
      cases stop with
      | skipped => exact hends.elim
      | paused emitted' nextRow =>
        obtain ⟨hfirst, hnext, hitems, hsome, hwithin'⟩ := hends
        refine ⟨hwithin', fun _ => hsome, ⟨text, range, hget, hparse, by omega, hnext⟩, ?_⟩
        have htail : pendingFrom request sheet index (some nextRow) (ranges.drop index) =
            rangeItems request sheet index range nextRow range.r2 ++
              pendingFrom request sheet (index + 1) none rest := by
          rw [hsuffix, pendingFrom, hparse]
          rfl
        rw [htail, hpending, hitems, rangeItems_split (by omega) hfirst hnext]
        simp only [List.append_assoc]
      | done emitted' =>
        obtain ⟨hitems, hsome, hwithin'⟩ := hends
        cases rest with
        | nil =>
          refine ⟨hwithin', fun _ => hsome, ?_⟩
          dsimp only
          rw [hpending, hitems]
          simp [pendingFrom]
        | cons next rest =>
          have hget' : ranges[index + 1]? = some next := by
            rw [← List.head?_drop, hrest]
            rfl
          by_cases hfull : requestedPageSize request ≤ emitted'.rowsReturned
          · obtain ⟨range', hparse', -⟩ := hranges next (List.mem_of_getElem? hget')
            have hordered' := parseRange_ordered hparse'
            dsimp only
            rw [if_pos hfull]
            simp only [parsedRange, hparse', pure, Except.pure]
            refine ⟨hwithin', fun _ => hsome, ⟨next, range', hget', hparse', Nat.le_refl _,
              hordered'.2.2⟩, ?_⟩
            rw [hpending, hitems, hrest, pendingFrom, pendingFrom, hparse']
            simp
          · dsimp only
            rw [if_neg hfull]
            have hih := @ih (index + 1) none emitted' hrest (by simp)
              (fun _ => Nat.not_le.mp hfull) hwithin'
            generalize readRanges reader request maxCells maxPayloadBytes (index + 1) none emitted'
              (next :: rest) = ends at hih
            cases ends with
            | error e =>
              obtain ⟨before, item, after, hbefore, hrefused⟩ := hih
              refine ⟨rangeItems request sheet index range (cursorRow.getD range.r1) range.r2 ++
                before, item, after, ?_, hrefused⟩
              rw [hpending, hbefore, List.append_assoc]
            | ok ends =>
              obtain ⟨emitted'', next⟩ := ends
              cases next with
              | none =>
                obtain ⟨hwithin'', hsome'', hitems''⟩ := hih
                refine ⟨hwithin'', fun _ => hsome'' (List.cons_ne_nil _ _), ?_⟩
                dsimp only at hitems'' ⊢
                rw [hitems'', hitems, hpending, List.append_assoc]
              | some next =>
                obtain ⟨i, row⟩ := next
                obtain ⟨hwithin'', hsome'', hinside, hitems''⟩ := hih
                refine ⟨hwithin'', fun _ => hsome'' (List.cons_ne_nil _ _), hinside, ?_⟩
                rw [← hitems'', hitems, hpending, List.append_assoc]

theorem pendingFrom_last {text : String} {range : CellRange} (hmem : text ∈ suffix)
    (hparse : parseRange text = .ok range) :
    ∃ index', (index', rangeRow request sheet range range.r2) ∈
      pendingFrom request sheet index none suffix := by
  induction suffix generalizing index with
  | nil => exact absurd hmem List.not_mem_nil
  | cons first rest ih =>
    unfold pendingFrom
    rcases List.mem_cons.mp hmem with rfl | hmem
    · refine ⟨index, List.mem_append_left _ ?_⟩
      have hordered := parseRange_ordered hparse
      rw [hparse]
      apply List.mem_map.mpr
      exact ⟨range.r2, List.mem_range'_1.mpr (by simp only [Option.getD_none]; omega), rfl⟩
    · obtain ⟨index', hitem⟩ := ih hmem
      exact ⟨index', List.mem_append_right _ hitem⟩

theorem readRanges_below {ends : Emitted κ × Option (Nat × Nat)}
    (hsheet : reader.sheet request.sheetName = some sheet) (hbelow : emitted.BelowLast)
    (h : readRanges reader request maxCells maxPayloadBytes index cursorRow emitted suffix =
      .ok ends) : ends.1.BelowLast := by
  induction suffix generalizing index cursorRow emitted with
  | nil =>
    injection h with h
    rw [← h]
    exact hbelow
  | cons text rest ih =>
    unfold readRanges at h
    split at h
    · injection h with h
      rw [← h]
      exact hbelow
    · rw [bind_eq_ok] at h
      obtain ⟨range, -, h⟩ := h
      rw [bind_eq_ok] at h
      obtain ⟨stop, hstop, h⟩ := h
      have hkept := readRange_below hsheet hbelow hstop
      match stop with
      | .skipped => exact ih hbelow h
      | .paused emitted' nextRow =>
        rw [pure_eq_ok] at h
        rw [← h]
        exact hkept
      | .done emitted' =>
        cases rest with
        | nil =>
          rw [pure_eq_ok] at h
          rw [← h]
          exact hkept
        | cons next rest =>
          dsimp only at h
          split at h
          · rw [bind_eq_ok] at h
            obtain ⟨_, -, h⟩ := h
            rw [pure_eq_ok] at h
            rw [← h]
            exact hkept
          · exact ih hkept h

end Selection

/-! ### Rows of the sheet -/

theorem requestedPageSize_bounds (request : ReadCellsRequest) :
    0 < requestedPageSize request ∧ requestedPageSize request ≤ 500 := by
  unfold requestedPageSize
  dsimp only
  omega

theorem pageEnd_bounds {startRow pageSize highestRow : Nat} (hsize : 0 < pageSize)
    (hlast : startRow + pageSize ≤ maxRow + 1) :
    startRow ≤ pageEnd startRow pageSize highestRow ∧
      pageEnd startRow pageSize highestRow ≤ startRow + pageSize - 1 := by
  have hwrap : startRow + pageSize + maxRow = (startRow + pageSize - 1) + (maxRow + 1) := by omega
  unfold pageEnd
  rw [hwrap, Nat.add_mod_right, Nat.mod_eq_of_lt (by omega)]
  omega

def lastRow (startRow rowCount : Nat) : Nat :=
  max (finalRow startRow rowCount) (max startRow 1)

section RowSelection
variable {κ : Type} (reader : CellsReader κ) (request : ReadCellsRequest)
  (maxCells maxPayloadBytes : Option Nat) (sheet : SheetView κ)
  (startRow rowCount : Nat) (columns : Option RowColumnSelection) (includeHeader : Bool)

def rowItems (first last : Nat) : List (Nat × RowSnapshot κ) :=
  (between first last).map fun row => (0, sheetRow request sheet columns row)

/-- The error is about the row, which not even an empty response has room for. -/
def RefusedRow (e : ReadError) (item : Nat × RowSnapshot κ) : Prop :=
  e = rowExceedsBudget item.2.rowIndex "$.selection" ∧
    ¬FitsAlone reader.blockLength maxCells maxPayloadBytes
      (rowsBlock request startRow rowCount includeHeader
        (sheetHeader request sheet columns includeHeader) item.2.rowIndex [item.2] 1)

variable {reader request maxCells maxPayloadBytes sheet startRow rowCount columns includeHeader}
  {currentRow : Nat}

theorem rowsBlock_items (header : Option (RowSnapshot κ)) (last count : Nat) :
    (rowsBlock request startRow rowCount includeHeader header currentRow
      ((between currentRow last).map (sheetRow request sheet columns)) count).items =
      ((between currentRow last).take count).map fun row =>
        (0, sheetRow request sheet columns row) := by
  simp [rowsBlock, ReadCellsBlock.items, ReadCellsPayload.snapshots, List.map_take,
    Function.comp_def]

theorem sheetRow_cells (row row' : Nat) : (sheetRow request sheet columns row).cells.length =
    (sheetRow request sheet columns row').cells.length := by
  simp [sheetRow, buildRowSnapshot]

theorem rowsBlock_last {header : Option (RowSnapshot κ)} {last count : Nat} (hpos : 0 < count)
    (hle : count ≤ last + 1 - currentRow) :
    ((rowsBlock request startRow rowCount includeHeader header currentRow
      ((between currentRow last).map (sheetRow request sheet columns)) count).rowIndices.bind
        List.getLast?) = some (currentRow + count - 1) := by
  have hindex : RowSnapshot.rowIndex ∘ sheetRow request sheet columns = id := rfl
  have hcount : currentRow + count - 1 + 1 - currentRow ≠ 0 := by omega
  have hlast : currentRow + (currentRow + count - 1 + 1 - currentRow) - 1 =
      currentRow + count - 1 := by omega
  simp only [rowsBlock, Option.bind_some, ← List.map_take, List.map_map, hindex, List.map_id,
    between_take hpos hle]
  unfold between
  rw [List.getLast?_range', if_neg hcount, hlast]

theorem readRows_ends (hsheet : reader.sheet request.sheetName = some sheet)
    (hstart : startRow ≤ maxRow) (hcount : 0 < rowCount) (hcurrent : max startRow 1 ≤ currentRow)
    (hlast : currentRow ≤ lastRow startRow rowCount) :
    match readRows reader request maxCells maxPayloadBytes startRow rowCount columns includeHeader
      currentRow with
    | .error e => RefusedRow reader request maxCells maxPayloadBytes sheet startRow rowCount columns
        includeHeader e (0, sheetRow request sheet columns currentRow)
    | .ok (_, emitted, place) =>
        emitted.Within reader.blockLength (requestedPageSize request) maxCells maxPayloadBytes ∧
        itemsOf emitted.blocks ≠ [] ∧
        match place with
        | none => itemsOf emitted.blocks =
            rowItems request sheet columns currentRow (lastRow startRow rowCount)
        | some (i, row) => i = 0 ∧ currentRow ≤ row ∧ row ≤ lastRow startRow rowCount ∧
            itemsOf emitted.blocks = rowItems request sheet columns currentRow (row - 1) := by
  obtain ⟨remaining, hremaining⟩ : ∃ n, n = min (saturatingAdd (finalRow startRow rowCount -
      currentRow) 1) (requestedPageSize request) := ⟨_, rfl⟩
  have hpage := requestedPageSize_bounds request
  have hfinal : finalRow startRow rowCount < maxRow := by
    have hsum := saturatingAdd_le (max startRow 1) rowCount
    have hpos := maxRow_pos
    unfold finalRow
    omega
  have hroom : 0 < remaining ∧ currentRow + remaining ≤ lastRow startRow rowCount + 1 ∧
      remaining ≤ requestedPageSize request := by
    have hpos := maxRow_pos
    unfold saturatingAdd at hremaining
    unfold lastRow at hlast ⊢
    generalize maxRow = m at *
    omega
  obtain ⟨pageLast, hpageLast⟩ : ∃ n, n = pageEnd currentRow remaining sheet.highestRow := ⟨_, rfl⟩
  have hbounds : currentRow ≤ pageLast ∧ pageLast ≤ currentRow + remaining - 1 := by
    rw [hpageLast]
    exact pageEnd_bounds hroom.1 (Nat.le_trans hroom.2.1 (Nat.succ_le_succ
      (Nat.max_le.mpr ⟨Nat.le_of_lt hfinal, Nat.max_le.mpr ⟨hstart, maxRow_pos⟩⟩)))
  have hsnapshots : sheetRows request sheet columns currentRow remaining =
      (between currentRow pageLast).map (sheetRow request sheet columns) := by
    unfold sheetRows
    rw [Nat.max_eq_left (by omega), Nat.min_eq_left (by omega), ← hpageLast]
  have havailable : ((between currentRow pageLast).map (sheetRow request sheet columns)).length =
      pageLast + 1 - currentRow := by
    rw [List.length_map, between_length]
  have hne : pageLast + 1 - currentRow ≠ 0 := by omega
  obtain ⟨build, hbuild⟩ : ∃ f, f = rowsBlock request startRow rowCount includeHeader
      (sheetHeader request sheet columns includeHeader) currentRow
      ((between currentRow pageLast).map (sheetRow request sheet columns)) := ⟨_, rfl⟩
  unfold readRows
  simp only [withSheet, hsheet, bind, Except.bind, pure, Except.pure, ← hremaining, hsnapshots,
    havailable, ← hbuild]
  have hcolumn : (build 1).columnCount =
      (sheetRow request sheet columns currentRow).cells.length := by
    rw [hbuild, between_cons hbounds.1]
    rfl
  have hhead : ((((between currentRow pageLast).map (sheetRow request sheet columns)).head?.map
      fun row => row.cells.length).getD 0) =
      (sheetRow request sheet columns currentRow).cells.length := by
    rw [between_cons hbounds.1]
    rfl
  have hsole : build 1 = rowsBlock request startRow rowCount includeHeader
      (sheetHeader request sheet columns includeHeader) currentRow
      [sheetRow request sheet columns currentRow] 1 := by
    rw [hbuild, between_cons hbounds.1]
    rfl
  have hitems (count : Nat) : (build count).items = ((between currentRow pageLast).take count).map
      fun row => (0, sheetRow request sheet columns row) := by
    rw [hbuild, rowsBlock_items]
  rw [hhead]
  by_cases hzero : (decision reader.blockLength maxCells maxPayloadBytes [] build
      (pageLast + 1 - currentRow) (sheetRow request sheet columns currentRow).cells.length 0).rows =
      0
  · rw [if_pos ⟨hzero, hroom.1⟩]
    refine ⟨rfl, fun hfits => ?_⟩
    have hfits : FitsAlone reader.blockLength maxCells maxPayloadBytes (build 1) := by
      rw [hsole]
      exact hfits
    exact decision_pos hne hcolumn hfits hzero
  · rw [if_neg (hzero ∘ And.left)]
    have hpush := @Emitted.Within.push κ reader.blockLength (requestedPageSize request) maxCells
      maxPayloadBytes {} _ _ build Emitted.within_empty
      (show 0 + (pageLast + 1 - currentRow) ≤ requestedPageSize request by omega) hzero (by
      intro count hcount
      rw [hitems]
      constructor
      · rw [List.length_map, List.length_take, between_length]
        omega
      · intro item hitem
        obtain ⟨row, -, rfl⟩ := List.mem_map.mp hitem
        exact sheetRow_cells row currentRow)
    have hle : (decision reader.blockLength maxCells maxPayloadBytes [] build
        (pageLast + 1 - currentRow) (sheetRow request sheet columns currentRow).cells.length 0).rows ≤
        pageLast + 1 - currentRow := decision_rows_le
    dsimp only at hpush
    simp only [Nat.zero_add, List.nil_append] at hpush
    generalize (canonicalBudgetDecision reader.blockLength _ _ _ _ _ _ build).rows = rows at *
    have hend : ((build rows).rowIndices.bind List.getLast?).getD currentRow =
        currentRow + rows - 1 := by
      rw [hbuild, rowsBlock_last (Nat.pos_of_ne_zero hzero) hle]
      rfl
    have hpushed : itemsOf [build rows] =
        rowItems request sheet columns currentRow (currentRow + rows - 1) := by
      rw [← List.nil_append [build rows], itemsOf_append, hitems,
        between_take (Nat.pos_of_ne_zero hzero) hle]
      rfl
    have hsome := hpush.someRow (List.cons_ne_nil _ _)
    refine ⟨hpush, hsome, ?_⟩
    rw [hend]
    by_cases hmore : currentRow + rows - 1 < finalRow startRow rowCount
    · rw [if_pos hmore]
      refine ⟨rfl, by omega, ?_, hpushed⟩
      unfold lastRow
      omega
    · rw [if_neg hmore]
      have hlastRow : currentRow + rows - 1 = lastRow startRow rowCount := by
        unfold lastRow at *
        omega
      rw [hlastRow] at hpushed
      exact hpushed

end RowSelection

/-! ### Pages -/

section Pages
variable {κ : Type} (reader : CellsReader κ) (request : ReadCellsRequest)
  (maxCells maxPayloadBytes : Option Nat) (revisionId : String) (sheet : SheetView κ)

def ReadCellsData.items (data : ReadCellsData κ) : List (Nat × RowSnapshot κ) :=
  itemsOf data.blocks

/-- The rows of the selection in order; a row selection ends at the last number. -/
def requestedRows : List (Nat × RowSnapshot κ) :=
  match request.selection with
  | .range ranges _ => pendingFrom request sheet 0 none ranges
  | .rows startRow rowCount columns _ =>
    rowItems request sheet columns (max startRow.toNat 1)
      (min (max startRow.toNat 1 + rowCount.toNat - 1) maxRow)

def Refused (e : ReadError) (item : Nat × RowSnapshot κ) : Prop :=
  match request.selection with
  | .range ranges _ => RefusedRange reader request maxCells maxPayloadBytes ranges e item
  | .rows startRow rowCount columns includeHeader =>
    RefusedRow reader request maxCells maxPayloadBytes sheet startRow.toNat rowCount.toNat columns
      (includeHeader.getD true) e item

structure Accepted : Prop where
  first : requestedCursor request = none
  sheet : reader.sheet request.sheetName = some sheet
  selection : match request.selection with
    | .range ranges _ => ranges ≠ [] ∧ ∀ text ∈ ranges, ∃ range, parseRange text = .ok range
    | .rows _ rowCount _ _ => rowCount ≠ 0

/-- A page has a row, and respects the page size and both budgets. -/
structure ReadCellsData.Within (data : ReadCellsData κ) : Prop where
  someRow : data.items ≠ []
  rows : data.page.rowsReturned = data.items.length
  pageSize : data.page.rowsReturned ≤ requestedPageSize request
  cells : data.page.cellsReturned = cellsOf data.items
  maxCells : ∀ limit, maxCells = some limit → data.page.cellsReturned ≤ limit
  payload : fitsPayload reader.blockLength maxPayloadBytes data.blocks = true

/-- Following the cursors ends, after every requested row once and in order, or at a row that
no response has room for; only the page that ends it is complete. -/
def PagedExactly : Prop :=
  ∃ calls pages failure, readPages reader request maxCells maxPayloadBytes revisionId calls =
      some (pages, failure) ∧
    Delivered ReadCellsData.items (Refused reader request maxCells maxPayloadBytes sheet)
      (requestedRows request sheet) pages failure ∧
    (∀ page ∈ pages, page.Within reader request maxCells maxPayloadBytes) ∧
    ∀ (i : Nat) page, pages[i]? = some page →
      (page.page.complete = true ↔ failure = none ∧ i + 1 = pages.length)

/-- No range reaches the last `u32`. -/
def ReadCellsSelection.RangesBelow : ReadCellsSelection → Prop
  | .range ranges _ => ∀ text ∈ ranges, ∀ range, parseRange text = .ok range → range.r2 < maxRow
  | .rows .. => True

/-- No row has the last `u32` for its number, or the selection starts with it. -/
def ReadCellsSelection.Addressable : ReadCellsSelection → Prop
  | .range ranges _ => ∀ text ∈ ranges, ∀ range, parseRange text = .ok range → range.r2 < maxRow
  | .rows startRow rowCount _ _ =>
    max startRow.toNat 1 + rowCount.toNat ≤ maxRow ∨ startRow.toNat = maxRow

/-- Where a call starts, and what is pending there. -/
def At (cursor : Option String) (pending : List (Nat × RowSnapshot κ)) : Prop :=
  match request.selection with
  | .range ranges _ =>
    (cursor = none ∧ pending = pendingFrom request sheet 0 none ranges) ∨
    ∃ index row, cursor = some (encodeCursor reader
        ⟨revisionId, fingerprintReadCells reader request, index, row⟩) ∧
      Inside ranges index row ∧ row < maxRow ∧
      pending = pendingFrom request sheet index (some row) (ranges.drop index)
  | .rows startRow rowCount columns _ =>
    (cursor = none ∧ pending = rowItems request sheet columns (max startRow.toNat 1)
      (lastRow startRow.toNat rowCount.toNat)) ∨
    ∃ row, cursor = some (encodeCursor reader
        ⟨revisionId, fingerprintReadCells reader request, 0, row⟩) ∧
      max startRow.toNat 1 ≤ row ∧ row ≤ lastRow startRow.toNat rowCount.toNat ∧
      pending = rowItems request sheet columns row (lastRow startRow.toNat rowCount.toNat)

variable {reader request maxCells maxPayloadBytes revisionId sheet}

theorem readRanges_cursor (cursor : Option String) (index : Nat) (cursorRow : Option Nat)
    (emitted : Emitted κ) (ranges : List String) :
    readRanges reader { request with cursor := cursor } maxCells maxPayloadBytes index cursorRow
      emitted ranges =
      readRanges reader request maxCells maxPayloadBytes index cursorRow emitted ranges := by
  induction ranges generalizing index cursorRow emitted with
  | nil => rfl
  | cons text rest ih =>
    unfold readRanges
    simp only [ih]
    rfl

theorem readSelection_cursor (cursor : Option String) (place : Option ReadCellsCursor) :
    readSelection reader { request with cursor := cursor } maxCells maxPayloadBytes place =
      readSelection reader request maxCells maxPayloadBytes place := by
  unfold readSelection
  simp only [readRanges_cursor]
  rfl

theorem readFrom_place {cursor : Option String} {place : Option ReadCellsCursor}
    (h : requestedPlace reader { request with cursor := cursor } revisionId = .ok place) :
    readFrom reader request maxCells maxPayloadBytes revisionId cursor =
      (readSelection reader request maxCells maxPayloadBytes place).map fun (header, emitted, next) =>
        readCellsData reader request maxCells maxPayloadBytes revisionId header emitted next := by
  unfold readFrom readCellsFromView
  rw [h]
  simp only [bind, Except.bind, readSelection_cursor]
  cases readSelection reader request maxCells maxPayloadBytes place <;> rfl

theorem requestedPlace_none (haccepted : Accepted reader request sheet) :
    requestedPlace reader { request with cursor := none } revisionId = .ok none := by
  have hfirst := haccepted.first
  unfold requestedCursor at hfirst
  have hpage : request.page.bind CanonicalReadPage.cursor = none := (Option.or_eq_none_iff.mp hfirst).2
  simp [requestedPlace, requestedCursor, hpage]

theorem requestedPlace_some {index row : Nat} (hcodec : ∀ cursor : ReadCellsCursor,
    cursor.nextRow ≤ maxRow → reader.fromSlice (reader.toVec cursor) = some cursor)
    (hrow : row ≤ maxRow) :
    requestedPlace reader { request with cursor := some (encodeCursor reader
      ⟨revisionId, fingerprintReadCells reader request, index, row⟩) } revisionId =
      .ok (some ⟨revisionId, fingerprintReadCells reader request, index, row⟩) := by
  have hdecode := decodeCursor_encodeCursor
    (hcodec ⟨revisionId, fingerprintReadCells reader request, index, row⟩ hrow)
  have hfingerprint (cursor : Option String) : fingerprintReadCells reader
      { request with cursor := cursor } = fingerprintReadCells reader request := rfl
  simp only [requestedPlace, requestedCursor, Option.some_or, hdecode, hfingerprint, ne_eq,
    not_true_eq_false, if_false]

theorem lastRow_le {startRow rowCount : Nat} (hstart : startRow ≤ maxRow) :
    lastRow startRow rowCount ≤ maxRow := by
  have hsum := saturatingAdd_le (max startRow 1) rowCount
  have hpos := maxRow_pos
  unfold lastRow finalRow
  omega

theorem toNat_le_maxRow (row : UInt32) : row.toNat ≤ maxRow := Nat.le_of_lt_succ row.toNat_lt

theorem Emitted.Within.page {emitted : Emitted κ} (header : Option (RowSnapshot κ))
    (place : Option (Nat × Nat))
    (h : emitted.Within reader.blockLength (requestedPageSize request) maxCells maxPayloadBytes)
    (hsome : itemsOf emitted.blocks ≠ []) :
    (readCellsData reader request maxCells maxPayloadBytes revisionId header emitted place).Within
      reader request maxCells maxPayloadBytes where
  someRow := hsome
  rows := h.rows
  pageSize := h.pageSize
  cells := h.cells
  maxCells := h.maxCells
  payload := h.payload fun hnil => hsome (by rw [hnil]; rfl)

theorem rowItems_split {columns : Option RowColumnSelection} {first middle last : Nat}
    (hpos : 0 < middle) (hfirst : first ≤ middle) (hlast : middle ≤ last) :
    rowItems request sheet columns first last = rowItems request sheet columns first (middle - 1) ++
      rowItems request sheet columns middle last := by
  have hsplit : between first last = between first (middle - 1) ++ between (middle - 1 + 1) last :=
    between_split (by omega) (by omega)
  rw [Nat.sub_add_cancel hpos] at hsplit
  unfold rowItems
  rw [hsplit, List.map_append]

/-- What a call from a place with pending rows gives. -/
def ReadsOn (reader : CellsReader κ) (request : ReadCellsRequest)
    (maxCells maxPayloadBytes : Option Nat) (revisionId : String) (sheet : SheetView κ)
    (pending : List (Nat × RowSnapshot κ)) : Except ReadError (ReadCellsData κ) → Prop
  | .error e => ∃ before item after, pending = before ++ item :: after ∧
      Refused reader request maxCells maxPayloadBytes sheet e item
  | .ok data => data.Within reader request maxCells maxPayloadBytes ∧
      match data.page.nextCursor with
      | none => data.items = pending
      | some next => ∃ rest, pending = data.items ++ rest ∧
          At reader request revisionId sheet (some next) rest

section Selections
variable (hcodec : ∀ cursor : ReadCellsCursor, cursor.nextRow ≤ maxRow →
    reader.fromSlice (reader.toVec cursor) = some cursor)
  (haccepted : Accepted reader request sheet) (hbelow : request.selection.RangesBelow)
  {cursor : Option String} {pending : List (Nat × RowSnapshot κ)}
  (hat : At reader request revisionId sheet cursor pending)
include hcodec haccepted hbelow hat

theorem readFrom_range {ranges : List String} {includeHeaders : Option Bool}
    (hselection : request.selection = .range ranges includeHeaders) :
    ReadsOn reader request maxCells maxPayloadBytes revisionId sheet pending
      (readFrom reader request maxCells maxPayloadBytes revisionId cursor) := by
  have hsome := haccepted.selection
  simp only [hselection] at hsome
  have hranges : ∀ text ∈ ranges, ∃ range, parseRange text = .ok range ∧ range.r2 < maxRow := by
    intro text htext
    obtain ⟨range, hparse⟩ := hsome.2 text htext
    rw [hselection] at hbelow
    exact ⟨range, hparse, hbelow text htext range hparse⟩
  obtain ⟨place, hplace, hpending, hinside, hdrop⟩ : ∃ place : Option ReadCellsCursor,
      requestedPlace reader { request with cursor := cursor } revisionId = .ok place ∧
      pending = pendingFrom request sheet ((place.map ReadCellsCursor.selectionIndex).getD 0)
        (place.map ReadCellsCursor.nextRow)
        (ranges.drop ((place.map ReadCellsCursor.selectionIndex).getD 0)) ∧
      (∀ row, place.map ReadCellsCursor.nextRow = some row →
        Inside ranges ((place.map ReadCellsCursor.selectionIndex).getD 0) row) ∧
      ranges.drop ((place.map ReadCellsCursor.selectionIndex).getD 0) ≠ [] := by
    unfold At at hat
    simp only [hselection] at hat
    rcases hat with ⟨rfl, hpending⟩ | ⟨index, row, rfl, hinside, hrow, hpending⟩
    · exact ⟨none, requestedPlace_none haccepted, hpending, fun _ h => absurd h (by simp), hsome.1⟩
    · refine ⟨_, requestedPlace_some hcodec (Nat.le_of_lt hrow), hpending, ?_, ?_⟩
      · intro row' hrow'
        injection hrow' with hrow'
        rw [← hrow']
        exact hinside
      · obtain ⟨text, _, hget, -⟩ := hinside
        intro hnil
        rw [← List.head?_drop, show ranges.drop index = [] from hnil] at hget
        exact absurd hget (by simp)
  rw [readFrom_place hplace]
  have hends := @readRanges_ends κ reader request maxCells maxPayloadBytes sheet ranges _ _ _ {}
    haccepted.sheet hranges rfl hinside
    (fun _ => (requestedPageSize_bounds request).1) Emitted.within_empty
  have hselect : readSelection reader request maxCells maxPayloadBytes place =
      (readRanges reader request maxCells maxPayloadBytes
        ((place.map ReadCellsCursor.selectionIndex).getD 0) (place.map ReadCellsCursor.nextRow) {}
        (ranges.drop ((place.map ReadCellsCursor.selectionIndex).getD 0))).map
          fun ends => (none, ends) := by
    unfold readSelection
    rw [hselection]
    simp only [ensure, if_pos hsome.1, bind, Except.bind]
    cases readRanges reader request maxCells maxPayloadBytes _ _ _ _ <;> rfl
  rw [hselect]
  generalize readRanges reader request maxCells maxPayloadBytes
    ((place.map ReadCellsCursor.selectionIndex).getD 0) _ {} _ = ends at hends
  cases ends with
  | error e =>
    obtain ⟨before, item, after, hbefore, hrefused⟩ := hends
    refine ⟨before, item, after, by rw [hpending, hbefore], ?_⟩
    unfold Refused
    rw [hselection]
    exact hrefused
  | ok ends =>
    obtain ⟨emitted, next⟩ := ends
    cases next with
    | none =>
      obtain ⟨hwithin, hitems, hrows⟩ := hends
      exact ⟨hwithin.page none none (hitems hdrop), by rw [hpending]; exact hrows⟩
    | some next =>
      obtain ⟨index, row⟩ := next
      obtain ⟨hwithin, hitems, hinside', hrows⟩ := hends
      refine ⟨hwithin.page none _ (hitems hdrop), _, hpending.trans hrows, ?_⟩
      have hrow : row < maxRow := by
        obtain ⟨text, range, hget, hparse, hbounds⟩ := hinside'
        obtain ⟨range', hparse', hlast⟩ := hranges text (List.mem_of_getElem? hget)
        rw [hparse] at hparse'
        injection hparse' with hparse'
        rw [hparse'] at hbounds
        omega
      unfold At
      rw [hselection]
      exact .inr ⟨index, row, rfl, hinside', hrow, rfl⟩

theorem readFrom_rows {startRow rowCount : UInt32} {columns : Option RowColumnSelection}
    {includeHeader : Option Bool}
    (hselection : request.selection = .rows startRow rowCount columns includeHeader) :
    ReadsOn reader request maxCells maxPayloadBytes revisionId sheet pending
      (readFrom reader request maxCells maxPayloadBytes revisionId cursor) := by
  have hsome := haccepted.selection
  simp only [hselection] at hsome
  have hcount : 0 < rowCount.toNat := by
    apply Nat.pos_of_ne_zero
    intro hzero
    exact hsome (UInt32.toNat_inj.mp hzero)
  obtain ⟨place, hplace, hpending, hfirst, hlast⟩ : ∃ place : Option ReadCellsCursor,
      requestedPlace reader { request with cursor := cursor } revisionId = .ok place ∧
      pending = rowItems request sheet columns
        ((place.map ReadCellsCursor.nextRow).getD (max startRow.toNat 1))
        (lastRow startRow.toNat rowCount.toNat) ∧
      max startRow.toNat 1 ≤ (place.map ReadCellsCursor.nextRow).getD (max startRow.toNat 1) ∧
      (place.map ReadCellsCursor.nextRow).getD (max startRow.toNat 1) ≤
        lastRow startRow.toNat rowCount.toNat := by
    unfold At at hat
    simp only [hselection] at hat
    rcases hat with ⟨rfl, hpending⟩ | ⟨row, rfl, hfirst, hlast, hpending⟩
    · exact ⟨none, requestedPlace_none haccepted, hpending, Nat.le_refl _, Nat.le_max_right _ _⟩
    · exact ⟨_, requestedPlace_some hcodec (Nat.le_trans hlast
        (lastRow_le (toNat_le_maxRow startRow))), hpending, hfirst, hlast⟩
  rw [readFrom_place hplace]
  have hends := @readRows_ends κ reader request maxCells maxPayloadBytes sheet _ _ columns
    (includeHeader.getD true) _ haccepted.sheet (toNat_le_maxRow startRow) hcount hfirst hlast
  have hselect : readSelection reader request maxCells maxPayloadBytes place =
      readRows reader request maxCells maxPayloadBytes startRow.toNat rowCount.toNat columns
        (includeHeader.getD true)
        ((place.map ReadCellsCursor.nextRow).getD (max startRow.toNat 1)) := by
    unfold readSelection
    rw [hselection]
    simp only [ensure, if_pos hsome, bind, Except.bind]
  rw [hselect]
  generalize (place.map ReadCellsCursor.nextRow).getD (max startRow.toNat 1) = currentRow at *
  generalize readRows reader request maxCells maxPayloadBytes startRow.toNat rowCount.toNat columns
    (includeHeader.getD true) currentRow = ends at hends
  match ends with
  | .error e =>
    refine ⟨[], (0, sheetRow request sheet columns currentRow),
      rowItems request sheet columns (currentRow + 1) (lastRow startRow.toNat rowCount.toNat),
      ?_, ?_⟩
    · rw [hpending]
      unfold rowItems
      rw [between_cons hlast]
      rfl
    · unfold Refused
      rw [hselection]
      exact hends
  | .ok (header, emitted, none) =>
    obtain ⟨hwithin, hitems, hrows⟩ := hends
    exact ⟨hwithin.page header none hitems, by rw [hpending]; exact hrows⟩
  | .ok (header, emitted, some (index, row)) =>
    obtain ⟨hwithin, hitems, rfl, hnext, hbound, hrows⟩ := hends
    refine ⟨hwithin.page header _ hitems,
      rowItems request sheet columns row (lastRow startRow.toNat rowCount.toNat), ?_, ?_⟩
    · rw [hpending, rowItems_split (by omega) hnext hbound]
      exact congrArg (· ++ _) hrows.symm
    · unfold At
      rw [hselection]
      exact .inr ⟨row, rfl, by omega, hbound, rfl⟩

theorem readFrom_readsOn : ReadsOn reader request maxCells maxPayloadBytes revisionId sheet pending
    (readFrom reader request maxCells maxPayloadBytes revisionId cursor) := by
  match hselection : request.selection with
  | .range ranges includeHeaders =>
    exact readFrom_range hcodec haccepted hbelow hat hselection
  | .rows startRow rowCount columns includeHeader =>
    exact readFrom_rows hcodec haccepted hbelow hat hselection

end Selections

theorem readFrom_pages (hcodec : ∀ cursor : ReadCellsCursor, cursor.nextRow ≤ maxRow →
    reader.fromSlice (reader.toVec cursor) = some cursor)
    (haccepted : Accepted reader request sheet) (hbelow : request.selection.RangesBelow) :
    Pages (readFrom reader request maxCells maxPayloadBytes revisionId)
      (fun data => data.page.nextCursor.map some) ReadCellsData.items
      (At reader request revisionId sheet)
      (Refused reader request maxCells maxPayloadBytes sheet) where
  last cursor pending data hat hstep hnext := by
    have hreads := @readFrom_readsOn κ reader request maxCells maxPayloadBytes revisionId sheet
      hcodec haccepted hbelow cursor pending hat
    rw [hstep] at hreads
    have hdone := hreads.2
    rw [Option.map_eq_none_iff.mp hnext] at hdone
    exact hdone
  more cursor pending data next hat hstep hnext := by
    have hreads := @readFrom_readsOn κ reader request maxCells maxPayloadBytes revisionId sheet
      hcodec haccepted hbelow cursor pending hat
    rw [hstep] at hreads
    obtain ⟨text, htext, rfl⟩ := Option.map_eq_some_iff.mp hnext
    have hmore := hreads.2
    rw [htext] at hmore
    exact ⟨hreads.1.someRow, hmore⟩
  refused cursor pending e hat hstep := by
    have hreads := @readFrom_readsOn κ reader request maxCells maxPayloadBytes revisionId sheet
      hcodec haccepted hbelow cursor pending hat
    rw [hstep] at hreads
    exact hreads

theorem readFrom_complete {cursor : Option String} {data : ReadCellsData κ}
    (h : readFrom reader request maxCells maxPayloadBytes revisionId cursor = .ok data) :
    data.page.complete = true ↔ data.page.nextCursor.map some = none := by
  simp only [readFrom, readCellsFromView, bind_eq_ok, pure_eq_ok] at h
  obtain ⟨_, -, _, -, rfl⟩ := h
  simp [readCellsData]

theorem pagedExactly (hcodec : ∀ cursor : ReadCellsCursor, cursor.nextRow ≤ maxRow →
    reader.fromSlice (reader.toVec cursor) = some cursor)
    (haccepted : Accepted reader request sheet) (hbelow : request.selection.RangesBelow)
    {pending : List (Nat × RowSnapshot κ)} (hat : At reader request revisionId sheet none pending) :
    ∃ calls pages failure, readPages reader request maxCells maxPayloadBytes revisionId calls =
        some (pages, failure) ∧
      Delivered ReadCellsData.items (Refused reader request maxCells maxPayloadBytes sheet)
        pending pages failure ∧
      (∀ page ∈ pages, page.Within reader request maxCells maxPayloadBytes) ∧
      ∀ (i : Nat) page, pages[i]? = some page →
        (page.page.complete = true ↔ failure = none ∧ i + 1 = pages.length) := by
  obtain ⟨calls, pages, failure, hfollow, hdelivered⟩ :=
    (readFrom_pages hcodec haccepted hbelow).delivered hat
  have hpages : ∀ page ∈ pages, page.Within reader request maxCells maxPayloadBytes ∧
      (page.page.complete = true ↔ page.page.nextCursor.map some = none) := by
    refine follow_pages (J := fun cursor => ∃ pending, At reader request revisionId sheet cursor
      pending) ?_ ⟨pending, hat⟩ hfollow
    intro cursor page hcursor hstep
    obtain ⟨pending, hat⟩ := hcursor
    have hreads := @readFrom_readsOn κ reader request maxCells maxPayloadBytes revisionId sheet
      hcodec haccepted hbelow cursor pending hat
    rw [hstep] at hreads
    refine ⟨⟨hreads.1, readFrom_complete hstep⟩, fun next hnext => ?_⟩
    obtain ⟨text, htext, rfl⟩ := Option.map_eq_some_iff.mp hnext
    have hmore := hreads.2
    rw [htext] at hmore
    obtain ⟨rest, -, hrest⟩ := hmore
    exact ⟨rest, hrest⟩
  refine ⟨calls, pages, failure, hfollow, hdelivered, fun page hpage => (hpages page hpage).1, ?_⟩
  intro i page hget
  rw [(hpages page (List.mem_of_getElem? hget)).2]
  exact follow_last hfollow hget

theorem toNat_pos_of_accepted (haccepted : Accepted reader request sheet)
    {startRow rowCount : UInt32} {columns : Option RowColumnSelection}
    {includeHeader : Option Bool}
    (hselection : request.selection = .rows startRow rowCount columns includeHeader) :
    0 < rowCount.toNat := by
  have hsome := haccepted.selection
  simp only [hselection] at hsome
  apply Nat.pos_of_ne_zero
  intro hzero
  exact hsome (UInt32.toNat_inj.mp hzero)

theorem not_refused {e : ReadError} {item : Nat × RowSnapshot κ} :
    ¬Refused reader request none none sheet e item := by
  intro hrefused
  unfold Refused at hrefused
  split at hrefused
  · obtain ⟨_, _, -, -, -, hfits⟩ := hrefused
    exact hfits ⟨rfl, rfl⟩
  · exact hrefused.2 ⟨rfl, rfl⟩

theorem requestedRows_at (hselection : request.selection.Addressable)
    (haccepted : Accepted reader request sheet) :
    At reader request revisionId sheet none (requestedRows request sheet) := by
  unfold At requestedRows
  match hmatch : request.selection with
  | .range ranges includeHeaders => exact .inl ⟨rfl, rfl⟩
  | .rows startRow rowCount columns includeHeader =>
    refine .inl ⟨rfl, ?_⟩
    have hcount := toNat_pos_of_accepted haccepted hmatch
    have hstart := toNat_le_maxRow startRow
    have hpos := maxRow_pos
    rw [hmatch] at hselection
    unfold ReadCellsSelection.Addressable at hselection
    have hlast : min (max startRow.toNat 1 + rowCount.toNat - 1) maxRow =
        lastRow startRow.toNat rowCount.toNat := by
      unfold lastRow finalRow saturatingAdd
      generalize maxRow = m at *
      omega
    dsimp only
    rw [hlast]

theorem rangesBelow_of_addressable (h : request.selection.Addressable) :
    request.selection.RangesBelow := by
  unfold ReadCellsSelection.RangesBelow
  split
  · rename_i hmatch
    rw [hmatch] at h
    exact h
  · trivial

theorem readFrom_below {ranges : List String} {includeHeaders : Option Bool}
    (hsheet : reader.sheet request.sheetName = some sheet)
    (hselection : request.selection = .range ranges includeHeaders) {cursor : Option String}
    {data : ReadCellsData κ}
    (h : readFrom reader request maxCells maxPayloadBytes revisionId cursor = .ok data) :
    ∀ item ∈ data.items, item.2.rowIndex < maxRow := by
  simp only [readFrom, readCellsFromView, readSelection_cursor, bind_eq_ok, pure_eq_ok] at h
  obtain ⟨place, -, ⟨_, emitted, next⟩, hselect, rfl⟩ := h
  unfold readSelection at hselect
  rw [hselection] at hselect
  simp only [bind_eq_ok, pure_eq_ok] at hselect
  obtain ⟨_, -, ends, hends, hemitted⟩ := hselect
  have hempty : ({} : Emitted κ).BelowLast := fun _ hitem => absurd hitem List.not_mem_nil
  have hbelow := readRanges_below hsheet hempty hends
  injection hemitted with _ hemitted
  injection hemitted with hemitted _
  rw [hemitted] at hbelow
  exact hbelow

theorem PagedExactly.complete (h : PagedExactly reader request none none revisionId sheet) :
    ∃ calls pages, readPages reader request none none revisionId calls = some (pages, none) ∧
      pages.flatMap ReadCellsData.items = requestedRows request sheet := by
  obtain ⟨calls, pages, failure, hfollow, hdelivered, -⟩ := h
  cases failure with
  | none => exact ⟨calls, pages, hfollow, hdelivered⟩
  | some e =>
    obtain ⟨_, _, _, -, hrefused⟩ := hdelivered
    exact absurd hrefused not_refused

theorem PagedExactly.ranges_below (h : PagedExactly reader request none none revisionId sheet)
    (haccepted : Accepted reader request sheet) {ranges : List String}
    {includeHeaders : Option Bool} (hselection : request.selection = .range ranges includeHeaders)
    {text : String} {range : CellRange} (htext : text ∈ ranges)
    (hparse : parseRange text = .ok range) : range.r2 < maxRow := by
  obtain ⟨calls, pages, hfollow, hrows⟩ := h.complete
  have hpages : ∀ page ∈ pages, ∀ item ∈ page.items, item.2.rowIndex < maxRow := by
    refine follow_pages (J := fun _ => True) (fun cursor data _ hstep => ?_) trivial hfollow
    exact ⟨readFrom_below haccepted.sheet hselection hstep, fun _ _ => trivial⟩
  have hrequested : requestedRows request sheet = pendingFrom request sheet 0 none ranges := by
    unfold requestedRows
    rw [hselection]
  obtain ⟨index, hitem⟩ := @pendingFrom_last κ request sheet ranges 0 text range htext hparse
  rw [← hrequested, ← hrows] at hitem
  obtain ⟨page, hpage, hitem⟩ := List.mem_flatMap.mp hitem
  exact hpages page hpage _ hitem

theorem PagedExactly.rows_below (h : PagedExactly reader request none none revisionId sheet)
    (hcodec : ∀ cursor : ReadCellsCursor, cursor.nextRow ≤ maxRow →
      reader.fromSlice (reader.toVec cursor) = some cursor)
    (haccepted : Accepted reader request sheet) {startRow rowCount : UInt32}
    {columns : Option RowColumnSelection} {includeHeader : Option Bool}
    (hselection : request.selection = .rows startRow rowCount columns includeHeader) :
    max startRow.toNat 1 + rowCount.toNat ≤ maxRow ∨ startRow.toNat = maxRow := by
  obtain ⟨calls, pages, hfollow, hrows⟩ := h.complete
  have hcount := toNat_pos_of_accepted haccepted hselection
  have hat : At reader request revisionId sheet none (rowItems request sheet columns
      (max startRow.toNat 1) (lastRow startRow.toNat rowCount.toNat)) := by
    unfold At
    rw [hselection]
    exact .inl ⟨rfl, rfl⟩
  have hbelow : request.selection.RangesBelow := by
    rw [hselection]
    trivial
  obtain ⟨calls', pages', failure', hfollow', hdelivered', -⟩ :=
    pagedExactly hcodec haccepted hbelow hat
  have hsame := follow_unique hfollow' hfollow
  injection hsame with hpages hfailure
  subst hpages hfailure
  have hrows' : pages'.flatMap ReadCellsData.items = _ := hdelivered'
  rw [hrows'] at hrows
  unfold requestedRows at hrows
  rw [hselection] at hrows
  have hlength := congrArg List.length hrows
  simp only [rowItems, List.length_map, between_length] at hlength
  have hstart := toNat_le_maxRow startRow
  have hlarge : 1 < maxRow := by
    unfold maxRow
    omega
  unfold lastRow finalRow saturatingAdd at hlength
  generalize maxRow = m at *
  omega

/-- For an accepted request: pages are exact under all budgets exactly when no requested row has
the largest `u32` for its number, or the selection of rows starts there. -/
theorem read_cells_paged_iff (hcodec : ∀ cursor : ReadCellsCursor, cursor.nextRow ≤ maxRow →
    reader.fromSlice (reader.toVec cursor) = some cursor)
    (haccepted : Accepted reader request sheet) :
    (∀ maxCells maxPayloadBytes,
      PagedExactly reader request maxCells maxPayloadBytes revisionId sheet) ↔
      request.selection.Addressable := by
  constructor
  · intro hexact
    unfold ReadCellsSelection.Addressable
    match hselection : request.selection with
    | .range ranges includeHeaders =>
      exact fun text htext range hparse =>
        (hexact none none).ranges_below haccepted hselection htext hparse
    | .rows startRow rowCount columns includeHeader =>
      exact (hexact none none).rows_below hcodec haccepted hselection
  · intro haddressable maxCells maxPayloadBytes
    exact pagedExactly hcodec haccepted (rangesBelow_of_addressable haddressable)
      (requestedRows_at haddressable haccepted)

end Pages

section Samples

/-- A cursor's bytes are the digits of its number. -/
def cursorNumber (cursor : ReadCellsCursor) : Nat :=
  Encodable.encode (cursor.revisionId.toList.map Char.toNat,
    cursor.fingerprint.toList.map Char.toNat, cursor.selectionIndex, cursor.nextRow)

def numberedCursor (n : Nat) : Option ReadCellsCursor :=
  (Encodable.decode n : Option (List Nat × List Nat × Nat × Nat)).map
    fun (revisionId, fingerprint, selectionIndex, nextRow) =>
      ⟨String.ofList (revisionId.map Char.ofNat), String.ofList (fingerprint.map Char.ofNat),
        selectionIndex, nextRow⟩

theorem numberedCursor_cursorNumber (cursor : ReadCellsCursor) :
    numberedCursor (cursorNumber cursor) = some cursor := by
  have htext (text : String) : String.ofList ((text.toList.map Char.toNat).map Char.ofNat) =
      text := by
    simp [Function.comp_def]
  unfold numberedCursor cursorNumber
  rw [Encodable.encodek]
  simp only [Option.map_some, htext]

def sampleSheet : SheetView String where
  highestColumn := 2
  highestRow := 3
  cellSnapshot _ _ column row := rangeString column row column row
  resolveColumnsWithHeaders _ _ maxColumn _ := between 1 maxColumn

def sampleReader : CellsReader String where
  sheet name := if name = "Sheet1" then some sampleSheet else none
  digest sheetName _ _ _ _ _ := sheetName
  toVec cursor := (Nat.digits 256 (cursorNumber cursor)).map UInt8.ofNat
  fromSlice bytes := numberedCursor (Nat.ofDigits 256 (bytes.map UInt8.toNat))
  blockLength block := 100 + 20 * block.rowCount * block.columnCount

theorem sampleReader_codec (cursor : ReadCellsCursor) :
    sampleReader.fromSlice (sampleReader.toVec cursor) = some cursor := by
  have hdigits : ((Nat.digits 256 (cursorNumber cursor)).map UInt8.ofNat).map UInt8.toNat =
      Nat.digits 256 (cursorNumber cursor) := by
    rw [List.map_map]
    conv_rhs => rw [← List.map_id (Nat.digits 256 (cursorNumber cursor))]
    apply List.map_congr_left
    intro digit hdigit
    have hlt := Nat.digits_lt_base (by omega : 1 < 256) hdigit
    simp [Nat.mod_eq_of_lt hlt]
  dsimp only [sampleReader]
  rw [hdigits, Nat.ofDigits_digits, numberedCursor_cursorNumber]

def sampleRequest (range : String) : ReadCellsRequest where
  sheetName := "Sheet1"
  selection := .range [range] none

theorem sampleRequest_accepted {text : String} {range : CellRange}
    (hparse : parseRange text = .ok range) :
    Accepted sampleReader (sampleRequest text) sampleSheet where
  first := rfl
  sheet := rfl
  selection := by
    refine ⟨List.cons_ne_nil _ _, fun text' htext => ⟨range, ?_⟩⟩
    rw [List.mem_singleton.mp htext]
    exact hparse

/-- Three rows are read exactly under any budgets. -/
theorem read_cells_paged_iff_three_rows : Accepted sampleReader (sampleRequest "A1:B3") sampleSheet ∧
    ∀ maxCells maxPayloadBytes,
      PagedExactly sampleReader (sampleRequest "A1:B3") maxCells maxPayloadBytes "rev-1"
        sampleSheet := by
  have hparse : parseRange "A1:B3" = .ok ⟨1, 1, 2, 3⟩ := rfl
  apply And.intro (sampleRequest_accepted hparse)
  refine (read_cells_paged_iff (fun cursor _ => sampleReader_codec cursor)
    (sampleRequest_accepted hparse)).mpr ?_
  intro text htext range hrange
  rw [List.mem_singleton.mp htext, hparse] at hrange
  injection hrange with hrange
  rw [← hrange]
  decide

/-- Reading the last row that a range can name never ends. -/
theorem last_row_never_read :
    ¬∀ (reader : CellsReader String) (request : ReadCellsRequest)
      (maxCells maxPayloadBytes : Option Nat) (revisionId : String) (sheet : SheetView String),
      (∀ cursor : ReadCellsCursor, cursor.nextRow ≤ maxRow →
        reader.fromSlice (reader.toVec cursor) = some cursor) →
      Accepted reader request sheet →
      PagedExactly reader request maxCells maxPayloadBytes revisionId sheet := by
  intro hall
  have hparse : parseRange "A4294967295" = .ok ⟨1, 4294967295, 1, 4294967295⟩ := rfl
  have haccepted := sampleRequest_accepted hparse
  have hexact := hall sampleReader (sampleRequest "A4294967295") none none "rev-1" sampleSheet
    (fun cursor _ => sampleReader_codec cursor) haccepted
  have hbelow := hexact.ranges_below haccepted rfl (List.mem_singleton.mpr rfl) hparse
  exact absurd hbelow (by decide)

end Samples

end AgentSpreadsheet.Reads
