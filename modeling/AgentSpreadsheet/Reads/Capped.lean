import AgentSpreadsheet.Library.Cuts
import AgentSpreadsheet.Reads.Paging

/-! Pages of a sheet that are cut where a budget is used up. Where not one row is within the
budget, the page is empty and asks for itself again. -/
namespace AgentSpreadsheet.Reads
open Library

inductive OutputProfile where
  | tokenDense
  | verbose
  deriving DecidableEq, Repr

structure ServerConfig where
  outputProfile : OutputProfile := .tokenDense
  maxCells : Option Nat := none
  maxItems : Option Nat := none
  maxPayloadBytes : Option Nat := none
  deriving DecidableEq, Repr

/-- How long responses are; one is not shorter than with one of its entries alone. -/
structure ResponseLength (ρ : Type) where
  size : List ρ → Nat
  alone : ∀ entries, ∀ entry ∈ entries, size [entry] ≤ size entries

/-! ### Caps -/

def capRowsByCells (rowCount cellsPerRow : Nat) : Option Nat → Nat
  | none => rowCount
  | some maxCells => if cellsPerRow = 0 then rowCount else min rowCount (maxCells / cellsPerRow)

def capRowsByPayloadBytes (rowCount : Nat) (maxBytes : Option Nat) (sizeForRows : Nat → Nat) : Nat :=
  match maxBytes with
  | none => rowCount
  | some maxBytes => bisect (fun count => decide (sizeForRows count ≤ maxBytes)) rowCount 0 rowCount

section Caps
variable {ρ : Type} (cellsPerRow : Nat) (maxCells maxBytes : Option Nat) (size : List ρ → Nat)

def rowLimit (rows : List ρ) : Nat :=
  let byCells := capRowsByCells rows.length cellsPerRow maxCells
  if 0 < byCells then
    capRowsByPayloadBytes byCells maxBytes fun count => size (rows.take count)
  else byCells

structure RowFits (row : ρ) : Prop where
  cells : maxCells.all (cellsPerRow ≤ ·) = true
  payload : maxBytes.all (size [row] ≤ ·) = true

variable {cellsPerRow maxCells maxBytes size}

theorem capRowsByCells_le (rowCount : Nat) :
    capRowsByCells rowCount cellsPerRow maxCells ≤ rowCount := by
  cases maxCells with
  | none => exact Nat.le_refl _
  | some limit =>
    unfold capRowsByCells
    dsimp only
    split
    · exact Nat.le_refl _
    · exact Nat.min_le_left _ _

theorem capRowsByCells_pos {rowCount : Nat} (hcount : 0 < rowCount) :
    0 < capRowsByCells rowCount cellsPerRow maxCells ↔ maxCells.all (cellsPerRow ≤ ·) = true := by
  cases maxCells with
  | none => simp [capRowsByCells, hcount]
  | some limit =>
    unfold capRowsByCells
    dsimp only
    split
    · rename_i hzero
      simp [hzero, hcount]
    · rename_i hpos
      rw [Nat.lt_min, Nat.div_pos_iff]
      simp only [Option.all_some, decide_eq_true_eq]
      omega

theorem capRowsByPayloadBytes_le (rowCount : Nat) (sizeForRows : Nat → Nat) :
    capRowsByPayloadBytes rowCount maxBytes sizeForRows ≤ rowCount := by
  cases maxBytes with
  | none => exact Nat.le_refl _
  | some limit => exact (bisect_le _ (Nat.zero_le _)).2

theorem capRowsByPayloadBytes_fits {rowCount : Nat} {sizeForRows : Nat → Nat}
    (h : 0 < capRowsByPayloadBytes rowCount maxBytes sizeForRows) :
    maxBytes.all (sizeForRows (capRowsByPayloadBytes rowCount maxBytes sizeForRows) ≤ ·) = true := by
  cases maxBytes with
  | none => rfl
  | some limit =>
    exact bisect_fits rowCount h

theorem capRowsByPayloadBytes_pos {rowCount : Nat} {sizeForRows : Nat → Nat}
    (hcount : 0 < rowCount) (h : maxBytes.all (sizeForRows 1 ≤ ·) = true) :
    0 < capRowsByPayloadBytes rowCount maxBytes sizeForRows := by
  cases maxBytes with
  | none => exact hcount
  | some limit => exact bisect_pos (Nat.le_refl _) hcount (by simpa using h)

theorem rowLimit_le (rows : List ρ) :
    rowLimit cellsPerRow maxCells maxBytes size rows ≤ rows.length := by
  unfold rowLimit
  dsimp only
  split
  · exact Nat.le_trans (capRowsByPayloadBytes_le _ _) (capRowsByCells_le _)
  · exact capRowsByCells_le _

theorem rowLimit_pos {row : ρ} {rest : List ρ}
    (h : RowFits cellsPerRow maxCells maxBytes size row) :
    0 < rowLimit cellsPerRow maxCells maxBytes size (row :: rest) := by
  have hcells : 0 < capRowsByCells (row :: rest).length cellsPerRow maxCells :=
    (capRowsByCells_pos (Nat.succ_pos _)).mpr h.cells
  unfold rowLimit
  rw [if_pos hcells]
  apply capRowsByPayloadBytes_pos hcells
  exact h.payload

theorem rowLimit_fits {rows : List ρ} (h : 0 < rowLimit cellsPerRow maxCells maxBytes size rows) :
    maxCells.all (cellsPerRow ≤ ·) = true ∧
      maxBytes.all (size (rows.take (rowLimit cellsPerRow maxCells maxBytes size rows)) ≤ ·) =
        true := by
  unfold rowLimit at h ⊢
  dsimp only at h ⊢
  split at h
  · rename_i hcells
    rw [if_pos hcells]
    have hrows : 0 < rows.length := Nat.lt_of_lt_of_le hcells (capRowsByCells_le _)
    exact ⟨(capRowsByCells_pos hrows).mp hcells, capRowsByPayloadBytes_fits h⟩
  · contradiction

end Caps

/-- At most `pageRows` of the items, and of these as many as are within the budgets. `size` is the
length of a response, at least that of one with one of the items alone. -/
def cappedBudget {ρ : Type} (pageRows cellsPerRow : Nat) (maxCells maxBytes : Option Nat)
    (size : List ρ → Nat) (regular : List ρ → Prop)
    (hregular : ∀ items n, regular items → regular (items.drop n))
    (halone : ∀ items n, regular items → n ≤ pageRows → ∀ item ∈ items.take n,
      size [item] ≤ size (items.take n)) : Budget ρ where
  kept items := rowLimit cellsPerRow maxCells maxBytes size (items.take pageRows)
  fits item := 0 < pageRows ∧ RowFits cellsPerRow maxCells maxBytes size item
  regular := regular
  regular_drop := hregular
  first item rest h := by
    obtain ⟨n, rfl⟩ := Nat.exists_eq_succ_of_ne_zero (Nat.ne_of_gt h.1)
    exact rowLimit_pos h.2
  taken items hitems item hitem := by
    let count := rowLimit cellsPerRow maxCells maxBytes size (items.take pageRows)
    have hle : count ≤ (items.take pageRows).length := rowLimit_le _
    have hcount : count ≤ pageRows := Nat.le_trans hle (List.length_take_le _ _)
    have hpos : 0 < count := by
      by_contra hzero
      have hnone : count = 0 := by omega
      have hmem : item ∈ items.take count := hitem
      rw [hnone] at hmem
      exact absurd hmem List.not_mem_nil
    have hfits := rowLimit_fits hpos
    have htake : (items.take pageRows).take count = items.take count := by
      rw [List.take_take, Nat.min_eq_left hcount]
    have hone := halone items count hitems hcount item hitem
    refine ⟨Nat.lt_of_lt_of_le hpos hcount, hfits.1, ?_⟩
    have hall : maxBytes.all (size (items.take count) ≤ ·) = true := htake ▸ hfits.2
    cases maxBytes with
    | none => rfl
    | some limit =>
      simp only [Option.all_some, decide_eq_true_eq] at hall ⊢
      exact Nat.le_trans hone hall

/-! ### Pages of a sheet -/

inductive SheetPageFormat where
  | full
  | compact
  | valuesOnly
  deriving DecidableEq, Repr

structure SheetPageParams where
  startRow : Nat := 1
  pageSize : Nat := 50
  columns : Option (List String) := none
  columnsByHeader : Option (List String) := none
  includeFormulas : Bool := false
  includeStyles : Bool := false
  includeHeader : Bool := true
  format : Option SheetPageFormat := none

structure ReadBudget where
  maxCells : Option Nat
  maxPayloadBytes : Option Nat
  rowsReturned : Nat
  cellsReturned : Nat
  totalRowsAvailable : Nat
  continuation : Option String
  deriving DecidableEq, Repr

structure SheetPageResponse (κ : Type) where
  rows : List (RowSnapshot κ)
  nextStartRow : Option Nat
  header : Option (RowSnapshot κ)
  format : SheetPageFormat
  truncated : Bool
  budget : Option ReadBudget
  deriving DecidableEq, Repr

def maxPageSize : Nat := 500

def maxSheetRows : Nat := 1048576

/-- A sheet, and how long responses with rows of it are. A response is not shorter than one with
one of its rows alone. -/
structure PagedSheet (κ : Type) where
  view : SheetView κ
  bounded : view.highestRow ≤ maxSheetRows
  responseLength : SheetPageFormat → Bool → Option (RowSnapshot κ) → List (RowSnapshot κ) → Nat
  alone : ∀ format includeHeader header columns formulas styles first count, count ≤ maxPageSize →
    ∀ row ∈ List.range' first count,
      responseLength format includeHeader header
          [buildRowSnapshot view row columns formulas styles] ≤
        responseLength format includeHeader header
          ((List.range' first count).map fun row =>
            buildRowSnapshot view row columns formulas styles)

section SheetPage
variable {κ : Type} (sheet : PagedSheet κ) (config : ServerConfig) (headerRow : Nat)
  (params : SheetPageParams)

/-- Neither formulas nor styles are in a dense response unless its format is asked for. -/
def SheetPageParams.plain : Bool :=
  params.format.isNone && config.outputProfile == .tokenDense

def SheetPageParams.pageFormat : SheetPageFormat :=
  params.format.getD (if config.outputProfile = .tokenDense then .compact else .full)

def pageRow (row : Nat) : RowSnapshot κ :=
  buildRowSnapshot sheet.view row
    (sheet.view.resolveColumnsWithHeaders params.columns params.columnsByHeader
      sheet.view.highestColumn (max headerRow 1))
    (!params.plain config && params.includeFormulas) (!params.plain config && params.includeStyles)

def pageHeader : Option (RowSnapshot κ) :=
  if params.includeHeader then some (pageRow sheet config headerRow params (max headerRow 1))
  else none

def pageLength (rows : List Nat) : Nat :=
  sheet.responseLength (params.pageFormat config) params.includeHeader
    (pageHeader sheet config headerRow params)
    (rows.map (pageRow sheet config headerRow params))

def continuationText (nextStartRow totalRowsAvailable lastRowIndex : Nat) : String :=
  "use start_row=" ++ toString nextStartRow ++ " to fetch the next page (" ++
    toString (totalRowsAvailable - lastRowIndex) ++ " rows remaining)"

def windowRows : List Nat :=
  between (max params.startRow 1)
    (pageEnd (max params.startRow 1) (min params.pageSize maxPageSize) sheet.view.highestRow)

def cellsPerRow : Nat :=
  (((windowRows sheet params).map (pageRow sheet config headerRow params)).head?.map fun row =>
    row.cells.length).getD 0

def sheetRowLimit : Nat :=
  rowLimit (cellsPerRow sheet config headerRow params) config.maxCells config.maxPayloadBytes
    (pageLength sheet config headerRow params) (windowRows sheet params)

def shownRows : List (RowSnapshot κ) :=
  ((windowRows sheet params).map (pageRow sheet config headerRow params)).take
    (sheetRowLimit sheet config headerRow params)

def lastRowIndex : Nat :=
  ((shownRows sheet config headerRow params).getLast?.map RowSnapshot.rowIndex).getD
    (max params.startRow 1 - 1)

def nextStartRow : Option Nat :=
  let last := lastRowIndex sheet config headerRow params
  if last < sheet.view.highestRow then some (last + 1) else none

def sheetPage : Except String (SheetPageResponse κ) :=
  if params.pageSize = 0 then .error "page_size must be greater than zero"
  else
    let shown := shownRows sheet config headerRow params
    let truncated := decide
      (sheetRowLimit sheet config headerRow params < (windowRows sheet params).length)
    .ok {
      rows := shown
      nextStartRow := nextStartRow sheet config headerRow params
      header := pageHeader sheet config headerRow params
      format := params.pageFormat config
      truncated := truncated
      budget :=
        if truncated || config.maxCells.isSome || config.maxPayloadBytes.isSome then
          some {
            maxCells := config.maxCells
            maxPayloadBytes := config.maxPayloadBytes
            rowsReturned := shown.length
            cellsReturned := shown.length * cellsPerRow sheet config headerRow params
            totalRowsAvailable := sheet.view.highestRow
            continuation := (nextStartRow sheet config headerRow params).map fun next =>
              continuationText next sheet.view.highestRow
                (lastRowIndex sheet config headerRow params) }
        else none }

def sheetPageFrom (startRow : Nat) : Except String (SheetPageResponse κ) :=
  sheetPage sheet config headerRow { params with startRow := startRow }

def SheetPageResponse.rowIndices (response : SheetPageResponse κ) : List Nat :=
  response.rows.map RowSnapshot.rowIndex

/-- The rows of an answer without pages: to the last row of the sheet, or the first one alone. -/
def unpagedRows : List Nat :=
  between (max params.startRow 1) (max sheet.view.highestRow (max params.startRow 1))

/-- Following the pages of an accepted request ends, after each row of the unpaged answer once. -/
def SheetPaged : Prop :=
  params.pageSize ≠ 0 → Budget.Covers (sheetPageFrom sheet config headerRow params)
    SheetPageResponse.nextStartRow SheetPageResponse.rowIndices params.startRow
    (unpagedRows sheet params)

variable {sheet config headerRow params}

theorem pageRow_cells (row row' : Nat) :
    (pageRow sheet config headerRow params row).cells.length =
      (pageRow sheet config headerRow params row').cells.length := by
  unfold pageRow buildRowSnapshot
  rw [List.length_map, List.length_map]

theorem take_range'_min (first count n : Nat) :
    (List.range' first count).take n = List.range' first (min n count) := by
  rcases Nat.le_total n count with hle | hle
  · rw [List.take_range'_of_length_ge hle, Nat.min_eq_left hle]
  · rw [List.take_range'_of_length_le hle, Nat.min_eq_right hle]

/-- The next rows of the sheet, as many as are within the budgets. -/
def sheetBudget (sheet : PagedSheet κ) (config : ServerConfig) (headerRow : Nat)
    (params : SheetPageParams) : Budget Nat :=
  cappedBudget (min params.pageSize maxPageSize)
    (pageRow sheet config headerRow params 0).cells.length config.maxCells config.maxPayloadBytes
    (pageLength sheet config headerRow params)
    (fun rows => ∃ first count, rows = List.range' first count)
    (by
      intro rows n hrows
      obtain ⟨first, count, rfl⟩ := hrows
      exact ⟨first + n, count - n, by simp [List.drop_range']⟩)
    (by
      intro rows n hrows hn row hrow
      obtain ⟨first, count, rfl⟩ := hrows
      rw [take_range'_min] at hrow ⊢
      have hcount : min n count ≤ maxPageSize :=
        Nat.le_trans (Nat.min_le_left _ _) (Nat.le_trans hn (Nat.min_le_right _ _))
      exact sheet.alone _ _ _ _ _ _ first (min n count) hcount row hrow)

theorem windowRows_range' : windowRows sheet params =
    List.range' (max params.startRow 1) (windowRows sheet params).length := by
  unfold windowRows between
  rw [List.length_range']

theorem cellsPerRow_eq (hrows : windowRows sheet params ≠ []) :
    cellsPerRow sheet config headerRow params =
      (pageRow sheet config headerRow params 0).cells.length := by
  obtain ⟨row, rest, hcons⟩ := List.exists_cons_of_ne_nil hrows
  unfold cellsPerRow
  rw [hcons]
  exact pageRow_cells row 0

theorem shownRows_rowIndex :
    (shownRows sheet config headerRow params).map RowSnapshot.rowIndex =
      (windowRows sheet params).take (sheetRowLimit sheet config headerRow params) := by
  unfold shownRows
  rw [← List.map_take, List.map_map]
  exact List.map_id _

theorem lastRowIndex_eq : lastRowIndex sheet config headerRow params =
    max params.startRow 1 + (shownRows sheet config headerRow params).length - 1 := by
  have hindices := @shownRows_rowIndex _ sheet config headerRow params
  rw [windowRows_range', take_range'_min] at hindices
  have hlength := congrArg List.length hindices
  rw [List.length_map, List.length_range'] at hlength
  unfold lastRowIndex
  rw [← List.getLast?_map, hindices, ← hlength]
  cases (shownRows sheet config headerRow params).length with
  | zero => rfl
  | succ count =>
    rw [List.range'_1_concat, List.getLast?_concat]
    exact (Nat.add_sub_cancel (max params.startRow 1 + count) 1).symm

theorem nextStartRow_eq : nextStartRow sheet config headerRow params =
    if max params.startRow 1 + (shownRows sheet config headerRow params).length ≤
        sheet.view.highestRow then
      some (max params.startRow 1 + (shownRows sheet config headerRow params).length)
    else none := by
  have hpos : 0 < max params.startRow 1 := Nat.le_max_right _ _
  unfold nextStartRow
  dsimp only
  rw [lastRowIndex_eq]
  split
  · rw [if_pos (by omega), Nat.sub_add_cancel (by omega)]
  · rw [if_neg (by omega)]

theorem pageEnd_eq {startRow pageSize highestRow : Nat} (hsize : 0 < pageSize)
    (h : startRow + pageSize ≤ maxRow + 1) :
    pageEnd startRow pageSize highestRow = min (startRow + pageSize - 1) (max highestRow startRow) := by
  have hsum : startRow + pageSize + maxRow = startRow + pageSize - 1 + (maxRow + 1) := by omega
  unfold pageEnd
  rw [hsum, Nat.add_mod_right, Nat.mod_eq_of_lt (by omega)]

/-- The sum of a row near the largest number and a page size wraps. -/
theorem pageEnd_wraps {startRow pageSize highestRow : Nat} (hsize : pageSize ≤ maxPageSize)
    (h : maxRow + 1 < startRow + pageSize) : pageEnd startRow pageSize highestRow < startRow := by
  have hmax : maxPageSize = 500 := rfl
  have hlast : maxRow = 4294967295 := rfl
  apply Nat.lt_of_le_of_lt (Nat.min_le_left _ _)
  rcases Nat.lt_or_ge maxRow startRow with hlarge | hsmall
  · exact Nat.lt_of_le_of_lt (Nat.le_of_lt_succ (Nat.mod_lt _ (Nat.succ_pos _))) hlarge
  · have hsum : startRow + pageSize + maxRow =
        startRow + pageSize - (maxRow + 2) + (maxRow + 1) + (maxRow + 1) := by omega
    rw [hsum, Nat.add_mod_right, Nat.add_mod_right, Nat.mod_eq_of_lt (by omega)]
    omega

theorem sheetPageFrom_eq (hsize : params.pageSize ≠ 0) (startRow : Nat) :
    ∃ page, sheetPageFrom sheet config headerRow params startRow = .ok page ∧
      page.rows = shownRows sheet config headerRow { params with startRow := startRow } ∧
      page.nextStartRow = nextStartRow sheet config headerRow { params with startRow := startRow } := by
  unfold sheetPageFrom sheetPage
  rw [if_neg hsize]
  exact ⟨_, rfl, rfl, rfl⟩

theorem windowRows_eq (hsize : params.pageSize ≠ 0)
    (hstart : max params.startRow 1 ≤ sheet.view.highestRow) :
    windowRows sheet params = ((List.range' 1 sheet.view.highestRow).drop
      (max params.startRow 1 - 1)).take (min params.pageSize maxPageSize) := by
  have hbounded := sheet.bounded
  have hfirst : 1 + (max params.startRow 1 - 1) = max params.startRow 1 := by omega
  have hpage : 0 < min params.pageSize maxPageSize :=
    Nat.lt_min.mpr ⟨Nat.pos_of_ne_zero hsize, by decide⟩
  have hsum : max params.startRow 1 + min params.pageSize maxPageSize ≤ maxRow + 1 := by
    have hmax : maxPageSize = 500 := rfl
    have hlast : maxRow = 4294967295 := rfl
    have hrows : maxSheetRows = 1048576 := rfl
    omega
  unfold windowRows between
  rw [pageEnd_eq hpage hsum, List.drop_range', take_range'_min, Nat.mul_one, hfirst,
    Nat.max_eq_left hstart]
  congr 1
  omega

theorem sheetPage_cut (hsize : params.pageSize ≠ 0)
    (hstart : max params.startRow 1 ≤ sheet.view.highestRow) :
    (shownRows sheet config headerRow params).map RowSnapshot.rowIndex =
      (sheetBudget sheet config headerRow params).cut
        ((List.range' 1 sheet.view.highestRow).drop (max params.startRow 1 - 1)) := by
  have hwindow := windowRows_eq hsize hstart
  have hrows : windowRows sheet params ≠ [] := by
    have hpos : 0 < min params.pageSize maxPageSize :=
      Nat.lt_min.mpr ⟨Nat.pos_of_ne_zero hsize, by decide⟩
    have hlength := congrArg List.length hwindow
    rw [List.length_take, List.length_drop, List.length_range'] at hlength
    intro hnil
    rw [hnil, List.length_nil] at hlength
    omega
  have hlimit : sheetRowLimit sheet config headerRow params =
      (sheetBudget sheet config headerRow params).kept
        ((List.range' 1 sheet.view.highestRow).drop (max params.startRow 1 - 1)) := by
    unfold sheetRowLimit
    rw [cellsPerRow_eq hrows, hwindow]
    rfl
  rw [shownRows_rowIndex, hlimit]
  unfold Budget.cut
  rw [hwindow, List.take_take, Nat.min_eq_left]
  exact Nat.le_trans (rowLimit_le _) (List.length_take_le _ _)

theorem sheetPage_handsOut (hsize : params.pageSize ≠ 0) :
    Budget.HandsOut (sheetBudget sheet config headerRow params)
      (sheetPageFrom sheet config headerRow params) SheetPageResponse.nextStartRow
      SheetPageResponse.rowIndices (fun startRow => max startRow 1 ≤ sheet.view.highestRow)
      (fun startRow => max startRow 1 - 1) (fun _ => List.range' 1 sheet.view.highestRow)
      (List.range' 1 sheet.view.highestRow).length := by
  intro startRow hstart
  obtain ⟨page, hpage, hrows, hnext⟩ := @sheetPageFrom_eq _ sheet config headerRow params hsize startRow
  refine ⟨page, hpage, ?_, ?_⟩
  · unfold SheetPageResponse.rowIndices
    rw [hrows]
    exact @sheetPage_cut _ sheet config headerRow { params with startRow := startRow } hsize hstart
  · have hlength : page.rowIndices.length =
        (shownRows sheet config headerRow { params with startRow := startRow }).length := by
      unfold SheetPageResponse.rowIndices
      rw [hrows, List.length_map]
    rw [hnext, nextStartRow_eq, ← hlength, List.length_range']
    dsimp only
    have hpos : 0 < max startRow 1 := Nat.le_max_right _ _
    split
    · refine ⟨max startRow 1 + page.rowIndices.length, if_pos (by omega), ?_, ?_⟩
      · omega
      · omega
    · rw [if_neg (by omega)]

theorem beyond_covers_iff (hsize : params.pageSize ≠ 0)
    (hstart : sheet.view.highestRow < max params.startRow 1) :
    Budget.Covers (sheetPageFrom sheet config headerRow params) SheetPageResponse.nextStartRow
      SheetPageResponse.rowIndices params.startRow (unpagedRows sheet params) ↔
        (shownRows sheet config headerRow params).map RowSnapshot.rowIndex =
          [max params.startRow 1] := by
  have hunpaged : unpagedRows sheet params = [max params.startRow 1] := by
    unfold unpagedRows between
    rw [Nat.max_eq_right (Nat.le_of_lt hstart), Nat.add_sub_cancel_left]
    rfl
  obtain ⟨page, hpage, hrows, hnext⟩ :=
    @sheetPageFrom_eq _ sheet config headerRow params hsize params.startRow
  have hlast : page.nextStartRow = none := by
    rw [hnext, nextStartRow_eq]
    exact if_neg (by
      dsimp only
      omega)
  have hindices : page.rowIndices =
      (shownRows sheet config headerRow params).map RowSnapshot.rowIndex := by
    unfold SheetPageResponse.rowIndices
    rw [hrows]
  rw [hunpaged, ← hindices]
  constructor
  · intro ⟨fuel, pages, hrun, hperm, _⟩
    cases fuel with
    | zero => contradiction
    | succ fuel =>
      unfold follow at hrun
      rw [hpage] at hrun
      dsimp only at hrun
      rw [hlast] at hrun
      injection hrun with hrun
      injection hrun with hrun
      subst hrun
      rw [List.flatMap_singleton] at hperm
      exact List.perm_singleton.mp hperm
  · intro heq
    have hrun : follow (sheetPageFrom sheet config headerRow params) SheetPageResponse.nextStartRow 1
        params.startRow = some ([page], none) := by
      simp [follow, hpage, hlast]
    refine ⟨1, [page], hrun, ?_, ?_⟩
    · rw [List.flatMap_singleton, heq]
    · intro page' hpage' hsome
      rw [List.mem_singleton.mp hpage'] at hsome
      exact absurd hlast hsome

/-- The page starts at a row number that leaves room for a page, and each row of the unpaged
answer is within the budgets by itself. -/
structure SheetFits (sheet : PagedSheet κ) (config : ServerConfig) (headerRow : Nat)
    (params : SheetPageParams) : Prop where
  room : max params.startRow 1 + min params.pageSize maxPageSize ≤ maxRow + 1
  fits : ∀ row ∈ unpagedRows sheet params,
    RowFits (pageRow sheet config headerRow params 0).cells.length config.maxCells
      config.maxPayloadBytes (pageLength sheet config headerRow params) row

theorem within_covers_iff (hsize : params.pageSize ≠ 0)
    (hstart : max params.startRow 1 ≤ sheet.view.highestRow) :
    Budget.Covers (sheetPageFrom sheet config headerRow params) SheetPageResponse.nextStartRow
      SheetPageResponse.rowIndices params.startRow (unpagedRows sheet params) ↔
        SheetFits sheet config headerRow params := by
  have hunpaged : unpagedRows sheet params =
      (List.range' 1 sheet.view.highestRow).drop (max params.startRow 1 - 1) := by
    unfold unpagedRows between
    rw [Nat.max_eq_left hstart, List.drop_range']
    congr 1 <;> omega
  have hpage : 0 < min params.pageSize maxPageSize :=
    Nat.lt_min.mpr ⟨Nat.pos_of_ne_zero hsize, by decide⟩
  have hroom : max params.startRow 1 + min params.pageSize maxPageSize ≤ maxRow + 1 := by
    have hbounded := sheet.bounded
    have hmax : maxPageSize = 500 := rfl
    have hlast : maxRow = 4294967295 := rfl
    have hrows : maxSheetRows = 1048576 := rfl
    omega
  have hcovers := (@sheetPage_handsOut _ sheet config headerRow params hsize).covers_iff
    ⟨1, sheet.view.highestRow, rfl⟩ hstart
  rw [← hunpaged] at hcovers
  rw [hcovers]
  constructor
  · intro h
    exact ⟨hroom, fun row hrow => (h row hrow).2⟩
  · intro h row hrow
    exact ⟨hpage, h.fits row hrow⟩

theorem beyond_fits_iff (hsize : params.pageSize ≠ 0)
    (hstart : sheet.view.highestRow < max params.startRow 1) :
    (shownRows sheet config headerRow params).map RowSnapshot.rowIndex =
        [max params.startRow 1] ↔ SheetFits sheet config headerRow params := by
  have hunpaged : unpagedRows sheet params = [max params.startRow 1] := by
    unfold unpagedRows between
    rw [Nat.max_eq_right (Nat.le_of_lt hstart), Nat.add_sub_cancel_left]
    rfl
  have hpage : 0 < min params.pageSize maxPageSize :=
    Nat.lt_min.mpr ⟨Nat.pos_of_ne_zero hsize, by decide⟩
  by_cases hroom : max params.startRow 1 + min params.pageSize maxPageSize ≤ maxRow + 1
  · have hwindow : windowRows sheet params = [max params.startRow 1] := by
      unfold windowRows between
      rw [pageEnd_eq hpage hroom, Nat.max_eq_right (Nat.le_of_lt hstart), Nat.min_eq_right (by omega),
        Nat.add_sub_cancel_left]
      rfl
    have hlimit : sheetRowLimit sheet config headerRow params =
        rowLimit (pageRow sheet config headerRow params 0).cells.length config.maxCells
          config.maxPayloadBytes (pageLength sheet config headerRow params)
          [max params.startRow 1] := by
      unfold sheetRowLimit
      rw [cellsPerRow_eq (by simp [hwindow]), hwindow]
    rw [shownRows_rowIndex, hlimit, hwindow]
    constructor
    · intro htake
      have hpos : 0 < rowLimit (pageRow sheet config headerRow params 0).cells.length config.maxCells
          config.maxPayloadBytes (pageLength sheet config headerRow params)
          [max params.startRow 1] := by
        by_contra hzero
        rw [Nat.eq_zero_of_not_pos hzero] at htake
        contradiction
      have hfits := rowLimit_fits hpos
      rw [htake] at hfits
      refine ⟨hroom, fun row hrow => ?_⟩
      rw [hunpaged] at hrow
      rw [List.mem_singleton.mp hrow]
      exact ⟨hfits.1, hfits.2⟩
    · intro h
      have hrow := h.fits (max params.startRow 1) (by rw [hunpaged]; exact List.mem_singleton.mpr rfl)
      exact List.take_of_length_le (rowLimit_pos hrow)
  · have hwindow : windowRows sheet params = [] := by
      have hwrap : pageEnd (max params.startRow 1) (min params.pageSize maxPageSize)
          sheet.view.highestRow < max params.startRow 1 :=
        pageEnd_wraps (Nat.min_le_right _ _) (Nat.not_le.mp hroom)
      unfold windowRows between
      rw [Nat.sub_eq_zero_of_le hwrap]
      rfl
    rw [shownRows_rowIndex, hwindow, List.take_nil]
    constructor
    · intro h
      contradiction
    · intro h
      exact absurd h.room hroom

/-- The pages of a sheet cover it exactly where each row is within the budgets by itself. -/
theorem sheetPaged_iff : SheetPaged sheet config headerRow params ↔
    (params.pageSize ≠ 0 → SheetFits sheet config headerRow params) := by
  unfold SheetPaged
  refine forall_congr' fun hsize => ?_
  rcases Nat.lt_or_ge sheet.view.highestRow (max params.startRow 1) with hbeyond | hwithin
  · rw [beyond_covers_iff hsize hbeyond, beyond_fits_iff hsize hbeyond]
  · exact within_covers_iff hsize hwithin

end SheetPage

end AgentSpreadsheet.Reads
