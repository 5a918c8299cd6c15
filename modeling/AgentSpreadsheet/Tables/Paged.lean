import AgentSpreadsheet.Analysis.FormulaMap
import AgentSpreadsheet.Tables.Filters

/-! The rows of a table, page by page. -/
namespace AgentSpreadsheet.Tables
open Library Search Reads

structure ReadTableParams (ν : Type) where
  shape : TableShape := {}
  filters : Option (List (TableFilter ν)) := none
  sampleMode : Option SampleMode := none
  limit : Option Nat := none
  offset : Option Nat := none

structure ReadTableResponse (ν : Type) where
  headers : List String
  rows : List (TableRow ν)
  totalRows : Nat
  nextOffset : Option Nat

/-- A page of some list of rows, and where the next one starts. -/
structure TablePage (ρ : Type) where
  rows : List ρ
  nextOffset : Option Nat

/-- The page that the budgets leave of a sample of the rows. -/
def tablePage {ρ : Type} (config : ServerConfig) (size : List ρ → Nat) (columns : Nat)
    (sampleMode : SampleMode) (limit offset : Nat) (rows : List ρ) : TablePage ρ :=
  let sample := sampleRows rows limit offset sampleMode
  let shown := sample.take
    (rowLimit (max columns 1) config.maxCells config.maxPayloadBytes size sample)
  ⟨shown, if offset + shown.length < rows.length then some (offset + shown.length) else none⟩

section Table
variable {ν : Type} (tools : TableTools ν) (sheet : Worksheet) (origin : Nat × Nat → Nat × Nat)
  (target : TableTarget) (config : ServerConfig) (length : ResponseLength (TableRow ν))
  (params : ReadTableParams ν)

def readTableSemantic : ReadTableResponse ν :=
  let limit := params.limit.getD 100
  let offset := params.offset.getD 0
  let (headers, rows, totalRows) := extractTableRows tools sheet origin target params.shape
    params.filters limit offset (params.sampleMode.getD .first)
  let shown := rows.take
    (rowLimit (max headers.length 1) config.maxCells config.maxPayloadBytes length.size rows)
  { headers := headers
    rows := shown
    totalRows := totalRows
    nextOffset := if offset + shown.length < totalRows then some (offset + shown.length) else none }

def readTableFrom (offset : Nat) : ReadTableResponse ν :=
  readTableSemantic tools sheet origin target config length { params with offset := some offset }

/-- The rows of the table that the filters let through, by their numbers in the sheet. -/
def matchingRows : List Nat :=
  (dataRows target params.shape).filter fun row => rowPassesFilters tools
    (tableRow tools sheet origin target params.shape row) params.filters

def numbersLength : ResponseLength Nat where
  size rows := length.size (rows.map (tableRow tools sheet origin target params.shape))
  alone rows row hrow := length.alone _ _ (List.mem_map_of_mem hrow)

def readTableNumbers (offset : Nat) : TablePage Nat :=
  tablePage config (numbersLength tools sheet origin target length params).size
    (tableHeaders tools sheet origin target params.shape).length (params.sampleMode.getD .first)
    (params.limit.getD 100) offset (matchingRows tools sheet origin target params)

/-- Following the offsets from the first call on ends, after each matching row from its offset on
once. -/
structure TablePaged : Prop where
  rows : ∀ offset, (readTableFrom tools sheet origin target config length params offset).rows =
    (readTableNumbers tools sheet origin target config length params offset).rows.map
      (tableRow tools sheet origin target params.shape)
  next : ∀ offset, (readTableFrom tools sheet origin target config length params offset).nextOffset =
    (readTableNumbers tools sheet origin target config length params offset).nextOffset
  covers : Budget.Covers
    (fun offset => (Except.ok (readTableNumbers tools sheet origin target config length params offset) :
      Except String (TablePage Nat)))
    TablePage.nextOffset TablePage.rows (params.offset.getD 0)
    ((matchingRows tools sheet origin target params).drop (params.offset.getD 0))

end Table

/-! ### Samples -/

theorem sampleRows_map {ρ τ : Type} (f : ρ → τ) (rows : List ρ) (limit offset : Nat)
    (sampleMode : SampleMode) : sampleRows (rows.map f) limit offset sampleMode =
      (sampleRows rows limit offset sampleMode).map f := by
  cases sampleMode with
  | first => simp [sampleRows, List.map_take, List.map_drop]
  | last => simp [sampleRows, List.map_take, List.map_drop]
  | distributed =>
    by_cases hnone : rows = [] ∨ limit = 0
    · have hnone' : rows.map f = [] ∨ limit = 0 := hnone.imp_left fun h => by rw [h, List.map_nil]
      unfold sampleRows
      rw [if_pos hnone, if_pos hnone', List.map_nil]
    · have hsome : ¬ (rows.map f = [] ∨ limit = 0) := fun h =>
        hnone (h.imp_left List.map_eq_nil_iff.mp)
      unfold sampleRows
      rw [if_neg hnone, if_neg hsome, List.length_map, List.map_filterMap]
      exact List.filterMap_congr fun i _ => List.getElem?_map

theorem rowLimit_map {ρ τ : Type} (f : ρ → τ) (cellsPerRow : Nat) (maxCells maxBytes : Option Nat)
    (size : List τ → Nat) (rows : List ρ) :
    rowLimit cellsPerRow maxCells maxBytes size (rows.map f) =
      rowLimit cellsPerRow maxCells maxBytes (fun rows => size (rows.map f)) rows := by
  unfold rowLimit
  simp only [List.length_map, List.map_take]

section Table
variable {ν : Type} {tools : TableTools ν} {sheet : Worksheet} {origin : Nat × Nat → Nat × Nat}
  {target : TableTarget} {config : ServerConfig} {length : ResponseLength (TableRow ν)}
  {params : ReadTableParams ν}

theorem readTableFrom_numbers (offset : Nat) :
    (readTableFrom tools sheet origin target config length params offset).rows =
        (readTableNumbers tools sheet origin target config length params offset).rows.map
          (tableRow tools sheet origin target params.shape) ∧
      (readTableFrom tools sheet origin target config length params offset).nextOffset =
        (readTableNumbers tools sheet origin target config length params offset).nextOffset := by
  unfold readTableFrom readTableSemantic readTableNumbers tablePage
  dsimp only
  rw [extractTableRows_eq, Option.getD_some, sampleRows_map, rowLimit_map]
  dsimp only
  rw [← List.map_take, List.length_map]
  exact ⟨rfl, rfl⟩

/-- As many of the rows from the offset on as the limit and the budgets leave. -/
def tableBudget (tools : TableTools ν) (sheet : Worksheet) (origin : Nat × Nat → Nat × Nat)
    (target : TableTarget) (config : ServerConfig) (length : ResponseLength (TableRow ν))
    (params : ReadTableParams ν) : Budget Nat :=
  cappedBudget (params.limit.getD 100)
    (max (tableHeaders tools sheet origin target params.shape).length 1) config.maxCells
    config.maxPayloadBytes (numbersLength tools sheet origin target length params).size
    (fun _ => True) (fun _ _ _ => trivial)
    fun _ _ _ _ => (numbersLength tools sheet origin target length params).alone _

/-- Each row from the first offset on is within the limit and the budgets by itself. -/
def RowsFit (tools : TableTools ν) (sheet : Worksheet) (origin : Nat × Nat → Nat × Nat)
    (target : TableTarget) (config : ServerConfig) (length : ResponseLength (TableRow ν))
    (params : ReadTableParams ν) : Prop :=
  ∀ row ∈ (matchingRows tools sheet origin target params).drop (params.offset.getD 0),
    params.limit ≠ some 0 ∧ RowFits
      (max (tableHeaders tools sheet origin target params.shape).length 1) config.maxCells
      config.maxPayloadBytes (numbersLength tools sheet origin target length params).size row

theorem limit_pos_iff : 0 < params.limit.getD 100 ↔ params.limit ≠ some 0 := by
  cases params.limit <;> simp [Nat.pos_iff_ne_zero]

/-- A sample that starts at the offset is cut where the budgets are used up. -/
theorem tablePage_handsOut {good : Nat → Prop}
    (hgood : ∀ offset count, good offset → good (offset + count))
    (hsample : ∀ offset, good offset → sampleRows (matchingRows tools sheet origin target params)
      (params.limit.getD 100) offset (params.sampleMode.getD .first) =
        ((matchingRows tools sheet origin target params).drop offset).take (params.limit.getD 100)) :
    Budget.HandsOut (tableBudget tools sheet origin target config length params)
      (fun offset => (Except.ok
        (readTableNumbers tools sheet origin target config length params offset) :
          Except String (TablePage Nat)))
      TablePage.nextOffset TablePage.rows good id
      (fun _ => matchingRows tools sheet origin target params)
      (matchingRows tools sheet origin target params).length := by
  intro offset hoffset
  refine ⟨_, rfl, ?_, ?_⟩
  · unfold readTableNumbers tablePage
    dsimp only
    rw [hsample offset hoffset]
    unfold Budget.cut
    rw [List.take_take, Nat.min_eq_left]
    · rfl
    · exact Nat.le_trans (rowLimit_le _) (List.length_take_le _ _)
  · split
    · rename_i hmore
      exact ⟨_, if_pos hmore, hgood _ _ hoffset, rfl⟩
    · rename_i hlast
      exact if_neg hlast

theorem covers_iff_rowsFit {good : Nat → Prop}
    (hgood : ∀ offset count, good offset → good (offset + count))
    (hsample : ∀ offset, good offset → sampleRows (matchingRows tools sheet origin target params)
      (params.limit.getD 100) offset (params.sampleMode.getD .first) =
        ((matchingRows tools sheet origin target params).drop offset).take (params.limit.getD 100))
    (hstart : good (params.offset.getD 0)) :
    TablePaged tools sheet origin target config length params ↔
      RowsFit tools sheet origin target config length params := by
  have hcovers := (@tablePage_handsOut _ tools sheet origin target config length params good hgood
    hsample).covers_iff trivial hstart
  have hfits : (∀ row ∈ (matchingRows tools sheet origin target params).drop (params.offset.getD 0),
      (tableBudget tools sheet origin target config length params).fits row) ↔
        RowsFit tools sheet origin target config length params := by
    refine forall_congr' fun row => forall_congr' fun _ => ?_
    rw [← limit_pos_iff]
    rfl
  constructor
  · intro h
    exact hfits.mp (hcovers.mp h.covers)
  · intro h
    exact ⟨fun offset => (readTableFrom_numbers offset).1,
      fun offset => (readTableFrom_numbers offset).2, hcovers.mpr (hfits.mpr h)⟩

theorem first_paged_iff (hmode : params.sampleMode.getD .first = .first) :
    TablePaged tools sheet origin target config length params ↔
      RowsFit tools sheet origin target config length params := by
  apply @covers_iff_rowsFit _ tools sheet origin target config length params (fun _ => True)
  · exact fun _ _ _ => trivial
  · intro offset _
    rw [hmode]
    rfl
  · trivial

/-! ### The last rows -/

theorem matchingRows_nodup : (matchingRows tools sheet origin target params).Nodup :=
  (List.nodup_range' _).filter _

theorem last_sample_after {start offset : Nat} (hmode : params.sampleMode.getD .first = .last)
    (hmore : start + params.limit.getD 100 < (matchingRows tools sheet origin target params).length)
    (hoffset : start ≤ offset) :
    ∀ row ∈ (readTableNumbers tools sheet origin target config length params offset).rows,
      row ∈ (matchingRows tools sheet origin target params).drop (start + 1) := by
  intro row hrow
  unfold readTableNumbers tablePage at hrow
  dsimp only at hrow
  rw [hmode] at hrow
  have hsample := List.mem_of_mem_take (List.mem_of_mem_take hrow)
  exact List.drop_subset_drop_left _ (by omega) hsample

theorem last_not_paged (hmode : params.sampleMode.getD .first = .last)
    (hmore : params.offset.getD 0 + params.limit.getD 100 <
      (matchingRows tools sheet origin target params).length) :
    ¬ TablePaged tools sheet origin target config length params := by
  intro h
  obtain ⟨fuel, pages, hrun, hperm, _⟩ := h.covers
  have hafter : ∀ page ∈ pages, ∀ row ∈ page.rows,
      row ∈ (matchingRows tools sheet origin target params).drop (params.offset.getD 0 + 1) := by
    refine @follow_pages _ _ _ _ _ (fun offset => params.offset.getD 0 ≤ offset)
      (fun page => ∀ row ∈ page.rows,
        row ∈ (matchingRows tools sheet origin target params).drop (params.offset.getD 0 + 1))
      ?_ _ _ _ _ (Nat.le_refl _) hrun
    intro offset page hoffset hpage
    obtain rfl := Except.ok.inj hpage
    refine ⟨last_sample_after hmode hmore hoffset, fun offset' hnext => ?_⟩
    unfold readTableNumbers tablePage at hnext
    dsimp only at hnext
    split at hnext
    · rw [← Option.some.inj hnext]
      omega
    · contradiction
  have hfirst : params.offset.getD 0 < (matchingRows tools sheet origin target params).length := by
    omega
  have hdrop := List.drop_eq_getElem_cons hfirst
  have hmem : (matchingRows tools sheet origin target params)[params.offset.getD 0] ∈
      pages.flatMap TablePage.rows := by
    rw [hperm.mem_iff, hdrop]
    exact List.mem_cons_self
  obtain ⟨page, hpage, hrow⟩ := List.mem_flatMap.mp hmem
  have hnodup : ((matchingRows tools sheet origin target params).drop
      (params.offset.getD 0)).Nodup := matchingRows_nodup.sublist (List.drop_sublist _ _)
  rw [hdrop] at hnodup
  exact (List.nodup_cons.mp hnodup).1 (hafter page hpage _ hrow)

theorem last_paged_iff (hmode : params.sampleMode.getD .first = .last) :
    TablePaged tools sheet origin target config length params ↔
      (matchingRows tools sheet origin target params).length ≤
          params.offset.getD 0 + params.limit.getD 100 ∧
        RowsFit tools sheet origin target config length params := by
  by_cases hall : (matchingRows tools sheet origin target params).length ≤
      params.offset.getD 0 + params.limit.getD 100
  · rw [and_iff_right hall]
    apply @covers_iff_rowsFit _ tools sheet origin target config length params
      (fun offset => params.offset.getD 0 ≤ offset)
    · exact fun _ _ hoffset => Nat.le_add_right_of_le hoffset
    · intro offset hoffset
      rw [hmode]
      unfold sampleRows
      dsimp only
      rw [Nat.sub_eq_zero_of_le (by omega), Nat.zero_add]
    · exact Nat.le_refl _
  · constructor
    · intro h
      exact absurd h (last_not_paged hmode (by omega))
    · intro h
      exact absurd h.1 hall

end Table

/-! ### Pages without progress -/

/-- The pages of sheets, of tables and of formula maps cover what they page through exactly where
each row or group is within the limit and the budgets by itself; the last rows of a table only
where they are on one page of the limit, and a formula map only where no page end parts groups
that the sort order ties. -/
theorem budgeted_paging_iff {κ ν : Type} (sheet : PagedSheet κ) (config : ServerConfig)
    (headerRow : Nat) (page : SheetPageParams) (tools : TableTools ν) (table : Worksheet)
    (origin : Nat × Nat → Nat × Nat) (target : TableTarget)
    (rowsLength : ResponseLength (TableRow ν)) (read : ReadTableParams ν)
    (graph : Analysis.FormulaGraph) (groupsLength : ResponseLength Analysis.FormulaGroup)
    (map : Analysis.SheetFormulaMapParams) :
    (SheetPaged sheet config headerRow page ↔
      (page.pageSize ≠ 0 → SheetFits sheet config headerRow page)) ∧
    (TablePaged tools table origin target config rowsLength { read with sampleMode := some .first } ↔
      RowsFit tools table origin target config rowsLength read) ∧
    (TablePaged tools table origin target config rowsLength { read with sampleMode := some .last } ↔
      (matchingRows tools table origin target read).length ≤
          read.offset.getD 0 + read.limit.getD 100 ∧
        RowsFit tools table origin target config rowsLength read) ∧
    (Analysis.FormulaMapPaged groupsLength config map graph ↔
      Analysis.GroupsFit groupsLength config map graph ∧
        Analysis.TiesApart groupsLength config map graph) := by
  refine ⟨sheetPaged_iff, ?_, ?_, Analysis.formulaMapPaged_iff graph⟩
  · exact @first_paged_iff _ tools table origin target config rowsLength
      { read with sampleMode := some .first } rfl
  · exact @last_paged_iff _ tools table origin target config rowsLength
      { read with sampleMode := some .last } rfl

def pairSheet : PagedSheet String where
  view := {
    highestColumn := 2
    highestRow := 1
    cellSnapshot := fun _ _ column row => Analysis.cellAddress column row
    resolveColumnsWithHeaders := fun _ _ highest _ => between 1 highest }
  bounded := by decide
  responseLength _ _ _ rows := rows.length
  alone := by
    intro _ _ _ _ _ _ first count _ row hrow
    rw [List.length_map, List.length_range', List.length_singleton]
    have hpos := List.length_pos_of_mem hrow
    rwa [List.length_range'] at hpos

/-- Where one row has more cells than a response may have, the page is empty and the next one is
to start where it did. -/
theorem page_asks_for_itself : ¬ SheetPaged pairSheet { maxCells := some 1 } 1 {} := by
  intro h
  have hfits := sheetPaged_iff.mp h (by decide)
  have hcells := (hfits.fits 1 (by decide)).cells
  exact absurd hcells (by decide)

end AgentSpreadsheet.Tables
