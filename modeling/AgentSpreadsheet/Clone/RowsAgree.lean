import AgentSpreadsheet.Clone.Rows
import AgentSpreadsheet.Clone.Sums
import AgentSpreadsheet.Legacy.Integrity

/-! A row clone and the clone of a one-row band agree. The row is stamped before the sums are
expanded and its dimension copied after, the band the other way round. -/
namespace AgentSpreadsheet.Clone
open Library
open Sheets (Bounds Book formulaCell valueCell CloneMergePolicy resolveCloneAnchor)

/-! ### The band of one row -/

theorem trim_toString (n : Nat) : Legacy.trim (toString n) = toString n := by
  apply Legacy.trim_of_valid
  have hne : toString n ≠ "" := by
    intro h
    have hlist := congrArg String.toList h
    rw [Analysis.toString_digits] at hlist
    exact Nat.toDigits_ne_nil hlist
  unfold Legacy.validSessionId
  rw [Analysis.toString_digits, Bool.and_eq_true, decide_eq_true_eq, List.all_eq_true]
  refine ⟨hne, fun c hc => ?_⟩
  have hdigit : c.isDigit = true := Nat.isDigit_of_mem_toDigits (by decide) (by decide) hc
  simp [Char.isAlphanum, hdigit]

theorem parseRow_toString {n : Nat} (h : n < 2 ^ 32) : parseRow (toString n) = some n := by
  have hparse : Analysis.parseU32 (Nat.toDigits 10 n) = some n := by
    have hdigits : ∀ c ∈ Nat.toDigits 10 n, c.isDigit = true :=
      fun c hc => Nat.isDigit_of_mem_toDigits (by decide) (by decide) hc
    simpa [Analysis.parseU32, Nat.toDigits_ne_nil, Nat.ofDigitChars_ten_toDigits] using
      ⟨hdigits, h⟩
  unfold parseRow
  rw [trim_toString, Analysis.toString_digits]
  split
  · next digits hlist =>
    have hplus : '+'.isDigit = true := Nat.isDigit_of_mem_toDigits (by decide) (by decide)
      (hlist ▸ List.mem_cons_self : '+' ∈ Nat.toDigits 10 n)
    contradiction
  · exact hparse

theorem parseCloneRowBand_row {row : Nat} (hbound : row < 2 ^ 32) {ends : Nat × Nat} :
    parseCloneRowBand (rowRange row row) = .ok ends ↔ row ≠ 0 ∧ (row, row) = ends := by
  have hsplit : Sheets.splitOnce ':' (rowRange row row) = some (toString row, toString row) := by
    apply Sheets.splitOnce_append
    rw [Analysis.toString_digits]
    intro hmem
    have hcolon : ':'.isDigit = true := Nat.isDigit_of_mem_toDigits (by decide) (by decide) hmem
    contradiction
  have hparse : parseRow row.repr = some row := parseRow_toString hbound
  unfold parseCloneRowBand
  simp [hsplit, hparse]

section Bands
variable (row : Nat)

def CloneMergeSpan.band (span : CloneMergeSpan) : CloneBandMergeSpan :=
  ⟨span.startCol, span.endCol, 0, 0, span.range⟩

theorem interval_row {rows : Interval} :
    (row ≤ rows.lo ∧ rows.hi ≤ row ↔ rows.lo = row ∧ rows.hi = row) ∧
      (rows.hi < row ∨ row < rows.lo ↔ ¬(rows.lo ≤ row ∧ row ≤ rows.hi)) := by
  have := rows.le
  omega

theorem cloneBandMerge_row (raw : String) :
    (cloneBandMerge row row raw).contained? =
        ((cloneRowMerge row raw).contained?).map CloneMergeSpan.band ∧
      (cloneBandMerge row row raw).crossing? = (cloneRowMerge row raw).crossing? := by
  unfold cloneBandMerge cloneRowMerge
  cases parseAppendRegionBounds raw with
  | none => exact ⟨rfl, rfl⟩
  | some bounds =>
    simp only [(@interval_row row bounds.rows).1, (@interval_row row bounds.rows).2]
    by_cases hapart : ¬(bounds.rows.lo ≤ row ∧ row ≤ bounds.rows.hi)
    · rw [if_pos hapart, if_pos hapart]
      exact ⟨rfl, rfl⟩
    · rw [if_neg hapart, if_neg hapart]
      by_cases hinside : bounds.rows.lo = row ∧ bounds.rows.hi = row
      · rw [if_pos hinside, if_pos hinside, hinside.1, hinside.2]
        simp [RangePlace.contained?, RangePlace.crossing?, CloneMergeSpan.band]
      · rw [if_neg hinside, if_neg hinside]
        exact ⟨rfl, rfl⟩

theorem cloneBandValidation_row : cloneBandValidation row row = cloneRowValidation row := by
  funext validation raw
  unfold cloneBandValidation cloneRowValidation
  cases parseAppendRegionBounds raw with
  | none => rfl
  | some bounds =>
    simp only [(@interval_row row bounds.rows).1, (@interval_row row bounds.rows).2]
    by_cases hinside : bounds.rows.lo = row ∧ bounds.rows.hi = row
    · simp [hinside]
    · simp [hinside]

theorem rowValidation_offsets {sheet : CloneSheet} {spec : CloneValidationSpec}
    (h : spec ∈ inspectValidations (cloneRowValidation row) sheet) :
    spec.startRowOffset = 0 ∧ spec.endRowOffset = 0 := by
  obtain ⟨validation, _, hspec⟩ := List.mem_flatMap.mp h
  obtain ⟨raw, _, hplace⟩ := List.mem_filterMap.mp hspec
  unfold cloneRowValidation at hplace
  generalize parseAppendRegionBounds raw = found at hplace
  cases found with
  | none => simp [RangePlace.contained?] at hplace
  | some bounds =>
    by_cases hapart : ¬(bounds.rows.lo ≤ row ∧ row ≤ bounds.rows.hi)
    · simp only [if_pos hapart, RangePlace.contained?, reduceCtorEq] at hplace
    · by_cases hinside : bounds.rows.lo = row ∧ bounds.rows.hi = row
      · simp only [if_neg hapart, if_pos hinside, RangePlace.contained?] at hplace
        obtain rfl := Option.some.inj hplace
        exact ⟨rfl, rfl⟩
      · simp only [if_neg hapart, if_neg hinside, RangePlace.contained?, reduceCtorEq] at hplace

variable (tools : RowTools) (grid : Grid)

def bandRow : CloneBandTemplateRow where
  sourceRow := row
  rowOffset := 0
  previewCells := inspectTemplateRowCells tools grid row
  cellData := captureRowTemplate tools grid row
  rowDimension := grid.row row

theorem inspectCloneBandRows_row :
    inspectCloneBandRows tools grid row row = [bandRow row tools grid] := by
  unfold inspectCloneBandRows bandRow
  rw [Nat.add_sub_cancel_left]
  simp

variable {row tools grid} {insertAtRow count : Nat}

theorem bandFormulaTargets_row : buildCloneBandFormulaTargets [bandRow row tools grid] insertAtRow 1
    count = buildCloneFormulaTargets (inspectTemplateRowCells tools grid row) insertAtRow count := by
  unfold buildCloneBandFormulaTargets buildCloneFormulaTargets bandRow
  rw [List.range'_eq_map_range, List.flatMap_map]
  simp

theorem bandPatchTargets_row {validations : List CloneValidationSpec}
    {patchTargets : ClonePatchTargets} :
    buildCloneBandPatchTargets tools [bandRow row tools grid] validations insertAtRow 1 count
        patchTargets =
      buildClonePatchTargets tools (inspectTemplateRowCells tools grid row) validations insertAtRow
        count patchTargets := by
  unfold buildCloneBandPatchTargets buildClonePatchTargets bandRow
  rw [List.range'_eq_map_range, List.flatMap_map]
  simp

def CloneTemplateRowPlan.band (plan : CloneTemplateRowPlan) (template : CloneBandTemplateRow) :
    CloneRowBandPlan where
  sheetName := plan.sheetName
  sourceRowCount := 1
  insertAtRow := plan.insertAtRow
  repeats := plan.count
  rowsInserted := plan.count
  insertedRowRange := plan.insertedRowRange
  expandAdjacentSums := plan.expandAdjacentSums
  formulaTargets := plan.formulaTargets
  likelyPatchTargets := plan.likelyPatchTargets
  adjacentSumTargets := plan.adjacentSumTargets
  templateRows := [template]
  containedMerges := plan.containedMerges.map CloneMergeSpan.band
  containedValidations := plan.containedValidations

theorem bandPlan_iff (tools : RowTools) (request : CloneRequest) (book : Book CloneSheet)
    {row count : Nat} (hbound : row < 2 ^ 32) {band : CloneRowBandPlan} :
    buildCloneRowBandPlan tools request book (rowRange row row) count = .ok band ↔
      ∃ plan sheet, buildCloneTemplateRowPlan tools request book row count = .ok plan ∧
        book.sheetByName request.sheetName = some sheet ∧
        plan.band (bandRow row tools sheet.grid) = band := by
  unfold buildCloneRowBandPlan buildCloneTemplateRowPlan
  have hcontained (merges : List String) :
      merges.filterMap (fun raw => (cloneBandMerge row row raw).contained?) =
        (merges.filterMap fun raw => (cloneRowMerge row raw).contained?).map
          CloneMergeSpan.band := by
    rw [List.map_filterMap]
    exact List.filterMap_congr fun raw _ => (cloneBandMerge_row row raw).1
  have hcrossing : (fun raw => (cloneBandMerge row row raw).crossing?) =
      fun raw => (cloneRowMerge row raw).crossing? :=
    funext fun raw => (cloneBandMerge_row row raw).2
  simp only [bind_eq_ok, pure_eq_ok, ensure_eq_ok, required_eq_ok, Prod.exists,
    parseCloneRowBand_row hbound, Prod.mk.injEq]
  constructor
  · intro h
    obtain ⟨_, hcount, _, _, ⟨hrow, rfl, rfl⟩, insertAtRow, hanchor, sheet, hsheet, _, hstrict,
      rfl⟩ := h
    rw [hcrossing] at hstrict
    refine ⟨_, sheet, ⟨(), hrow, (), hcount, insertAtRow, hanchor, sheet, hsheet, (), hstrict,
      rfl⟩, hsheet, ?_⟩
    unfold CloneTemplateRowPlan.band
    simp only [Nat.sub_self, Nat.zero_add, Nat.one_mul, inspectCloneBandRows_row,
      cloneBandValidation_row, bandFormulaTargets_row, bandPatchTargets_row, hcontained]
  · intro h
    obtain ⟨_, sheet, ⟨_, hrow, _, hcount, insertAtRow, hanchor, sheet', hsheet', _, hstrict,
      rfl⟩, hsheet, rfl⟩ := h
    obtain rfl := Option.some.inj (hsheet.symm.trans hsheet')
    refine ⟨(), hcount, row, row, ⟨hrow, rfl, rfl⟩, insertAtRow, hanchor, sheet, hsheet, (), ?_,
      ?_⟩
    · rwa [hcrossing]
    · unfold CloneTemplateRowPlan.band
      simp only [Nat.sub_self, Nat.zero_add, Nat.one_mul, inspectCloneBandRows_row,
        cloneBandValidation_row, bandFormulaTargets_row, bandPatchTargets_row, hcontained]

end Bands

/-! ### Edits that commute -/

theorem foldl_fuse {σ ι : Type} {f g : σ → ι → σ} (hcomm : ∀ s i j, g (f s i) j = f (g s j) i)
    (xs : List ι) (s : σ) :
    xs.foldl g (xs.foldl f s) = xs.foldl (fun s i => f (g s i) i) s := by
  induction xs generalizing s with
  | nil => rfl
  | cons x xs ih =>
    have hx : g (xs.foldl f (f s x)) x = xs.foldl f (g (f s x) x) :=
      (List.foldl_hom (fun s => g s x) fun s i => (hcomm s i x).symm).symm
    rw [List.foldl_cons, List.foldl_cons, List.foldl_cons, hx, ih, hcomm]

namespace Grid
variable {tools : CloneTools} {grid : Grid} {position other : Position} {cell cell' : Cell}

theorem touchRow_some (dimension : RowDimension) :
    touchRow tools (some dimension) = some dimension := by
  unfold touchRow
  split <;> rfl

theorem touchRow_getD (dimension : Option RowDimension) :
    (touchRow tools dimension).getD {} = dimension.getD {} := by
  unfold touchRow
  split <;> rfl

theorem setCell_comm (h : position ≠ other) :
    (grid.setCell tools position cell).setCell tools other cell' =
      (grid.setCell tools other cell').setCell tools position cell := by
  apply Grid.ext
  · intro place
    exact congrFun (Function.update_comm h (some cell) (some cell') grid.cell) place
  · intro line
    unfold setCell
    dsimp only
    by_cases hrow : position.2 = other.2
    · rw [hrow, Function.update_self]
    · rw [Function.update_of_ne (Ne.symm hrow), Function.update_of_ne hrow,
        Function.update_comm hrow]
  · change max (max _ _) _ = max (max _ _) _
    omega

theorem setCell_columns (h : position.1 ≤ grid.highestColumn) :
    (grid.setCell tools position cell).highestColumn = grid.highestColumn :=
  Nat.max_eq_left h

theorem copyRow_setCell (source : Option RowDimension) (line : Nat) :
    (copyRow source line grid).setCell tools position cell =
      copyRow source line (grid.setCell tools position cell) := by
  cases source with
  | none => rfl
  | some source =>
    apply Grid.ext
    · exact fun _ => rfl
    · intro other
      unfold copyRow setRow setCell
      dsimp only
      by_cases hrow : line = position.2
      · rw [hrow, Function.update_self, Function.update_self, touchRow_some, touchRow_getD]
        simp
      · rw [Function.update_of_ne hrow, Function.update_of_ne (Ne.symm hrow),
          Function.update_comm hrow]
    · rfl

end Grid

section Stamps
variable {tools : RowTools} {grid : Grid} {template : List TemplateCellData} {name : String}
  {atRow count sourceRow destRow : Nat}

theorem bandCell_eq (cell : TemplateCellData) (delta : Int) (target : Cell) :
    bandCell tools cell delta target = stampCell tools cell delta target := by
  unfold bandCell stampCell
  cases cell.formula <;> rfl

theorem bandRow_stamp (row blockStart : Nat) (source : Grid) :
    (bandRow row tools source).stamp tools blockStart grid =
      stampRow tools (captureRowTemplate tools source row) row blockStart
        (copyRow (source.row row) blockStart grid) := by
  unfold CloneBandTemplateRow.stamp bandRow stampRow
  simp only [Nat.add_zero, bandCell_eq]

theorem copyRow_cell (source : Option RowDimension) (line : Nat) :
    (copyRow source line grid).cell = grid.cell := by
  cases source <;> rfl

theorem copyRow_stampRow (source : Option RowDimension) (line : Nat) :
    copyRow source line (stampRow tools template sourceRow destRow grid) =
      stampRow tools template sourceRow destRow (copyRow source line grid) := by
  unfold stampRow
  refine (List.foldl_hom (copyRow source line) fun grid cell => ?_).symm
  rw [copyRow_cell, Grid.copyRow_setCell]

theorem expandSum_setCell {position : Position} {cell : Cell} (hrow : position.2 ≠ atRow + count)
    (state : SumExpansion) (col : Nat) :
    expandSum tools.toCloneTools name atRow count
        { state with grid := state.grid.setCell tools.toCloneTools position cell } col =
      { expandSum tools.toCloneTools name atRow count state col with
        grid := (expandSum tools.toCloneTools name atRow count state col).grid.setCell
          tools.toCloneTools position cell } := by
  have hplace : (col, atRow + count) ≠ position := fun h => hrow (congrArg Prod.snd h).symm
  have hsame : (state.grid.setCell tools.toCloneTools position cell).cell (col, atRow + count) =
      state.grid.cell (col, atRow + count) := Function.update_of_ne hplace _ _
  unfold expandSum
  dsimp only
  rw [hsame]
  cases state.grid.cell (col, atRow + count) with
  | none => rfl
  | some found =>
    dsimp only
    cases found.formula.map (sumStep tools.toCloneTools name atRow count col) with
    | none => rfl
    | some step =>
      cases step with
      | keep => rfl
      | skip warning => rfl
      | expand formula =>
        dsimp only
        rw [Grid.setCell_comm hplace.symm]

def expandGrid (tools : RowTools) (name : String) (atRow count : Nat) (grid : Grid) : Grid :=
  (expandAdjacentSumFormulas tools.toCloneTools name atRow count grid).grid

theorem expandGrid_setCell {position : Position} {cell : Cell}
    (hrow : position.2 ≠ atRow + count) (hcol : position.1 ≤ grid.highestColumn) :
    expandGrid tools name atRow count (grid.setCell tools.toCloneTools position cell) =
      (expandGrid tools name atRow count grid).setCell tools.toCloneTools position cell := by
  unfold expandGrid expandAdjacentSumFormulas Grid.columns
  rw [Grid.setCell_columns hcol]
  have hloop := @List.foldl_hom _ _ _ (fun state : SumExpansion =>
    { state with grid := state.grid.setCell tools.toCloneTools position cell })
    (expandSum tools.toCloneTools name atRow count) (expandSum tools.toCloneTools name atRow count)
    (List.range' 1 grid.highestColumn) { grid } (expandSum_setCell hrow)
  exact congrArg SumExpansion.grid hloop

theorem expandGrid_cell {position : Position} (hrow : position.2 ≠ atRow + count) :
    (expandGrid tools name atRow count grid).cell position = grid.cell position := by
  unfold expandGrid
  rw [expanded_cell, if_neg fun h => hrow h.1]

theorem expandGrid_stampRow (hdest : destRow ≠ atRow + count)
    (hcols : ∀ cell ∈ template, cell.col ≤ grid.highestColumn) :
    expandGrid tools name atRow count (stampRow tools template sourceRow destRow grid) =
        stampRow tools template sourceRow destRow (expandGrid tools name atRow count grid) ∧
      (stampRow tools template sourceRow destRow grid).highestColumn = grid.highestColumn := by
  unfold stampRow
  induction template generalizing grid with
  | nil => exact ⟨rfl, rfl⟩
  | cons cell rest ih =>
    have hcol := hcols cell List.mem_cons_self
    have hhighest := @Grid.setCell_columns tools.toCloneTools grid (cell.col, destRow)
      (stampCell tools cell (destRow - sourceRow) ((grid.cell (cell.col, destRow)).getD {})) hcol
    have hrest := @ih (grid.setCell tools.toCloneTools (cell.col, destRow)
      (stampCell tools cell (destRow - sourceRow) ((grid.cell (cell.col, destRow)).getD {})))
      fun other hother => by
        rw [hhighest]
        exact hcols other (List.mem_cons_of_mem _ hother)
    rw [List.foldl_cons, List.foldl_cons, hrest.1, hrest.2, hhighest,
      @expandGrid_setCell _ _ _ _ _ (cell.col, destRow) _ hdest hcol,
      @expandGrid_cell _ _ _ _ _ (cell.col, destRow) hdest]
    exact ⟨rfl, rfl⟩

theorem expandGrid_stamps {copies : List Nat} (hcopies : ∀ copy ∈ copies, copy < count)
    (hcols : ∀ cell ∈ template, cell.col ≤ grid.highestColumn) :
    expandGrid tools name atRow count (copies.foldl (fun grid copy =>
        stampRow tools template sourceRow (atRow + copy) grid) grid) =
      copies.foldl (fun grid copy => stampRow tools template sourceRow (atRow + copy) grid)
        (expandGrid tools name atRow count grid) := by
  induction copies generalizing grid with
  | nil => rfl
  | cons copy rest ih =>
    have hcopy := hcopies copy List.mem_cons_self
    have hstamp := @expandGrid_stampRow tools grid template name atRow count sourceRow
      (atRow + copy) (by omega) hcols
    rw [List.foldl_cons, List.foldl_cons, ← hstamp.1]
    refine ih (fun other hother => hcopies other (List.mem_cons_of_mem _ hother)) ?_
    rw [hstamp.2]
    exact hcols

end Stamps

/-! ### One sheet -/

section Sheet
variable {tools : RowTools}

theorem foldl_copies (edit : Grid → Nat → Grid) (merges : Nat → List String) (copies : List Nat)
    (sheet : CloneSheet) :
    copies.foldl (fun sheet copy => { sheet with
        grid := edit sheet.grid copy, merges := sheet.merges ++ merges copy }) sheet =
      { sheet with
        grid := copies.foldl edit sheet.grid, merges := sheet.merges ++ copies.flatMap merges } := by
  induction copies generalizing sheet with
  | nil => simp
  | cons copy rest ih =>
    rw [List.foldl_cons, ih]
    simp

/-- Stamped rows get their dimensions before or after, as one likes. -/
theorem copyRow_stamps (template : List TemplateCellData) (dimension : Option RowDimension)
    (sourceRow atRow : Nat) (copies : List Nat) (grid : Grid) :
    copies.foldl (fun grid copy => copyRow dimension (atRow + copy) grid)
        (copies.foldl (fun grid copy =>
          stampRow tools template sourceRow (atRow + copy) grid) grid) =
      copies.foldl (fun grid copy => stampRow tools template sourceRow (atRow + copy)
        (copyRow dimension (atRow + copy) grid)) grid :=
  foldl_fuse (fun _ _ _ => copyRow_stampRow _ _) copies grid

structure CloneTemplateRowPlan.From (plan : CloneTemplateRowPlan) (source : Grid) : Prop where
  dimension : plan.rowDimension = source.row plan.sourceRow
  offsets : ∀ spec ∈ plan.containedValidations, spec.startRowOffset = 0 ∧ spec.endRowOffset = 0

theorem copySheet_agree {plan : CloneTemplateRowPlan} {source : Grid} (hfrom : plan.From source)
    {sheet : CloneSheet} (hcolumn : sheet.grid.highestColumn = source.highestColumn) :
    plan.copySheet (CloneSheet.expandSums tools plan.sheetName plan.insertAtRow plan.count
        plan.expandAdjacentSums { sheet with
          grid := stampTemplateRows tools (captureRowTemplate tools source plan.sourceRow)
            plan.sourceRow plan.insertAtRow plan.count sheet.grid }) =
      (plan.band (bandRow plan.sourceRow tools source)).copySheet tools
        (sheet.expandSums tools plan.sheetName plan.insertAtRow plan.count
          plan.expandAdjacentSums) := by
  have hcols : ∀ cell ∈ captureRowTemplate tools source plan.sourceRow,
      cell.col ≤ sheet.grid.highestColumn := by
    intro cell hcell
    obtain ⟨found, hfound, rfl⟩ := List.mem_map.mp hcell
    obtain ⟨col, hcol, hget⟩ := List.mem_filterMap.mp hfound
    obtain ⟨_, _, rfl⟩ := Option.map_eq_some_iff.mp hget
    rw [hcolumn]
    exact (mem_columns.mp hcol).2
  have hexpand := @expandGrid_stamps tools sheet.grid
    (captureRowTemplate tools source plan.sourceRow) plan.sheetName plan.insertAtRow plan.count
    plan.sourceRow (List.range plan.count) (fun copy hcopy => List.mem_range.mp hcopy) hcols
  have hmerges : (fun copy => plan.containedMerges.map fun merge => formatA1Range merge.startCol
      merge.endCol (plan.insertAtRow + copy) (plan.insertAtRow + copy)) =
      fun block => (plan.containedMerges.map CloneMergeSpan.band).map fun merge =>
        formatA1Range merge.startCol merge.endCol
          (plan.insertAtRow + block * 1 + merge.startRowOffset)
          (plan.insertAtRow + block * 1 + merge.endRowOffset) := by
    funext copy
    simp [CloneMergeSpan.band, Function.comp_def]
  have hspecs : (fun copy => plan.containedValidations.map fun spec =>
      spec.copy (plan.insertAtRow + copy) (plan.insertAtRow + copy)) =
      fun block => plan.containedValidations.map fun spec =>
        spec.copy (plan.insertAtRow + block * 1 + spec.startRowOffset)
          (plan.insertAtRow + block * 1 + spec.endRowOffset) := by
    funext copy
    refine List.map_congr_left fun spec hspec => ?_
    rw [(hfrom.offsets spec hspec).1, (hfrom.offsets spec hspec).2, Nat.mul_one, Nat.add_zero]
  have hgrid : (fun (grid : Grid) (block : Nat) => [bandRow plan.sourceRow tools source].foldl
      (fun grid row => row.stamp tools (plan.insertAtRow + block * 1) grid) grid) =
      fun grid copy => stampRow tools (captureRowTemplate tools source plan.sourceRow)
        plan.sourceRow (plan.insertAtRow + copy)
        (copyRow plan.rowDimension (plan.insertAtRow + copy) grid) := by
    funext grid block
    rw [List.foldl_cons, List.foldl_nil, bandRow_stamp, Nat.mul_one, hfrom.dimension]
  unfold CloneTemplateRowPlan.copySheet CloneRowBandPlan.copySheet CloneTemplateRowPlan.band
  dsimp only
  rw [foldl_copies (fun grid copy => copyRow plan.rowDimension (plan.insertAtRow + copy) grid),
    foldl_copies (fun grid block => [bandRow plan.sourceRow tools source].foldl
      (fun grid row => row.stamp tools (plan.insertAtRow + block * 1) grid) grid),
    hspecs, hmerges, hgrid]
  unfold CloneSheet.expandSums stampTemplateRows
  cases plan.expandAdjacentSums with
  | false =>
    simp only [Bool.false_eq_true, if_false]
    rw [copyRow_stamps]
  | true =>
    simp only [if_true]
    unfold expandGrid at hexpand
    rw [hexpand, copyRow_stamps]

end Sheet

/-! ### The book -/

section Books
variable {tools : RowTools} {name : String} {book book' : Book CloneSheet}

/-- Rewriting other sheets leaves a sheet as it is. -/
theorem mapM_sheetByName {edit : Sheets.Sheet CloneSheet → Result (Sheets.Sheet CloneSheet)}
    (hname : ∀ sheet sheet', edit sheet = .ok sheet' → sheet'.name = sheet.name)
    (hkeep : ∀ sheet, sheet.name = name → edit sheet = .ok sheet)
    (h : List.mapM edit book = .ok book') : book'.sheetByName name = book.sheetByName name := by
  induction book generalizing book' with
  | nil =>
    obtain rfl := Except.ok.inj h
    rfl
  | cons sheet rest ih =>
    rw [List.mapM_cons] at h
    simp only [bind_eq_ok, pure_eq_ok] at h
    obtain ⟨sheet', hedit, rest', hrest, rfl⟩ := h
    unfold Book.sheetByName
    rw [hname sheet sheet' hedit]
    by_cases hsame : sheet.name = name
    · obtain rfl := Except.ok.inj ((hkeep sheet hsame).symm.trans hedit)
      rw [if_pos hsame, if_pos hsame]
    · rw [if_neg hsame, if_neg hsame, ih hrest]

theorem insertedBook_grid {atRow count : Nat} {sheet : CloneSheet}
    (hsheet : book.sheetByName name = some sheet)
    (h : insertedBook tools name atRow count book = .ok book') :
    ∃ body, book'.sheetByName name = some body ∧
      body.grid = sheet.grid.insertNewRow tools.toCloneTools atRow count := by
  unfold insertedBook at h
  rw [bind_eq_ok] at h
  obtain ⟨inserted, hinserted, hrewritten⟩ := h
  obtain ⟨before, after, hbefore, hafter, hfound, _⟩ := Book.onSheet_spec hinserted
  obtain rfl := Option.some.inj (hsheet.symm.trans hbefore)
  have hkept := @mapM_sheetByName name inserted book' _ (by
      intro other other' hother
      split at hother
      · exact congrArg Sheets.Sheet.name (pure_eq_ok.mp hother).symm
      · rw [bind_eq_ok] at hother
        obtain ⟨grid, _, hgrid⟩ := hother
        rw [← pure_eq_ok.mp hgrid])
    (fun other hother => if_pos hother) hrewritten
  refine ⟨after, hkept.trans hfound, ?_⟩
  unfold CloneSheet.insertRows at hafter
  rw [bind_eq_ok] at hafter
  obtain ⟨relocated, _, hrelocated⟩ := hafter
  rw [← pure_eq_ok.mp hrelocated]

theorem onSheet_found {sheet : CloneSheet} {edit : CloneSheet → CloneSheet}
    (h : book.sheetByName name = some sheet) :
    ∃ edited, book.onSheet name (fun body => .ok (edit body)) = .ok edited ∧
      edited.sheetByName name = some (edit sheet) := by
  induction book with
  | nil => contradiction
  | cons first rest ih =>
    unfold Book.sheetByName at h
    unfold Book.onSheet
    by_cases hname : first.name = name
    · rw [if_pos hname] at h
      obtain rfl := Option.some.inj h
      rw [if_pos hname]
      refine ⟨_, rfl, ?_⟩
      unfold Book.sheetByName
      exact if_pos hname
    · rw [if_neg hname] at h
      obtain ⟨edited, hedited, hfound⟩ := ih h
      rw [if_neg hname, hedited]
      refine ⟨first :: edited, rfl, ?_⟩
      unfold Book.sheetByName
      rw [if_neg hname, hfound]

theorem onSheet_congr {sheet : CloneSheet} {edit edit' : CloneSheet → CloneSheet}
    (h : book.sheetByName name = some sheet) (hsame : edit sheet = edit' sheet) :
    book.onSheet name (fun body => .ok (edit body)) =
      book.onSheet name fun body => .ok (edit' body) := by
  induction book with
  | nil => rfl
  | cons first rest ih =>
    unfold Book.sheetByName at h
    unfold Book.onSheet
    by_cases hname : first.name = name
    · rw [if_pos hname] at h
      obtain rfl := Option.some.inj h
      rw [if_pos hname, if_pos hname, hsame]
    · rw [if_neg hname] at h
      rw [if_neg hname, if_neg hname, ih h]

theorem onSheet_id {sheet : CloneSheet} (h : book.sheetByName name = some sheet) :
    book.onSheet name (fun body => .ok body) = .ok book := by
  induction book with
  | nil => contradiction
  | cons first rest ih =>
    unfold Book.sheetByName at h
    unfold Book.onSheet
    by_cases hname : first.name = name
    · rw [if_pos hname]
      rfl
    · rw [if_neg hname] at h
      rw [if_neg hname, ih h]
      rfl

theorem copySheet_nothing {plan : CloneTemplateRowPlan} (hmerges : plan.containedMerges = [])
    (hvalidations : plan.containedValidations = []) (hdimension : plan.rowDimension = none) :
    plan.copySheet = id := by
  funext sheet
  unfold CloneTemplateRowPlan.copySheet
  dsimp only
  rw [foldl_copies (fun grid copy => copyRow plan.rowDimension (plan.insertAtRow + copy) grid),
    hmerges, hvalidations, hdimension]
  have hgrid : (fun (grid : Grid) (copy : Nat) => copyRow none (plan.insertAtRow + copy) grid) =
      fun grid _ => grid := rfl
  have hnone : (List.range plan.count).flatMap (fun _ => ([] : List String)) = [] :=
    List.flatMap_eq_nil_iff.mpr fun _ _ => rfl
  rw [hgrid]
  simp [CloneSheet.addValidations, hnone]

theorem postprocess_eq {plan : CloneTemplateRowPlan} {sheet : CloneSheet}
    (h : book.sheetByName plan.sheetName = some sheet) :
    applyCloneTemplateRowPostprocess plan book =
      book.onSheet plan.sheetName fun sheet => .ok (plan.copySheet sheet) := by
  unfold applyCloneTemplateRowPostprocess
  split
  · next hnothing =>
    rw [copySheet_nothing hnothing.1 hnothing.2.1 hnothing.2.2]
    exact (onSheet_id h).symm
  · rw [h]
    rfl

theorem onSheet_postprocess {plan : CloneTemplateRowPlan} {sheet : CloneSheet}
    (edit : CloneSheet → CloneSheet) (h : book.sheetByName plan.sheetName = some sheet) :
    (book.onSheet plan.sheetName (fun sheet => .ok (edit sheet)) >>=
        applyCloneTemplateRowPostprocess plan) =
      book.onSheet plan.sheetName fun sheet => .ok (plan.copySheet (edit sheet)) := by
  obtain ⟨edited, hedited, hfound⟩ := @onSheet_found _ book sheet edit h
  rw [← Book.onSheet_onSheet plan.sheetName edit plan.copySheet book, hedited]
  exact postprocess_eq hfound

theorem onSheet_ensure {sheet : CloneSheet} {message : String} (edit more : CloneSheet → CloneSheet)
    (h : book.sheetByName name = some sheet) :
    (book.onSheet name (fun sheet => .ok (edit sheet)) >>= fun book => do
        ensure (book.sheetByName name).isSome message
        book.onSheet name fun sheet => .ok (more sheet)) =
      book.onSheet name fun sheet => .ok (more (edit sheet)) := by
  obtain ⟨edited, hedited, hfound⟩ := @onSheet_found _ book sheet edit h
  rw [← Book.onSheet_onSheet name edit more book, hedited]
  change (ensure (edited.sheetByName name).isSome message >>= fun _ => _) = _
  rw [hfound]
  rfl

theorem apply_agree {plan : CloneTemplateRowPlan} {source : CloneSheet}
    (hfrom : plan.From source.grid) (hsheet : book.sheetByName plan.sheetName = some source)
    (hrow : plan.sourceRow ≠ 0) (hinsert : plan.insertAtRow ≠ 0) (hcount : plan.count ≠ 0) :
    applyCloneTemplateRowPlan tools plan book =
      applyCloneRowBandPlan tools (plan.band (bandRow plan.sourceRow tools source.grid)) book := by
  have hclone : applyCloneRow tools plan.sheetName plan.sourceRow plan.insertAtRow plan.count
      plan.expandAdjacentSums book =
      insertedBook tools plan.sheetName plan.insertAtRow plan.count book >>= fun inserted =>
        inserted.onSheet plan.sheetName fun sheet => .ok
          (CloneSheet.expandSums tools plan.sheetName plan.insertAtRow plan.count
            plan.expandAdjacentSums { sheet with
              grid := stampTemplateRows tools (captureRowTemplate tools source.grid plan.sourceRow)
                plan.sourceRow plan.insertAtRow plan.count sheet.grid }) := by
    unfold applyCloneRow
    rw [ensure_pos (by simp [hrow, hinsert, hcount]), hsheet]
    change (insertedBook tools plan.sheetName plan.insertAtRow plan.count book >>= _) = _
    congr 1
    funext inserted
    exact Book.onSheet_onSheet plan.sheetName _ _ inserted
  have hinserts : applyInsertRows tools plan.sheetName plan.insertAtRow plan.count
      plan.expandAdjacentSums book =
      insertedBook tools plan.sheetName plan.insertAtRow plan.count book >>= fun inserted =>
        inserted.onSheet plan.sheetName fun sheet => .ok
          (sheet.expandSums tools plan.sheetName plan.insertAtRow plan.count
            plan.expandAdjacentSums) := by
    unfold applyInsertRows
    rw [ensure_pos (by simp [hinsert, hcount])]
    rfl
  unfold applyCloneTemplateRowPlan applyCloneRowBandPlan
  rw [hclone]
  change _ = (applyInsertRows tools plan.sheetName plan.insertAtRow plan.count
    plan.expandAdjacentSums book >>= _)
  rw [hinserts]
  cases hinserted : insertedBook tools plan.sheetName plan.insertAtRow plan.count book with
  | error e => rfl
  | ok inserted =>
    obtain ⟨body, hbody, hgrid⟩ := insertedBook_grid hsheet hinserted
    have hcolumn : body.grid.highestColumn = source.grid.highestColumn := by
      rw [hgrid]
      rfl
    refine (onSheet_postprocess _ hbody).trans (Eq.trans ?_ (onSheet_ensure _ _ hbody).symm)
    exact onSheet_congr hbody (copySheet_agree hfrom hcolumn)

end Books

/-! ### Both clones -/

theorem resolveCloneAnchor_ne {before after insertAt : Option Nat} {row : Nat}
    (h : resolveCloneAnchor before after insertAt = .ok row) : row ≠ 0 := by
  unfold resolveCloneAnchor at h
  split at h
  · simp only [bind_eq_ok, ensure_eq_ok, pure_eq_ok] at h
    obtain ⟨_, hne, rfl⟩ := h
    exact hne
  · simp only [bind_eq_ok, ensure_eq_ok, pure_eq_ok] at h
    obtain ⟨_, _, rfl⟩ := h
    omega
  · simp only [bind_eq_ok, ensure_eq_ok, pure_eq_ok] at h
    obtain ⟨_, hne, rfl⟩ := h
    exact hne
  · contradiction

section Both
variable {tools : RowTools} {request : CloneRequest} {book : Book CloneSheet} {row count : Nat}

theorem rowPlan_facts {plan : CloneTemplateRowPlan} {source : CloneSheet}
    (hsheet : book.sheetByName request.sheetName = some source)
    (h : buildCloneTemplateRowPlan tools request book row count = .ok plan) :
    plan.sheetName = request.sheetName ∧ plan.sourceRow = row ∧ plan.From source.grid ∧
      plan.sourceRow ≠ 0 ∧ plan.insertAtRow ≠ 0 ∧ plan.count ≠ 0 := by
  unfold buildCloneTemplateRowPlan at h
  simp only [bind_eq_ok, pure_eq_ok, ensure_eq_ok, required_eq_ok] at h
  obtain ⟨_, hrow, _, hcount, insertAtRow, hanchor, sheet, hfound, _, _, rfl⟩ := h
  obtain rfl := Option.some.inj (hsheet.symm.trans hfound)
  exact ⟨rfl, rfl, ⟨rfl, fun spec hspec => rowValidation_offsets row hspec⟩, hrow,
    resolveCloneAnchor_ne hanchor, hcount⟩

structure SameReport (plan : CloneTemplateRowPlan) (band : CloneRowBandPlan) : Prop where
  insertedRowRange : band.insertedRowRange = plan.insertedRowRange
  formulaTargets : band.formulaTargets = plan.formulaTargets
  likelyPatchTargets : band.likelyPatchTargets = plan.likelyPatchTargets
  adjacentSumTargets : band.adjacentSumTargets = plan.adjacentSumTargets

end Both

/-- A sum below its summands, cloned on a sheet that holds nothing else. -/
def sampleRowTools : RowTools where
  toCloneTools := footerTools
  helper := ⟨fun _ => (none, none, none, none), fun _ _ _ _ => "", fun _ => ""⟩
  insertMerges _ _ merges := merges
  rewriteFormulas _ _ _ _ grid := .ok grid
  parsesAsNumber _ := false

def sampleRequest : CloneRequest :=
  ⟨"S", some 4, none, none, true, .likelyInputs, .safe⟩

def sampleBook : Book CloneSheet := [⟨"S", footerSheet "SUM(A1:A3)", [], none⟩]

end AgentSpreadsheet.Clone
