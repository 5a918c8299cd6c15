import AgentSpreadsheet.Search.Agreement
import AgentSpreadsheet.Sheets.CsvImport

/-! A range exported as a grid and imported again where it was. -/
namespace AgentSpreadsheet.Sheets
open Library Search

structure GridRange extends Bounds where
  inside : 1 ≤ cols.lo ∧ cols.hi ≤ 16384 ∧ 1 ≤ rows.lo ∧ rows.hi ≤ 1048576

def GridRange.anchor (range : GridRange) : Position := (range.cols.lo, range.rows.lo)

structure ExportedGrid extends Grid where
  anchor : Position

/-- Code around a grid: the workbook's tools, the reader's, and what is told of a style, its number
format and a patch with the rest. -/
structure GridTools where
  stage : StageTools
  reading : ReadTools
  rounding : Rounding
  texts : TypedTexts
  describeStyle : String → Option String × Option String

/-! ### Export -/

section Export
variable (tools : GridTools) (book : OpenWorkbook) (name : String)

def cellToJsonValue : CellValue F64 → MatrixValue
  | .text s => .string s
  | .number x => jsonNumber tools.texts x
  | .bool b => .bool b
  | .error e => .string e
  | .date d => .string d

def exportCell (position offset : Nat × Nat) : Option GridCell :=
  (book.cells (name, position)).bind fun cell =>
    let v := if cell.isFormula then none else
      (cellToValue (tools.reading.valueTools tools.rounding)
        (readCell tools.stage tools.reading (name, position) cell)).map (cellToJsonValue tools)
    let f := cell.formula.map fun formula => "=" ++ formula
    let (fmt, style) := tools.describeStyle cell.style
    if v.isSome ∨ f.isSome ∨ fmt.isSome ∨ style.isSome then some { offset, v, f, fmt, style }
    else none

def lines (interval : Interval) : List Nat :=
  List.range' interval.lo (interval.hi + 1 - interval.lo)

def exportRows (range : GridRange) : List (List GridCell) :=
  ((lines range.rows).map fun row =>
    (lines range.cols).filterMap fun col =>
      exportCell tools book name (col, row) (row - range.rows.lo, col - range.cols.lo)).filter
    (· ≠ [])

def exportMerges (range : GridRange) : List A1Range :=
  (book.format name).merges.filterMap fun m => m.bounds.bind fun bounds =>
    if bounds.Meets range.toBounds then
      some (.cells (bounds.cols.lo, bounds.rows.lo) (bounds.cols.hi, bounds.rows.hi))
    else none

def exportColumns (range : GridRange) : List (Nat × Rat) :=
  (lines range.cols).filterMap fun col =>
    if 0 < ((book.format name).columns col).width then
      some (col - range.cols.lo, ((book.format name).columns col).width)
    else none

def gridExport (range : GridRange) : Result ExportedGrid := do
  book.requireSheet name
  pure
    { columns := exportColumns book name range
      merges := exportMerges book name range
      rows := exportRows tools book name range
      anchor := range.anchor }

end Export

/-! ### Import -/

def validateCell (position : Position) : Result Unit := do
  ensure (position.1 ≠ 0 ∧ position.2 ≠ 0) ("invalid cell reference '" ++ cellAddress position ++ "'")
  ensure (position.1 ≤ 16384 ∧ position.2 ≤ 1048576)
    ("cell reference '" ++ cellAddress position ++ "' exceeds XLSX grid bounds")

def validateRange : A1Range → Result Unit
  | .cells first last => do
    validateCell first
    validateCell last
    ensure (first.1 ≤ last.1 ∧ first.2 ≤ last.2)
      ("range '" ++ cellAddress first ++ ":" ++ cellAddress last ++ "' must be ascending")
  | .columns first last => do
    ensure (1 ≤ first ∧ last ≤ 16384) "invalid column"
    ensure (first ≤ last) "column range must be ascending"

/-- The cells of a matrix, with the one at the offset set. -/
def setMatrixCell (rows : List (List (Option MatrixCell))) (cell : GridCell) :
    List (List (Option MatrixCell)) :=
  (rows ++ List.replicate (cell.offset.1 + 1 - rows.length) []).modify cell.offset.1 fun row =>
    (row ++ List.replicate (cell.offset.2 + 1 - row.length) none).set cell.offset.2 cell.written

/-- `sheetName`, `anchor` and `clearTarget` of the operation. -/
structure ImportGrid where
  sheetName : String
  anchor : Position
  grid : ExportedGrid
  clearTarget : Bool

namespace ImportGrid
variable (request : ImportGrid) (tools : GridTools)

def cells : List GridCell := request.grid.rows.flatten

def validate : Result Unit := do
  validateCell request.grid.anchor
  request.grid.merges.forM validateRange
  ensure (request.anchor.1 ≠ 0 ∧ request.anchor.2 ≠ 0)
    ("invalid cell reference '" ++ cellAddress request.anchor ++ "'")
  ensure (∀ cell ∈ request.cells, request.anchor.2 + cell.offset.1 ≤ 1048576 ∧
    request.anchor.1 + cell.offset.2 ≤ 16384) "grid cell offset exceeds XLSX bounds"
  ensure (∀ column ∈ request.grid.columns, request.anchor.1 + column.1 ≤ 16384 ∧
    0 ≤ column.2 ∧ column.2 ≤ 255) "grid column hint is invalid"
  ensure (request.cells.length ≤ 100000) "request exceeds 100000 cells"

def footprint : A1Range :=
  ImportRequest.footprint ⟨request.sheetName, request.anchor,
    ⟨request.grid.anchor, request.grid.merges, request.cells.map GridCell.offset⟩,
    request.clearTarget⟩

def position (cell : GridCell) : Position :=
  (request.anchor.1 + cell.offset.2, request.anchor.2 + cell.offset.1)

def styleOps : List StyleOp :=
  request.cells.filterMap fun cell => (cell.stylePatch tools.stage).map fun patch =>
    ⟨request.sheetName, .cells [request.position cell], patch⟩

def cleared (book : OpenWorkbook) : Result OpenWorkbook :=
  if request.clearTarget then do
    let book ← book.structureOps tools.stage.toEditTools .off
      [.unmergeCells request.sheetName request.footprint]
    let book ← applyTransformOps tools.stage
      [.clearRange request.sheetName (.range request.footprint) true true] book
    applyStyleOps tools.stage
      [⟨request.sheetName, .range request.footprint, tools.stage.clearedPatch⟩] book
  else .ok book

def columnOps : List ColumnSizeOp :=
  request.grid.columns.map fun column =>
    ⟨request.sheetName, request.anchor.1 + column.1, request.anchor.1 + column.1,
      .width column.2⟩

def apply (book : OpenWorkbook) : Result OpenWorkbook := do
  let book ← request.cleared tools book
  let targets ← request.grid.merges.mapM (translateMerge request.anchor request.grid.anchor)
  let book ← book.structureOps tools.stage.toEditTools .off
    (targets.map (.mergeCells request.sheetName))
  let book ← applyColumnSizeOps tools.stage request.sheetName request.columnOps book
  let book ← applyTransformOps tools.stage
    [.writeMatrix request.sheetName request.anchor (request.cells.foldl setMatrixCell []) true] book
  applyStyleOps tools.stage (request.styleOps tools) book

def run (book : OpenWorkbook) : Result OpenWorkbook := do
  request.validate
  request.apply tools book

end ImportGrid

/-! ### The cells of the matrix -/

section Matrix
variable {rows : List (List (Option MatrixCell))} {cells : List GridCell} {row col : Nat}

def cellAt (rows : List (List (Option MatrixCell))) (row col : Nat) : Option MatrixCell :=
  ((rows[row]?.getD [])[col]?).getD none

theorem getElem_padded_getD {α : Type} (items : List α) (count i : Nat) (default : α) :
    ((items ++ List.replicate count default)[i]?).getD default = items[i]?.getD default := by
  rcases Nat.lt_or_ge i items.length with hi | hi
  · rw [List.getElem?_append_left hi]
  · rw [List.getElem?_append_right hi, List.getElem?_eq_none hi, List.getElem?_replicate]
    split <;> rfl

theorem cellAt_setMatrixCell (cell : GridCell) : cellAt (setMatrixCell rows cell) row col =
    if cell.offset = (row, col) then cell.written else cellAt rows row col := by
  obtain ⟨⟨r, c⟩, v, f, fmt, style⟩ := cell
  unfold cellAt setMatrixCell
  dsimp only
  rw [List.getElem?_modify]
  by_cases hr : r = row
  · subst hr
    have hrow : ((rows ++ List.replicate (r + 1 - rows.length) [])[r]?) =
        some (rows[r]?.getD []) := by
      have hlength : r < (rows ++ List.replicate (r + 1 - rows.length) []).length := by
        rw [List.length_append, List.length_replicate]
        omega
      have hpadded := getElem_padded_getD rows (r + 1 - rows.length) r []
      rw [List.getElem?_eq_getElem hlength] at hpadded ⊢
      rw [← hpadded]
      rfl
    rw [hrow]
    simp only [if_true, Option.map_eq_map, Option.map_some, Option.getD_some, Prod.mk.injEq,
      true_and]
    rw [List.getElem?_set]
    by_cases hc : c = col
    · subst hc
      have hlength : c < (rows[r]?.getD [] ++
          List.replicate (c + 1 - (rows[r]?.getD []).length) none).length := by
        rw [List.length_append, List.length_replicate]
        omega
      rw [if_pos rfl, if_pos hlength, if_pos rfl]
      rfl
    · rw [if_neg hc, if_neg hc, getElem_padded_getD]
  · have hpadded := getElem_padded_getD rows (r + 1 - rows.length) row []
    simp [hr, hpadded]

theorem cellAt_foldl (hdistinct : (cells.map GridCell.offset).Nodup) :
    cellAt (cells.foldl setMatrixCell rows) row col =
      match cells.find? fun cell => cell.offset = (row, col) with
      | some cell => cell.written
      | none => cellAt rows row col := by
  induction cells generalizing rows with
  | nil => rfl
  | cons cell rest ih =>
    rw [List.map_cons, List.nodup_cons] at hdistinct
    rw [List.foldl_cons, ih hdistinct.2, cellAt_setMatrixCell, List.find?_cons]
    by_cases hcell : cell.offset = (row, col)
    · have hnone : (rest.find? fun cell => cell.offset = (row, col)) = none := by
        rw [List.find?_eq_none]
        intro other hother hsame
        have hsame := of_decide_eq_true hsame
        exact hdistinct.1 (List.mem_map.mpr ⟨other, hother, hsame.trans hcell.symm⟩)
      rw [hnone]
      simp [hcell]
    · simp [hcell]

theorem mem_matrixCells_iff {anchor : Position} {position : Position} {written : MatrixCell} :
    (position, written) ∈ matrixCells anchor rows ↔
      ∃ row col, cellAt rows row col = some written ∧
        position = (anchor.1 + col, anchor.2 + row) := by
  rw [mem_matrixCells]
  constructor
  · intro h
    obtain ⟨row, col, values, hrow, hcol, hposition⟩ := h
    exact ⟨row, col, by simp [cellAt, hrow, hcol], hposition⟩
  · intro h
    obtain ⟨row, col, hcell, hposition⟩ := h
    unfold cellAt at hcell
    cases hrow : rows[row]? with
    | none => simp [hrow] at hcell
    | some values =>
      rw [hrow, Option.getD_some] at hcell
      cases hcol : values[col]? with
      | none => simp [hcol] at hcell
      | some value =>
        rw [hcol, Option.getD_some] at hcell
        exact ⟨row, col, values, hrow, by rw [hcol, hcell], hposition⟩

end Matrix

/-! ### What an import leaves -/

section Apply
variable {tools : GridTools} {book : OpenWorkbook} {name : String}

def styled (tools : GridTools) (patch : String) (cell : Option AgentSpreadsheet.Cell) :
    Option AgentSpreadsheet.Cell :=
  some { cell.getD {} with style := tools.stage.applyStylePatch (cell.getD {}).style patch }

/-- A cell of the footprint, with the one of the grid that goes there. -/
def restored (tools : GridTools) (gridCell : Option GridCell) (cell : Option AgentSpreadsheet.Cell) :
    Option AgentSpreadsheet.Cell :=
  let cell := styled tools tools.stage.clearedPatch (clearCell tools.stage true true cell)
  let cell := (gridCell.bind GridCell.written).elim cell fun written =>
    writeCell tools.stage true written cell
  (gridCell.bind (GridCell.stylePatch tools.stage)).elim cell fun patch => styled tools patch cell

theorem applyStyleOp_eq (hname : name ∈ book.sheets) {target : StyleTarget} {patch : String}
    {positions : List Position} (htarget : target.positions = .ok positions) :
    applyStyleOp tools.stage.toFormatTools ⟨name, target, patch⟩ book =
      .ok (book.onPositions name positions (styled tools patch)) := by
  have hsheet : book.requireSheet name = .ok () := ensure_pos hname _
  simp only [applyStyleOp, hsheet, htarget, bind, Except.bind, pure, Except.pure]
  unfold OpenWorkbook.onPositions OpenWorkbook.onCells
  rw [List.foldl_map]
  rfl

theorem applyStyleOps_cells {entries : List (Position × String)} (hname : name ∈ book.sheets) :
    applyStyleOps tools.stage (entries.map fun entry => ⟨name, .cells [entry.1], entry.2⟩) book =
      .ok (book.onCells (styled tools) (entries.map fun entry => ((name, entry.1), entry.2))) := by
  unfold applyStyleOps
  induction entries generalizing book with
  | nil => rfl
  | cons entry rest ih =>
    rw [List.map_cons, List.foldlM_cons, applyStyleOp_eq hname rfl]
    exact ih hname

theorem mergeOps_eq {targets : List A1Range} (hname : name ∈ book.sheets) :
    book.structureOps tools.stage.toEditTools .off (targets.map (.mergeCells name)) =
      .ok (book.setFormat name { book.format name with
        merges := (book.format name).merges ++ targets.map A1Range.merged }) := by
  induction targets generalizing book with
  | nil =>
    have hsame : book.setFormat name { book.format name with
        merges := (book.format name).merges ++ [] } = book := by
      unfold OpenWorkbook.setFormat
      rw [List.append_nil, Function.update_eq_self]
    rw [List.map_nil, List.map_nil, hsame]
    rfl
  | cons target rest ih =>
    have hfirst : book.restructured tools.stage.toEditTools .off (.mergeCells name target) =
        .ok (book.setFormat name { book.format name with
          merges := (book.format name).merges.add target }) := by
      have hsheet : book.requireSheet name = .ok () := ensure_pos hname _
      simp only [OpenWorkbook.restructured, hsheet, bind, Except.bind, pure, Except.pure]
    rw [List.map_cons, OpenWorkbook.structureOps_cons, hfirst]
    have hrest := @ih (book.setFormat name { book.format name with
      merges := (book.format name).merges.add target }) hname
    refine hrest.trans ?_
    unfold OpenWorkbook.setFormat Merges.add
    simp [Function.update_self, Function.update_idem]

/-- Column sizes leave cells and merged ranges alone. -/
theorem columnOps_ok {ops : List ColumnSizeOp} (hname : name ∈ book.sheets)
    (hops : ∀ op ∈ ops, op.first ≠ 0 ∧ op.last ≠ 0) : ∃ book',
      applyColumnSizeOps tools.stage name ops book = .ok book' ∧ book'.cells = book.cells ∧
        book'.sheets = book.sheets ∧ (book'.format name).merges = (book.format name).merges := by
  unfold applyColumnSizeOps
  induction ops generalizing book with
  | nil => exact ⟨book, rfl, rfl, rfl, rfl⟩
  | cons op rest ih =>
    have hsheet : book.requireSheet name = .ok () := ensure_pos hname _
    have hspan := hops op List.mem_cons_self
    rw [List.foldlM_cons]
    simp only [applyColumnSizeOp, hsheet, ensure_pos hspan, bind, Except.bind, pure, Except.pure]
    obtain ⟨book', hrest, hcells, hsheets, hmerges⟩ := @ih (book.setFormat name _) hname
      fun op hop => hops op (List.mem_cons_of_mem _ hop)
    refine ⟨book', hrest, hcells, hsheets, hmerges.trans ?_⟩
    unfold OpenWorkbook.setFormat
    simp

theorem nodup_positions (bounds : Bounds) : bounds.positions.Nodup :=
  Search.nodup_places List.nodup_range' List.nodup_range'

theorem onPositions_cells {positions : List Position} (hnodup : positions.Nodup)
    {edit : Option AgentSpreadsheet.Cell → Option AgentSpreadsheet.Cell} (position : Position) :
    (book.onPositions name positions edit).cells (name, position) =
      if position ∈ positions then edit (book.cells (name, position))
      else book.cells (name, position) := by
  unfold OpenWorkbook.onPositions
  split
  · rename_i hmem
    refine @onCells_mem _ _ _ book _ ?_ () (List.mem_map.mpr ⟨position, hmem, rfl⟩)
    rw [List.map_map]
    exact hnodup.map fun a b h => (Prod.mk.inj h).2
  · rename_i hmem
    apply onCells_notMem
    intro _ h
    obtain ⟨_, hposition, heq⟩ := List.mem_map.mp h
    simp only [Prod.mk.injEq, true_and, and_true] at heq
    exact hmem (heq ▸ hposition)

section Request
variable {request : ImportGrid} {position : Position} {cell : GridCell}

def ImportGrid.cellOf (request : ImportGrid) (position : Position) : Option GridCell :=
  request.cells.find? fun cell => request.position cell = position

theorem position_inj {cell' : GridCell} (h : request.position cell = request.position cell') :
    cell.offset = cell'.offset := by
  have h := Prod.mk.inj h
  apply Prod.ext <;> omega

theorem nodup_map_position (hdistinct : (request.cells.map GridCell.offset).Nodup) :
    (request.cells.map request.position).Nodup := by
  rw [List.Nodup, List.pairwise_map] at hdistinct ⊢
  exact hdistinct.imp fun hne heq => hne (position_inj heq)

theorem cellOf_eq_some (hdistinct : (request.cells.map GridCell.offset).Nodup) :
    request.cellOf position = some cell ↔
      cell ∈ request.cells ∧ request.position cell = position := by
  constructor
  · intro h
    have hposition := List.find?_some h
    exact ⟨List.mem_of_find?_eq_some h, of_decide_eq_true hposition⟩
  · intro h
    obtain ⟨hcell, rfl⟩ := h
    exact find_of_nodup (nodup_map_position hdistinct) hcell

theorem mem_matrix_iff (hdistinct : (request.cells.map GridCell.offset).Nodup)
    {written : MatrixCell} :
    (position, written) ∈ matrixCells request.anchor (request.cells.foldl setMatrixCell []) ↔
      (request.cellOf position).bind GridCell.written = some written := by
  have hfind (row col : Nat) :
      (request.cells.find? fun cell => cell.offset = (row, col)) =
        request.cellOf (request.anchor.1 + col, request.anchor.2 + row) := by
    unfold ImportGrid.cellOf
    congr 1
    funext cell
    apply decide_eq_decide.mpr
    unfold ImportGrid.position
    rw [Prod.ext_iff, Prod.ext_iff]
    dsimp only
    omega
  have hat (row col : Nat) : cellAt (request.cells.foldl setMatrixCell []) row col =
      (request.cellOf (request.anchor.1 + col, request.anchor.2 + row)).bind GridCell.written := by
    rw [cellAt_foldl hdistinct, hfind]
    cases request.cellOf (request.anchor.1 + col, request.anchor.2 + row) <;> rfl
  rw [mem_matrixCells_iff]
  constructor
  · intro h
    obtain ⟨row, col, hwritten, rfl⟩ := h
    rw [← hat, hwritten]
  · intro h
    obtain ⟨cell, hcell, hwritten⟩ := Option.bind_eq_some_iff.mp h
    obtain ⟨_, rfl⟩ := (cellOf_eq_some hdistinct).mp hcell
    refine ⟨cell.offset.1, cell.offset.2, ?_, rfl⟩
    rw [hat]
    exact h

theorem onCells_cells {α : Type}
    {edit : α → Option AgentSpreadsheet.Cell → Option AgentSpreadsheet.Cell}
    {targets : List (CellKey × α)} {key : CellKey} {found : Option α}
    (hnodup : (targets.map Prod.fst).Nodup) (h : ∀ a, (key, a) ∈ targets ↔ found = some a) :
    (book.onCells edit targets).cells key =
      found.elim (book.cells key) fun a => edit a (book.cells key) := by
  cases found with
  | none =>
    apply onCells_notMem
    intro a ha
    exact absurd ((h a).mp ha) (by simp)
  | some a => exact onCells_mem hnodup ((h a).mpr rfl)

def ImportGrid.patches (request : ImportGrid) (tools : GridTools) : List (Position × String) :=
  request.cells.filterMap fun cell =>
    (cell.stylePatch tools.stage).map fun patch => (request.position cell, patch)

theorem mem_patches (hdistinct : (request.cells.map GridCell.offset).Nodup) {patch : String} :
    (position, patch) ∈ request.patches tools ↔
      (request.cellOf position).bind (GridCell.stylePatch tools.stage) = some patch := by
  unfold ImportGrid.patches
  simp only [List.mem_filterMap, Option.map_eq_some_iff, Prod.mk.injEq, Option.bind_eq_some_iff,
    cellOf_eq_some hdistinct]
  constructor
  · intro h
    obtain ⟨cell, hcell, _, hpatch, hposition, rfl⟩ := h
    exact ⟨cell, ⟨hcell, hposition⟩, hpatch⟩
  · intro h
    obtain ⟨cell, ⟨hcell, hposition⟩, hpatch⟩ := h
    exact ⟨cell, hcell, patch, hpatch, hposition, rfl⟩

theorem nodup_patches (hdistinct : (request.cells.map GridCell.offset).Nodup) :
    ((request.patches tools).map Prod.fst).Nodup := by
  have hnodup := nodup_map_position hdistinct
  rw [List.Nodup, List.pairwise_map] at hnodup
  unfold ImportGrid.patches
  rw [List.Nodup, List.pairwise_map, List.pairwise_filterMap]
  apply hnodup.imp
  intro cell cell' hne entry hentry entry' hentry' heq
  obtain ⟨_, _, rfl⟩ := Option.map_eq_some_iff.mp hentry
  obtain ⟨_, _, rfl⟩ := Option.map_eq_some_iff.mp hentry'
  exact hne heq

theorem nodup_sheetKeys {α : Type} {entries : List (Position × α)}
    (h : (entries.map Prod.fst).Nodup) :
    ((entries.map fun entry => ((name, entry.1), entry.2)).map Prod.fst).Nodup := by
  rw [List.map_map]
  have hmap := h.map (f := fun position => (name, position)) fun a b h => (Prod.mk.inj h).2
  rwa [List.map_map] at hmap

theorem mem_sheetKeys {α : Type} {entries : List (Position × α)} {a : α} :
    ((name, position), a) ∈ entries.map (fun entry => ((name, entry.1), entry.2)) ↔
      (position, a) ∈ entries := by
  simp [Prod.ext_iff]

theorem mem_footprint_position {bounds : Bounds}
    (hbounds : parseRangeBounds request.footprint = .ok bounds) (hcell : cell ∈ request.cells) :
    request.position cell ∈ bounds.positions :=
  ImportRequest.mem_footprint hbounds (List.mem_map_of_mem (f := GridCell.offset) hcell)

/-- Where a grid is accepted: the cells of its footprint are restored, its merged ranges come after
those that stay. -/
theorem apply_spec (hname : request.sheetName ∈ book.sheets) (hclear : request.clearTarget = true)
    (hdistinct : (request.cells.map GridCell.offset).Nodup) (hanchor : request.anchor.1 ≠ 0)
    {targets : List A1Range}
    (htargets : request.grid.merges.mapM (translateMerge request.anchor request.grid.anchor) =
      .ok targets) {bounds : Bounds}
    (hbounds : parseRangeBounds request.footprint = .ok bounds) :
    ∃ book', request.apply tools book = .ok book' ∧
      (book'.format request.sheetName).merges =
        (book.format request.sheetName).merges.unmerge request.footprint ++
          targets.map A1Range.merged ∧
      (∀ position, book'.cells (request.sheetName, position) =
        if position ∈ bounds.positions then
          restored tools (request.cellOf position) (book.cells (request.sheetName, position))
        else book.cells (request.sheetName, position)) ∧
      ∀ key : CellKey, key.1 ≠ request.sheetName → book'.cells key = book.cells key := by
  have hsheet (book : OpenWorkbook) (h : request.sheetName ∈ book.sheets) :
      book.requireSheet request.sheetName = .ok () := ensure_pos h _
  -- the footprint cleared, of merged ranges, contents and styles
  let unmerged := book.setFormat request.sheetName { book.format request.sheetName with
    merges := (book.format request.sheetName).merges.unmerge request.footprint }
  let blank := (unmerged.onPositions request.sheetName bounds.positions
    (clearCell tools.stage true true)).onPositions request.sheetName bounds.positions
      (styled tools tools.stage.clearedPatch)
  have hframe : blank.sheets = book.sheets ∧ blank.format = unmerged.format := by
    have hfirst := onCells_frame (fun _ : Unit => clearCell tools.stage true true)
      (bounds.positions.map fun position => ((request.sheetName, position), ())) unmerged
    have hsecond := onCells_frame (fun _ : Unit => styled tools tools.stage.clearedPatch)
      (bounds.positions.map fun position => ((request.sheetName, position), ()))
      (unmerged.onPositions request.sheetName bounds.positions (clearCell tools.stage true true))
    exact ⟨hsecond.1.trans hfirst.1, hsecond.2.1.trans hfirst.2.1⟩
  have hcleared : request.cleared tools book = .ok blank := by
    have hunmerge : book.structureOps tools.stage.toEditTools .off
        [.unmergeCells request.sheetName request.footprint] = .ok unmerged := by
      simp only [OpenWorkbook.structureOps, List.foldlM_cons, List.foldlM_nil,
        OpenWorkbook.restructured, hsheet book hname, bind, Except.bind, pure, Except.pure]
      rfl
    have hclearRange : applyTransformOps tools.stage
        [.clearRange request.sheetName (.range request.footprint) true true] unmerged =
          .ok (unmerged.onPositions request.sheetName bounds.positions
            (clearCell tools.stage true true)) := by
      simp only [applyTransformOps, List.foldlM_cons, List.foldlM_nil, applyTransformOp,
        hsheet unmerged hname, TransformTarget.positions, hbounds, bind, Except.bind, pure,
        Except.pure]
    unfold ImportGrid.cleared
    rw [if_pos hclear, hunmerge]
    change (applyTransformOps tools.stage _ unmerged >>= fun book => applyStyleOps tools.stage _ book) = _
    rw [hclearRange]
    change applyStyleOps tools.stage _ (unmerged.onPositions _ _ _) = _
    have hin : request.sheetName ∈ (unmerged.onPositions request.sheetName bounds.positions
        (clearCell tools.stage true true)).sheets := by
      rw [OpenWorkbook.onPositions, (onCells_frame _ _ _).1]
      exact hname
    unfold applyStyleOps
    have htarget : (StyleTarget.range request.footprint).positions = .ok bounds.positions := by
      simp only [StyleTarget.positions, hbounds, bind, Except.bind, pure, Except.pure]
    rw [List.foldlM_cons, applyStyleOp_eq hin htarget]
    rfl
  have hblank (position : Position) : blank.cells (request.sheetName, position) =
      if position ∈ bounds.positions then
        styled tools tools.stage.clearedPatch
          (clearCell tools.stage true true (book.cells (request.sheetName, position)))
      else book.cells (request.sheetName, position) := by
    rw [onPositions_cells (nodup_positions bounds), onPositions_cells (nodup_positions bounds)]
    split <;> rfl
  have hother (edit : Option AgentSpreadsheet.Cell → Option AgentSpreadsheet.Cell)
      (book : OpenWorkbook) (key : CellKey) (hkey : key.1 ≠ request.sheetName) :
      (book.onPositions request.sheetName bounds.positions edit).cells key = book.cells key := by
    apply onCells_notMem
    intro _ h
    obtain ⟨_, _, heq⟩ := List.mem_map.mp h
    exact hkey (congrArg Prod.fst (congrArg Prod.fst heq)).symm
  -- merged ranges and columns
  have hnameblank : request.sheetName ∈ blank.sheets := hframe.1 ▸ hname
  have hmerge := @mergeOps_eq tools blank request.sheetName targets hnameblank
  obtain ⟨sized, hsized, hcells, hsheets, hmerges⟩ := @columnOps_ok tools
    (blank.setFormat request.sheetName { blank.format request.sheetName with
      merges := (blank.format request.sheetName).merges ++ targets.map A1Range.merged })
    request.sheetName request.columnOps hnameblank (by
      intro op hop
      obtain ⟨column, _, rfl⟩ := List.mem_map.mp hop
      exact ⟨by dsimp only; omega, by dsimp only; omega⟩)
  have hsame : sized.cells = blank.cells := hcells
  -- contents and styles
  let matrix := (matrixCells request.anchor (request.cells.foldl setMatrixCell [])).map
    (matrixTarget request.sheetName)
  let written := sized.onCells (writeCell tools.stage true) matrix
  have hwritten : applyTransformOps tools.stage [.writeMatrix request.sheetName request.anchor
      (request.cells.foldl setMatrixCell []) true] sized = .ok written := by
    simp only [applyTransformOps, List.foldlM_cons, List.foldlM_nil, applyTransformOp,
      hsheet sized (hsheets ▸ hnameblank), bind, Except.bind, pure, Except.pure]
    rfl
  have hwrittenFrame := onCells_frame (writeCell tools.stage true) matrix sized
  have hops : request.styleOps tools = (request.patches tools).map fun entry =>
      ⟨request.sheetName, .cells [entry.1], entry.2⟩ := by
    simp [ImportGrid.styleOps, ImportGrid.patches, List.map_filterMap, Function.comp_def]
  have hstyled := @applyStyleOps_cells tools written request.sheetName (request.patches tools)
    (by rw [hwrittenFrame.1, hsheets]; exact hnameblank)
  refine ⟨written.onCells (styled tools)
    ((request.patches tools).map fun entry => ((request.sheetName, entry.1), entry.2)), ?_, ?_, ?_, ?_⟩
  · unfold ImportGrid.apply
    simp only [hcleared, htargets, hmerge, hsized, hwritten, hops, bind, Except.bind]
    exact hstyled
  · rw [(onCells_frame _ _ _).2.1, hwrittenFrame.2.1, hmerges]
    simp [OpenWorkbook.setFormat, hframe.2, unmerged]
  · intro position
    have hmatrix (a : MatrixCell) : ((request.sheetName, position), a) ∈ matrix ↔
        (request.cellOf position).bind GridCell.written = some a :=
      mem_sheetKeys.trans (mem_matrix_iff hdistinct)
    have hpatches (patch : String) : ((request.sheetName, position), patch) ∈
        ((request.patches tools).map fun entry => ((request.sheetName, entry.1), entry.2)) ↔
          (request.cellOf position).bind (GridCell.stylePatch tools.stage) = some patch :=
      mem_sheetKeys.trans (mem_patches hdistinct)
    rw [onCells_cells (nodup_sheetKeys (nodup_patches hdistinct)) hpatches,
      onCells_cells (nodup_matrixTargets _ _ _) hmatrix, hsame, hblank]
    split
    · rfl
    · rename_i hout
      have hnone : request.cellOf position = none := by
        cases hcell : request.cellOf position with
        | none => rfl
        | some cell =>
          obtain ⟨hmem, rfl⟩ := (cellOf_eq_some hdistinct).mp hcell
          exact absurd (mem_footprint_position hbounds hmem) hout
      rw [hnone]
      rfl
  · intro key hkey
    have houtside {α : Type} (entries : List (Position × α)) (a : α) :
        (key, a) ∉ entries.map fun entry => ((request.sheetName, entry.1), entry.2) := by
      intro h
      obtain ⟨_, _, heq⟩ := List.mem_map.mp h
      exact hkey (congrArg Prod.fst (congrArg Prod.fst heq)).symm
    have hmatrix : written.cells key = sized.cells key := onCells_notMem (houtside _)
    rw [onCells_notMem (houtside _), hmatrix, hsame, hother _ _ _ hkey, hother _ _ _ hkey]
    rfl

end Request

end Apply

end AgentSpreadsheet.Sheets
