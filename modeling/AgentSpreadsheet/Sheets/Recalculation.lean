import AgentSpreadsheet.Sheets.Format
import AgentSpreadsheet.Session

/-! Which edits are taken to leave every formula's inputs alone. A fork trusts the
kinds of its structural operations, a resident session the kinds of its writes;
here the kinds are held against what the operations do to cells. -/
namespace AgentSpreadsheet.Sheets
open Library

def storedCell (cell : Option AgentSpreadsheet.Cell) : Option String × ResidentMaterializedValue :=
  (cell.map fun cell => (cell.formula, cell.value)).getD (none, .empty)

/-- What the workbook stores at a key; nothing on sheets that are not there. -/
def OpenWorkbook.stored (book : OpenWorkbook) (key : CellKey) :
    Option String × ResidentMaterializedValue :=
  if key.1 ∈ book.sheets then storedCell (book.cells key) else (none, .empty)

/-- Kinds of writes that are neither formatting nor structural. -/
inductive OtherKind where
  | setCells
  | formulaPattern
  | replaceInFormulas
  | defineName
  | updateName
  | deleteName
  | importGrid
  | importCsv
  | appendRows
  | cloneRowBand
  | clearRange
  | fillRange
  | replaceInRange
  | writeMatrix
  deriving DecidableEq, Repr

/-- Code around the edits: the formula engine's reference shifts, the library's
typing of text, which sheets a formula refers to, the row, column and sheet name
edits, and the other writes. -/
structure EditTools extends FormatTools where
  shiftFormula : String → Int → Int → Result String
  guessTypedData : String → ResidentMaterializedValue
  refersTo : String → String → Bool
  restructure : StructureOp → FormulaParsePolicy → OpenWorkbook → Result OpenWorkbook
  applyOther : OtherKind → String → FormulaParsePolicy → OpenWorkbook → Result OpenWorkbook

/-! ### Structural operations on cells -/

section Structure
variable (tools : EditTools) (policy : FormulaParsePolicy)

/-- A copied range: its sheets, its first source and target cells, and its size. -/
structure RangeCopy where
  srcSheet : String
  destSheet : String
  src : Position
  dest : Position
  width : Nat
  height : Nat
  includeStyles : Bool
  includeFormulas : Bool

namespace RangeCopy
variable (copy : RangeCopy)

/-- Row by row. -/
def offsets : List (Nat × Nat) :=
  (List.range copy.height).flatMap fun row => (List.range copy.width).map fun col => (col, row)

def srcKey (offset : Nat × Nat) : CellKey :=
  (copy.srcSheet, copy.src.1 + offset.1, copy.src.2 + offset.2)

def destKey (offset : Nat × Nat) : CellKey :=
  (copy.destSheet, copy.dest.1 + offset.1, copy.dest.2 + offset.2)

def shifted (formula : String) : Result String :=
  match policy with
  | .off => .ok formula
  | _ =>
    match tools.shiftFormula formula (copy.dest.1 - copy.src.1) (copy.dest.2 - copy.src.2) with
    | .ok text => .ok (stripEquals text)
    | .error error =>
      if policy = .fail then .error ("formula shift failed: " ++ error) else .ok formula

def copiedCell (source target : AgentSpreadsheet.Cell) : Result AgentSpreadsheet.Cell :=
  let styled := if copy.includeStyles then { target with style := source.style } else target
  match source.formula, copy.includeFormulas with
  | some formula, true => do
    let text ← copy.shifted tools policy formula
    pure { styled with formula := some text, value := tools.guessTypedData "" }
  | _, _ => .ok { styled with formula := none, value := source.value }

def copyCell (book : OpenWorkbook) (offset : Nat × Nat) : Result OpenWorkbook :=
  match book.cells (copy.srcKey offset) with
  | none => .ok (book.setCell (copy.destKey offset) none)
  | some source => do
    let cell ← copy.copiedCell tools policy source
      ((book.cells (copy.destKey offset)).getD {})
    pure (book.setCell (copy.destKey offset) (some cell))

def clearCell (book : OpenWorkbook) (offset : Nat × Nat) : OpenWorkbook :=
  book.setCell (copy.srcKey offset) none

end RangeCopy

def Bounds.movedTo (bounds : Bounds) (anchor : Position) : Bounds where
  cols := ⟨anchor.1, anchor.1 + (bounds.cols.hi - bounds.cols.lo), by omega⟩
  rows := ⟨anchor.2, anchor.2 + (bounds.rows.hi - bounds.rows.lo), by omega⟩

def rangeCopy (srcSheet destSheet : String) (bounds : Bounds) (destAnchor : Position)
    (includeStyles includeFormulas : Bool) : RangeCopy where
  srcSheet := srcSheet
  destSheet := destSheet
  src := (bounds.cols.lo, bounds.rows.lo)
  dest := destAnchor
  width := bounds.cols.hi - bounds.cols.lo + 1
  height := bounds.rows.hi - bounds.rows.lo + 1
  includeStyles := includeStyles
  includeFormulas := includeFormulas

def copyOrMoveRange (srcSheet destSheet : String) (srcRange : A1Range) (destAnchor : Position)
    (includeStyles includeFormulas clearSource : Bool) (book : OpenWorkbook) :
    Result OpenWorkbook := do
  let bounds ← parseRangeBounds srcRange
  let target := bounds.movedTo destAnchor
  ensure (target.cols.hi < 2 ^ 32) "destination range overflows column bounds"
  ensure (target.rows.hi < 2 ^ 32) "destination range overflows row bounds"
  ensure (¬(srcSheet = destSheet ∧ bounds.Meets target)) "copy/move destination overlaps source"
  book.requireSheet srcSheet
  book.requireSheet destSheet
  let copy := rangeCopy srcSheet destSheet bounds destAnchor includeStyles includeFormulas
  let book ← copy.offsets.foldlM (copy.copyCell tools policy) book
  pure (if clearSource then copy.offsets.foldl copy.clearCell book else book)

/-- The edit of one structural operation, on cells and formats. -/
def OpenWorkbook.restructured (op : StructureOp) (book : OpenWorkbook) : Result OpenWorkbook :=
  match op with
  | .mergeCells name targetRange => do
    book.requireSheet name
    pure (book.setFormat name { book.format name with
      merges := (book.format name).merges.add targetRange })
  | .unmergeCells name targetRange => do
    book.requireSheet name
    pure (book.setFormat name { book.format name with
      merges := (book.format name).merges.unmerge targetRange })
  | .createSheet name position => do
    let name := Legacy.trim name
    ensure (name ≠ "") "create_sheet requires non-empty name"
    ensure (name ∉ book.sheets) ("failed to create sheet '" ++ name ++ "'")
    pure { book with
      sheets := book.sheets.insertIdx (min (position.getD book.sheets.length) book.sheets.length) name
      cells := fun key => if key.1 = name then none else book.cells key
      format := Function.update book.format name {} }
  | .deleteSheet name => do
    let name := Legacy.trim name
    ensure (name ≠ "") "delete_sheet requires non-empty name"
    ensure (1 < book.sheets.length) "cannot delete the last remaining sheet"
    ensure (name ∈ book.sheets) ("failed to delete sheet '" ++ name ++ "'")
    pure { book with sheets := book.sheets.filter (· ≠ name) }
  | .copyRange name destSheetName srcRange destAnchor includeStyles includeFormulas =>
    copyOrMoveRange tools policy name (destSheetName.getD name) srcRange destAnchor includeStyles
      includeFormulas false book
  | .moveRange name destSheetName srcRange destAnchor includeStyles includeFormulas =>
    copyOrMoveRange tools policy name (destSheetName.getD name) srcRange destAnchor includeStyles
      includeFormulas true book
  | op => tools.restructure op policy book

def OpenWorkbook.structureOps (ops : List StructureOp) (book : OpenWorkbook) :
    Result OpenWorkbook :=
  ops.foldlM (fun book op => book.restructured tools policy op) book

structure OpenFork where
  book : OpenWorkbook
  recalcNeeded : Bool

def structureBatch (ops : List StructureOp) (fork : OpenFork) : Result OpenFork := do
  let book ← fork.book.structureOps tools policy ops
  pure ⟨book, fork.recalcNeeded || structureOpsRequireRecalc ops⟩

end Structure

/-! ### Resident writes -/

inductive CanonicalWriteOp where
  | style (op : StyleOp)
  | columnSize (op : ColumnSizeOp)
  | layout (op : SheetLayoutOp)
  | rules (op : RulesOp)
  | structural (op : StructureOp)
  | other (kind : OtherKind) (payload : String)

def StructureOp.kind : StructureOp → String
  | .mergeCells .. => "merge_cells"
  | .unmergeCells .. => "unmerge_cells"
  | .insertRows .. => "insert_rows"
  | .cloneRow .. => "clone_row"
  | .deleteRows .. => "delete_rows"
  | .insertCols .. => "insert_cols"
  | .deleteCols .. => "delete_cols"
  | .renameSheet .. => "rename_sheet"
  | .createSheet .. => "create_sheet"
  | .deleteSheet .. => "delete_sheet"
  | .copyRange .. => "copy_range"
  | .moveRange .. => "move_range"

def OtherKind.kind : OtherKind → String
  | .setCells => "set_cells"
  | .formulaPattern => "formula_pattern"
  | .replaceInFormulas => "replace_in_formulas"
  | .defineName => "define_name"
  | .updateName => "update_name"
  | .deleteName => "delete_name"
  | .importGrid => "import_grid"
  | .importCsv => "import_csv"
  | .appendRows => "append_rows"
  | .cloneRowBand => "clone_row_band"
  | .clearRange => "clear_range"
  | .fillRange => "fill_range"
  | .replaceInRange => "replace_in_range"
  | .writeMatrix => "write_matrix"

def CanonicalWriteOp.kind : CanonicalWriteOp → String
  | .style _ => "style"
  | .columnSize _ => "column_size"
  | .layout (.freezePanes ..) => "freeze_panes"
  | .layout (.setZoom ..) => "set_zoom"
  | .layout (.setGridlines ..) => "set_gridlines"
  | .layout (.setPageMargins ..) => "set_page_margins"
  | .layout (.setPageSetup ..) => "set_page_setup"
  | .layout (.setPrintArea ..) => "set_print_area"
  | .layout (.setPageBreaks ..) => "set_page_breaks"
  | .rules (.setDataValidation ..) => "set_data_validation"
  | .rules (.addConditionalFormat ..) => "add_conditional_format"
  | .rules (.setConditionalFormat ..) => "set_conditional_format"
  | .rules (.clearConditionalFormats ..) => "clear_conditional_formats"
  | .structural op => op.kind
  | .other kind _ => kind.kind

/-- The effect of a write on the calculation, by the kinds of its operations. -/
def calculationEffect (ops : List CanonicalWriteOp) : ResidentCalculationEffect :=
  if ops.all (fun op => op.kind ∈ preservingKinds) then .preserve else .invalidate

section Writes
variable (tools : EditTools) (policy : FormulaParsePolicy)

def OpenWorkbook.written (op : CanonicalWriteOp) (book : OpenWorkbook) : Result OpenWorkbook :=
  match op with
  | .style op => applyStyleOp tools.toFormatTools op book
  | .columnSize op => applyColumnSizeOp tools.toFormatTools op book
  | .layout op => applySheetLayoutOp op book
  | .rules op => applyRulesOp tools.toFormatTools policy op book
  | .structural op => book.restructured tools policy op
  | .other kind payload => tools.applyOther kind payload policy book

def OpenWorkbook.writeOps (ops : List CanonicalWriteOp) (book : OpenWorkbook) :
    Result OpenWorkbook :=
  ops.foldlM (fun book op => book.written tools policy op) book

end Writes

/-! ### What an edit may leave behind -/

/-- Some formula of the workbook refers to the sheet. -/
def OpenWorkbook.Referenced (tools : EditTools) (book : OpenWorkbook) (name : String) : Prop :=
  ∃ key formula, (book.stored key).1 = some formula ∧ tools.refersTo formula name = true

/-- Every cell keeps its formula and its stored value, and no sheet is gone that a
formula refers to. -/
structure OpenWorkbook.Unharmed (tools : EditTools) (book book' : OpenWorkbook) : Prop where
  stored : ∀ key, book'.stored key = book.stored key
  sheets : ∀ name ∈ book.sheets, name ∉ book'.sheets → ¬book.Referenced tools name

/-- The values of a copied range stand at its target already. -/
def RangeCopy.Stands (copy : RangeCopy) (book : OpenWorkbook) : Prop :=
  ∀ offset ∈ copy.offsets, book.stored (copy.destKey offset) =
    (none, (book.stored (copy.srcKey offset)).2)

def RangeCopy.Blank (copy : RangeCopy) (book : OpenWorkbook) : Prop :=
  ∀ offset ∈ copy.offsets, book.stored (copy.srcKey offset) = (none, .empty)

/-- What an operation that asks for no recalculation must find: a deleted sheet has
nothing on it and nothing refers to it, and copied values are there already. -/
def StructureOp.Keeps (tools : EditTools) (book : OpenWorkbook) : StructureOp → Prop
  | .deleteSheet name => (∀ position, book.stored (Legacy.trim name, position) = (none, .empty)) ∧
    ¬book.Referenced tools (Legacy.trim name)
  | .copyRange name destSheetName srcRange destAnchor includeStyles includeFormulas =>
    ∀ bounds, parseRangeBounds srcRange = .ok bounds →
      (rangeCopy name (destSheetName.getD name) bounds destAnchor includeStyles
        includeFormulas).Stands book
  | .moveRange name destSheetName srcRange destAnchor includeStyles includeFormulas =>
    ∀ bounds, parseRangeBounds srcRange = .ok bounds →
      (rangeCopy name (destSheetName.getD name) bounds destAnchor includeStyles
        includeFormulas).Stands book ∧
      (rangeCopy name (destSheetName.getD name) bounds destAnchor includeStyles
        includeFormulas).Blank book
  | _ => True

section Cells
variable {book book' : OpenWorkbook} {tools : EditTools} {key target : CellKey}

theorem stored_setCell_ne (cell : Option AgentSpreadsheet.Cell) (h : key ≠ target) :
    (book.setCell target cell).stored key = book.stored key := by
  unfold OpenWorkbook.stored OpenWorkbook.setCell
  dsimp only
  rw [Function.update_of_ne h]

theorem stored_setCell_self (cell : Option AgentSpreadsheet.Cell) (h : target.1 ∈ book.sheets) :
    (book.setCell target cell).stored target = storedCell cell := by
  unfold OpenWorkbook.stored OpenWorkbook.setCell
  dsimp only
  rw [if_pos h, Function.update_self]

theorem OpenWorkbook.Unharmed.of_eq (hstored : ∀ key, book'.stored key = book.stored key)
    (hsheets : book'.sheets = book.sheets) : book.Unharmed tools book' where
  stored := hstored
  sheets := by
    intro name hname hgone
    rw [hsheets] at hgone
    contradiction

theorem OpenWorkbook.Unharmed.refl (book : OpenWorkbook) : book.Unharmed tools book :=
  .of_eq (fun _ => rfl) rfl

end Cells

/-! ### Formatting -/

section Formatting
variable {tools : EditTools} {policy : FormulaParsePolicy} {book book' : OpenWorkbook}

/-- A style goes to a cell that keeps what it stores; a cell made for it stores
nothing. -/
theorem stored_styleCell (op : StyleOp) (hsheet : op.sheetName ∈ book.sheets)
    (position : Position) (key : CellKey) :
    (styleCell tools.toFormatTools op book position).stored key = book.stored key := by
  unfold styleCell
  by_cases hkey : key = (op.sheetName, position)
  · subst hkey
    rw [stored_setCell_self _ hsheet, OpenWorkbook.stored, if_pos hsheet]
    cases book.cells (op.sheetName, position) <;> rfl
  · exact stored_setCell_ne _ hkey

theorem unharmed_foldl_styleCell (tools : EditTools) (op : StyleOp) (positions : List Position)
    (hsheet : op.sheetName ∈ book.sheets) :
    (∀ key, (positions.foldl (styleCell tools.toFormatTools op) book).stored key =
        book.stored key) ∧
      (positions.foldl (styleCell tools.toFormatTools op) book).sheets = book.sheets := by
  induction positions generalizing book with
  | nil => exact ⟨fun _ => rfl, rfl⟩
  | cons position rest ih =>
    rw [List.foldl_cons]
    have hsheet' : op.sheetName ∈ (styleCell tools.toFormatTools op book position).sheets := hsheet
    obtain ⟨hstored, hsheets⟩ := ih hsheet'
    constructor
    · intro key
      rw [hstored, stored_styleCell op hsheet]
    · rw [hsheets]
      rfl

theorem applyStyleOp_unharmed {op : StyleOp}
    (h : applyStyleOp tools.toFormatTools op book = .ok book') : book.Unharmed tools book' := by
  simp only [applyStyleOp, bind_eq_ok, pure_eq_ok, OpenWorkbook.requireSheet, ensure_eq_ok] at h
  obtain ⟨_, hsheet, positions, _, rfl⟩ := h
  obtain ⟨hstored, hsheets⟩ := unharmed_foldl_styleCell tools op positions hsheet
  exact .of_eq hstored hsheets

theorem applyColumnSizeOp_unharmed {op : ColumnSizeOp}
    (h : applyColumnSizeOp tools.toFormatTools op book = .ok book') : book.Unharmed tools book' := by
  simp only [applyColumnSizeOp, bind_eq_ok, pure_eq_ok] at h
  obtain ⟨_, _, _, _, rfl⟩ := h
  exact .of_eq (fun _ => rfl) rfl

theorem applySheetLayoutOp_unharmed {op : SheetLayoutOp}
    (h : applySheetLayoutOp op book = .ok book') : book.Unharmed tools book' := by
  have hsame : (∀ key, book'.stored key = book.stored key) ∧ book'.sheets = book.sheets := by
    cases op <;> simp only [applySheetLayoutOp, bind_eq_ok, pure_eq_ok] at h
    case freezePanes =>
      obtain ⟨_, _, _, _, rfl⟩ := h
      exact ⟨fun _ => rfl, rfl⟩
    case setZoom =>
      obtain ⟨_, _, _, _, rfl⟩ := h
      exact ⟨fun _ => rfl, rfl⟩
    case setGridlines =>
      obtain ⟨_, _, rfl⟩ := h
      exact ⟨fun _ => rfl, rfl⟩
    case setPageMargins =>
      obtain ⟨_, _, _, _, _, _, _, _, _, _, _, _, _, _, rfl⟩ := h
      exact ⟨fun _ => rfl, rfl⟩
    case setPageSetup =>
      obtain ⟨_, _, _, _, _, _, _, _, rfl⟩ := h
      exact ⟨fun _ => rfl, rfl⟩
    case setPrintArea =>
      obtain ⟨_, _, _, _, rfl⟩ := h
      exact ⟨fun _ => rfl, rfl⟩
    case setPageBreaks =>
      obtain ⟨_, _, _, _, _, _, rfl⟩ := h
      exact ⟨fun _ => rfl, rfl⟩
  exact .of_eq hsame.1 hsame.2

theorem applyRulesOp_unharmed {op : RulesOp}
    (h : applyRulesOp tools.toFormatTools policy op book = .ok book') :
    book.Unharmed tools book' := by
  have hsame : (∀ key, book'.stored key = book.stored key) ∧ book'.sheets = book.sheets := by
    simp only [applyRulesOp, bind_eq_ok] at h
    obtain ⟨accepted, _, h⟩ := h
    split at h
    · cases Except.ok.inj h
      exact ⟨fun _ => rfl, rfl⟩
    · cases op <;> simp only [bind_eq_ok, pure_eq_ok] at h <;>
        obtain ⟨_, _, _, _, rfl⟩ := h <;> exact ⟨fun _ => rfl, rfl⟩
  exact .of_eq hsame.1 hsame.2

end Formatting

/-! ### Copied values -/

namespace RangeCopy
variable {tools : EditTools} {policy : FormulaParsePolicy} {copy : RangeCopy}
  {book : OpenWorkbook} {offsets : List (Nat × Nat)}

theorem mem_offsets {offset : Nat × Nat} :
    offset ∈ copy.offsets ↔ offset.1 < copy.width ∧ offset.2 < copy.height := by
  obtain ⟨col, row⟩ := offset
  simp only [offsets, List.mem_flatMap, List.mem_range, List.mem_map, Prod.mk.injEq]
  constructor
  · rintro ⟨_, hrow, _, hcol, rfl, rfl⟩
    exact ⟨hcol, hrow⟩
  · rintro ⟨hcol, hrow⟩
    exact ⟨row, hrow, col, hcol, rfl, rfl⟩

theorem nodup_offsets : copy.offsets.Nodup := by
  apply List.nodup_flatMap.mpr
  constructor
  · intro row _
    apply List.nodup_range.map
    intro a b hab
    exact (Prod.mk.inj hab).1
  · apply List.nodup_range.imp
    intro a b hab
    intro offset ha hb
    obtain ⟨_, _, rfl⟩ := List.mem_map.mp ha
    obtain ⟨_, _, heq⟩ := List.mem_map.mp hb
    exact hab (Prod.mk.inj heq).2.symm

theorem destKey_injective {a b : Nat × Nat} (h : copy.destKey a = copy.destKey b) : a = b := by
  obtain ⟨_, h⟩ := Prod.mk.inj h
  obtain ⟨hcol, hrow⟩ := Prod.mk.inj h
  ext
  · omega
  · omega

/-- A copy without formulas never fails. -/
def copyValue (copy : RangeCopy) (book : OpenWorkbook) (offset : Nat × Nat) : OpenWorkbook :=
  book.setCell (copy.destKey offset) ((book.cells (copy.srcKey offset)).map fun source =>
    let target := (book.cells (copy.destKey offset)).getD {}
    let styled := if copy.includeStyles then { target with style := source.style } else target
    { styled with formula := none, value := source.value })

theorem copyCell_eq (h : copy.includeFormulas = false) (book : OpenWorkbook)
    (offset : Nat × Nat) :
    copy.copyCell tools policy book offset = .ok (copy.copyValue book offset) := by
  unfold copyCell copyValue
  cases book.cells (copy.srcKey offset) with
  | none => rfl
  | some source =>
    obtain ⟨value, formula, style⟩ := source
    unfold copiedCell
    rw [h]
    cases formula <;> rfl

theorem foldlM_copyCell (h : copy.includeFormulas = false) (book : OpenWorkbook) :
    offsets.foldlM (copy.copyCell tools policy) book = .ok (offsets.foldl copy.copyValue book) := by
  induction offsets generalizing book with
  | nil => rfl
  | cons offset rest ih =>
    rw [List.foldlM_cons, copyCell_eq h]
    exact ih _

theorem stored_copyValue_self (hsrc : copy.srcSheet ∈ book.sheets)
    (hdest : copy.destSheet ∈ book.sheets) (offset : Nat × Nat) :
    (copy.copyValue book offset).stored (copy.destKey offset) =
      (none, (book.stored (copy.srcKey offset)).2) := by
  have hsrc' : (copy.srcKey offset).1 ∈ book.sheets := hsrc
  unfold copyValue
  rw [stored_setCell_self _ hdest, OpenWorkbook.stored, if_pos hsrc']
  cases book.cells (copy.srcKey offset) with
  | none => rfl
  | some source =>
    simp only [storedCell, Option.map_some, Option.getD_some]

/-- Where the source and the target are apart, the copy of all values is the copy
of each: what a step reads no step has written. -/
theorem stored_copied (hapart : ∀ a ∈ offsets, ∀ b ∈ offsets, copy.destKey a ≠ copy.srcKey b)
    (hnodup : offsets.Nodup) (hsrc : copy.srcSheet ∈ book.sheets)
    (hdest : copy.destSheet ∈ book.sheets) :
    (offsets.foldl copy.copyValue book).sheets = book.sheets ∧
      (∀ offset ∈ offsets, (offsets.foldl copy.copyValue book).stored (copy.destKey offset) =
        (none, (book.stored (copy.srcKey offset)).2)) ∧
      ∀ key, (∀ offset ∈ offsets, key ≠ copy.destKey offset) →
        (offsets.foldl copy.copyValue book).stored key = book.stored key := by
  induction offsets generalizing book with
  | nil => exact ⟨rfl, by simp, fun _ _ => rfl⟩
  | cons first rest ih =>
    obtain ⟨hfirst, hrest⟩ := List.nodup_cons.mp hnodup
    have hother : ∀ key, key ≠ copy.destKey first →
        (copy.copyValue book first).stored key = book.stored key :=
      fun key hkey => stored_setCell_ne _ hkey
    have hsrc' : copy.srcSheet ∈ (copy.copyValue book first).sheets := hsrc
    have hdest' : copy.destSheet ∈ (copy.copyValue book first).sheets := hdest
    obtain ⟨hsheets, hcopied, hkept⟩ := ih
      (fun a ha b hb => hapart a (List.mem_cons_of_mem _ ha) b (List.mem_cons_of_mem _ hb))
      hrest hsrc' hdest'
    rw [List.foldl_cons]
    refine ⟨hsheets, ?_, ?_⟩
    · intro offset hoffset
      rcases List.mem_cons.mp hoffset with rfl | hoffset
      · rw [hkept, stored_copyValue_self hsrc hdest]
        intro other hmem heq
        exact hfirst (destKey_injective heq ▸ hmem)
      · rw [hcopied offset hoffset, hother]
        exact (hapart first List.mem_cons_self offset (List.mem_cons_of_mem _ hoffset)).symm
    · intro key hkey
      rw [hkept key fun offset hoffset => hkey offset (List.mem_cons_of_mem _ hoffset)]
      exact hother key (hkey first List.mem_cons_self)

theorem stored_cleared (offsets : List (Nat × Nat)) (hsrc : copy.srcSheet ∈ book.sheets) :
    (offsets.foldl copy.clearCell book).sheets = book.sheets ∧
      (∀ offset ∈ offsets, (offsets.foldl copy.clearCell book).stored (copy.srcKey offset) =
        (none, .empty)) ∧
      ∀ key, (∀ offset ∈ offsets, key ≠ copy.srcKey offset) →
        (offsets.foldl copy.clearCell book).stored key = book.stored key := by
  induction offsets generalizing book with
  | nil => exact ⟨rfl, by simp, fun _ _ => rfl⟩
  | cons first rest ih =>
    have hsrc' : copy.srcSheet ∈ (copy.clearCell book first).sheets := hsrc
    obtain ⟨hsheets, hcleared, hkept⟩ := ih hsrc'
    rw [List.foldl_cons]
    refine ⟨hsheets, ?_, ?_⟩
    · intro offset hoffset
      by_cases hlater : ∃ other ∈ rest, copy.srcKey offset = copy.srcKey other
      · obtain ⟨other, hother, heq⟩ := hlater
        rw [heq]
        exact hcleared other hother
      · rcases List.mem_cons.mp hoffset with rfl | hoffset
        · rw [hkept _ fun other hother heq => hlater ⟨other, hother, heq⟩]
          exact stored_setCell_self none hsrc
        · exact hcleared offset hoffset
    · intro key hkey
      rw [hkept key fun offset hoffset => hkey offset (List.mem_cons_of_mem _ hoffset)]
      exact stored_setCell_ne none (hkey first List.mem_cons_self)

theorem copied_unharmed_iff (hapart : ∀ a ∈ copy.offsets, ∀ b ∈ copy.offsets,
    copy.destKey a ≠ copy.srcKey b) (hsrc : copy.srcSheet ∈ book.sheets)
    (hdest : copy.destSheet ∈ book.sheets) :
    book.Unharmed tools (copy.offsets.foldl copy.copyValue book) ↔ copy.Stands book := by
  obtain ⟨hsheets, hcopied, hkept⟩ := stored_copied hapart nodup_offsets hsrc hdest
  constructor
  · intro h offset hoffset
    rw [← h.stored (copy.destKey offset)]
    exact hcopied offset hoffset
  · intro h
    apply OpenWorkbook.Unharmed.of_eq _ hsheets
    intro key
    by_cases hkey : ∃ offset ∈ copy.offsets, key = copy.destKey offset
    · obtain ⟨offset, hoffset, rfl⟩ := hkey
      rw [hcopied offset hoffset, h offset hoffset]
    · exact hkept key fun offset hoffset heq => hkey ⟨offset, hoffset, heq⟩

theorem moved_unharmed_iff (hapart : ∀ a ∈ copy.offsets, ∀ b ∈ copy.offsets,
    copy.destKey a ≠ copy.srcKey b) (hsrc : copy.srcSheet ∈ book.sheets)
    (hdest : copy.destSheet ∈ book.sheets) :
    book.Unharmed tools (copy.offsets.foldl copy.clearCell
        (copy.offsets.foldl copy.copyValue book)) ↔
      copy.Stands book ∧ copy.Blank book := by
  obtain ⟨hsheets, hcopied, hkept⟩ := stored_copied hapart nodup_offsets hsrc hdest
  have hsrc' : copy.srcSheet ∈ (copy.offsets.foldl copy.copyValue book).sheets := by
    rw [hsheets]
    exact hsrc
  obtain ⟨hsheets', hcleared, hkept'⟩ := stored_cleared copy.offsets hsrc'
  -- Clearing the source leaves the target, and the source is blank at the end.
  have htarget : ∀ offset ∈ copy.offsets, (copy.offsets.foldl copy.clearCell
      (copy.offsets.foldl copy.copyValue book)).stored (copy.destKey offset) =
      (none, (book.stored (copy.srcKey offset)).2) := by
    intro offset hoffset
    rw [hkept' _ fun other hother => hapart offset hoffset other hother]
    exact hcopied offset hoffset
  constructor
  · intro h
    constructor
    · intro offset hoffset
      rw [← h.stored (copy.destKey offset)]
      exact htarget offset hoffset
    · intro offset hoffset
      rw [← h.stored (copy.srcKey offset)]
      exact hcleared offset hoffset
  · rintro ⟨hstands, hblank⟩
    apply OpenWorkbook.Unharmed.of_eq _ (hsheets'.trans hsheets)
    intro key
    by_cases hsource : ∃ offset ∈ copy.offsets, key = copy.srcKey offset
    · obtain ⟨offset, hoffset, rfl⟩ := hsource
      rw [hcleared offset hoffset, hblank offset hoffset]
    · by_cases hkey : ∃ offset ∈ copy.offsets, key = copy.destKey offset
      · obtain ⟨offset, hoffset, rfl⟩ := hkey
        rw [htarget offset hoffset, hstands offset hoffset]
      · rw [hkept' key fun offset hoffset heq => hsource ⟨offset, hoffset, heq⟩]
        exact hkept key fun offset hoffset heq => hkey ⟨offset, hoffset, heq⟩

end RangeCopy

/-! ### One structural operation -/

section Step
variable {tools : EditTools} {policy : FormulaParsePolicy} {book book' : OpenWorkbook}

theorem rangeCopy_apart {srcSheet destSheet : String} {bounds : Bounds} {destAnchor : Position}
    (includeStyles includeFormulas : Bool)
    (h : ¬(srcSheet = destSheet ∧ bounds.Meets (bounds.movedTo destAnchor))) :
    let copy := rangeCopy srcSheet destSheet bounds destAnchor includeStyles includeFormulas
    ∀ a ∈ copy.offsets, ∀ b ∈ copy.offsets, copy.destKey a ≠ copy.srcKey b := by
  intro copy a ha b hb heq
  have ha := RangeCopy.mem_offsets.mp ha
  have hb := RangeCopy.mem_offsets.mp hb
  obtain ⟨hsheet, heq⟩ := Prod.mk.inj heq
  obtain ⟨hcol, hrow⟩ := Prod.mk.inj heq
  apply h
  refine ⟨hsheet.symm, ?_⟩
  have := bounds.cols.le
  have := bounds.rows.le
  simp only [copy, rangeCopy] at ha hb hcol hrow
  simp only [Bounds.Meets, Bounds.movedTo, Interval.Meets]
  omega

theorem copyOrMoveRange_unharmed_iff {srcSheet destSheet : String} {srcRange : A1Range}
    {destAnchor : Position} {includeStyles clearSource : Bool}
    (h : copyOrMoveRange tools policy srcSheet destSheet srcRange destAnchor includeStyles false
      clearSource book = .ok book') :
    book.Unharmed tools book' ↔ ∀ bounds, parseRangeBounds srcRange = .ok bounds →
      (rangeCopy srcSheet destSheet bounds destAnchor includeStyles false).Stands book ∧
        (clearSource = true →
          (rangeCopy srcSheet destSheet bounds destAnchor includeStyles false).Blank book) := by
  simp only [copyOrMoveRange, bind_eq_ok, pure_eq_ok, ensure_eq_ok,
    OpenWorkbook.requireSheet] at h
  obtain ⟨bounds, hbounds, _, _, _, _, _, hoverlap, _, hsrc, _, hdest, copied, hcopied, rfl⟩ := h
  simp only [hbounds, Except.ok.injEq, forall_eq']
  have hapart := rangeCopy_apart includeStyles false hoverlap
  rw [RangeCopy.foldlM_copyCell rfl] at hcopied
  cases Except.ok.inj hcopied
  cases clearSource with
  | false =>
    simp only [Bool.false_eq_true, if_false, false_imp_iff, and_true]
    exact RangeCopy.copied_unharmed_iff hapart hsrc hdest
  | true =>
    simp only [if_true, true_imp_iff]
    exact RangeCopy.moved_unharmed_iff hapart hsrc hdest

theorem createSheet_unharmed {name : String} {position : Option Nat}
    (h : book.restructured tools policy (.createSheet name position) = .ok book') :
    book.Unharmed tools book' := by
  simp only [OpenWorkbook.restructured, bind_eq_ok, ensure_eq_ok, pure_eq_ok] at h
  obtain ⟨_, _, _, hfresh, rfl⟩ := h
  have hmem : ∀ other, other ∈ book.sheets.insertIdx
      (min (position.getD book.sheets.length) book.sheets.length) (Legacy.trim name) ↔
      other = Legacy.trim name ∨ other ∈ book.sheets := by
    intro other
    exact List.mem_insertIdx (by omega)
  constructor
  · intro key
    unfold OpenWorkbook.stored
    dsimp only
    by_cases hkey : key.1 = Legacy.trim name
    · rw [if_pos ((hmem _).mpr (.inl hkey)), if_pos hkey, if_neg (hkey ▸ hfresh)]
      rfl
    · simp only [hmem, hkey, false_or, if_false]
  · intro other hother hgone
    exact absurd ((hmem other).mpr (.inr hother)) hgone

theorem deleteSheet_unharmed_iff {name : String}
    (h : book.restructured tools policy (.deleteSheet name) = .ok book') :
    book.Unharmed tools book' ↔ (StructureOp.deleteSheet name).Keeps tools book := by
  simp only [OpenWorkbook.restructured, bind_eq_ok, ensure_eq_ok, pure_eq_ok] at h
  obtain ⟨_, _, _, _, _, hname, rfl⟩ := h
  constructor
  · intro hunharmed
    constructor
    · intro position
      rw [← hunharmed.stored]
      simp [OpenWorkbook.stored]
    · exact hunharmed.sheets _ hname (by simp)
  · rintro ⟨hblank, hunreferenced⟩
    constructor
    · intro key
      by_cases hkey : key.1 = Legacy.trim name
      · have hstored := hblank key.2
        rw [← hkey] at hstored
        rw [hstored]
        simp [OpenWorkbook.stored, hkey]
      · simp [OpenWorkbook.stored, hkey]
    · intro other hother hgone
      have heq : other = Legacy.trim name := by
        simpa [hother] using hgone
      rw [heq]
      exact hunreferenced

/-- An operation that asks for no recalculation is harmless exactly when it finds
what it needs. -/
theorem StructureOp.unharmed_iff {op : StructureOp} (hrecalc : structureOpsRequireRecalc [op] = false)
    (h : book.restructured tools policy op = .ok book') :
    book.Unharmed tools book' ↔ op.Keeps tools book := by
  cases op with
  | mergeCells | unmergeCells =>
    simp only [OpenWorkbook.restructured, bind_eq_ok, pure_eq_ok] at h
    obtain ⟨_, _, rfl⟩ := h
    exact iff_of_true (.of_eq (fun _ => rfl) rfl) trivial
  | createSheet name position => exact iff_of_true (createSheet_unharmed h) trivial
  | deleteSheet name => exact deleteSheet_unharmed_iff h
  | copyRange name destSheetName srcRange destAnchor includeStyles includeFormulas =>
    have hvalues : includeFormulas = false := by simpa [structureOpsRequireRecalc] using hrecalc
    subst hvalues
    rw [copyOrMoveRange_unharmed_iff h]
    simp [StructureOp.Keeps]
  | moveRange name destSheetName srcRange destAnchor includeStyles includeFormulas =>
    have hvalues : includeFormulas = false := by simpa [structureOpsRequireRecalc] using hrecalc
    subst hvalues
    rw [copyOrMoveRange_unharmed_iff h]
    simp [StructureOp.Keeps]
  | _ => simp [structureOpsRequireRecalc] at hrecalc

/-- A resident write of a kind that preserves the calculation harms nothing. -/
theorem CanonicalWriteOp.unharmed {op : CanonicalWriteOp} (hkind : op.kind ∈ preservingKinds)
    (h : book.written tools policy op = .ok book') : book.Unharmed tools book' := by
  cases op with
  | style op => exact applyStyleOp_unharmed h
  | columnSize op => exact applyColumnSizeOp_unharmed h
  | layout op => exact applySheetLayoutOp_unharmed h
  | rules op => exact applyRulesOp_unharmed h
  | structural op =>
    cases op <;> simp [CanonicalWriteOp.kind, StructureOp.kind, preservingKinds] at hkind
  | other kind payload =>
    cases kind <;> simp [CanonicalWriteOp.kind, OtherKind.kind, preservingKinds] at hkind

end Step

/-! ### Batches -/

section Batches
variable {tools : EditTools} {policy : FormulaParsePolicy} {book book' : OpenWorkbook}

theorem OpenWorkbook.Unharmed.trans {book'' : OpenWorkbook} (h : book.Unharmed tools book')
    (h' : book'.Unharmed tools book'') : book.Unharmed tools book'' where
  stored := fun key => (h'.stored key).trans (h.stored key)
  sheets := by
    intro name hname hgone hreferenced
    by_cases hkept : name ∈ book'.sheets
    · apply h'.sheets name hkept hgone
      obtain ⟨key, formula, hformula, hrefers⟩ := hreferenced
      exact ⟨key, formula, by rw [h.stored, hformula], hrefers⟩
    · exact h.sheets name hname hkept hreferenced

/-- `P` holds of every operation of a batch in the state it is applied to. -/
def OpenWorkbook.EachStep (tools : EditTools) (policy : FormulaParsePolicy)
    (ops : List StructureOp) (book : OpenWorkbook)
    (P : StructureOp → OpenWorkbook → OpenWorkbook → Prop) : Prop :=
  ∀ (n : Nat) (op : StructureOp) (before after : OpenWorkbook), ops[n]? = some op →
    book.structureOps tools policy (ops.take n) = .ok before →
    before.restructured tools policy op = .ok after → P op before after

theorem OpenWorkbook.structureOps_cons (op : StructureOp) (ops : List StructureOp)
    (book : OpenWorkbook) : book.structureOps tools policy (op :: ops) =
      book.restructured tools policy op >>= OpenWorkbook.structureOps tools policy ops := by
  unfold OpenWorkbook.structureOps
  rw [List.foldlM_cons]

theorem OpenWorkbook.EachStep.head {P : StructureOp → OpenWorkbook → OpenWorkbook → Prop}
    {op : StructureOp} {ops : List StructureOp}
    (h : book.EachStep tools policy (op :: ops) P)
    (hop : book.restructured tools policy op = .ok book') : P op book book' :=
  h 0 op book book' rfl rfl hop

theorem OpenWorkbook.EachStep.tail {P : StructureOp → OpenWorkbook → OpenWorkbook → Prop}
    {op : StructureOp} {ops : List StructureOp}
    (h : book.EachStep tools policy (op :: ops) P)
    (hop : book.restructured tools policy op = .ok book') :
    book'.EachStep tools policy ops P := by
  intro n next before after hnext hbefore hafter
  apply h (n + 1) next before after hnext _ hafter
  rw [List.take_succ_cons, OpenWorkbook.structureOps_cons, hop]
  exact hbefore

theorem requireRecalc_of_getElem {ops : List StructureOp} {op : StructureOp} {n : Nat}
    (h : structureOpsRequireRecalc ops = false) (hop : ops[n]? = some op) :
    structureOpsRequireRecalc [op] = false := by
  have hmem := List.mem_of_getElem? hop
  unfold structureOpsRequireRecalc at h ⊢
  rw [List.any_eq_false] at h ⊢
  intro other hother
  rw [List.mem_singleton.mp hother]
  exact h op hmem

theorem structureOps_unharmed {ops : List StructureOp}
    (hrecalc : structureOpsRequireRecalc ops = false)
    (hkeeps : book.EachStep tools policy ops fun op before _ => op.Keeps tools before)
    (h : book.structureOps tools policy ops = .ok book') : book.Unharmed tools book' := by
  induction ops generalizing book with
  | nil =>
    cases Except.ok.inj h
    exact .refl _
  | cons op rest ih =>
    rw [OpenWorkbook.structureOps_cons, bind_eq_ok] at h
    obtain ⟨next, hop, hrest⟩ := h
    have hfirst : structureOpsRequireRecalc [op] = false :=
      requireRecalc_of_getElem (n := 0) hrecalc rfl
    have hothers : structureOpsRequireRecalc rest = false := by
      unfold structureOpsRequireRecalc at hrecalc ⊢
      rw [List.any_cons, Bool.or_eq_false_iff] at hrecalc
      exact hrecalc.2
    have hnext := (op.unharmed_iff hfirst hop).mpr (hkeeps.head hop)
    exact hnext.trans (ih hothers (hkeeps.tail hop) hrest)

theorem writeOps_unharmed {ops : List CanonicalWriteOp} (heffect : calculationEffect ops = .preserve)
    (h : book.writeOps tools policy ops = .ok book') : book.Unharmed tools book' := by
  have hkinds : ∀ op ∈ ops, op.kind ∈ preservingKinds := by
    unfold calculationEffect at heffect
    split at heffect
    next hall => simpa using hall
    next => contradiction
  induction ops generalizing book with
  | nil =>
    cases Except.ok.inj h
    exact .refl _
  | cons op rest ih =>
    obtain ⟨hop, hrest⟩ := List.forall_mem_cons.mp hkinds
    unfold OpenWorkbook.writeOps at h
    rw [List.foldlM_cons, bind_eq_ok] at h
    obtain ⟨next, hnext, hmore⟩ := h
    refine (op.unharmed hop hnext).trans (ih ?_ hmore hrest)
    unfold calculationEffect
    rw [if_pos (by simpa using hrest)]

end Batches

/-- Operations for which no recalculation is asked for. A resident write keeps every
formula and every stored value and removes no sheet. A structural batch of a fork
does so at each of its steps exactly when no step deletes a sheet that has content
or is referred to, and no step copies or moves values that are not at their target
already; then the whole batch does so. -/
theorem unflagged_edits_keep_values (tools : EditTools) (policy : FormulaParsePolicy)
    (book : OpenWorkbook) :
    (∀ ops, structureOpsRequireRecalc ops = false →
      ((book.EachStep tools policy ops fun _ before after => before.Unharmed tools after) ↔
        book.EachStep tools policy ops fun op before _ => op.Keeps tools before) ∧
      ((book.EachStep tools policy ops fun op before _ => op.Keeps tools before) →
        ∀ book', book.structureOps tools policy ops = .ok book' → book.Unharmed tools book')) ∧
    ∀ ops, calculationEffect ops = .preserve →
      ∀ book', book.writeOps tools policy ops = .ok book' → book.Unharmed tools book' := by
  constructor
  · intro ops hrecalc
    constructor
    · constructor
      · intro h n op before after hop hbefore hafter
        exact (op.unharmed_iff (requireRecalc_of_getElem hrecalc hop) hafter).mp
          (h n op before after hop hbefore hafter)
      · intro h n op before after hop hbefore hafter
        exact (op.unharmed_iff (requireRecalc_of_getElem hrecalc hop) hafter).mpr
          (h n op before after hop hbefore hafter)
    · intro hkeeps book' h
      exact structureOps_unharmed hrecalc hkeeps h
  · intro ops heffect book' h
    exact writeOps_unharmed heffect h

def sampleEditTools : EditTools where
  validateFormula := fun _ => .ok ()
  applyStylePatch := fun _ patch => patch
  calculationAutoWidth := fun _ _ _ => 8
  shiftFormula := fun formula _ _ => .ok formula
  guessTypedData := fun _ => .empty
  refersTo := fun formula name => formula == name ++ "!A1*2"
  restructure := fun _ _ book => .ok book
  applyOther := fun _ _ _ book => .ok book

/-- `Model!A1` is 5, `B1` doubles it, `C1` is 7; `Model!B2` doubles `Inputs!A1`. -/
def sampleOpenWorkbook : OpenWorkbook where
  sheets := ["Model", "Inputs"]
  cells := fun key =>
    if key = ("Model", 1, 1) then some { value := .number 5 }
    else if key = ("Model", 2, 1) then some { formula := some "A1*2", value := .number 10 }
    else if key = ("Model", 3, 1) then some { value := .number 7 }
    else if key = ("Model", 2, 2) then some { formula := some "Inputs!A1*2", value := .number 6 }
    else if key = ("Inputs", 1, 1) then some { value := .number 3 }
    else none
  format := fun _ => {}
  definedNames := []

/-- A merge and a new sheet ask for nothing and harm nothing; so does a style. -/
theorem sample_unflagged_edits_keep_values :
    (∀ book', sampleOpenWorkbook.structureOps sampleEditTools .warn
        [.mergeCells "Model" (.cells (1, 4) (2, 4)), .createSheet "Notes" none] = .ok book' →
      sampleOpenWorkbook.Unharmed sampleEditTools book') ∧
    ∀ book', sampleOpenWorkbook.writeOps sampleEditTools .warn
        [.style ⟨"Model", .cells [(1, 1)], "bold"⟩] = .ok book' →
      sampleOpenWorkbook.Unharmed sampleEditTools book' := by
  have hkeeps := unflagged_edits_keep_values sampleEditTools .warn sampleOpenWorkbook
  refine ⟨(hkeeps.1 [.mergeCells "Model" (.cells (1, 4) (2, 4)), .createSheet "Notes" none] rfl).2
    ?_, hkeeps.2 [.style ⟨"Model", .cells [(1, 1)], "bold"⟩] (by decide)⟩
  intro n op before after hop _ _
  match n, hop with
  | 0, hop =>
    cases Option.some.inj hop
    trivial
  | 1, hop =>
    cases Option.some.inj hop
    trivial

/-- A clean fork copies the value of `C1` over `A1`, which `B1` reads, and deletes
`Inputs`, which `B2` reads, and is clean each time. -/
theorem clean_fork_with_changed_inputs :
    (∃ fork, structureBatch sampleEditTools .warn
        [.copyRange "Model" none (.cells (3, 1) (3, 1)) (1, 1) true false]
        ⟨sampleOpenWorkbook, false⟩ = .ok fork ∧ fork.recalcNeeded = false ∧
      sampleOpenWorkbook.stored ("Model", 1, 1) = (none, .number 5) ∧
      fork.book.stored ("Model", 1, 1) = (none, .number 7)) ∧
    ∃ fork, structureBatch sampleEditTools .warn [.deleteSheet "Inputs"]
        ⟨sampleOpenWorkbook, false⟩ = .ok fork ∧ fork.recalcNeeded = false ∧
      "Inputs" ∉ fork.book.sheets ∧ sampleOpenWorkbook.Referenced sampleEditTools "Inputs" := by
  refine ⟨⟨_, rfl, rfl, by decide, by decide⟩, ⟨_, rfl, rfl, by decide, ?_⟩⟩
  exact ⟨("Model", 2, 2), "Inputs!A1*2", by decide, by decide⟩

end AgentSpreadsheet.Sheets
