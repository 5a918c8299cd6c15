import AgentSpreadsheet.Library.Pointwise
import AgentSpreadsheet.Sheets.GridRoundTrip

/-! What comes back of a range that is exported as a grid and imported where it was. -/
namespace AgentSpreadsheet.Sheets
open Library Search

/-! ### What comes back of a cell -/

section Content
variable (tools : GridTools) (cached : Bool) (key : CellKey)

def valueOf (cell : AgentSpreadsheet.Cell) : Option (CellValue F64) :=
  cellToValue (tools.reading.valueTools tools.rounding) (readCell tools.stage tools.reading key cell)

/-- The formula and the value of a cell; with `cached` also the last value of a formula. -/
def contentOf (cell : Option AgentSpreadsheet.Cell) : Option String × Option (CellValue F64) :=
  (cell.bind AgentSpreadsheet.Cell.formula, cell.bind fun cell =>
    if cell.isFormula && !cached then none else valueOf tools key cell)

/-- The value that comes back is the one that was exported. A date is exported as a text. -/
def Returns : CellValue F64 → Prop
  | .text s => PlainText tools.rounding tools.texts s
  | .number (.finite _) => True
  | .number _ => False
  | .bool _ => True
  | .error e => isErrorValue (tools.stage.guessTypedData e) = true ∧
      tools.stage.cellText (tools.stage.guessTypedData e) = e
  | .date d => isErrorValue (tools.stage.guessTypedData d) = false ∧
      ∃ x, parseF64 tools.rounding (tools.stage.cellText (tools.stage.guessTypedData d)) = some x ∧
        tools.reading.values.excelSerialToIso x = d

/-- The style of a cell after its export and import. -/
def restyled (style : String) : String :=
  let cleared := tools.stage.applyStylePatch style tools.stage.clearedPatch
  let (fmt, patch) := tools.describeStyle style
  ((GridCell.mk (0, 0) none none fmt patch).stylePatch tools.stage).elim cleared
    (tools.stage.applyStylePatch cleared)

/-- A style shows dates when its number format, cleared and set again, does. -/
def KeepsDates : Prop :=
  ∀ style, tools.reading.dateStyle (restyled tools style) = tools.reading.dateStyle style

end Content

section Returns
variable {tools : GridTools} {cached : Bool} {key : CellKey} {cell : AgentSpreadsheet.Cell}
  {value : CellValue F64}

theorem cellToValue_facts {reader : ValueTools F64} {stored : StoredCell}
    (h : cellToValue reader stored = some value) :
    (∀ x, value = .number x → stored.dateFormatted = false) ∧
      (∀ d, value = .date d → stored.dateFormatted = true) ∧ ∀ e, value = .error e → e ≠ "" := by
  unfold cellToValue at h
  dsimp only at h
  split at h
  · contradiction
  · rename_i hraw
    split at h
    · obtain rfl := Option.some.inj h
      exact ⟨by simp, by simp, fun e he => by injection he with he; exact he ▸ hraw⟩
    · split at h
      · split at h
        · rename_i hdates
          obtain rfl := Option.some.inj h
          exact ⟨by simp, fun _ _ => hdates, by simp⟩
        · rename_i hdates
          obtain rfl := Option.some.inj h
          exact ⟨fun _ _ => by simpa using hdates, by simp, by simp⟩
      · split at h
        · obtain rfl := Option.some.inj h
          simp
        · split at h <;> (obtain rfl := Option.some.inj h; simp)

/-- A value of a cell is written as its text and read again. -/
theorem returns_iff (htyping : Typing tools.stage tools.rounding tools.texts)
    (hvalue : valueOf tools key cell = some value) {target : AgentSpreadsheet.Cell}
    (hstyle : tools.reading.dateStyle target.style = tools.reading.dateStyle cell.style) :
    literalRead tools.stage tools.reading tools.rounding key target
        (jsonValueToCellString (cellToJsonValue tools value)) = some value ↔ Returns tools value := by
  obtain ⟨hnumber, hdate, herror⟩ := cellToValue_facts hvalue
  have hempty : literalRead tools.stage tools.reading tools.rounding key target "" = none := by
    rw [literalRead_eq, htyping.guess_empty, htyping.text_empty, if_pos rfl]
  cases value with
  | text s => exact literalRead_text_iff htyping
  | number x =>
    have hplain : tools.reading.dateStyle target.style = false := hstyle.trans (hnumber x rfl)
    cases x with
    | finite d =>
      have hread := @literalRead_float_iff _ tools.reading _ _ key target _ htyping d d
        (htyping.json_float d)
      exact hread.trans (by simp [hplain, Returns])
    | infinite negative =>
      change literalRead _ _ _ _ _ "" = _ ↔ False
      rw [hempty]
      simp
    | nan =>
      change literalRead _ _ _ _ _ "" = _ ↔ False
      rw [hempty]
      simp
  | bool b =>
    have hspells : tools.texts.spellsBool (toString b) = some b :=
      htyping.boolean _ b (by cases b <;> decide)
    exact iff_of_true (literalRead_bool htyping hspells) trivial
  | error e =>
    have hne := herror e rfl
    change literalRead _ _ _ _ _ e = _ ↔ _
    rw [literalRead_eq]
    unfold Returns
    constructor
    · intro h
      split at h
      · contradiction
      · split at h
        · rename_i his
          injection h with h
          injection h with h
          exact ⟨his, h⟩
        · split at h
          · split at h <;> simp at h
          · split at h
            · simp at h
            · split at h <;> simp at h
    · intro h
      obtain ⟨his, htext⟩ := h
      rw [htext, if_neg hne, if_pos his]
  | date d =>
    have hdates : tools.reading.dateStyle target.style = true := hstyle.trans (hdate d rfl)
    change literalRead _ _ _ _ _ d = _ ↔ _
    rw [literalRead_eq, hdates]
    unfold Returns
    constructor
    · intro h
      split at h
      · contradiction
      · split at h
        · simp at h
        · rename_i his
          split at h
          · rename_i x hx
            injection h with h
            injection h with h
            exact ⟨by simpa using his, x, hx, h⟩
          · split at h
            · simp at h
            · split at h <;> simp at h
    · intro h
      obtain ⟨his, x, hx, hiso⟩ := h
      have hne : tools.stage.cellText (tools.stage.guessTypedData d) ≠ "" := by
        intro hblank
        rw [hblank, parseF64_empty] at hx
        contradiction
      rw [if_neg hne, if_neg (by simp [his]), hx]
      simp [hiso]

theorem valueOf_empty (htyping : Typing tools.stage tools.rounding tools.texts)
    {cell : AgentSpreadsheet.Cell} (h : cell.value = tools.stage.guessTypedData "") :
    valueOf tools key cell = none := by
  unfold valueOf cellToValue readCell
  rw [h, htyping.guess_empty, htyping.text_empty]
  rfl

def returned (tools : GridTools) (book : OpenWorkbook) (key : CellKey) (offset : Nat × Nat) :
    Option AgentSpreadsheet.Cell :=
  restored tools (exportCell tools book key.1 key.2 offset) (book.cells key)

/-- The text that is written back to a cell without a formula. -/
def writtenText (tools : GridTools) (key : CellKey) (cell : AgentSpreadsheet.Cell) : String :=
  if cell.isFormula then ""
  else (valueOf tools key cell).elim "" fun value =>
    jsonValueToCellString (cellToJsonValue tools value)

theorem returned_some {book : OpenWorkbook} {offset : Nat × Nat} (h : book.cells key = some cell) :
    returned tools book key offset = some
      { value := tools.stage.guessTypedData (writtenText tools key cell)
        formula := cell.formula
        style := restyled tools cell.style } := by
  let v := if cell.isFormula then none else (valueOf tools key cell).map (cellToJsonValue tools)
  let gridCell : GridCell :=
    { offset, v, f := cell.formula.map fun formula => "=" ++ formula
      fmt := (tools.describeStyle cell.style).1, style := (tools.describeStyle cell.style).2 }
  have hexport : exportCell tools book key.1 key.2 offset =
      if v.isSome ∨ gridCell.f.isSome ∨ gridCell.fmt.isSome ∨ gridCell.style.isSome then
        some gridCell else none := by
    unfold exportCell
    rw [h]
    rfl
  have hwritten : (exportCell tools book key.1 key.2 offset).bind GridCell.written =
      gridCell.written := by
    rw [hexport]
    split
    · rfl
    · rename_i hnone
      simp only [not_or, Bool.not_eq_true, Option.isSome_eq_false_iff, Option.isNone_iff_eq_none]
        at hnone
      unfold GridCell.written
      rw [hnone.2.1, show gridCell.v = none from hnone.1]
      rfl
  have hpatch : (exportCell tools book key.1 key.2 offset).bind
      (GridCell.stylePatch tools.stage) = gridCell.stylePatch tools.stage := by
    rw [hexport]
    split
    · rfl
    · rename_i hnone
      simp only [not_or, Bool.not_eq_true, Option.isSome_eq_false_iff, Option.isNone_iff_eq_none]
        at hnone
      unfold GridCell.stylePatch
      rw [hnone.2.2.1, hnone.2.2.2]
      rfl
  have hcleared : styled tools tools.stage.clearedPatch
      (clearCell tools.stage true true (some cell)) = some
        { value := tools.stage.guessTypedData "", formula := none
          style := tools.stage.applyStylePatch cell.style tools.stage.clearedPatch } := by
    unfold styled clearCell valueCell AgentSpreadsheet.Cell.setLiteral AgentSpreadsheet.Cell.setFormula
    cases hformula : cell.isFormula <;> simp [hformula]
  have hcontent : (gridCell.written.elim (some
      { value := tools.stage.guessTypedData "", formula := none
        style := tools.stage.applyStylePatch cell.style tools.stage.clearedPatch })
      fun written => writeCell tools.stage true written (some
        { value := tools.stage.guessTypedData "", formula := none
          style := tools.stage.applyStylePatch cell.style tools.stage.clearedPatch })) = some
      { value := tools.stage.guessTypedData (writtenText tools key cell), formula := cell.formula
        style := tools.stage.applyStylePatch cell.style tools.stage.clearedPatch } := by
    unfold GridCell.written writtenText
    cases hformula : cell.formula with
    | some formula =>
      have his : cell.isFormula = true := by
        unfold AgentSpreadsheet.Cell.isFormula
        rw [hformula]
        rfl
      simp [gridCell, hformula, his, writeCell, formulaCell, AgentSpreadsheet.Cell.setFormula,
        AgentSpreadsheet.Cell.setFormulaResult, stripEquals, AgentSpreadsheet.Cell.isFormula]
    | none =>
      have his : cell.isFormula = false := by
        unfold AgentSpreadsheet.Cell.isFormula
        rw [hformula]
        rfl
      cases hvalue : valueOf tools key cell <;>
        simp [gridCell, v, hformula, his, hvalue, writeCell, valueCell,
          AgentSpreadsheet.Cell.setLiteral, AgentSpreadsheet.Cell.isFormula]
  unfold returned restored
  dsimp only
  rw [hwritten, hpatch, h, hcleared, hcontent]
  have hstyle : gridCell.stylePatch tools.stage = (GridCell.mk (0, 0) none none
      (tools.describeStyle cell.style).1 (tools.describeStyle cell.style).2).stylePatch
        tools.stage := rfl
  rw [hstyle]
  unfold restyled
  dsimp only
  cases (GridCell.mk (0, 0) none none (tools.describeStyle cell.style).1
    (tools.describeStyle cell.style).2).stylePatch tools.stage <;> rfl

theorem returned_none {book : OpenWorkbook} {offset : Nat × Nat} (h : book.cells key = none) :
    returned tools book key offset = some
      { style := tools.stage.applyStylePatch "" tools.stage.clearedPatch } := by
  unfold returned restored exportCell
  rw [h]
  rfl

/-- What must hold of a cell for its content to come back. -/
def CellReturns (tools : GridTools) (cached : Bool) (book : OpenWorkbook) (key : CellKey) : Prop :=
  ∀ cell, book.cells key = some cell →
    if cell.isFormula then cached = true → valueOf tools key cell = none
    else ∀ value, valueOf tools key cell = some value → Returns tools value

theorem content_returned_iff (htyping : Typing tools.stage tools.rounding tools.texts)
    (hdates : KeepsDates tools) {book : OpenWorkbook} {offset : Nat × Nat} :
    contentOf tools cached key (returned tools book key offset) =
      contentOf tools cached key (book.cells key) ↔ CellReturns tools cached book key := by
  cases hcell : book.cells key with
  | none =>
    rw [returned_none hcell]
    have hblank : valueOf tools key
        { style := tools.stage.applyStylePatch "" tools.stage.clearedPatch } = none :=
      valueOf_empty htyping htyping.guess_empty.symm
    apply iff_of_true
    · unfold contentOf
      simp [hblank]
    · intro cell h
      rw [hcell] at h
      contradiction
  | some cell =>
    rw [returned_some hcell]
    have hreturns : CellReturns tools cached book key ↔
        if cell.isFormula then cached = true → valueOf tools key cell = none
        else ∀ value, valueOf tools key cell = some value → Returns tools value := by
      unfold CellReturns
      rw [hcell]
      simp
    rw [hreturns]
    unfold contentOf
    simp only [Option.bind_some, Prod.mk.injEq, true_and]
    cases hformula : cell.isFormula with
    | true =>
      have hafter : valueOf tools key
          { value := tools.stage.guessTypedData (writtenText tools key cell)
            formula := cell.formula, style := restyled tools cell.style } = none := by
        apply valueOf_empty htyping
        unfold writtenText
        rw [if_pos hformula]
      have hkept : cell.formula.isSome = true := hformula
      rw [hafter]
      cases cached with
      | false => simp [AgentSpreadsheet.Cell.isFormula, hkept]
      | true => simp [eq_comm]
    | false =>
      have hkept : cell.formula = none := by
        cases hformula' : cell.formula with
        | none => rfl
        | some formula => simp [AgentSpreadsheet.Cell.isFormula, hformula'] at hformula
      simp only [AgentSpreadsheet.Cell.isFormula, hkept, Option.isSome_none, Bool.false_and,
        Bool.false_eq_true, if_false]
      unfold writtenText
      rw [hformula, if_neg Bool.false_ne_true]
      cases hvalue : valueOf tools key cell with
      | none => simp [valueOf_empty htyping]
      | some value =>
        have hread := @returns_iff _ key cell value htyping hvalue
          { style := restyled tools cell.style } (hdates cell.style)
        simp only [Option.elim_some, Option.some.injEq, forall_eq']
        exact hread

end Returns

/-! ### The exported cells -/

section Exported
variable {tools : GridTools} {book : OpenWorkbook} {name : String} {range : GridRange}
  {payload : ExportedGrid}

def offsetIn (range : GridRange) (position : Position) : Nat × Nat :=
  (position.2 - range.rows.lo, position.1 - range.cols.lo)

theorem map_filterMap_key {α β : Type} {f : α → Option β} {key : β → α} {items : List α}
    (h : ∀ a ∈ items, ∀ b, f a = some b → key b = a) :
    (items.filterMap f).map key = items.filter fun a => (f a).isSome := by
  induction items with
  | nil => rfl
  | cons a rest ih =>
    have hrest := ih fun a ha => h a (List.mem_cons_of_mem _ ha)
    cases hf : f a with
    | none => rw [List.filterMap_cons_none hf, List.filter_cons_of_neg (by simp [hf]), hrest]
    | some b =>
      rw [List.filterMap_cons_some hf, List.filter_cons_of_pos (by simp [hf]), List.map_cons, hrest,
        h a List.mem_cons_self b hf]

theorem exportRows_flatten : (exportRows tools book name range).flatten =
    range.toBounds.positions.filterMap fun position =>
      exportCell tools book name position (offsetIn range position) := by
  unfold exportRows Bounds.positions
  rw [List.flatten_filter_ne_nil, List.filterMap_flatMap]
  simp only [List.filterMap_map]
  rfl

def reimport (name : String) (range : GridRange) (payload : ExportedGrid) : ImportGrid :=
  ⟨name, range.anchor, payload, true⟩

theorem exportCell_offset {position offset : Nat × Nat} {cell : GridCell}
    (h : exportCell tools book name position offset = some cell) : cell.offset = offset := by
  obtain ⟨_, _, h⟩ := Option.bind_eq_some_iff.mp h
  have hcell := (Option.ite_none_right_eq_some.mp h).2
  rw [← Option.some.inj hcell]

theorem position_exported (hrows : payload.rows = exportRows tools book name range)
    {position : Position} (hposition : position ∈ range.toBounds.positions) {cell : GridCell}
    (h : exportCell tools book name position (offsetIn range position) = some cell) :
    (reimport name range payload).position cell = position := by
  have hin := mem_positions.mp hposition
  unfold ImportGrid.position
  rw [exportCell_offset h]
  apply Prod.ext
  · change range.cols.lo + (position.1 - range.cols.lo) = position.1
    omega
  · change range.rows.lo + (position.2 - range.rows.lo) = position.2
    omega

theorem distinct_exported (hrows : payload.rows = exportRows tools book name range) :
    (((reimport name range payload).cells).map GridCell.offset).Nodup := by
  have hpositions : ((reimport name range payload).cells.map
      (reimport name range payload).position).Nodup := by
    unfold ImportGrid.cells
    change ((payload.rows.flatten).map _).Nodup
    rw [hrows, exportRows_flatten, map_filterMap_key fun position hposition cell h =>
      position_exported hrows hposition h]
    exact (nodup_positions _).filter _
  apply List.Nodup.of_map fun offset : Nat × Nat =>
    (range.anchor.1 + offset.2, range.anchor.2 + offset.1)
  rw [List.map_map]
  exact hpositions

theorem mem_exported (hrows : payload.rows = exportRows tools book name range) {cell : GridCell} :
    cell ∈ (reimport name range payload).cells ↔ ∃ position ∈ range.toBounds.positions,
      exportCell tools book name position (offsetIn range position) = some cell := by
  unfold ImportGrid.cells
  change cell ∈ payload.rows.flatten ↔ _
  rw [hrows, exportRows_flatten, List.mem_filterMap]

theorem cellOf_exported (hrows : payload.rows = exportRows tools book name range)
    (position : Position) : (reimport name range payload).cellOf position =
      if position ∈ range.toBounds.positions then
        exportCell tools book name position (offsetIn range position) else none := by
  apply Option.ext
  intro cell
  rw [cellOf_eq_some (distinct_exported hrows), mem_exported hrows]
  constructor
  · intro h
    obtain ⟨⟨other, hother, hcell⟩, hposition⟩ := h
    rw [position_exported hrows hother hcell] at hposition
    subst hposition
    rw [if_pos hother, hcell]
  · intro h
    split at h
    · rename_i hposition
      exact ⟨⟨position, hposition, h⟩, position_exported hrows hposition h⟩
    · contradiction

/-- A cell that is not exported has nothing to come back. -/
theorem cellReturns_of_none {position offset : Nat × Nat} {cached : Bool}
    (h : exportCell tools book name position offset = none) :
    CellReturns tools cached book (name, position) := by
  intro cell hcell
  unfold exportCell at h
  rw [hcell] at h
  have h := ite_eq_right_iff.mp h
  simp only [reduceCtorEq, imp_false, not_or, Bool.not_eq_true, Option.isSome_eq_false_iff,
    Option.isNone_iff_eq_none, Option.map_eq_none_iff] at h
  obtain ⟨hvalue, hformula, _⟩ := h
  have his : cell.isFormula = false := by
    unfold AgentSpreadsheet.Cell.isFormula
    rw [hformula]
    rfl
  rw [his, if_neg Bool.false_ne_true] at hvalue ⊢
  intro value hread
  have hnone : valueOf tools (name, position) cell = none := Option.map_eq_none_iff.mp hvalue
  rw [hnone] at hread
  contradiction

end Exported

/-! ### Merged ranges -/

section Merged
variable {α : Type}

theorem perm_readded {p q u : α → Bool} (huq : ∀ a, u a = true → q a = true)
    (hqp : ∀ a, q a = true → p a = true) (items : List α) :
    ((items.filter (fun a => !u a) ++ items.filter q).filter p).Perm (items.filter p) ↔
      ∀ a ∈ items, q a = true → u a = true := by
  have hadded : (items.filter q).filter p = items.filter q := by
    rw [List.filter_filter]
    apply List.filter_congr
    intro a _
    rw [Bool.eq_iff_iff, Bool.and_eq_true]
    exact ⟨fun h => h.2, fun h => ⟨hqp a h, h⟩⟩
  have htaken : (items.filter p).filter u = items.filter u := by
    rw [List.filter_filter]
    apply List.filter_congr
    intro a _
    rw [Bool.eq_iff_iff, Bool.and_eq_true]
    exact ⟨fun h => h.1, fun h => ⟨h, hqp a (huq a h)⟩⟩
  have hkept : (items.filter fun a => !u a).filter p = (items.filter p).filter fun a => !u a := by
    rw [List.filter_filter, List.filter_filter]
    simp only [Bool.and_comm]
  have hsplit := List.filter_append_perm (fun a => !u a) (items.filter p)
  simp only [Bool.not_not] at hsplit
  rw [htaken] at hsplit
  rw [List.filter_append, hadded, hkept, ← hsplit.congr_right _, List.perm_append_left_iff]
  constructor
  · intro h a ha hq
    exact (List.mem_filter.mp (h.mem_iff.mp (List.mem_filter.mpr ⟨ha, hq⟩))).2
  · intro h
    have hsame : items.filter q = items.filter u := by
      apply List.filter_congr
      intro a ha
      rw [Bool.eq_iff_iff]
      exact ⟨h a ha, huq a⟩
    rw [hsame]

theorem le_foldl_max_iff (f : α → Nat) (items : List α) (start n : Nat) :
    n ≤ items.foldl (fun n a => max n (f a)) start ↔ n ≤ start ∨ ∃ a ∈ items, n ≤ f a := by
  induction items generalizing start with
  | nil => simp
  | cons a rest ih =>
    rw [List.foldl_cons, ih]
    simp only [List.exists_mem_cons_iff, le_max_iff, or_assoc]

end Merged

/-! ### The round trip -/

section RoundTrip
variable (tools : GridTools) (cached : Bool) (book : OpenWorkbook) (name : String)
  (range : GridRange)

def mergesIn (book : OpenWorkbook) : Merges :=
  (book.format name).merges.filter fun m => decide (m.Meets ⟨range.cols, some range.rows⟩)

/-- The import succeeds and leaves contents and merged ranges as they were. -/
def RoundTrips (payload : ExportedGrid) : Prop :=
  ∃ book', (reimport name range payload).run tools book = .ok book' ∧
    (∀ key, contentOf tools cached key (book'.cells key) =
      contentOf tools cached key (book.cells key)) ∧
    (mergesIn name range book').Perm (mergesIn name range book)

def Exported (position : Position) : Prop :=
  position ∈ range.toBounds.positions ∧
    (exportCell tools book name position (offsetIn range position)).isSome = true

/-- The merged range begins in the range, and no further right or down than the cells that are
exported. -/
structure MergeReturns (bounds : Bounds) : Prop where
  begins : range.cols.lo ≤ bounds.cols.lo ∧ range.rows.lo ≤ bounds.rows.lo
  ends : bounds.cols.hi ≤ 16384 ∧ bounds.rows.hi ≤ 1048576
  column : bounds.cols.lo ≤ range.cols.lo ∨
    ∃ position, Exported tools book name range position ∧ bounds.cols.lo ≤ position.1
  row : bounds.rows.lo ≤ range.rows.lo ∨
    ∃ position, Exported tools book name range position ∧ bounds.rows.lo ≤ position.2

structure Restorable : Prop where
  count : (range.toBounds.positions.filter fun position =>
    (exportCell tools book name position (offsetIn range position)).isSome).length ≤ 100000
  widths : ∀ col, range.cols.lo ≤ col → col ≤ range.cols.hi →
    ((book.format name).columns col).width ≤ 255
  merges : ∀ m ∈ (book.format name).merges, ∀ bounds, m.bounds = some bounds →
    bounds.Meets range.toBounds → MergeReturns tools book name range bounds
  cells : ∀ position ∈ range.toBounds.positions, CellReturns tools cached book (name, position)

end RoundTrip

section Exact
variable {tools : GridTools} {cached : Bool} {book : OpenWorkbook} {name : String}
  {range : GridRange} {payload : ExportedGrid}

structure IsExport (tools : GridTools) (book : OpenWorkbook) (name : String) (range : GridRange)
    (payload : ExportedGrid) : Prop where
  sheet : name ∈ book.sheets
  columns : payload.columns = exportColumns book name range
  merges : payload.merges = exportMerges book name range
  rows : payload.rows = exportRows tools book name range
  anchor : payload.anchor = range.anchor

theorem isExport (h : gridExport tools book name range = .ok payload) :
    IsExport tools book name range payload := by
  simp only [gridExport, OpenWorkbook.requireSheet, bind_eq_ok, ensure_eq_ok, pure_eq_ok] at h
  obtain ⟨_, hsheet, rfl⟩ := h
  exact ⟨hsheet, rfl, rfl, rfl, rfl⟩

def cornersOf (bounds : Bounds) : A1Range :=
  .cells (bounds.cols.lo, bounds.rows.lo) (bounds.cols.hi, bounds.rows.hi)

theorem mem_exportMerges {target : A1Range} : target ∈ exportMerges book name range ↔
    ∃ m ∈ (book.format name).merges, ∃ bounds, m.bounds = some bounds ∧
      bounds.Meets range.toBounds ∧ target = cornersOf bounds := by
  unfold exportMerges
  simp only [List.mem_filterMap, Option.bind_eq_some_iff, Option.ite_none_right_eq_some,
    Option.some.injEq]
  constructor
  · intro h
    obtain ⟨m, hm, bounds, hbounds, hmeets, rfl⟩ := h
    exact ⟨m, hm, bounds, hbounds, hmeets, rfl⟩
  · intro h
    obtain ⟨m, hm, bounds, hbounds, hmeets, rfl⟩ := h
    exact ⟨m, hm, bounds, hbounds, hmeets, rfl⟩

/-- The merged ranges of the payload are those of the sheet with bounds in the range. -/
theorem exportMerges_merged : (exportMerges book name range).map A1Range.merged =
    (book.format name).merges.filter fun m =>
      m.bounds.any fun bounds => decide (bounds.Meets range.toBounds) := by
  unfold exportMerges
  rw [List.map_filterMap, ← List.filterMap_eq_filter]
  congr 1
  funext m
  obtain ⟨cols, rows⟩ := m
  cases rows with
  | none => rfl
  | some rows =>
    have hmerged : (cornersOf ⟨cols, rows⟩).merged = ⟨cols, some rows⟩ := by
      have hcols := cols.le
      have hrows := rows.le
      unfold cornersOf A1Range.merged Interval.between
      simp [hcols, hrows]
    simp only [MergedRange.bounds, Option.map_some, Option.bind_some, Option.any_some, Option.guard]
    by_cases hmeets : Bounds.Meets ⟨cols, rows⟩ range.toBounds
    · simp only [hmeets, if_true, decide_true, Option.map_some]
      exact congrArg some hmerged
    · simp [hmeets]

theorem translate_corners {bounds : Bounds} : (∃ target,
    translateMerge range.anchor range.anchor (cornersOf bounds) = .ok target) ↔
      range.cols.lo ≤ bounds.cols.lo ∧ range.rows.lo ≤ bounds.rows.lo := by
  have hcols := bounds.cols.le
  have hrows := bounds.rows.le
  simp only [translateMerge, cornersOf, bind_eq_ok, ensure_eq_ok, pure_eq_ok]
  constructor
  · intro h
    obtain ⟨_, _, _, _, hbegins, _⟩ := h
    exact hbegins
  · intro h
    exact ⟨_, (), ⟨hcols, hrows⟩, (), h, rfl⟩

theorem translate_eq {target target' : A1Range} (hmem : target ∈ exportMerges book name range)
    (h : translateMerge range.anchor range.anchor target = .ok target') : target' = target := by
  obtain ⟨_, _, bounds, _, _, rfl⟩ := mem_exportMerges.mp hmem
  have hcols := bounds.cols.le
  have hrows := bounds.rows.le
  simp only [translateMerge, cornersOf, bind_eq_ok, ensure_eq_ok, pure_eq_ok] at h
  obtain ⟨_, _, _, hbegins, rfl⟩ := h
  unfold cornersOf
  congr 2 <;> omega

theorem translate_all : (∃ targets, (exportMerges book name range).mapM
    (translateMerge range.anchor range.anchor) = .ok targets) ↔
      ∀ m ∈ (book.format name).merges, ∀ bounds, m.bounds = some bounds →
        bounds.Meets range.toBounds →
          range.cols.lo ≤ bounds.cols.lo ∧ range.rows.lo ≤ bounds.rows.lo := by
  rw [mapM_isOk]
  constructor
  · intro h m hm bounds hbounds hmeets
    exact translate_corners.mp (h _ (mem_exportMerges.mpr ⟨m, hm, bounds, hbounds, hmeets, rfl⟩))
  · intro h target htarget
    obtain ⟨m, hm, bounds, hbounds, hmeets, rfl⟩ := mem_exportMerges.mp htarget
    exact translate_corners.mpr (h m hm bounds hbounds hmeets)

theorem translated_eq {targets : List A1Range} (h : (exportMerges book name range).mapM
    (translateMerge range.anchor range.anchor) = .ok targets) :
    targets = exportMerges book name range := by
  have hall := mapM_eq_ok.mp h
  have hsame := Library.map_eq_of_forall₂ (f := id) (g := id) hall fun target htarget target' _ heq =>
    (translate_eq htarget heq).symm
  rw [List.map_id, List.map_id] at hsame
  exact hsame.symm

theorem footprint_iff (h : IsExport tools book name range payload) {fp : Bounds}
    (hfp : parseRangeBounds (reimport name range payload).footprint = .ok fp) :
    (fp.cols.lo = range.cols.lo ∧ fp.rows.lo = range.rows.lo) ∧
      (∀ n, n ≤ fp.cols.hi ↔ n ≤ range.cols.lo ∨
        ∃ position, Exported tools book name range position ∧ n ≤ position.1) ∧
      ∀ n, n ≤ fp.rows.hi ↔ n ≤ range.rows.lo ∨
        ∃ position, Exported tools book name range position ∧ n ≤ position.2 := by
  have hoffsets (g : Nat × Nat → Nat) (n : Nat) :
      (∃ offset ∈ (reimport name range payload).cells.map GridCell.offset, n ≤ g offset) ↔
        ∃ position, Exported tools book name range position ∧ n ≤ g (offsetIn range position) := by
    constructor
    · intro hex
      obtain ⟨_, hmem, hle⟩ := hex
      obtain ⟨cell, hcell, rfl⟩ := List.mem_map.mp hmem
      obtain ⟨position, hposition, hexport⟩ := (mem_exported h.rows).mp hcell
      refine ⟨position, ⟨hposition, ?_⟩, ?_⟩
      · rw [hexport]
        rfl
      · rw [← exportCell_offset hexport]
        exact hle
    · intro hex
      obtain ⟨position, ⟨hposition, hsome⟩, hle⟩ := hex
      obtain ⟨cell, hexport⟩ := Option.isSome_iff_exists.mp hsome
      refine ⟨cell.offset, List.mem_map_of_mem ((mem_exported h.rows).mpr
        ⟨position, hposition, hexport⟩), ?_⟩
      rw [exportCell_offset hexport]
      exact hle
  have hlow (g : Nat × Nat → Nat) := le_foldl_max_iff g
    ((reimport name range payload).cells.map GridCell.offset)
  simp only [ImportGrid.footprint, ImportRequest.footprint, parseRangeBounds, Interval.between,
    Except.ok.injEq] at hfp
  subst hfp
  have hcols := (le_foldl_max (fun offset : Nat × Nat => range.cols.lo + offset.2)
    ((reimport name range payload).cells.map GridCell.offset) range.cols.lo).1
  have hrows := (le_foldl_max (fun offset : Nat × Nat => range.rows.lo + offset.1)
    ((reimport name range payload).cells.map GridCell.offset) range.rows.lo).1
  refine ⟨⟨Nat.min_eq_left hcols, Nat.min_eq_left hrows⟩, ?_, ?_⟩
  · intro n
    have hmax := hlow (fun offset => range.cols.lo + offset.2) range.cols.lo n
    rw [hoffsets] at hmax
    refine (le_max_iff.trans (or_congr_right hmax)).trans ?_
    rw [← or_assoc]
    change (n ≤ range.cols.lo ∨ n ≤ range.cols.lo) ∨ _ ↔ _
    rw [or_self]
    apply or_congr_right
    apply exists_congr
    intro position
    apply and_congr_right
    intro hexported
    have hin := mem_positions.mp hexported.1
    unfold offsetIn
    dsimp only
    omega
  · intro n
    have hmax := hlow (fun offset => range.rows.lo + offset.1) range.rows.lo n
    rw [hoffsets] at hmax
    refine (le_max_iff.trans (or_congr_right hmax)).trans ?_
    rw [← or_assoc]
    change (n ≤ range.rows.lo ∨ n ≤ range.rows.lo) ∨ _ ↔ _
    rw [or_self]
    apply or_congr_right
    apply exists_congr
    intro position
    apply and_congr_right
    intro hexported
    have hin := mem_positions.mp hexported.1
    unfold offsetIn
    dsimp only
    omega

theorem footprint_within (h : IsExport tools book name range payload) {fp : Bounds}
    (hfp : parseRangeBounds (reimport name range payload).footprint = .ok fp) :
    fp.cols.hi ≤ range.cols.hi ∧ fp.rows.hi ≤ range.rows.hi := by
  obtain ⟨_, hcols, hrows⟩ := footprint_iff h hfp
  have hle := range.cols.le
  have hle' := range.rows.le
  constructor
  · rcases (hcols _).mp (Nat.le_refl _) with hlow | ⟨position, hexported, hlow⟩
    · omega
    · have hin := mem_positions.mp hexported.1
      omega
  · rcases (hrows _).mp (Nat.le_refl _) with hlow | ⟨position, hexported, hlow⟩
    · omega
    · have hin := mem_positions.mp hexported.1
      omega

theorem validate_iff (h : IsExport tools book name range payload) :
    (reimport name range payload).validate = .ok () ↔
      (∀ target ∈ exportMerges book name range, validateRange target = .ok ()) ∧
      (∀ col, range.cols.lo ≤ col → col ≤ range.cols.hi →
        ((book.format name).columns col).width ≤ 255) ∧
      (range.toBounds.positions.filter fun position =>
        (exportCell tools book name position (offsetIn range position)).isSome).length ≤
          100000 := by
  have hinside := range.inside
  have hcols := range.cols.le
  have hrows := range.rows.le
  have hanchor : validateCell range.anchor = .ok () := by
    unfold validateCell GridRange.anchor
    rw [check_bind_eq_ok, ensure_eq_ok, ensure_eq_ok]
    dsimp only
    omega
  have hcells : ∀ cell ∈ (reimport name range payload).cells,
      range.anchor.2 + cell.offset.1 ≤ 1048576 ∧ range.anchor.1 + cell.offset.2 ≤ 16384 := by
    intro cell hcell
    obtain ⟨position, hposition, hexport⟩ := (mem_exported h.rows).mp hcell
    have hin := mem_positions.mp hposition
    rw [exportCell_offset hexport]
    unfold offsetIn GridRange.anchor
    dsimp only
    omega
  have hcount : (reimport name range payload).cells.length =
      (range.toBounds.positions.filter fun position =>
        (exportCell tools book name position (offsetIn range position)).isSome).length := by
    rw [← map_filterMap_key fun position hposition cell hcell =>
      position_exported h.rows hposition hcell, List.length_map]
    unfold ImportGrid.cells
    change payload.rows.flatten.length = _
    rw [h.rows, exportRows_flatten]
  have hwidths : (∀ column ∈ payload.columns, range.anchor.1 + column.1 ≤ 16384 ∧
      0 ≤ column.2 ∧ column.2 ≤ 255) ↔ ∀ col, range.cols.lo ≤ col → col ≤ range.cols.hi →
        ((book.format name).columns col).width ≤ 255 := by
    rw [h.columns]
    unfold exportColumns lines GridRange.anchor
    simp only [List.mem_filterMap, List.mem_range'_1, Option.ite_none_right_eq_some,
      Option.some.injEq]
    constructor
    · intro hall col hlo hhi
      by_cases hpos : 0 < ((book.format name).columns col).width
      · exact (hall _ ⟨col, by omega, hpos, rfl⟩).2.2
      · exact (not_lt.mp hpos).trans (by norm_num)
    · intro hall column hcolumn
      obtain ⟨col, hcol, hpos, rfl⟩ := hcolumn
      exact ⟨by dsimp only; omega, hpos.le, hall col (by omega) (by omega)⟩
  unfold ImportGrid.validate
  simp only [check_bind_eq_ok, ensure_eq_ok, hcount]
  change (validateCell payload.anchor = .ok () ∧ payload.merges.forM validateRange = .ok () ∧
    (range.anchor.1 ≠ 0 ∧ range.anchor.2 ≠ 0) ∧ (∀ cell ∈ (reimport name range payload).cells,
      range.anchor.2 + cell.offset.1 ≤ 1048576 ∧ range.anchor.1 + cell.offset.2 ≤ 16384) ∧
    (∀ column ∈ payload.columns, range.anchor.1 + column.1 ≤ 16384 ∧ 0 ≤ column.2 ∧
      column.2 ≤ 255) ∧ _) ↔ _
  rw [h.anchor, forM_eq_ok, h.merges, hwidths]
  constructor
  · intro hall
    exact ⟨hall.2.1, hall.2.2.2.2.1, hall.2.2.2.2.2⟩
  · intro hall
    refine ⟨hanchor, hall.1, ?_, hcells, hall.2.1, hall.2.2⟩
    unfold GridRange.anchor
    dsimp only
    omega

theorem merges_perm_iff (h : IsExport tools book name range payload) {fp : Bounds}
    (hfp : parseRangeBounds (reimport name range payload).footprint = .ok fp)
    {book' : OpenWorkbook} (hafter : (book'.format name).merges =
      (book.format name).merges.unmerge (reimport name range payload).footprint ++
        (exportMerges book name range).map A1Range.merged) :
    (mergesIn name range book').Perm (mergesIn name range book) ↔
      ∀ m ∈ (book.format name).merges, ∀ bounds, m.bounds = some bounds →
        bounds.Meets range.toBounds → bounds.Meets fp := by
  have hwithin := footprint_within h hfp
  obtain ⟨hlow, _⟩ := footprint_iff h hfp
  have hunmerge : (book.format name).merges.unmerge (reimport name range payload).footprint =
      (book.format name).merges.filter fun m =>
        !(m.bounds.any fun bounds => decide (bounds.Meets fp)) := by
    unfold Merges.unmerge
    rw [hfp]
    apply List.filter_congr
    intro m _
    cases m.bounds <;> rfl
  unfold mergesIn
  rw [hafter, hunmerge, exportMerges_merged, perm_readded]
  · apply forall_congr'
    intro m
    apply forall_congr'
    intro _
    cases m.bounds <;> simp
  · intro m hm
    obtain ⟨bounds, hbounds, hmeets⟩ := Option.any_eq_true _ _ |>.mp hm
    have hmeets := of_decide_eq_true hmeets
    apply (Option.any_eq_true _ _).mpr
    refine ⟨bounds, hbounds, decide_eq_true ?_⟩
    unfold Bounds.Meets Interval.Meets at hmeets ⊢
    omega
  · intro m hm
    obtain ⟨bounds, hbounds, hmeets⟩ := Option.any_eq_true _ _ |>.mp hm
    have hmeets := of_decide_eq_true hmeets
    obtain ⟨cols, rows⟩ := m
    cases rows with
    | none => contradiction
    | some rows =>
      obtain rfl := Option.some.inj hbounds
      exact decide_eq_true hmeets

theorem contents_iff (htyping : Typing tools.stage tools.rounding tools.texts)
    (hdates : KeepsDates tools) (h : IsExport tools book name range payload) {fp : Bounds}
    (hfp : parseRangeBounds (reimport name range payload).footprint = .ok fp)
    {book' : OpenWorkbook}
    (hcells : ∀ position, book'.cells (name, position) = if position ∈ fp.positions then
      restored tools ((reimport name range payload).cellOf position) (book.cells (name, position))
      else book.cells (name, position))
    (hother : ∀ key : CellKey, key.1 ≠ name → book'.cells key = book.cells key) :
    (∀ key, contentOf tools cached key (book'.cells key) =
      contentOf tools cached key (book.cells key)) ↔
      ∀ position ∈ range.toBounds.positions, CellReturns tools cached book (name, position) := by
  have hwithin := footprint_within h hfp
  obtain ⟨hlow, _⟩ := footprint_iff h hfp
  have hfootprint : ∀ position ∈ fp.positions, position ∈ range.toBounds.positions := by
    intro position hposition
    have hin := mem_positions.mp hposition
    exact mem_positions.mpr (by omega)
  have hat : ∀ position ∈ fp.positions, book'.cells (name, position) =
      returned tools book (name, position) (offsetIn range position) := by
    intro position hposition
    rw [hcells, if_pos hposition, cellOf_exported h.rows, if_pos (hfootprint position hposition)]
    rfl
  constructor
  · intro hsame position hposition
    by_cases hin : position ∈ fp.positions
    · have hkey := hsame (name, position)
      rw [hat position hin] at hkey
      exact (content_returned_iff htyping hdates).mp hkey
    · apply @cellReturns_of_none tools book name position (offsetIn range position)
      by_contra hsome
      obtain ⟨cell, hcell⟩ := Option.ne_none_iff_exists'.mp hsome
      have hmem := mem_footprint_position hfp ((mem_exported h.rows).mpr ⟨position, hposition, hcell⟩)
      rw [position_exported h.rows hposition hcell] at hmem
      exact hin hmem
  · intro hreturns key
    obtain ⟨sheet, position⟩ := key
    by_cases hsheet : sheet = name
    · subst hsheet
      by_cases hin : position ∈ fp.positions
      · rw [hat position hin]
        exact (content_returned_iff htyping hdates).mpr (hreturns position (hfootprint position hin))
      · rw [hcells, if_neg hin]
    · rw [hother _ hsheet]

theorem translate_payload (h : IsExport tools book name range payload) :
    payload.merges.mapM (translateMerge range.anchor payload.anchor) =
      (exportMerges book name range).mapM (translateMerge range.anchor range.anchor) := by
  rw [h.merges, h.anchor]

theorem reimport_spec (h : IsExport tools book name range payload) {fp : Bounds}
    (hfp : parseRangeBounds (reimport name range payload).footprint = .ok fp)
    (htargets : (exportMerges book name range).mapM (translateMerge range.anchor range.anchor) =
      .ok (exportMerges book name range)) :
    ∃ book', (reimport name range payload).apply tools book = .ok book' ∧
      (book'.format name).merges =
        (book.format name).merges.unmerge (reimport name range payload).footprint ++
          (exportMerges book name range).map A1Range.merged ∧
      (∀ position, book'.cells (name, position) = if position ∈ fp.positions then
        restored tools ((reimport name range payload).cellOf position) (book.cells (name, position))
        else book.cells (name, position)) ∧
      ∀ key : CellKey, key.1 ≠ name → book'.cells key = book.cells key :=
  @apply_spec tools book (reimport name range payload) h.sheet rfl (distinct_exported h.rows)
    (Nat.ne_of_gt range.inside.1) _ ((translate_payload h).trans htargets) fp hfp

theorem RoundTrips.restorable (htyping : Typing tools.stage tools.rounding tools.texts)
    (hdates : KeepsDates tools) (h : IsExport tools book name range payload)
    (hround : RoundTrips tools cached book name range payload) :
    Restorable tools cached book name range := by
  have hfp : parseRangeBounds (reimport name range payload).footprint = .ok
      ⟨.between _ _, .between _ _⟩ := rfl
  obtain ⟨_, hcols, hrows⟩ := footprint_iff h hfp
  obtain ⟨after, hrun, hcontents, hperm⟩ := hround
  simp only [ImportGrid.run, check_bind_eq_ok] at hrun
  obtain ⟨hvalid, happly⟩ := hrun
  obtain ⟨hranges, hwidths, hcount⟩ := (validate_iff h).mp hvalid
  have htargets : ∃ targets, (exportMerges book name range).mapM
      (translateMerge range.anchor range.anchor) = .ok targets := by
    have happly' := happly
    simp only [ImportGrid.apply, bind_eq_ok] at happly'
    obtain ⟨_, _, targets, htargets, _⟩ := happly'
    exact ⟨targets, (translate_payload h).symm.trans htargets⟩
  have hbegins := translate_all.mp htargets
  obtain ⟨targets, htargets⟩ := htargets
  obtain rfl := translated_eq htargets
  obtain ⟨book', hbook', hafter, hcells, hother⟩ := reimport_spec h hfp htargets
  obtain rfl := Except.ok.inj (happly.symm.trans hbook')
  have hmeets := (merges_perm_iff h hfp hafter).mp hperm
  refine ⟨hcount, hwidths, ?_, (contents_iff htyping hdates h hfp hcells hother).mp hcontents⟩
  intro m hm bounds hbounds hin
  have hvalidRange := hranges _ (mem_exportMerges.mpr ⟨m, hm, bounds, hbounds, hin, rfl⟩)
  unfold cornersOf validateRange validateCell at hvalidRange
  simp only [check_bind_eq_ok, ensure_eq_ok] at hvalidRange
  have hfootprint := hmeets m hm bounds hbounds hin
  exact ⟨hbegins m hm bounds hbounds hin, hvalidRange.2.1.2, (hcols _).mp hfootprint.1.1,
    (hrows _).mp hfootprint.2.1⟩

theorem Restorable.roundTrips (htyping : Typing tools.stage tools.rounding tools.texts)
    (hdates : KeepsDates tools) (h : IsExport tools book name range payload)
    (hrestorable : Restorable tools cached book name range) :
    RoundTrips tools cached book name range payload := by
  have hfp : parseRangeBounds (reimport name range payload).footprint = .ok
      ⟨.between _ _, .between _ _⟩ := rfl
  obtain ⟨hlow, hcols, hrows⟩ := footprint_iff h hfp
  have hbegins : ∀ m ∈ (book.format name).merges, ∀ bounds, m.bounds = some bounds →
      bounds.Meets range.toBounds →
        range.cols.lo ≤ bounds.cols.lo ∧ range.rows.lo ≤ bounds.rows.lo :=
    fun m hm bounds hbounds hin => (hrestorable.merges m hm bounds hbounds hin).begins
  obtain ⟨targets, htargets⟩ := translate_all.mpr hbegins
  obtain rfl := translated_eq htargets
  obtain ⟨book', hbook', hafter, hcells, hother⟩ := reimport_spec h hfp htargets
  have hvalid : (reimport name range payload).validate = .ok () := by
    refine (validate_iff h).mpr ⟨?_, hrestorable.widths, hrestorable.count⟩
    intro target htarget
    obtain ⟨m, hm, bounds, hbounds, hin, rfl⟩ := mem_exportMerges.mp htarget
    have hreturns := hrestorable.merges m hm bounds hbounds hin
    have hfirst := hreturns.begins
    have hlast := hreturns.ends
    have hinside := range.inside
    have hle := bounds.cols.le
    have hle' := bounds.rows.le
    unfold cornersOf validateRange validateCell
    simp only [check_bind_eq_ok, ensure_eq_ok]
    omega
  refine ⟨book', ?_, (contents_iff htyping hdates h hfp hcells hother).mpr hrestorable.cells, ?_⟩
  · simp only [ImportGrid.run, check_bind_eq_ok]
    exact ⟨hvalid, hbook'⟩
  · apply (merges_perm_iff h hfp hafter).mpr
    intro m hm bounds hbounds hin
    have hreturns := hrestorable.merges m hm bounds hbounds hin
    have hfirst := hreturns.begins
    have hle := bounds.cols.le
    have hle' := bounds.rows.le
    refine ⟨⟨(hcols _).mpr hreturns.column, ?_⟩, (hrows _).mpr hreturns.row, ?_⟩ <;> omega

end Exact

section Sample

/-- A style is its number format; the other one shows dates. -/
noncomputable def formatTools : GridTools where
  stage := typedTools
  reading :=
    { dateStyle := fun style => style == "yyyy-mm-dd"
      values := { plainReading.values with excelSerialToIso := fun _ => "2024-01-01" } }
  rounding := exactRounding
  texts := sampleTexts
  describeStyle style := if style = "" then (none, none) else (some style, none)

theorem formatTools_keepsDates : KeepsDates formatTools := by
  intro style
  unfold restyled formatTools
  by_cases hstyle : style = ""
  · simp [hstyle, GridCell.stylePatch, typedTools, sampleStageTools, sampleEditTools]
  · simp [hstyle, GridCell.stylePatch, typedTools, sampleStageTools, sampleEditTools]

/-- The first of January 2024 at `A1`. -/
def dateBook : OpenWorkbook where
  sheets := ["Sheet1"]
  cells key := if key = ("Sheet1", 1, 1) then
    some { value := .number 45292, style := "yyyy-mm-dd" } else none
  format _ := {}
  definedNames := []

end Sample

end AgentSpreadsheet.Sheets
