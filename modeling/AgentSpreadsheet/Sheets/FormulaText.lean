import AgentSpreadsheet.Sheets.TypedWrites
import AgentSpreadsheet.Sheets.Staging

/-! The texts of formulas, as the operations that write them leave them. -/
namespace AgentSpreadsheet.Sheets
open Library

/-- A formula that parses, or a request that does not ask. -/
def Passes (tools : StageTools) (policy : FormulaParsePolicy) (formula : String) : Prop :=
  policy = .off ∨ tools.validateFormula formula = .ok ()

/-- One operation gives the cell the formula and leaves the second workbook. A batch
runs the operations it accepts as they are. -/
inductive Gives (tools : StageTools) (texts : TypedTexts) (formula : String) :
    CellKey → OpenWorkbook → OpenWorkbook → Prop
  | setCells (name : String) (cells : List (Position × CellContent)) (overwrite : Bool)
      {book book' : OpenWorkbook} {key : CellKey}
      (run : applyTransformOps tools (setCellsToOps texts name cells overwrite) book = .ok book')
      (written : Written tools overwrite book (cellTargets texts name cells) key
        (.formula formula)) : Gives tools texts formula key book book'
  | writeMatrix (name : String) (anchor : Position) (rows : List (List (Option MatrixCell)))
      (overwrite : Bool) {book book' : OpenWorkbook} {key : CellKey}
      (run : applyTransformOp tools (.writeMatrix name anchor rows overwrite) book = .ok book')
      (written : Written tools overwrite book ((matrixCells anchor rows).map (matrixTarget name))
        key (.formula formula)) : Gives tools texts formula key book book'
  | fillRange (name : String) (target : TransformTarget) (overwrite : Bool)
      (positions : List Position) {position : Position} {book book' : OpenWorkbook}
      (run : applyTransformOp tools (.fillRange name target formula true overwrite) book =
        .ok book')
      (filled : target.positions = .ok positions) (inside : position ∈ positions) :
      Gives tools texts formula (name, position) book book'
  | formulaPattern (pattern : FormulaPattern) (batch : Batch) (recalc : Bool)
      {book book' : OpenWorkbook} (base : pattern.baseFormula = formula)
      (accepted : applyFormulaPattern tools pattern book = .ok batch)
      (run : batch.edit book = .ok (book', recalc)) :
      Gives tools texts formula (pattern.sheetName, pattern.anchorCell) book book'
  | gridImport (request : GridImport) (batch : Batch) (recalc : Bool) {position : Position}
      {book book' : OpenWorkbook}
      (accepted : gridImportBatch tools request book = .ok batch)
      (run : batch.edit book = .ok (book', recalc))
      (written : (position, .formula formula) ∈ request.matrix)
      (passes : Passes tools (batchPolicy request.formulaParsePolicy) formula) :
      Gives tools texts formula (request.sheetName, position) book book'

/-- Whatever operation gives a cell the formula, the cell then has one text, without an
equals sign, and the value of a formula that waits for its own. -/
def OneNormalForm (tools : StageTools) (texts : TypedTexts) (formula : String) : Prop :=
  ∃ text : String, text.toList.head? ≠ some '=' ∧
    ∀ key book book', Gives tools texts formula key book book' →
      storedCell (book'.cells key) = (some text, tools.guessTypedData "")

theorem stripEquals_eq {formula : String} (h : formula.toList.head? ≠ some '=') :
    stripEquals formula = formula := by
  unfold stripEquals
  split
  next rest hlist =>
    rw [hlist] at h
    exact absurd rfl h
  next => rfl

/-! ### What each operation leaves -/

section Paths
variable {tools : StageTools} {texts : TypedTexts} {book book' : OpenWorkbook} {key : CellKey}
  {name formula : String} {overwrite recalc : Bool} {position : Position} {batch : Batch}

theorem storedCell_formulaCell {text : String} {cell : AgentSpreadsheet.Cell} :
    storedCell (some (formulaCell tools.toEditTools text cell)) =
      (some text, tools.guessTypedData "") := rfl

theorem stored_written {targets : List (CellKey × MatrixCell)}
    (h : Written tools overwrite book targets key (.formula formula)) :
    storedCell ((book.onCells (writeCell tools overwrite) targets).cells key) =
      (some (stripEquals formula), tools.guessTypedData "") := by
  obtain ⟨cell, _, hcell⟩ := cells_written h
  rw [hcell]
  exact storedCell_formulaCell

theorem stored_fillRange {target : TransformTarget} {positions : List Position}
    (h : applyTransformOp tools (.fillRange name target formula true overwrite) book = .ok book')
    (hfilled : target.positions = .ok positions) (hinside : position ∈ positions) :
    storedCell (book'.cells (name, position)) = (some formula, tools.guessTypedData "") := by
  simp only [applyTransformOp, bind_eq_ok, pure_eq_ok, hfilled, Except.ok.injEq] at h
  obtain ⟨_, _, _, hpositions, hbook⟩ := h
  rw [← hbook, ← hpositions]
  have htarget : ((name, position), ()) ∈ positions.map fun position => ((name, position), ()) := by
    apply List.mem_map.mpr
    exact ⟨position, hinside, rfl⟩
  apply onCells_property (P := fun cell => storedCell cell =
    (some formula, tools.guessTypedData "")) _ htarget
  intro _ cell
  exact storedCell_formulaCell

theorem anchor_mem {pattern : FormulaPattern} {bounds : Bounds} {u : Unit}
    (hvalid : pattern.validate = .ok u)
    (hbounds : parseRangeBounds pattern.targetRange = .ok bounds) :
    pattern.anchorCell ∈ bounds.positions := by
  simp only [FormulaPattern.validate, validateFormulaPatternBounds, hbounds, bind_eq_ok,
    ensure_eq_ok, Except.ok.injEq] at hvalid
  obtain ⟨_, hsame, _, hinside, _⟩ := hvalid
  rw [← hsame] at hinside
  simp only [Bounds.positions, List.mem_flatMap, List.mem_map, List.mem_range'_1]
  refine ⟨pattern.anchorCell.2, ?_, pattern.anchorCell.1, ?_, rfl⟩
  · omega
  · omega

theorem cells_fillPattern {pattern : FormulaPattern} {mode : RelativeMode}
    (h : fillPattern tools pattern mode book position = .ok book') :
    ∃ shifted, tools.shiftPattern mode pattern.baseFormula
        (position.1 - pattern.anchorCell.1) (position.2 - pattern.anchorCell.2) = .ok shifted ∧
      storedCell (book'.cells (pattern.sheetName, position)) =
        (some (stripEquals shifted), tools.guessTypedData "") ∧
      ∀ other, other ≠ position →
        book'.cells (pattern.sheetName, other) = book.cells (pattern.sheetName, other) := by
  simp only [fillPattern, bind_eq_ok, pure_eq_ok] at h
  obtain ⟨shifted, hshifted, hbook⟩ := h
  rw [← hbook]
  refine ⟨shifted, hshifted, ?_, ?_⟩
  · unfold OpenWorkbook.setCell
    dsimp only
    rw [Function.update_self]
    exact storedCell_formulaCell
  · intro other hother
    apply Function.update_of_ne
    intro hkey
    exact hother (Prod.mk.inj hkey).2

theorem stored_formulaPattern {pattern : FormulaPattern}
    (haccepted : applyFormulaPattern tools pattern book = .ok batch)
    (hrun : batch.edit book = .ok (book', recalc)) :
    ∃ mode shifted, tools.parseBaseFormula pattern.baseFormula = .ok () ∧
      tools.shiftPattern mode pattern.baseFormula 0 0 = .ok shifted ∧
      storedCell (book'.cells (pattern.sheetName, pattern.anchorCell)) =
        (some (stripEquals shifted), tools.guessTypedData "") := by
  simp only [applyFormulaPattern, bind_eq_ok, pure_eq_ok] at haccepted
  obtain ⟨_, hvalid, _, _, hbatch⟩ := haccepted
  rw [← hbatch] at hrun
  simp only [flagged, applyFormulaPatternTo, bind_eq_ok, pure_eq_ok, Prod.mk.injEq] at hrun
  obtain ⟨_, ⟨_, hparse, bounds, hbounds, _, _, hfold⟩, hbook, _⟩ := hrun
  rw [hbook] at hfold
  have hdone : pattern.anchorCell ∈ bounds.positions → ∃ shifted,
      tools.shiftPattern (pattern.relativeMode.getD .excel) pattern.baseFormula 0 0 =
        .ok shifted ∧
      storedCell (book'.cells (pattern.sheetName, pattern.anchorCell)) =
        (some (stripEquals shifted), tools.guessTypedData "") := by
    apply foldlM_invariant (motive := fun done now => pattern.anchorCell ∈ done → ∃ shifted,
      tools.shiftPattern (pattern.relativeMode.getD .excel) pattern.baseFormula 0 0 =
        .ok shifted ∧
      storedCell (now.cells (pattern.sheetName, pattern.anchorCell)) =
        (some (stripEquals shifted), tools.guessTypedData "")) _ _ hfold
    · intro hmem
      exact absurd hmem List.not_mem_nil
    · intro done position now next ih hnext hmem
      obtain ⟨shifted, hshifted, hstored, hothers⟩ := cells_fillPattern hnext
      by_cases hanchor : pattern.anchorCell = position
      · rw [← hanchor, sub_self, sub_self] at hshifted
        rw [← hanchor] at hstored
        exact ⟨shifted, hshifted, hstored⟩
      · rw [hothers _ hanchor]
        apply ih
        rw [List.mem_append, List.mem_singleton] at hmem
        exact hmem.resolve_right hanchor
  obtain ⟨shifted, hshifted, hstored⟩ := hdone (anchor_mem hvalid hbounds)
  exact ⟨_, shifted, hparse, hshifted, hstored⟩

theorem mem_acceptedMatrix {label : String} {policy : FormulaParsePolicy} {anchor : Position}
    {rows : List (List (Option MatrixCell))} {op : TransformOp}
    (h : acceptedMatrix tools label policy name anchor rows overwrite = .ok op)
    (hpasses : Passes tools policy formula)
    (hmem : (position, .formula formula) ∈ matrixCells anchor rows) :
    ∃ accepted, op = .writeMatrix name anchor accepted overwrite ∧
      (position, .formula formula) ∈ matrixCells anchor accepted := by
  cases policy with
  | off =>
    injection h with h
    exact ⟨rows, h.symm, hmem⟩
  | warn =>
    injection h with h
    refine ⟨_, h.symm, ?_⟩
    rw [filter_matrixCells, List.mem_filter]
    have hvalid := hpasses.resolve_left (by decide)
    refine ⟨hmem, ?_⟩
    simp [kept, validCell, hvalid]
  | fail =>
    simp only [acceptedMatrix, bind_eq_ok, pure_eq_ok] at h
    obtain ⟨_, _, h⟩ := h
    exact ⟨rows, h.symm, hmem⟩

theorem storedCell_of_stored {text : String} {value : ResidentMaterializedValue}
    (h : book.stored key = (some text, value)) :
    storedCell (book.cells key) = (some text, value) := by
  unfold OpenWorkbook.stored at h
  split at h
  next => exact h
  next => exact absurd h (by simp)

theorem stored_gridImport {request : GridImport}
    (haccepted : gridImportBatch tools request book = .ok batch)
    (hrun : batch.edit book = .ok (book', recalc))
    (hmem : (position, .formula formula) ∈ request.matrix)
    (hpasses : Passes tools (batchPolicy request.formulaParsePolicy) formula) :
    storedCell (book'.cells (request.sheetName, position)) =
      (some (stripEquals formula), tools.guessTypedData "") := by
  simp only [gridImportBatch, resolve_clearOps, bind_eq_ok, pure_eq_ok, Except.ok.injEq,
    exists_eq_left'] at haccepted
  obtain ⟨styleOps, _, op, hop, hbatch⟩ := haccepted
  obtain ⟨rows, hrows, hinside⟩ := mem_acceptedMatrix hop hpasses hmem
  rw [← hbatch, hrows] at hrun
  simp only [flagged, GridImport.apply, bind_eq_ok, pure_eq_ok, Prod.mk.injEq,
    applyTransformOps_write] at hrun
  obtain ⟨_, ⟨_, _, _, _, written, ⟨cleared, _, hsheet, hwritten⟩, hstyled⟩, hbook, _⟩ := hrun
  rw [hbook] at hstyled
  have hcell : written.cells (request.sheetName, position) =
      writeCell tools true (.formula formula) (cleared.cells (request.sheetName, position)) := by
    rw [← hwritten]
    apply onCells_mem (nodup_matrixTargets _ _ _)
    apply List.mem_map.mpr
    exact ⟨_, hinside, rfl⟩
  apply storedCell_of_stored
  rw [stored_styleOps hstyled, OpenWorkbook.stored, if_pos, hcell, writeCell_eq (fun _ => rfl)]
  · exact storedCell_formulaCell
  · rw [← hwritten, (onCells_frame _ _ _).1]
    exact hsheet

end Paths

/-! ### The runs on one cell -/

section Runs
variable (tools : StageTools) (texts : TypedTexts) (formula : String)

theorem gives_fillRange : Gives tools texts formula ("Model", 4, 1) sampleOpenWorkbook
    (sampleOpenWorkbook.onPositions "Model" [(4, 1)] (fillCell tools formula true false)) := by
  apply Gives.fillRange "Model" (.cells [(4, 1)]) false [(4, 1)]
  · rfl
  · rfl
  · exact List.mem_singleton_self _

def onePattern (mode : RelativeMode) : FormulaPattern :=
  ⟨"Model", .cells (4, 1) (4, 1), (4, 1), formula, none, some mode⟩

theorem gives_onePattern {mode : RelativeMode} {shifted : String}
    (hparse : tools.parseBaseFormula formula = .ok ())
    (hshift : tools.shiftPattern mode formula 0 0 = .ok shifted) :
    Gives tools texts formula ("Model", 4, 1) sampleOpenWorkbook
      (sampleOpenWorkbook.setCell ("Model", 4, 1)
        (some (formulaCell tools.toEditTools (stripEquals shifted) {}))) := by
  have haccepted : ∃ batch, applyFormulaPattern tools (onePattern formula mode)
      sampleOpenWorkbook = .ok batch ∧
        batch.edit = flagged true (applyFormulaPatternTo tools (onePattern formula mode) mode) :=
    ⟨_, rfl, rfl⟩
  obtain ⟨batch, haccepted, hedit⟩ := haccepted
  have hstep : fillPattern tools (onePattern formula mode) mode sampleOpenWorkbook (4, 1) =
      .ok (sampleOpenWorkbook.setCell ("Model", 4, 1)
        (some (formulaCell tools.toEditTools (stripEquals shifted) {}))) := by
    simp only [fillPattern, bind_eq_ok, pure_eq_ok]
    refine ⟨shifted, ?_, rfl⟩
    exact hshift
  apply Gives.formulaPattern (onePattern formula mode) batch true rfl haccepted
  rw [hedit]
  simp only [flagged, bind_eq_ok, pure_eq_ok, Prod.mk.injEq, and_true, exists_eq_right,
    applyFormulaPatternTo]
  refine ⟨(), hparse, _, rfl, (), rfl, ?_⟩
  have hpositions : Bounds.positions ⟨.between 4 4, .between 1 1⟩ = [(4, 1)] := rfl
  change List.foldlM _ _ (Bounds.positions ⟨.between 4 4, .between 1 1⟩) = _
  rw [hpositions, List.foldlM_cons, hstep]
  rfl

end Runs

/-- When a formula has one normal form: it has no equals sign in front, and the pattern's
printer leaves it as it is. -/
theorem one_normal_form_iff (tools : StageTools) (texts : TypedTexts) (formula : String) :
    OneNormalForm tools texts formula ↔
      formula.toList.head? ≠ some '=' ∧
        ∀ mode shifted, tools.parseBaseFormula formula = .ok () →
          tools.shiftPattern mode formula 0 0 = .ok shifted → stripEquals shifted = formula := by
  constructor
  · intro ⟨text, htext, hall⟩
    have hfill := hall _ _ _ (gives_fillRange tools texts formula)
    have hsame : formula = text := by
      have hstored : storedCell ((sampleOpenWorkbook.onPositions "Model" [(4, 1)]
          (fillCell tools formula true false)).cells ("Model", 4, 1)) =
            (some formula, tools.guessTypedData "") := by
        exact storedCell_formulaCell
      rw [hstored, Prod.mk.injEq, Option.some.injEq] at hfill
      exact hfill.1
    rw [← hsame] at htext hall
    refine ⟨htext, ?_⟩
    intro mode shifted hparse hshift
    have hpattern := hall _ _ _ (gives_onePattern tools texts formula hparse hshift)
    unfold OpenWorkbook.setCell at hpattern
    dsimp only at hpattern
    rw [Function.update_self, storedCell_formulaCell, Prod.mk.injEq, Option.some.injEq] at hpattern
    exact hpattern.1
  · intro ⟨hhead, hpattern⟩
    refine ⟨formula, hhead, ?_⟩
    intro key book book' hgives
    have hstrip := stripEquals_eq hhead
    cases hgives with
    | setCells _ _ _ run written =>
      rw [applyTransformOps_setCells run, stored_written written, hstrip]
    | writeMatrix _ _ _ _ run written =>
      rw [applyTransformOp_writeMatrix run, stored_written written, hstrip]
    | fillRange _ _ _ _ run filled inside => exact stored_fillRange run filled inside
    | formulaPattern _ _ _ base accepted run =>
      obtain ⟨mode, shifted, hparse, hshift, hstored⟩ := stored_formulaPattern accepted run
      rw [base] at hparse hshift
      rw [hstored, hpattern mode shifted hparse hshift]
    | gridImport _ _ _ accepted run written passes =>
      rw [stored_gridImport accepted run written passes, hstrip]

section Sample

/-- The text of a formula that passes with its equals sign: a matrix strips it and a
fill does not. -/
theorem filled_formula_keeps_equals :
    ∃ filled written, sampleStageTools.validateFormula "=SUM(A1:C1)" = .ok () ∧
      Gives sampleStageTools sampleTexts "=SUM(A1:C1)" ("Model", 4, 1) sampleOpenWorkbook filled ∧
      Gives sampleStageTools sampleTexts "=SUM(A1:C1)" ("Model", 4, 1) sampleOpenWorkbook written ∧
      (storedCell (filled.cells ("Model", 4, 1))).1 = some "=SUM(A1:C1)" ∧
      (storedCell (written.cells ("Model", 4, 1))).1 = some "SUM(A1:C1)" ∧
      ¬ OneNormalForm sampleStageTools sampleTexts "=SUM(A1:C1)" := by
  refine ⟨_, _, by decide, gives_fillRange _ _ _,
    .writeMatrix "Model" (4, 1) [[some (.formula "=SUM(A1:C1)")]] false rfl
      ⟨[], [], rfl, fun _ => List.not_mem_nil, by decide⟩,
    rfl, by decide, ?_⟩
  intro ⟨text, htext, hall⟩
  have hfill := hall _ _ _ (gives_fillRange sampleStageTools sampleTexts "=SUM(A1:C1)")
  have hsame : "=SUM(A1:C1)" = text := by
    have hfirst := congrArg Prod.fst hfill
    injection hfirst
  rw [← hsame] at htext
  exact htext rfl

end Sample

end AgentSpreadsheet.Sheets
