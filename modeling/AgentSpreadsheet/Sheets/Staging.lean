import AgentSpreadsheet.Sheets.Transform
import AgentSpreadsheet.Transaction

/-! Staged changes. A tool in preview mode edits a copy of the fork's workbook and
stages an operation with a payload of its own; applying a staged change runs the
operations again from their payloads. -/
namespace AgentSpreadsheet.Sheets
open Library

inductive BatchMode where
  | apply
  | preview
  deriving DecidableEq, Repr

/-- What a staged operation keeps of its request. A payload is JSON; requests are
JSON as well, so that a value reads back as it was staged. -/
inductive StagedPayload where
  | canonicalWriteBundle (bundle : String)
  | editBatch (sheetName : String) (edits : List CellEdit)
  | styleBatch (ops : List StyleOp)
  | columnSizeBatch (sheetName : String) (ops : List ColumnSizeOp)
  | transformBatch (ops : List TransformOp)
  | gridImport (sheetName : String) (anchor : Position) (clearTarget : Bool) (grid : Grid)
  | applyFormulaPattern (pattern : FormulaPattern)
  | structureBatch (ops : List StructureOp) (formulaParsePolicy : Option FormulaParsePolicy)
  | replaceInFormulas (op : ReplaceInFormulasOp)
  | sheetLayoutBatch (ops : List SheetLayoutOp)
  | rulesBatch (ops : List RulesOp) (formulaParsePolicy : Option FormulaParsePolicy)
  deriving DecidableEq, Repr

structure StagedOp where
  kind : String
  payload : StagedPayload
  deriving DecidableEq, Repr

/-- `snapshot` is the content of the preview's file. -/
structure StagedChange where
  changeId : String
  ops : List StagedOp
  snapshot : OpenWorkbook

structure StagedFork where
  book : OpenWorkbook
  recalcNeeded : Bool
  stagedChanges : List StagedChange

/-- The newest changes are kept. -/
def StagedFork.pushStagedChange (fork : StagedFork) (staged : StagedChange) : StagedFork :=
  let changes := fork.stagedChanges ++ [staged]
  { fork with stagedChanges := changes.drop (changes.length - maxStagedChangesPerFork) }

/-- A checked request: its edit, which says whether formulas must be recalculated,
and the operation that stands for it. -/
structure Batch where
  edit : OpenWorkbook → Result (OpenWorkbook × Bool)
  staged : StagedOp

def StagedFork.edited (fork : StagedFork) (edit : OpenWorkbook → Result (OpenWorkbook × Bool)) :
    Result StagedFork := do
  let edited ← edit fork.book
  pure { fork with book := edited.1, recalcNeeded := fork.recalcNeeded || edited.2 }

/-- A tool's last part: a preview edits a copy and stages the operation. -/
def Batch.run (batch : Batch) (mode : BatchMode) (changeId : String) (fork : StagedFork) :
    Result StagedFork :=
  match mode with
  | .preview => do
    let edited ← batch.edit fork.book
    pure (fork.pushStagedChange ⟨changeId, [batch.staged], edited.1⟩)
  | .apply => fork.edited batch.edit

/-- An edit that always has the same effect on the flag. -/
def flagged (recalc : Bool) (edit : OpenWorkbook → Result OpenWorkbook) (book : OpenWorkbook) :
    Result (OpenWorkbook × Bool) := do
  let book ← edit book
  pure (book, recalc)

section Appliers
variable (tools : StageTools)

def applyStyleOps (ops : List StyleOp) (book : OpenWorkbook) : Result OpenWorkbook :=
  ops.foldlM (fun book op => applyStyleOp tools.toFormatTools op book) book

def applyColumnSizeOps (sheetName : String) (ops : List ColumnSizeOp) (book : OpenWorkbook) :
    Result OpenWorkbook :=
  ops.foldlM (fun book op => applyColumnSizeOp tools.toFormatTools { op with sheetName } book) book

def applySheetLayoutOps (ops : List SheetLayoutOp) (book : OpenWorkbook) : Result OpenWorkbook :=
  ops.foldlM (fun book op => applySheetLayoutOp op book) book

def applyRulesOps (policy : FormulaParsePolicy) (ops : List RulesOp) (book : OpenWorkbook) :
    Result OpenWorkbook :=
  ops.foldlM (fun book op => applyRulesOp tools.toFormatTools policy op book) book

end Appliers

/-! ### The tools -/

section Tools
variable (tools : StageTools)

def editBatch (sheetName : String) (edits : List CellEdit) (policy : Option FormulaParsePolicy) :
    Result Batch := do
  let edits ← edits.mapM (acceptedEdit tools (batchPolicy policy))
  let edits := edits.filterMap id
  pure ⟨flagged true (applyEdits tools sheetName edits), "edit_batch", .editBatch sheetName edits⟩

def styleBatch (ops : List StyleOp) (book : OpenWorkbook) : Result Batch := do
  let ops ← ops.mapM (resolveStyleOp tools book)
  pure ⟨flagged false (applyStyleOps tools ops), "style_batch", .styleBatch ops⟩

def columnSizeBatch (sheetName : String) (ops : List ColumnSizeOp) (book : OpenWorkbook) :
    Result Batch := do
  book.requireSheet sheetName
  pure ⟨flagged false (applyColumnSizeOps tools sheetName ops), "column_size_batch",
    .columnSizeBatch sheetName ops⟩

def transformBatch (ops : List TransformOp) (policy : Option FormulaParsePolicy)
    (book : OpenWorkbook) : Result Batch := do
  let ops ← ops.mapM (resolveTransformOp tools book)
  let ops ← ops.mapM (acceptedTransform tools (batchPolicy policy))
  let ops := ops.filterMap id
  pure ⟨flagged true (applyTransformOps tools ops), "transform_batch", .transformBatch ops⟩

/-- The payload has no policy. -/
def gridImportBatch (request : GridImport) (book : OpenWorkbook) : Result Batch := do
  let clearOps ← request.clearOps.mapM (resolveTransformOp tools book)
  let styleOps ← (request.styleOps tools).mapM (resolveStyleOp tools book)
  let writeOp ← acceptedMatrix tools "grid_import" (batchPolicy request.formulaParsePolicy)
    request.sheetName request.anchor request.writeRows true
  pure ⟨flagged true (request.apply tools (clearOps ++ [writeOp]) styleOps), "grid_import",
    .gridImport request.sheetName request.anchor request.clearTarget request.grid⟩

def applyFormulaPattern (pattern : FormulaPattern) (book : OpenWorkbook) : Result Batch := do
  pattern.validate
  book.requireSheet pattern.sheetName
  pure ⟨flagged true (applyFormulaPatternTo tools pattern (pattern.relativeMode.getD .excel)),
    "apply_formula_pattern", .applyFormulaPattern { pattern with
      fillDirection := some (pattern.fillDirection.getD .both)
      relativeMode := some (pattern.relativeMode.getD .excel) }⟩

def structureOpsBatch (ops : List StructureOp) (policy : Option FormulaParsePolicy) : Batch :=
  ⟨flagged (structureOpsRequireRecalc ops)
      (OpenWorkbook.structureOps tools.toEditTools (batchPolicy policy) ops),
    "structure_batch", .structureBatch ops (some (batchPolicy policy))⟩

def replaceInFormulas (op : ReplaceInFormulasOp) (policy : Option FormulaParsePolicy) : Batch :=
  ⟨fun book => do
      let replaced ← applyReplaceInFormulas tools op (batchPolicy policy) book
      pure (replaced.1, decide (0 < replaced.2)),
    "replace_in_formulas", .replaceInFormulas op⟩

def sheetLayoutBatch (ops : List SheetLayoutOp) (book : OpenWorkbook) : Result Batch := do
  ops.forM fun op => book.requireSheet op.sheetName
  pure ⟨flagged false (applySheetLayoutOps ops), "sheet_layout_batch", .sheetLayoutBatch ops⟩

def rulesBatch (ops : List RulesOp) (policy : Option FormulaParsePolicy) (book : OpenWorkbook) :
    Result Batch := do
  ops.forM fun op => book.requireSheet op.sheetName
  pure ⟨flagged false (applyRulesOps tools (batchPolicy policy) ops), "rules_batch",
    .rulesBatch ops (some (batchPolicy policy))⟩

end Tools

inductive ToolRequest where
  | editBatch (sheetName : String) (edits : List CellEdit) (policy : Option FormulaParsePolicy)
  | styleBatch (ops : List StyleOp)
  | columnSizeBatch (sheetName : String) (ops : List ColumnSizeOp)
  | transformBatch (ops : List TransformOp) (policy : Option FormulaParsePolicy)
  | gridImport (request : GridImport)
  | applyFormulaPattern (pattern : FormulaPattern)
  | structureBatch (ops : List StructureOp) (policy : Option FormulaParsePolicy)
  | replaceInFormulas (op : ReplaceInFormulasOp) (policy : Option FormulaParsePolicy)
  | sheetLayoutBatch (ops : List SheetLayoutOp)
  | rulesBatch (ops : List RulesOp) (policy : Option FormulaParsePolicy)
  deriving DecidableEq, Repr

section Requests
variable (tools : StageTools)

def ToolRequest.batch (request : ToolRequest) (book : OpenWorkbook) : Result Batch :=
  match request with
  | .editBatch sheetName edits policy => Sheets.editBatch tools sheetName edits policy
  | .styleBatch ops => Sheets.styleBatch tools ops book
  | .columnSizeBatch sheetName ops => Sheets.columnSizeBatch tools sheetName ops book
  | .transformBatch ops policy => Sheets.transformBatch tools ops policy book
  | .gridImport request => gridImportBatch tools request book
  | .applyFormulaPattern pattern => Sheets.applyFormulaPattern tools pattern book
  | .structureBatch ops policy => .ok (structureOpsBatch tools ops policy)
  | .replaceInFormulas op policy => .ok (Sheets.replaceInFormulas tools op policy)
  | .sheetLayoutBatch ops => Sheets.sheetLayoutBatch ops book
  | .rulesBatch ops policy => Sheets.rulesBatch tools ops policy book

def ToolRequest.run (request : ToolRequest) (mode : BatchMode) (changeId : String)
    (fork : StagedFork) : Result StagedFork := do
  let batch ← request.batch tools fork.book
  batch.run mode changeId fork

/-! ### Applying a staged change -/

def invalidPayload (kind : String) : String := "invalid " ++ kind ++ " payload"

/-- The dispatcher goes by the kind and reads the payload for it. -/
def applyStagedOp (fork : StagedFork) (op : StagedOp) : Result StagedFork :=
  if op.kind = "canonical_write_bundle" then
    match op.payload with
    | .canonicalWriteBundle bundle => fork.edited fun book => do
        let applied ← tools.applyBundle bundle book
        pure (applied.1, decide (0 < applied.2))
    | _ => .error (invalidPayload op.kind)
  else if op.kind = "edit_batch" then
    match op.payload with
    | .editBatch sheetName edits => fork.edited (flagged true (applyEdits tools sheetName edits))
    | _ => .error (invalidPayload op.kind)
  else if op.kind = "style_batch" then
    match op.payload with
    | .styleBatch ops => fork.edited (flagged false (applyStyleOps tools ops))
    | _ => .error (invalidPayload op.kind)
  else if op.kind = "column_size_batch" then
    match op.payload with
    | .columnSizeBatch sheetName ops =>
      fork.edited (flagged false (applyColumnSizeOps tools sheetName ops))
    | _ => .error (invalidPayload op.kind)
  else if op.kind = "transform_batch" then
    match op.payload with
    | .transformBatch ops => fork.edited (flagged true (applyTransformOps tools ops))
    | _ => .error (invalidPayload op.kind)
  else if op.kind = "grid_import" then
    match op.payload with
    | .gridImport sheetName anchor clearTarget grid =>
      (ToolRequest.gridImport ⟨sheetName, anchor, grid, clearTarget, none⟩).run tools .apply "" fork
    | _ => .error (invalidPayload op.kind)
  else if op.kind = "apply_formula_pattern" then
    match op.payload with
    | .applyFormulaPattern pattern => do
      pattern.validate
      fork.edited (flagged true
        (applyFormulaPatternTo tools pattern (pattern.relativeMode.getD .excel)))
    | _ => .error (invalidPayload op.kind)
  else if op.kind = "structure_batch" then
    match op.payload with
    | .structureBatch ops policy => fork.edited (flagged (structureOpsRequireRecalc ops)
        (OpenWorkbook.structureOps tools.toEditTools (batchPolicy policy) ops))
    | _ => .error (invalidPayload op.kind)
  else if op.kind = "sheet_layout_batch" then
    match op.payload with
    | .sheetLayoutBatch ops => fork.edited (flagged false (applySheetLayoutOps ops))
    | _ => .error (invalidPayload op.kind)
  else if op.kind = "rules_batch" then
    match op.payload with
    | .rulesBatch ops policy =>
      fork.edited (flagged false (applyRulesOps tools (batchPolicy policy) ops))
    | _ => .error (invalidPayload op.kind)
  else .error ("unsupported staged op kind: " ++ op.kind)

def applyStagedChange (changeId : String) (fork : StagedFork) : Result StagedFork := do
  let staged ← required (fork.stagedChanges.find? fun change => change.changeId = changeId)
    ("staged change not found: " ++ changeId)
  let fork ← staged.ops.foldlM (applyStagedOp tools) fork
  pure { fork with
    stagedChanges := fork.stagedChanges.eraseP fun change => change.changeId = changeId }

end Requests

/-! ### What a preview promises -/

/-- The staged change applies, and its result, the direct run of the request and
the snapshot are one workbook. -/
def PreviewHolds (tools : StageTools) (request : ToolRequest) (changeId : String)
    (fork previewed : StagedFork) : Prop :=
  ∃ staged applied direct,
    previewed.stagedChanges.find? (fun change => change.changeId = changeId) = some staged ∧
    applyStagedChange tools changeId previewed = .ok applied ∧
    request.run tools .apply changeId fork = .ok direct ∧
    applied.book = staged.snapshot ∧ direct.book = staged.snapshot

/-- The formula stands in the cell already, waiting for its value. -/
def HoldsFormula (tools : StageTools) (cell : Option AgentSpreadsheet.Cell) (formula : String) : Prop :=
  ∃ found, cell = some found ∧ found.formula = some (stripEquals formula) ∧
    found.value = tools.guessTypedData ""

/-- When a request's payload stands for the request. A grid import loses its policy:
it must not write, unchecked, a formula that does not parse, unless the formula is
there already and the target is not cleared. -/
def ToolRequest.Restageable (tools : StageTools) (book : OpenWorkbook) : ToolRequest → Prop
  | .replaceInFormulas _ _ => False
  | .gridImport request => request.formulaParsePolicy = some .off →
      ∀ position formula message, (position, .formula formula) ∈ request.matrix →
        tools.validateFormula formula = .error message →
          request.clearTarget = false ∧
            HoldsFormula tools (book.cells (request.sheetName, position)) formula
  | _ => True

section Dispatch
variable {tools : StageTools} {request : ToolRequest} {batch : Batch} {fork : StagedFork}
  {changeId : String}

theorem find_pushStagedChange (staged : StagedChange)
    (hfresh : ∀ change ∈ fork.stagedChanges, change.changeId ≠ staged.changeId) :
    (fork.pushStagedChange staged).stagedChanges.find?
      (fun change => change.changeId = staged.changeId) = some staged := by
  have hlen : (fork.stagedChanges ++ [staged]).length - maxStagedChangesPerFork ≤
      fork.stagedChanges.length := by
    simp only [List.length_append, List.length_singleton, maxStagedChangesPerFork]
    omega
  unfold StagedFork.pushStagedChange
  dsimp only
  rw [List.drop_append_of_le_length hlen, List.find?_append]
  have hnone : (fork.stagedChanges.drop ((fork.stagedChanges ++ [staged]).length -
      maxStagedChangesPerFork)).find? (fun change => change.changeId = staged.changeId) = none := by
    rw [List.find?_eq_none]
    intro change hchange
    simpa using hfresh change (List.mem_of_mem_drop hchange)
  rw [hnone]
  simp

/-- A preview holds exactly when its operation, run again, gives the snapshot. -/
theorem previewHolds_iff {previewed : StagedFork} {edited : OpenWorkbook × Bool}
    (hbatch : request.batch tools fork.book = .ok batch) (hedit : batch.edit fork.book = .ok edited)
    (hpreviewed : previewed = fork.pushStagedChange ⟨changeId, [batch.staged], edited.1⟩)
    (hfresh : ∀ change ∈ fork.stagedChanges, change.changeId ≠ changeId) :
    PreviewHolds tools request changeId fork previewed ↔
      ∃ applied, applyStagedOp tools previewed batch.staged = .ok applied ∧
        applied.book = edited.1 := by
  have hfind : previewed.stagedChanges.find? (fun change => change.changeId = changeId) =
      some ⟨changeId, [batch.staged], edited.1⟩ := by
    rw [hpreviewed]
    exact find_pushStagedChange ⟨changeId, [batch.staged], edited.1⟩ hfresh
  have hdirect : request.run tools .apply changeId fork =
      .ok { fork with book := edited.1, recalcNeeded := fork.recalcNeeded || edited.2 } := by
    simp only [ToolRequest.run, bind_eq_ok, Batch.run, StagedFork.edited, pure_eq_ok]
    exact ⟨batch, hbatch, edited, hedit, rfl⟩
  have happly (applied : StagedFork) : applyStagedChange tools changeId previewed = .ok applied ↔
      ∃ rerun, applyStagedOp tools previewed batch.staged = .ok rerun ∧
        { rerun with stagedChanges := rerun.stagedChanges.eraseP fun change =>
            change.changeId = changeId } = applied := by
    simp only [applyStagedChange, hfind, required, bind_eq_ok, pure_eq_ok, Except.ok.injEq,
      List.foldlM_cons, List.foldlM_nil, exists_eq_left', exists_eq_right]
  constructor
  · rintro ⟨staged, applied, direct, hstaged, happlied, _, hbook, _⟩
    rw [hfind, Option.some.injEq] at hstaged
    rw [← hstaged] at hbook
    obtain ⟨rerun, hrerun, rfl⟩ := (happly applied).mp happlied
    exact ⟨rerun, hrerun, hbook⟩
  · rintro ⟨rerun, hrerun, hbook⟩
    exact ⟨_, _, _, hfind, (happly _).mpr ⟨rerun, hrerun, rfl⟩, hdirect, hbook, rfl⟩

theorem applyStagedOp_staged (hbatch : request.batch tools fork.book = .ok batch)
    (hgrid : ∀ grid, request ≠ .gridImport grid)
    (hreplace : ∀ op policy, request ≠ .replaceInFormulas op policy) (fork' : StagedFork) :
    applyStagedOp tools fork' batch.staged = fork'.edited batch.edit := by
  cases request with
  | gridImport grid => exact absurd rfl (hgrid grid)
  | replaceInFormulas op policy => exact absurd rfl (hreplace op policy)
  | editBatch sheetName edits policy =>
    simp only [ToolRequest.batch, Sheets.editBatch, bind_eq_ok, pure_eq_ok] at hbatch
    obtain ⟨accepted, _, rfl⟩ := hbatch
    rfl
  | styleBatch ops =>
    simp only [ToolRequest.batch, Sheets.styleBatch, bind_eq_ok, pure_eq_ok] at hbatch
    obtain ⟨resolved, _, rfl⟩ := hbatch
    rfl
  | columnSizeBatch sheetName ops =>
    simp only [ToolRequest.batch, Sheets.columnSizeBatch, bind_eq_ok, pure_eq_ok] at hbatch
    obtain ⟨_, _, rfl⟩ := hbatch
    rfl
  | transformBatch ops policy =>
    simp only [ToolRequest.batch, Sheets.transformBatch, bind_eq_ok, pure_eq_ok] at hbatch
    obtain ⟨resolved, _, accepted, _, rfl⟩ := hbatch
    rfl
  | applyFormulaPattern pattern =>
    -- the bounds are checked again, and were right
    simp only [ToolRequest.batch, Sheets.applyFormulaPattern, bind_eq_ok, pure_eq_ok] at hbatch
    obtain ⟨_, hvalid, _, _, rfl⟩ := hbatch
    have hagain : FormulaPattern.validate { pattern with
        fillDirection := some (pattern.fillDirection.getD .both)
        relativeMode := some (pattern.relativeMode.getD .excel) } = .ok () := hvalid
    simp only [applyStagedOp, hagain, bind, Except.bind]
    rfl
  | structureBatch ops policy =>
    simp only [ToolRequest.batch, Except.ok.injEq] at hbatch
    subst hbatch
    rfl
  | sheetLayoutBatch ops =>
    simp only [ToolRequest.batch, Sheets.sheetLayoutBatch, bind_eq_ok, pure_eq_ok] at hbatch
    obtain ⟨_, _, rfl⟩ := hbatch
    rfl
  | rulesBatch ops policy =>
    simp only [ToolRequest.batch, Sheets.rulesBatch, bind_eq_ok, pure_eq_ok] at hbatch
    obtain ⟨_, _, rfl⟩ := hbatch
    rfl

end Dispatch

/-! ### Grid imports -/

section Grid
variable {tools : StageTools} {request : GridImport} {book book' : OpenWorkbook}

theorem foldlM_keeps {step : OpenWorkbook → α → Result OpenWorkbook} {P : OpenWorkbook → Prop}
    {xs : List α} (hstep : ∀ x ∈ xs, ∀ before after, step before x = .ok after →
      P before → P after) (h : xs.foldlM step book = .ok book') (hbook : P book) : P book' := by
  induction xs generalizing book with
  | nil =>
    simp only [List.foldlM_nil, pure_eq_ok] at h
    exact h ▸ hbook
  | cons x rest ih =>
    simp only [List.foldlM_cons, bind_eq_ok] at h
    obtain ⟨next, hnext, h⟩ := h
    exact ih (fun y hy => hstep y (List.mem_cons_of_mem _ hy)) h
      (hstep x List.mem_cons_self _ _ hnext hbook)

theorem grid_frame {merged sized : OpenWorkbook}
    (hmerged : book.structureOps tools.toEditTools .off request.structureOps = .ok merged)
    (hsized : request.columnOps.foldlM
      (fun book op => applyColumnSizeOp tools.toFormatTools op book) merged = .ok sized) :
    sized.cells = book.cells ∧ sized.sheets = book.sheets := by
  have hmergedFrame : merged.cells = book.cells ∧ merged.sheets = book.sheets := by
    refine foldlM_keeps (P := fun now => now.cells = book.cells ∧ now.sheets = book.sheets)
      ?_ hmerged ⟨rfl, rfl⟩
    intro op hop before after hafter hbefore
    unfold GridImport.structureOps at hop
    split at hop
    next => simp at hop
    next =>
      have hkind : (∃ range, op = .mergeCells request.sheetName range) ∨
          ∃ range, op = .unmergeCells request.sheetName range := by
        rcases List.mem_append.mp hop with hop | hop
        · split at hop <;> simp at hop
          exact .inr ⟨_, hop⟩
        · obtain ⟨range, _, rfl⟩ := List.mem_map.mp hop
          exact .inl ⟨range, rfl⟩
      rcases hkind with ⟨range, rfl⟩ | ⟨range, rfl⟩
      · simp only [OpenWorkbook.restructured, bind_eq_ok, pure_eq_ok] at hafter
        obtain ⟨_, _, rfl⟩ := hafter
        exact hbefore
      · simp only [OpenWorkbook.restructured, bind_eq_ok, pure_eq_ok] at hafter
        obtain ⟨_, _, rfl⟩ := hafter
        exact hbefore
  refine foldlM_keeps (P := fun now => now.cells = book.cells ∧ now.sheets = book.sheets)
    ?_ hsized hmergedFrame
  intro op _ before after hafter hbefore
  simp only [applyColumnSizeOp, bind_eq_ok, pure_eq_ok] at hafter
  obtain ⟨_, _, _, _, rfl⟩ := hafter
  exact hbefore

theorem stored_styleOps {ops : List StyleOp}
    (h : ops.foldlM (fun book op => applyStyleOp tools.toFormatTools op book) book = .ok book')
    (key : CellKey) : book'.stored key = book.stored key := by
  refine foldlM_keeps (P := fun now => now.stored key = book.stored key) ?_ h rfl
  intro op _ before after hafter hbefore
  have hunharmed : before.Unharmed tools.toEditTools after := applyStyleOp_unharmed hafter
  rw [← hbefore]
  exact hunharmed.stored key

theorem resolve_clearOps (tools : StageTools) (request : GridImport) (book : OpenWorkbook) :
    request.clearOps.mapM (resolveTransformOp tools book) = .ok request.clearOps := by
  unfold GridImport.clearOps
  cases request.clearTarget <;> rfl

theorem cells_cleared {cleared : OpenWorkbook} {position : Position} {written : MatrixCell}
    (hclear : request.clearTarget = true)
    (h : applyTransformOps tools request.clearOps book = .ok cleared)
    (hmem : (position, written) ∈ request.matrix) {cell : AgentSpreadsheet.Cell}
    (hcell : cleared.cells (request.sheetName, position) = some cell) : cell.formula = none := by
  simp only [applyTransformOps, GridImport.clearOps, hclear, if_true, List.foldlM_cons,
    List.foldlM_nil, applyTransformOp, TransformTarget.positions, bind_eq_ok, pure_eq_ok] at h
  obtain ⟨_, ⟨_, _, positions, ⟨bounds, hbounds, rfl⟩, rfl⟩, rfl⟩ := h
  have htarget : ((request.sheetName, position), ()) ∈
      bounds.positions.map fun position => ((request.sheetName, position), ()) :=
    List.mem_map.mpr ⟨position, mem_footprint hbounds hmem, rfl⟩
  have hnone : ∀ cell, (book.onPositions request.sheetName bounds.positions
      (clearCell tools true true)).cells (request.sheetName, position) = some cell →
        cell.formula = none := by
    refine onCells_property (P := fun now => ∀ cell, now = some cell → cell.formula = none)
      ?_ htarget
    intro _ before after hafter
    simp only [clearCell, Option.map_eq_some_iff] at hafter
    obtain ⟨found, _, rfl⟩ := hafter
    simp [valueCell, AgentSpreadsheet.Cell.setLiteral]
  exact hnone cell hcell

theorem applyTransformOps_write {rows : List (List (Option MatrixCell))} {written : OpenWorkbook} :
    applyTransformOps tools (request.clearOps ++
        [.writeMatrix request.sheetName request.anchor rows true]) book = .ok written ↔
      ∃ cleared, applyTransformOps tools request.clearOps book = .ok cleared ∧
        request.sheetName ∈ cleared.sheets ∧
        cleared.onCells (writeCell tools true)
          ((matrixCells request.anchor rows).map (matrixTarget request.sheetName)) = written := by
  unfold applyTransformOps
  rw [foldlM_concat_eq_ok]
  simp only [applyTransformOp, bind_eq_ok, pure_eq_ok, OpenWorkbook.requireSheet, ensure_eq_ok,
    exists_const]

theorem targets_validRows (tools : StageTools) (request : GridImport) :
    (matrixCells request.anchor (validRows tools request.writeRows)).map
        (matrixTarget request.sheetName) =
      (request.matrix.map (matrixTarget request.sheetName)).filter
        fun target => kept tools (target.1.2, target.2) := by
  rw [filter_matrixCells, List.filter_map]
  rfl

theorem writeCell_holds {cell : Option AgentSpreadsheet.Cell} {formula : String}
    (h : HoldsFormula tools cell formula) : writeCell tools true (.formula formula) cell = cell := by
  obtain ⟨found, rfl, hformula, hvalue⟩ := h
  cases found
  simp_all [writeCell, formulaCell, AgentSpreadsheet.Cell.setFormula, AgentSpreadsheet.Cell.setFormulaResult]

theorem holdsFormula_of_stored {cell : Option AgentSpreadsheet.Cell} {formula : String}
    (h : storedCell (writeCell tools true (.formula formula) none) = storedCell cell) :
    HoldsFormula tools cell formula := by
  cases cell with
  | none => simp [storedCell, writeCell, formulaCell, AgentSpreadsheet.Cell.setFormula, AgentSpreadsheet.Cell.setFormulaResult,
      AgentSpreadsheet.Cell.isFormula] at h
  | some found =>
    simp only [storedCell, writeCell, formulaCell, AgentSpreadsheet.Cell.setFormula, AgentSpreadsheet.Cell.setFormulaResult,
      AgentSpreadsheet.Cell.isFormula, Option.getD_none, Option.isSome_none, Bool.false_and, Bool.false_eq_true,
      if_false, Option.map_some, Option.getD_some, Prod.mk.injEq] at h
    exact ⟨found, rfl, h.1.symm, h.2.symm⟩

theorem storedCell_writeCell (cell : Option AgentSpreadsheet.Cell) (formula : String) :
    storedCell (writeCell tools true (.formula formula) cell) =
      storedCell (writeCell tools true (.formula formula) none) := by
  cases cell <;>
    simp [storedCell, writeCell, formulaCell, AgentSpreadsheet.Cell.setFormula, AgentSpreadsheet.Cell.setFormulaResult]

theorem kept_eq_false {position : Position} {written : MatrixCell}
    (h : kept tools (position, written) = false) :
    ∃ formula message, written = .formula formula ∧
      tools.validateFormula formula = .error message := by
  cases written with
  | value raw => simp [kept, validCell] at h
  | formula formula =>
    cases hvalid : tools.validateFormula formula with
    | ok u => simp [kept, validCell, hvalid] at h
    | error message => exact ⟨formula, message, rfl, hvalid⟩

theorem kept_of_error {position : Position} {formula message : String}
    (h : tools.validateFormula formula = .error message) :
    kept tools (position, .formula formula) = false := by
  simp [kept, validCell, h]

/-- An unchecked import gives the same workbook as a checked one exactly when each
formula that does not parse stands in its cell already. -/
theorem apply_validRows_iff {styleOps : List StyleOp} {edited : OpenWorkbook}
    (h : request.apply tools (request.clearOps ++
      [.writeMatrix request.sheetName request.anchor request.writeRows true]) styleOps book =
        .ok edited) :
    request.apply tools (request.clearOps ++ [.writeMatrix request.sheetName request.anchor
        (validRows tools request.writeRows) true]) styleOps book = .ok edited ↔
      ∀ position formula message, (position, .formula formula) ∈ request.matrix →
        tools.validateFormula formula = .error message →
          request.clearTarget = false ∧
            HoldsFormula tools (book.cells (request.sheetName, position)) formula := by
  simp only [GridImport.apply, bind_eq_ok, applyTransformOps_write] at h
  obtain ⟨merged, hmerged, sized, hsized, written, ⟨cleared, hcleared, hsheet, hwritten⟩, hstyled⟩ := h
  have hframe := grid_frame hmerged hsized
  have hkeep : request.clearTarget = false → cleared = sized := by
    intro hclear
    simp only [applyTransformOps, GridImport.clearOps, hclear, Bool.false_eq_true, if_false,
      List.foldlM_nil, pure_eq_ok] at hcleared
    exact hcleared.symm
  have hnodup := nodup_matrixTargets request.sheetName request.anchor request.writeRows
  constructor
  · intro h position formula message hmem hinvalid
    simp only [GridImport.apply, bind_eq_ok, applyTransformOps_write] at h
    obtain ⟨merged', hmerged', sized', hsized', written', ⟨cleared', hcleared', _, hwritten'⟩,
      hstyled'⟩ := h
    cases hmerged.symm.trans hmerged'
    cases hsized.symm.trans hsized'
    cases hcleared.symm.trans hcleared'
    have htarget : ((request.sheetName, position), .formula formula) ∈
        request.matrix.map (matrixTarget request.sheetName) :=
      List.mem_map.mpr ⟨_, hmem, rfl⟩
    have hfull : written.cells (request.sheetName, position) =
        writeCell tools true (.formula formula) (cleared.cells (request.sheetName, position)) := by
      rw [← hwritten]
      exact onCells_mem hnodup htarget
    have hleft : written'.cells (request.sheetName, position) =
        cleared.cells (request.sheetName, position) := by
      rw [← hwritten', targets_validRows]
      apply onCells_notMem
      intro other hother
      obtain ⟨hother, hkept⟩ := List.mem_filter.mp hother
      cases List.inj_on_of_nodup_map hnodup hother htarget rfl
      simp [kept_of_error hinvalid] at hkept
    have hstored := (stored_styleOps hstyled (request.sheetName, position)).symm.trans
      (stored_styleOps hstyled' (request.sheetName, position))
    have hsheets : request.sheetName ∈ written.sheets := by
      rw [← hwritten, (onCells_frame _ _ _).1]
      exact hsheet
    have hsheets' : request.sheetName ∈ written'.sheets := by
      rw [← hwritten', (onCells_frame _ _ _).1]
      exact hsheet
    rw [OpenWorkbook.stored, if_pos hsheets, OpenWorkbook.stored, if_pos hsheets', hfull, hleft,
      storedCell_writeCell] at hstored
    have hfound := holdsFormula_of_stored hstored
    have hclear : request.clearTarget = false := by
      by_contra hclear
      obtain ⟨found, hcell, hformula, _⟩ := hfound
      rw [cells_cleared (by simpa using hclear) hcleared hmem hcell] at hformula
      contradiction
    rw [hkeep hclear, hframe.1] at hfound
    exact ⟨hclear, hfound⟩
  · intro hholds
    have hsame : cleared.onCells (writeCell tools true)
        ((matrixCells request.anchor (validRows tools request.writeRows)).map
          (matrixTarget request.sheetName)) = written := by
      rw [targets_validRows, ← hwritten]
      apply onCells_filter hnodup
      intro target htarget hdropped
      obtain ⟨⟨position, entry⟩, hmem, rfl⟩ := List.mem_map.mp htarget
      obtain ⟨formula, message, hentry, hinvalid⟩ := kept_eq_false hdropped
      simp only [matrixTarget] at hentry
      subst hentry
      obtain ⟨hclear, hfound⟩ := hholds position formula message hmem hinvalid
      rw [← hframe.1, ← hkeep hclear] at hfound
      exact writeCell_holds hfound
    simp only [GridImport.apply, bind_eq_ok, applyTransformOps_write]
    exact ⟨merged, hmerged, sized, hsized, written, ⟨cleared, hcleared, hsheet, hsame⟩, hstyled⟩

theorem kept_of_checkMatrix {label : String} {cells : List (Position × MatrixCell)} {u : Unit}
    (h : checkMatrix tools label cells = .ok u) {position : Position} {formula : String}
    (hmem : (position, .formula formula) ∈ cells) (message : String) :
    tools.validateFormula formula ≠ .error message := by
  intro hinvalid
  unfold checkMatrix at h
  induction cells with
  | nil => simp at hmem
  | cons entry rest ih =>
    rw [List.forM, bind_eq_ok] at h
    obtain ⟨_, hentry, hrest⟩ := h
    rcases List.mem_cons.mp hmem with rfl | hmem
    · simp [hinvalid] at hentry
    · exact ih hrest hmem

/-- The payload of a grid import, run again, gives the preview exactly when the
request's policy made no difference. -/
theorem rerun_gridImport_iff {batch : Batch} {edited : OpenWorkbook × Bool} {fork : StagedFork}
    (hbatch : gridImportBatch tools request fork.book = .ok batch)
    (hedit : batch.edit fork.book = .ok edited) :
    (∃ applied, applyStagedOp tools fork batch.staged = .ok applied ∧ applied.book = edited.1) ↔
      (ToolRequest.gridImport request).Restageable tools fork.book := by
  simp only [gridImportBatch, bind_eq_ok, pure_eq_ok, resolve_clearOps, Except.ok.injEq,
    exists_eq_left'] at hbatch
  obtain ⟨styleOps, hstyleOps, writeOp, hwriteOp, rfl⟩ := hbatch
  simp only [flagged, bind_eq_ok, pure_eq_ok] at hedit
  obtain ⟨after, hafter, rfl⟩ := hedit
  have hrerun : (∃ applied, applyStagedOp tools fork ⟨"grid_import", .gridImport request.sheetName
      request.anchor request.clearTarget request.grid⟩ = .ok applied ∧ applied.book = after) ↔
      request.apply tools (request.clearOps ++ [.writeMatrix request.sheetName request.anchor
        (validRows tools request.writeRows) true]) styleOps fork.book = .ok after := by
    have hbatch' : gridImportBatch tools ⟨request.sheetName, request.anchor, request.grid,
        request.clearTarget, none⟩ fork.book = .ok ⟨flagged true (request.apply tools
          (request.clearOps ++ [.writeMatrix request.sheetName request.anchor
            (validRows tools request.writeRows) true]) styleOps), "grid_import",
          .gridImport request.sheetName request.anchor request.clearTarget request.grid⟩ := by
      simp only [gridImportBatch, bind_eq_ok, pure_eq_ok]
      exact ⟨request.clearOps, resolve_clearOps tools request fork.book, styleOps, hstyleOps, _,
        rfl, rfl⟩
    have hrun : applyStagedOp tools fork ⟨"grid_import", .gridImport request.sheetName
        request.anchor request.clearTarget request.grid⟩ =
        gridImportBatch tools ⟨request.sheetName, request.anchor, request.grid,
          request.clearTarget, none⟩ fork.book >>= fun batch => batch.run .apply "" fork := rfl
    rw [hrun, hbatch']
    simp only [bind_eq_ok, Except.ok.injEq, exists_eq_left', Batch.run, StagedFork.edited, flagged,
      pure_eq_ok]
    constructor
    · rintro ⟨applied, ⟨_, ⟨again, hagain, rfl⟩, rfl⟩, rfl⟩
      exact hagain
    · intro hagain
      exact ⟨_, ⟨_, ⟨after, hagain, rfl⟩, rfl⟩, rfl⟩
  rw [hrerun]
  unfold ToolRequest.Restageable
  cases hpolicy : batchPolicy request.formulaParsePolicy with
  | off =>
    have hoff : request.formulaParsePolicy = some .off := by
      cases h : request.formulaParsePolicy <;> simp_all [batchPolicy]
    simp only [hpolicy, acceptedMatrix, Except.ok.injEq] at hwriteOp
    subst hwriteOp
    rw [apply_validRows_iff hafter]
    simp only [hoff, forall_const]
  | warn =>
    simp only [hpolicy, acceptedMatrix, Except.ok.injEq] at hwriteOp
    subst hwriteOp
    have hnot : request.formulaParsePolicy ≠ some .off := by
      intro h
      simp [h, batchPolicy] at hpolicy
    simp only [hafter, true_iff]
    intro h
    exact absurd h hnot
  | fail =>
    simp only [hpolicy, acceptedMatrix, bind_eq_ok, pure_eq_ok] at hwriteOp
    obtain ⟨_, hchecked, rfl⟩ := hwriteOp
    have hnot : request.formulaParsePolicy ≠ some .off := by
      intro h
      simp [h, batchPolicy] at hpolicy
    constructor
    · intro _ h
      exact absurd h hnot
    · intro _
      apply (apply_validRows_iff hafter).mpr
      intro position formula message hmem hinvalid
      exact absurd hinvalid (kept_of_checkMatrix hchecked hmem message)

end Grid

/-- A preview that was accepted holds, whatever the tool, the request and the fork,
exactly when the request is restageable: not a replacement in formulas, whose kind
the dispatcher does not know, and not a grid import that was told to skip the parse
check, has a formula that does not parse, and does not find it in its cell. -/
theorem preview_holds_iff (tools : StageTools) (request : ToolRequest) (changeId : String)
    (fork previewed : StagedFork)
    (hfresh : ∀ change ∈ fork.stagedChanges, change.changeId ≠ changeId)
    (hpreview : request.run tools .preview changeId fork = .ok previewed) :
    PreviewHolds tools request changeId fork previewed ↔ request.Restageable tools fork.book := by
  simp only [ToolRequest.run, Batch.run, bind_eq_ok, pure_eq_ok] at hpreview
  obtain ⟨batch, hbatch, edited, hedit, hpreviewed⟩ := hpreview
  rw [previewHolds_iff hbatch hedit hpreviewed.symm hfresh]
  have hbook : previewed.book = fork.book := by
    rw [← hpreviewed]
    rfl
  by_cases hgrid : ∃ grid, request = .gridImport grid
  · obtain ⟨grid, rfl⟩ := hgrid
    rw [← hbook] at hbatch hedit ⊢
    exact rerun_gridImport_iff hbatch hedit
  by_cases hreplace : ∃ op policy, request = .replaceInFormulas op policy
  · obtain ⟨op, policy, rfl⟩ := hreplace
    simp only [ToolRequest.batch, Except.ok.injEq] at hbatch
    subst hbatch
    constructor
    · rintro ⟨applied, happlied, _⟩
      cases happlied
    · exact False.elim
  have hrerun := applyStagedOp_staged hbatch (fun grid h => hgrid ⟨grid, h⟩)
    (fun op policy h => hreplace ⟨op, policy, h⟩) previewed
  have hrestageable : request.Restageable tools fork.book := by
    cases request with
    | gridImport grid => exact absurd ⟨grid, rfl⟩ hgrid
    | replaceInFormulas op policy => exact absurd ⟨op, policy, rfl⟩ hreplace
    | _ => trivial
  rw [hrerun]
  simp only [StagedFork.edited, hbook, bind_eq_ok, pure_eq_ok]
  constructor
  · intro _
    exact hrestageable
  · intro _
    exact ⟨_, ⟨edited, hedit, rfl⟩, rfl⟩

/-- Formulas parse when their text ends in a bracket. -/
def sampleStageTools : StageTools where
  toEditTools := { sampleEditTools with
    validateFormula := fun text =>
      if text.toList.getLast? = some ')' then .ok () else .error "unexpected end" }
  detectedRegion := fun _ _ _ => none
  parseBaseFormula := fun _ => .ok ()
  shiftPattern := fun _ formula _ _ => .ok formula
  highestColumnAndRow := fun _ _ => (3, 2)
  cellText := fun _ => ""
  replaceFormula := fun op => .ok fun formula => if formula = op.find then some op.replace else none
  numberFormatPatch := fun _ fmt => fmt
  clearedPatch := ""
  applyBundle := fun _ book => .ok (book, 0)

def sampleStagedFork : StagedFork := ⟨sampleOpenWorkbook, false, []⟩

/-- One formula at `Model!D1`, written unchecked. -/
def sampleGrid (formula : String) : GridImport where
  sheetName := "Model"
  anchor := (4, 1)
  grid := ⟨[], [], [[⟨(0, 0), none, some formula, none, none⟩]]⟩
  clearTarget := false
  formulaParsePolicy := some .off

/-- A value typed over `A1`, and an unchecked grid whose formula parses. -/
theorem sample_preview_holds :
    (∃ previewed, PreviewHolds sampleStageTools (.editBatch "Model" [⟨(1, 1), "9", false⟩] none)
      "chg-1" sampleStagedFork previewed) ∧
    ∃ previewed, PreviewHolds sampleStageTools (.gridImport (sampleGrid "=SUM(A1:C1)")) "chg-1"
      sampleStagedFork previewed := by
  constructor
  · exact ⟨_, (preview_holds_iff sampleStageTools
      (.editBatch "Model" [⟨(1, 1), "9", false⟩] none) "chg-1" sampleStagedFork _ (by simp [sampleStagedFork])
      rfl).mpr trivial⟩
  · refine ⟨_, (preview_holds_iff sampleStageTools (.gridImport (sampleGrid "=SUM(A1:C1)")) "chg-1"
      sampleStagedFork _ (by simp [sampleStagedFork]) rfl).mpr ?_⟩
    intro _ position formula message hmem hinvalid
    have hmatrix : (sampleGrid "=SUM(A1:C1)").matrix = [((4, 1), .formula "=SUM(A1:C1)")] := by
      decide
    rw [hmatrix, List.mem_singleton] at hmem
    cases hmem
    have hvalid : sampleStageTools.validateFormula "=SUM(A1:C1)" = .ok () := by decide
    rw [hvalid] at hinvalid
    contradiction

/-- A replacement of `A1*2`, as a request. -/
def sampleReplacement : ToolRequest :=
  .replaceInFormulas ⟨"Model", "A1*2", "A1*3", none, false, true⟩ none

/-- A staged replacement cannot be applied. A staged grid is applied without the
formula its preview shows. -/
theorem previews_that_do_not_hold :
    (∃ previewed, sampleReplacement.run sampleStageTools .preview "chg-1" sampleStagedFork =
        .ok previewed ∧
      applyStagedChange sampleStageTools "chg-1" previewed =
        .error "unsupported staged op kind: replace_in_formulas" ∧
      ¬PreviewHolds sampleStageTools sampleReplacement "chg-1" sampleStagedFork previewed) ∧
    ∃ previewed staged applied,
      (ToolRequest.gridImport (sampleGrid "=SUM(A1")).run sampleStageTools .preview "chg-1"
        sampleStagedFork = .ok previewed ∧
      previewed.stagedChanges.find? (fun change => change.changeId = "chg-1") = some staged ∧
      applyStagedChange sampleStageTools "chg-1" previewed = .ok applied ∧
      staged.snapshot.cells ("Model", 4, 1) = some { formula := some "SUM(A1" } ∧
      applied.book.cells ("Model", 4, 1) = none ∧
      ¬PreviewHolds sampleStageTools (.gridImport (sampleGrid "=SUM(A1")) "chg-1" sampleStagedFork
        previewed := by
  refine ⟨⟨_, rfl, rfl, ?_⟩, _, _, _, rfl, rfl, rfl, by decide, by decide, ?_⟩
  · rintro ⟨_, _, _, _, happlied, _⟩
    cases happlied
  · rintro ⟨staged, applied, _, hstaged, happlied, _, hbook, _⟩
    cases hstaged
    cases happlied
    have hcell := congrArg (fun book => book.cells ("Model", 4, 1)) hbook
    revert hcell
    decide

end AgentSpreadsheet.Sheets
