import AgentSpreadsheet.SnapshotCache

/-! The retained evaluator and the calculation stamp. The evaluator is built from a snapshot
and then given every cell that changes; the stamp names the revision it was made for. -/
namespace AgentSpreadsheet
open Library

inductive SessionEvaluatorCell where
  | value (value : LiteralValue)
  | formula (text : String)
  deriving DecidableEq, Repr

/-- The formula engine: numbers in text, and what it takes from a workbook's bytes. -/
structure EvaluatorLibrary (Archive : Type) where
  parseNumber : String → Option Rat
  ingest : Archive → CellKey → SessionEvaluatorCell

section Model
variable {Archive : Type} (xlsx : Xlsx Archive) (lib : EvaluatorLibrary Archive)

def errorKind (text : String) : String :=
  if text ∈ ["#DIV/0!", "#N/A", "#NAME?", "#NULL!", "#NUM!", "#REF!", "#VALUE!"] then text
  else "#VALUE!"

def upperAscii (text : String) : String := String.ofList (text.toList.map Char.toUpper)

def lazyLiteral (text : String) : LiteralValue :=
  match lib.parseNumber text with
  | some number => .number number
  | none =>
    if upperAscii text = "TRUE" then .boolean true
    else if upperAscii text = "FALSE" then .boolean false
    else .text text

def evaluatorLiteral : ResidentMaterializedValue → LiteralValue
  | .empty => .empty
  | .string text => .text text
  | .richText text => .text text
  | .lazy text => lazyLiteral lib text
  | .number number => .number number
  | .bool b => .boolean b
  | .error text => .error (errorKind text)

def evaluatorInput : Option Cell → SessionEvaluatorCell
  | none => .value .empty
  | some cell =>
    match cell.formula with
    | some formula => .formula ("=" ++ formula)
    | none => .value (evaluatorLiteral lib cell.value)

def Workbook.evaluatorCell (document : Workbook) (key : CellKey) : Result SessionEvaluatorCell := do
  ensure (key.1 ∈ document.sheets) ("sheet '" ++ key.1 ++ "' not found")
  pure (evaluatorInput lib (document.cells key))

/-- Each cell is set to what the document has there now. -/
def synchronize (document : Workbook) :
    List CellKey → (CellKey → SessionEvaluatorCell) → CellKey → SessionEvaluatorCell
  | [], inputs => inputs
  | key :: rest, inputs =>
    match document.evaluatorCell lib key with
    | .ok cell => synchronize document rest (Function.update inputs key cell)
    | .error _ => inputs

/-- The formula cells that a matrix leaves alone, as they are before the batch. -/
def SessionTransformOp.skipped (document : Workbook) (op : SessionTransformOp) : List CellKey :=
  if op.overwriteFormulas then []
  else (op.cells.map Prod.fst).filter fun key => (document.cells key).any Cell.isFormula

/-- The cells of a matrix that the evaluator is given. -/
def SessionTransformOp.given (document : Workbook) (op : SessionTransformOp) : List CellKey :=
  (op.cells.map Prod.fst).filter fun key => key ∉ op.skipped document

namespace ResidentWorkbook
variable (w : ResidentWorkbook Archive) (inputs : CellKey → SessionEvaluatorCell)

def publishInputs (checkBefore : Bool) (effects : List ResidentPreparedCellEffect) :
    CellKey → SessionEvaluatorCell :=
  match checkCells w.document checkBefore effects, assignCells xlsx effects w.document with
  | .ok (), (.ok (), document) =>
    synchronize lib document (effects.map ResidentPreparedCellEffect.key) inputs
  | _, _ => inputs

def matricesInputs (ops : List SessionTransformOp) : CellKey → SessionEvaluatorCell :=
  match w.preflightWriteMatrices ops with
  | .error _ => inputs
  | .ok () =>
    if (applyOps xlsx w.document ops).2 = 0 then inputs
    else ops.foldl (fun inputs op =>
      synchronize lib (applyOps xlsx w.document ops).1 (op.given w.document) inputs) inputs

def ensuredInputs : CellKey → SessionEvaluatorCell :=
  if w.evaluator then inputs
  else
    match (w.snapshotBytes xlsx).1 with
    | .ok bytes => lib.ingest bytes
    | .error _ => inputs

end ResidentWorkbook

namespace ResidentCall
variable (w : ResidentWorkbook Archive)

/-- What the evaluator holds after a call that leaves it retained. -/
def inputs (held : CellKey → SessionEvaluatorCell) :
    ResidentCall Archive → CellKey → SessionEvaluatorCell
  | .publishPreparedCells _ effects => w.publishInputs xlsx lib held true effects
  | .recoverPreparedCells _ effects => w.publishInputs xlsx lib held false effects
  | .applyWriteMatrices _ ops => w.matricesInputs xlsx lib held ops
  | .prepareCalculation _ => w.ensuredInputs xlsx lib held
  | .recalculate _ => w.ensuredInputs xlsx lib held
  | _ => held

def outcome : ResidentCall Archive → Result Unit
  | .snapshotBytes => (w.snapshotBytes xlsx).1.map fun _ => ()
  | .exportBytes => (w.exportBytes xlsx).1.map fun _ => ()
  | .publishPreparedCells synchronized effects =>
    (w.publishPreparedCells xlsx synchronized effects).1.map fun _ => ()
  | .recoverPreparedCells synchronized effects =>
    (w.recoverPreparedCells xlsx synchronized effects).1.map fun _ => ()
  | .prepareCalculation engine => (w.prepareCalculation xlsx engine).1.map fun _ => ()
  | .prepareExternalCalculation engine =>
    (w.prepareExternalCalculation xlsx engine).1.map fun _ => ()
  | .publishPreparedCalculation evaluation coverage =>
    (w.publishPreparedCalculation xlsx evaluation coverage).1.map fun _ => ()
  | .replaceFromBytes bytes effect => (w.replaceFromBytes xlsx bytes effect).1.map fun _ => ()
  | .applyWriteMatrices synchronized ops =>
    (w.applyWriteMatrices xlsx synchronized ops).1.map fun _ => ()
  | .recalculate engine => (w.recalculate xlsx engine).1.map fun _ => ()
  | .restoreRevisionIdentity _ => .ok ()
  | .advanceMetadataState => .ok ()
  | .markRestartBoundary => .ok ()
  | .invalidateAfterUnsupportedChange => .ok ()
  | .revokeCalculationProof => .ok ()

end ResidentCall

/-- A workbook with what its evaluator was given, as long as it retains one. -/
structure EvaluatedWorkbook (Archive : Type) where
  workbook : ResidentWorkbook Archive
  inputs : CellKey → SessionEvaluatorCell

namespace EvaluatedWorkbook

def fromBytes (bytes : Archive) (epoch : String) (ingested : Bool) :
    Result (EvaluatedWorkbook Archive) := do
  let workbook ← ResidentWorkbook.fromBytes xlsx bytes epoch ingested
  pure ⟨workbook, lib.ingest bytes⟩

def call (r : EvaluatedWorkbook Archive) (call : ResidentCall Archive) :
    EvaluatedWorkbook Archive :=
  ⟨call.run xlsx r.workbook, call.inputs xlsx lib r.workbook r.inputs⟩

def runCalls (r : EvaluatedWorkbook Archive) (calls : List (ResidentCall Archive)) :
    EvaluatedWorkbook Archive :=
  calls.foldl (EvaluatedWorkbook.call xlsx lib) r

end EvaluatedWorkbook

end Model

section Inputs
variable {Archive : Type} {xlsx : Xlsx Archive} {lib : EvaluatorLibrary Archive}
  {document document' : Workbook} {inputs : CellKey → SessionEvaluatorCell}

variable (lib) in
/-- The input of every cell is the document's formula or value. -/
def Workbook.HeldBy (document : Workbook) (inputs : CellKey → SessionEvaluatorCell) : Prop :=
  ∀ key, key.1 ∈ document.sheets → document.evaluatorCell lib key = .ok (inputs key)

theorem evaluatorCell_ok {key : CellKey} {cell : SessionEvaluatorCell} :
    document.evaluatorCell lib key = .ok cell ↔
      key.1 ∈ document.sheets ∧ evaluatorInput lib (document.cells key) = cell := by
  simp [Workbook.evaluatorCell]

theorem heldBy_iff : document.HeldBy lib inputs ↔
    ∀ key, key.1 ∈ document.sheets → evaluatorInput lib (document.cells key) = inputs key := by
  constructor
  · intro h key hsheet
    exact (evaluatorCell_ok.mp (h key hsheet)).2
  · intro h key hsheet
    exact evaluatorCell_ok.mpr ⟨hsheet, h key hsheet⟩

theorem synchronize_apply {keys : List CellKey} (hsheets : ∀ key ∈ keys, key.1 ∈ document.sheets)
    (key : CellKey) : synchronize lib document keys inputs key =
      if key ∈ keys then evaluatorInput lib (document.cells key) else inputs key := by
  induction keys generalizing inputs with
  | nil => rfl
  | cons first rest ih =>
    have hfirst : document.evaluatorCell lib first =
        .ok (evaluatorInput lib (document.cells first)) :=
      evaluatorCell_ok.mpr ⟨hsheets first List.mem_cons_self, rfl⟩
    unfold synchronize
    rw [hfirst]
    dsimp only
    rw [ih fun key hkey => hsheets key (List.mem_cons_of_mem _ hkey)]
    by_cases hrest : key ∈ rest
    · rw [if_pos hrest, if_pos (List.mem_cons_of_mem _ hrest)]
    · rw [if_neg hrest]
      by_cases hkey : key = first
      · subst hkey
        rw [if_pos List.mem_cons_self, Function.update_self]
      · rw [Function.update_of_ne hkey, if_neg]
        intro hmem
        rcases List.mem_cons.mp hmem with h | h
        · exact hkey h
        · exact hrest h

/-- Setting what changed keeps the evaluator's inputs those of the document. -/
theorem heldBy_synchronize {keys : List CellKey} (hheld : document.HeldBy lib inputs)
    (hsheets : document'.sheets = document.sheets) (hkeys : ∀ key ∈ keys, key.1 ∈ document'.sheets)
    (hframe : ∀ key, key ∉ keys → evaluatorInput lib (document'.cells key) =
      evaluatorInput lib (document.cells key)) :
    document'.HeldBy lib (synchronize lib document' keys inputs) := by
  rw [heldBy_iff] at hheld ⊢
  intro key hsheet
  rw [synchronize_apply hkeys]
  split
  · rfl
  · rename_i hkey
    rw [hframe key hkey]
    exact hheld key (hsheets ▸ hsheet)

theorem heldBy_congr (hheld : document.HeldBy lib inputs)
    (hsheets : document'.sheets = document.sheets)
    (hcells : ∀ key, evaluatorInput lib (document'.cells key) =
      evaluatorInput lib (document.cells key)) : document'.HeldBy lib inputs := by
  rw [heldBy_iff] at hheld ⊢
  intro key hsheet
  rw [hcells]
  exact hheld key (hsheets ▸ hsheet)

/-! ### Cells of the document -/

theorem assignCells_frame (effects : List ResidentPreparedCellEffect) (document : Workbook) :
    (assignCells xlsx effects document).2.sheets = document.sheets ∧
      ∀ key, key ∉ effects.map ResidentPreparedCellEffect.key →
        (assignCells xlsx effects document).2.cells key = document.cells key := by
  induction effects generalizing document with
  | nil => exact ⟨rfl, fun _ _ => rfl⟩
  | cons effect rest ih =>
    have hother (cell : Cell) (key : CellKey)
        (hkey : key ∉ (effect :: rest).map ResidentPreparedCellEffect.key) :
        (document.setCell effect.key cell).cells key = document.cells key := by
      apply Function.update_of_ne
      intro hsame
      exact hkey (hsame ▸ List.mem_cons_self)
    unfold assignCells
    split
    · exact ⟨rfl, fun _ _ => rfl⟩
    · split
      · rename_i cell _
        have hrest := ih (document.setCell effect.key cell)
        refine ⟨hrest.1, fun key hkey => ?_⟩
        rw [hrest.2 key fun h => hkey (List.mem_cons_of_mem _ h)]
        exact hother cell key hkey
      · exact ⟨rfl, fun key hkey => hother _ key hkey⟩

def FormulaAt (lib : EvaluatorLibrary Archive) (document : Workbook) (key : CellKey) : Prop :=
  ∃ text, evaluatorInput lib (document.cells key) = .formula text

theorem formulaAt_of_cell {key : CellKey} {cell : Cell} (hcell : document.cells key = some cell)
    (hformula : cell.isFormula = true) : FormulaAt lib document key := by
  obtain ⟨text, htext⟩ := Option.isSome_iff_exists.mp hformula
  exact ⟨"=" ++ text, by simp [hcell, evaluatorInput, htext]⟩

theorem publishCache_input {update : FormulaCacheUpdate}
    (hformula : FormulaAt lib document update.key) (key : CellKey) :
    evaluatorInput lib ((publishCache xlsx document update).cells key) =
      evaluatorInput lib (document.cells key) := by
  by_cases hkey : key = update.key
  · subst hkey
    obtain ⟨text, htext⟩ := hformula
    match hcell : document.cells update.key with
    | none => simp [hcell, evaluatorInput] at htext
    | some cell =>
      match hsome : cell.formula with
      | none => simp [hcell, evaluatorInput, hsome] at htext
      | some formula =>
        simp [publishCache, Workbook.setCell, Workbook.cellMut, hcell, evaluatorInput,
          Cell.setFormulaResult, hsome]
  · simp [publishCache, Workbook.setCell, Function.update_of_ne hkey]

theorem checkCacheTargets_formulas {updates : List FormulaCacheUpdate}
    (h : checkCacheTargets document updates = .ok ()) :
    ∀ update ∈ updates, FormulaAt lib document update.key := by
  induction updates with
  | nil => exact fun _ hmem => absurd hmem List.not_mem_nil
  | cons first rest ih =>
    simp only [checkCacheTargets, bind_eq_ok, ensure_eq_ok, required_eq_ok] at h
    obtain ⟨_, -, cell, hcell, _, hformula, hrest⟩ := h
    intro update hmem
    rcases List.mem_cons.mp hmem with rfl | hmem
    · exact formulaAt_of_cell hcell hformula
    · exact ih hrest update hmem

theorem publishCaches_input {updates : List FormulaCacheUpdate}
    (h : ∀ update ∈ updates, FormulaAt lib document update.key) (key : CellKey) :
    evaluatorInput lib ((updates.foldl (publishCache xlsx) document).cells key) =
        evaluatorInput lib (document.cells key) ∧
      (updates.foldl (publishCache xlsx) document).sheets = document.sheets := by
  induction updates generalizing document with
  | nil => exact ⟨rfl, rfl⟩
  | cons first rest ih =>
    have hfirst := @publishCache_input Archive xlsx lib document first (h first List.mem_cons_self)
    have hrest : ∀ update ∈ rest, FormulaAt lib (publishCache xlsx document first) update.key := by
      intro update hmem
      obtain ⟨text, htext⟩ := h update (List.mem_cons_of_mem _ hmem)
      exact ⟨text, (hfirst update.key).trans htext⟩
    have hkept := ih hrest
    exact ⟨hkept.1.trans (hfirst key), hkept.2⟩

/-- Published caches leave every formula and value. -/
theorem heldBy_caches {updates : List FormulaCacheUpdate} (hheld : document.HeldBy lib inputs)
    (h : applyFormulaCacheUpdates xlsx document updates = .ok document') :
    document'.HeldBy lib inputs := by
  simp only [applyFormulaCacheUpdates, bind_eq_ok, pure_eq_ok] at h
  obtain ⟨_, htargets, rfl⟩ := h
  have hinput := fun key => @publishCaches_input Archive xlsx lib document updates
    (checkCacheTargets_formulas htargets) key
  exact heldBy_congr hheld (hinput ("", 0, 0)).2 fun key => (hinput key).1

/-! ### Batches of matrices -/

theorem setMatrixCell_sheets (overwriteFormulas : Bool) (result : Workbook × Nat)
    (target : CellKey × MatrixCell) :
    (setMatrixCell xlsx overwriteFormulas result target).1.sheets = result.1.sheets := by
  unfold setMatrixCell
  split <;> rfl

theorem setMatrixCell_other {overwriteFormulas : Bool} {result : Workbook × Nat}
    {target : CellKey × MatrixCell} {key : CellKey}
    (h : key = target.1 → overwriteFormulas = false ∧
      (result.1.cells key).any Cell.isFormula = true) :
    (setMatrixCell xlsx overwriteFormulas result target).1.cells key = result.1.cells key := by
  by_cases hkey : key = target.1
  · obtain ⟨hkeep, hformula⟩ := h hkey
    have hskip : writeMatrixCell xlsx overwriteFormulas (result.1.cellMut target.1) target.2 =
        none := by
      have hcell : (result.1.cellMut target.1).isFormula = true := by
        rw [hkey] at hformula
        unfold Workbook.cellMut
        match hget : result.1.cells target.1 with
        | none => simp [hget] at hformula
        | some cell => simpa [hget] using hformula
      simp [writeMatrixCell, hcell, hkeep]
    unfold setMatrixCell
    rw [hskip]
  · unfold setMatrixCell
    split
    · rfl
    · exact Function.update_of_ne hkey _ _

theorem applyMatrix_other {overwriteFormulas : Bool} {targets : List (CellKey × MatrixCell)}
    {result : Workbook × Nat} {key : CellKey}
    (h : key ∈ targets.map Prod.fst → overwriteFormulas = false ∧
      (result.1.cells key).any Cell.isFormula = true) :
    (targets.foldl (setMatrixCell xlsx overwriteFormulas) result).1.cells key =
        result.1.cells key ∧
      (targets.foldl (setMatrixCell xlsx overwriteFormulas) result).1.sheets = result.1.sheets := by
  induction targets generalizing result with
  | nil => exact ⟨rfl, rfl⟩
  | cons target rest ih =>
    have hfirst : (setMatrixCell xlsx overwriteFormulas result target).1.cells key =
        result.1.cells key := by
      apply setMatrixCell_other
      intro hkey
      exact h (hkey ▸ List.mem_cons_self)
    have hrest := @ih (setMatrixCell xlsx overwriteFormulas result target) (by
      intro hmem
      rw [hfirst]
      exact h (List.mem_cons_of_mem _ hmem))
    rw [List.foldl_cons]
    exact ⟨hrest.1.trans hfirst, hrest.2.trans (setMatrixCell_sheets _ _ _)⟩

theorem not_given_iff {op : SessionTransformOp} {key : CellKey} :
    key ∉ op.given document ↔ (key ∈ op.cells.map Prod.fst → op.overwriteFormulas = false ∧
      (document.cells key).any Cell.isFormula = true) := by
  unfold SessionTransformOp.given SessionTransformOp.skipped
  cases op.overwriteFormulas with
  | true => simp
  | false =>
    constructor
    · intro h hmem
      refine ⟨rfl, ?_⟩
      by_contra hvalue
      apply h
      simp only [Bool.false_eq_true, if_false]
      apply List.mem_filter.mpr
      refine ⟨hmem, decide_eq_true ?_⟩
      intro hskipped
      exact hvalue (List.mem_filter.mp hskipped).2
    · intro h hgiven
      simp only [Bool.false_eq_true, if_false] at hgiven
      have hparts := List.mem_filter.mp hgiven
      exact of_decide_eq_true hparts.2 (List.mem_filter.mpr ⟨hparts.1, (h hparts.1).2⟩)

theorem applyOps_other {ops : List SessionTransformOp} {result : Workbook × Nat} {key : CellKey}
    (hcell : result.1.cells key = document.cells key)
    (h : ∀ op ∈ ops, key ∉ op.given document) :
    (ops.foldl (fun result op => op.cells.foldl (setMatrixCell xlsx op.overwriteFormulas) result)
      result).1.cells key = document.cells key := by
  induction ops generalizing result with
  | nil => exact hcell
  | cons op rest ih =>
    have hop := not_given_iff.mp (h op List.mem_cons_self)
    rw [← hcell] at hop
    exact ih ((applyMatrix_other hop).1.trans hcell)
      fun op hmem => h op (List.mem_cons_of_mem _ hmem)

theorem applyOps_sheets (ops : List SessionTransformOp) (result : Workbook × Nat) :
    (ops.foldl (fun result op => op.cells.foldl (setMatrixCell xlsx op.overwriteFormulas) result)
      result).1.sheets = result.1.sheets := by
  induction ops generalizing result with
  | nil => rfl
  | cons op rest ih =>
    rw [List.foldl_cons, ih]
    induction op.cells generalizing result with
    | nil => rfl
    | cons target targets ih' => rw [List.foldl_cons, ih', setMatrixCell_sheets]

theorem synchronize_ops {ops : List SessionTransformOp}
    (hsheets : ∀ op ∈ ops, ∀ key ∈ op.given document, key.1 ∈ document'.sheets) (key : CellKey) :
    (ops.foldl (fun inputs op => synchronize lib document' (op.given document) inputs) inputs) key =
        evaluatorInput lib (document'.cells key) ∨
      (∀ op ∈ ops, key ∉ op.given document) ∧
        (ops.foldl (fun inputs op => synchronize lib document' (op.given document) inputs) inputs)
          key = inputs key := by
  induction ops generalizing inputs with
  | nil => exact .inr ⟨fun _ hmem => absurd hmem List.not_mem_nil, rfl⟩
  | cons op rest ih =>
    have hop := @synchronize_apply Archive lib document' inputs (op.given document)
      (hsheets op List.mem_cons_self) key
    rw [List.foldl_cons]
    rcases @ih (synchronize lib document' (op.given document) inputs)
      (fun op hmem => hsheets op (List.mem_cons_of_mem _ hmem)) with hset | ⟨hrest, hsame⟩
    · exact .inl hset
    · rw [hsame, hop]
      by_cases hgiven : key ∈ op.given document
      · rw [if_pos hgiven]
        exact .inl rfl
      · rw [if_neg hgiven]
        refine .inr ⟨fun op' hmem => ?_, rfl⟩
        rcases List.mem_cons.mp hmem with rfl | hmem
        · exact hgiven
        · exact hrest op' hmem

theorem given_sheet {op : SessionTransformOp} {key : CellKey} (h : key ∈ op.given document) :
    key.1 = op.sheetName := by
  have hmem := (List.mem_filter.mp h).1
  obtain ⟨target, htarget, rfl⟩ := List.mem_map.mp hmem
  obtain ⟨_, -, rfl⟩ := List.mem_map.mp htarget
  rfl

theorem heldBy_matrices {ops : List SessionTransformOp} (hheld : document.HeldBy lib inputs)
    (hsheets : ∀ op ∈ ops, op.sheetName ∈ document.sheets) :
    (applyOps xlsx document ops).1.HeldBy lib (ops.foldl (fun inputs op =>
      synchronize lib (applyOps xlsx document ops).1 (op.given document) inputs) inputs) := by
  have hkept : (applyOps xlsx document ops).1.sheets = document.sheets := applyOps_sheets ops _
  rw [heldBy_iff] at hheld ⊢
  intro key hsheet
  rcases @synchronize_ops Archive lib document (applyOps xlsx document ops).1 inputs ops
    (fun op hop key hkey => by rw [hkept, given_sheet hkey]; exact hsheets op hop) key with
    hset | ⟨hgiven, hsame⟩
  · exact hset.symm
  · rw [hsame]
    have hcell := @applyOps_other Archive xlsx document ops (document, 0) key rfl hgiven
    unfold applyOps
    rw [hcell]
    exact hheld key (hkept ▸ hsheet)

end Inputs

/-! ### Runs -/

section Runs
variable {Archive : Type} (xlsx : Xlsx Archive) (lib : EvaluatorLibrary Archive)

/-- What the engine takes from bytes is what the document has that they are read as, or that
they were written from. -/
structure EvaluatorLibrary.Reads : Prop where
  read : ∀ bytes document, xlsx.readReader bytes = .ok document →
    document.HeldBy lib (lib.ingest bytes)
  written : ∀ document bytes, xlsx.Serialises document bytes →
    document.HeldBy lib (lib.ingest bytes)

/-- A current stamp names the revision of the document and of the state. -/
def ResidentWorkbook.StampSound (w : ResidentWorkbook Archive) : Prop :=
  ∀ documentRevision coverage, w.calculation = .current documentRevision coverage →
    documentRevision = w.revisions.document ∧ coverage.revisionId = w.stateRevisionId

/-- A retained evaluator has the document's formulas and values; a current stamp is the
current revision's. -/
structure EvaluatedWorkbook.Truthful (r : EvaluatedWorkbook Archive) : Prop where
  evaluator : r.workbook.evaluator = true → r.workbook.document.HeldBy lib r.inputs
  stamp : r.workbook.StampSound

/-- A call that fails with the document's revision unmoved leaves every cell. -/
def EvaluatedWorkbook.FailsCleanly (r : EvaluatedWorkbook Archive) (call : ResidentCall Archive) :
    Prop :=
  ∀ e, call.outcome xlsx r.workbook = .error e →
    (call.run xlsx r.workbook).revisions.document = r.workbook.revisions.document →
    (call.run xlsx r.workbook).document.cells = r.workbook.document.cells

/-- New bytes that a proof is preserved over have the formulas and values of the document. -/
def ResidentWorkbook.PreservesCells (w : ResidentWorkbook Archive) : ResidentCall Archive → Prop
  | .replaceFromBytes bytes .preserve => ∀ replacement, xlsx.readReader bytes = .ok replacement →
      replacement.sheets = w.document.sheets ∧ ∀ key,
        evaluatorInput lib (replacement.cells key) = evaluatorInput lib (w.document.cells key)
  | _ => True

/-- When a call cannot leave a proof or an evaluator behind the document. -/
def ResidentWorkbook.KeepsProof (w : ResidentWorkbook Archive) : ResidentCall Archive → Prop
  | .publishPreparedCells _ effects =>
    w.CountersBelowMax ∧ (checkCells w.document true effects = .ok () →
      ∀ e ∈ effects, e.after.assignable = true)
  | .recoverPreparedCells _ effects =>
    w.CountersBelowMax ∧ (checkCells w.document false effects = .ok () →
      ∀ e ∈ effects, e.after.assignable = true)
  | .advanceMetadataState =>
    w.CountersBelowMax ∧ ∀ documentRevision coverage,
      w.calculation ≠ .current documentRevision coverage
  | call => w.KeepsCapture call

/-- Every call of the run does, in the state it is made in. -/
def ResidentWorkbook.RunKeepsProof :
    ResidentWorkbook Archive → List (ResidentCall Archive) → Prop
  | _, [] => True
  | w, call :: rest => w.KeepsProof call ∧ w.PreservesCells xlsx lib call ∧
      RunKeepsProof (call.run xlsx w) rest

variable {xlsx lib} {r : EvaluatedWorkbook Archive} {w : ResidentWorkbook Archive}

namespace ResidentWorkbook
variable {w' : ResidentWorkbook Archive}

theorem KeepsProof.keepsCapture {call : ResidentCall Archive} (h : w.KeepsProof call) :
    w.KeepsCapture call := by
  cases call with
  | publishPreparedCells _ _ => exact ⟨h.1, fun _ => h.2⟩
  | recoverPreparedCells _ _ => exact ⟨h.1, fun _ => h.2⟩
  | advanceMetadataState => exact h.1
  | _ => exact h

/-! The stamp -/

theorem StampSound.same (h : w.StampSound) (hcalculation : w'.calculation = w.calculation)
    (hrevisions : w'.revisions = w.revisions) : w'.StampSound := by
  intro documentRevision coverage hcurrent
  rw [hcalculation] at hcurrent
  unfold stateRevisionId
  rw [hrevisions]
  exact h documentRevision coverage hcurrent

theorem StampSound.of_dirty {documentRevision : UInt64}
    (h : w.calculation = .dirty documentRevision) : w.StampSound := by
  intro _ _ hcurrent
  rw [h] at hcurrent
  contradiction

theorem StampSound.invalidateCalculationProof (h : w.StampSound) :
    w.invalidateCalculationProof.StampSound := by
  unfold ResidentWorkbook.invalidateCalculationProof
  dsimp only
  split
  · exact h.same rfl rfl
  · exact .of_dirty rfl

theorem StampSound.publishPreparedCellsInner (h : w.StampSound) (checkBefore synchronized : Bool)
    (effects : List ResidentPreparedCellEffect) :
    (w.publishPreparedCellsInner xlsx checkBefore synchronized effects).2.StampSound := by
  unfold ResidentWorkbook.publishPreparedCellsInner
  split
  · exact h
  · split
    · exact h.same rfl rfl
    · split
      · exact h
      · exact .of_dirty rfl

theorem StampSound.ensureEvaluator (h : w.StampSound) (engine : EngineRun) :
    (w.ensureEvaluator xlsx engine).2.StampSound := by
  obtain ⟨w', evaluator, hcaptures, heq⟩ := ensureEvaluator_cases xlsx w engine
  rw [heq]
  exact h.same hcaptures.calculation hcaptures.revisions

theorem publishFormulaCaches_failed {updates : List FormulaCacheUpdate} {e : String}
    (h : w.publishFormulaCaches xlsx updates = (.error e, w')) :
    w' = w.invalidateCalculationProof := by
  unfold ResidentWorkbook.publishFormulaCaches at h
  split at h
  · exact (Prod.mk.inj h).2.symm
  · exact nomatch (Prod.mk.inj h).1

theorem StampSound.publishPreparedCalculation (h : w.StampSound)
    (evaluation : EvaluatorEvaluation) (coverage : EvaluationCoverage) :
    (w.publishPreparedCalculation xlsx evaluation coverage).2.StampSound := by
  unfold ResidentWorkbook.publishPreparedCalculation
  split
  · rename_i e w' heq
    rw [publishFormulaCaches_failed heq]
    exact h.invalidateCalculationProof
  · intro _ _ hcurrent
    injection hcurrent with hrevision hcoverage
    rw [← hrevision, ← hcoverage]
    exact ⟨rfl, rfl⟩

theorem StampSound.recalculate (h : w.StampSound) (engine : EngineRun) :
    (w.recalculate xlsx engine).2.StampSound := by
  have hensured : (w.ensureEvaluator xlsx engine).2.StampSound := h.ensureEvaluator engine
  unfold ResidentWorkbook.recalculate
  split
  · rename_i e w' heq
    rwa [heq] at hensured
  · rename_i w' heq
    rw [heq] at hensured
    split
    · exact hensured.invalidateCalculationProof
    · split
      · rename_i e w'' hfailed
        rw [publishFormulaCaches_failed hfailed]
        exact hensured.invalidateCalculationProof
      · intro _ _ hcurrent
        injection hcurrent with hrevision hcoverage
        rw [← hrevision, ← hcoverage]
        exact ⟨rfl, rfl⟩

theorem StampSound.replaceFromBytes (h : w.StampSound) (bytes : Archive)
    (effect : ResidentCalculationEffect) :
    (w.replaceFromBytes xlsx bytes effect).2.StampSound := by
  unfold ResidentWorkbook.replaceFromBytes
  split
  · exact h
  · cases effect with
    | invalidate => exact .of_dirty rfl
    | preserve =>
      intro _ _ hcurrent
      dsimp only at hcurrent
      split at hcurrent
      · injection hcurrent with hrevision hcoverage
        rw [← hrevision, ← hcoverage]
        exact ⟨rfl, rfl⟩
      · contradiction
      · contradiction

theorem StampSound.prepareCalculation (h : w.StampSound) (engine : EngineRun) :
    (w.prepareCalculation xlsx engine).2.StampSound := by
  have hensured : (w.ensureEvaluator xlsx engine).2.StampSound := h.ensureEvaluator engine
  unfold ResidentWorkbook.prepareCalculation
  split
  · rename_i e w' heq
    rwa [heq] at hensured
  · rename_i w' heq
    rw [heq] at hensured
    split
    · exact hensured.same rfl rfl
    · exact hensured

theorem StampSound.prepareExternalCalculation (h : w.StampSound) (engine : EngineRun) :
    (w.prepareExternalCalculation xlsx engine).2.StampSound := by
  have hcaptures := snapshotBytes_captures xlsx w
  have hcaptured := h.same hcaptures.calculation hcaptures.revisions
  unfold ResidentWorkbook.prepareExternalCalculation
  split
  · rename_i e w' heq
    rwa [heq] at hcaptured
  · rename_i bytes w' heq
    rw [heq] at hcaptured
    split
    · exact hcaptured
    · exact hcaptured.same rfl rfl

theorem StampSound.applyWriteMatrices (h : w.StampSound) (synchronized : Bool)
    (ops : List SessionTransformOp) :
    (w.applyWriteMatrices xlsx synchronized ops).2.StampSound := by
  unfold ResidentWorkbook.applyWriteMatrices
  split
  · exact h
  · dsimp only
    split
    · exact h.same rfl rfl
    · exact .of_dirty rfl

theorem StampSound.call (h : w.StampSound) {call : ResidentCall Archive}
    (hkeeps : w.KeepsProof call) : (call.run xlsx w).StampSound := by
  have hcaptures := snapshotBytes_captures xlsx w
  cases call with
  | snapshotBytes => exact h.same hcaptures.calculation hcaptures.revisions
  | exportBytes => exact h.same hcaptures.calculation hcaptures.revisions
  | publishPreparedCells synchronized effects =>
    exact h.publishPreparedCellsInner true synchronized effects
  | recoverPreparedCells synchronized effects =>
    exact h.publishPreparedCellsInner false synchronized effects
  | restoreRevisionIdentity revision => exact .of_dirty rfl
  | prepareCalculation engine => exact h.prepareCalculation engine
  | prepareExternalCalculation engine => exact h.prepareExternalCalculation engine
  | publishPreparedCalculation evaluation coverage =>
    exact h.publishPreparedCalculation evaluation coverage
  | advanceMetadataState => exact fun _ _ hcurrent => absurd hcurrent (hkeeps.2 _ _)
  | markRestartBoundary => exact .of_dirty rfl
  | replaceFromBytes bytes effect => exact h.replaceFromBytes bytes effect
  | applyWriteMatrices synchronized ops => exact h.applyWriteMatrices synchronized ops
  | invalidateAfterUnsupportedChange => exact .of_dirty rfl
  | recalculate engine => exact h.recalculate engine
  | revokeCalculationProof => exact h.invalidateCalculationProof

/-! The evaluator -/

theorem invalidateCalculationProof_evaluator (w : ResidentWorkbook Archive) :
    w.invalidateCalculationProof.evaluator = false := by
  unfold invalidateCalculationProof
  dsimp only
  split <;> rfl

theorem invalidateCalculationProof_document (w : ResidentWorkbook Archive) :
    w.invalidateCalculationProof.document = w.document := by
  unfold invalidateCalculationProof
  dsimp only
  split <;> rfl

section Held
variable {held : CellKey → SessionEvaluatorCell}

theorem publishInputs_held (hheld : w.evaluator = true → w.document.HeldBy lib held)
    {checkBefore : Bool} {effects : List ResidentPreparedCellEffect}
    (hwhole : checkCells w.document checkBefore effects = .ok () →
      ∀ e ∈ effects, e.after.assignable = true) (synchronized : Bool)
    (hretained : (w.publishPreparedCellsInner xlsx checkBefore synchronized effects).2.evaluator =
      true) :
    (w.publishPreparedCellsInner xlsx checkBefore synchronized effects).2.document.HeldBy lib
      (w.publishInputs xlsx lib held checkBefore effects) := by
  unfold ResidentWorkbook.publishPreparedCellsInner publishInputs at *
  match hchecked : checkCells w.document checkBefore effects with
  | .error e =>
    rw [hchecked] at hretained
    exact hheld hretained
  | .ok () =>
    have hsheets := checkCells_sheets hchecked
    have hok := assignCells_ok xlsx hsheets (hwhole hchecked)
    have hframe := @assignCells_frame _ xlsx effects w.document
    rw [hchecked] at hretained
    match hassigned : assignCells xlsx effects w.document with
    | (.error e, document) =>
      rw [hassigned] at hok
      contradiction
    | (.ok (), document) =>
      rw [hassigned] at hretained hframe
      dsimp only at hretained hframe ⊢
      have hheld : w.evaluator = true → document.HeldBy lib
          (synchronize lib document (effects.map ResidentPreparedCellEffect.key) held) := by
        intro hevaluator
        refine heldBy_synchronize (hheld hevaluator) hframe.1 ?_ fun key hkey => ?_
        · intro key hkey
          obtain ⟨effect, heffect, rfl⟩ := List.mem_map.mp hkey
          rw [hframe.1]
          exact hsheets effect heffect
        · rw [hframe.2 key hkey]
      by_cases hempty : effects = []
      · subst hempty
        rw [if_pos rfl] at hretained ⊢
        have hsame : document = w.document := (Prod.mk.inj hassigned).2.symm
        rw [hsame] at hheld
        exact hheld hretained
      · rw [if_neg hempty] at hretained ⊢
        exact hheld (Bool.and_eq_true_iff.mp hretained).1

theorem matricesInputs_held (hheld : w.evaluator = true → w.document.HeldBy lib held)
    (synchronized : Bool) (ops : List SessionTransformOp)
    (hretained : (w.applyWriteMatrices xlsx synchronized ops).2.evaluator = true) :
    (w.applyWriteMatrices xlsx synchronized ops).2.document.HeldBy lib
      (w.matricesInputs xlsx lib held ops) := by
  unfold ResidentWorkbook.applyWriteMatrices matricesInputs at *
  match hflight : w.preflightWriteMatrices ops with
  | .error e =>
    rw [hflight] at hretained
    exact hheld hretained
  | .ok () =>
    have hsheets : ∀ op ∈ ops, op.sheetName ∈ w.document.sheets := by
      intro op hop
      have hone := forM_eq_ok.mp hflight op hop
      simp only [preflightWriteMatrix, bind_eq_ok, ensure_eq_ok] at hone
      obtain ⟨_, hsheet, -⟩ := hone
      exact hsheet
    rw [hflight] at hretained
    dsimp only at hretained ⊢
    by_cases hzero : (applyOps xlsx w.document ops).2 = 0
    · rw [if_pos hzero] at hretained ⊢
      rw [if_pos hzero, applyOps_zero hzero]
      exact hheld hretained
    · rw [if_neg hzero] at hretained ⊢
      rw [if_neg hzero]
      exact heldBy_matrices (hheld (Bool.and_eq_true_iff.mp hretained).1) hsheets

/-- An evaluator that is there is kept; a new one has what the snapshot has. -/
theorem ensuredInputs_held (hlib : lib.Reads xlsx) (hsound : w.CaptureSound xlsx)
    (hheld : w.evaluator = true → w.document.HeldBy lib held) {engine : EngineRun}
    {result : Result Unit} (h : w.ensureEvaluator xlsx engine = (result, w')) :
    w'.document = w.document ∧ (result = .ok () →
      w.document.HeldBy lib (w.ensuredInputs xlsx lib held)) ∧
      (result ≠ .ok () → w'.evaluator = false) := by
  have hcaptures := snapshotBytes_captures xlsx w
  have hbytes := @Coherent.snapshotBytes _ xlsx w hsound.coherent
  unfold ResidentWorkbook.ensureEvaluator at h
  unfold ensuredInputs
  by_cases hevaluator : w.evaluator = true
  · rw [if_pos hevaluator] at h ⊢
    obtain ⟨rfl, rfl⟩ := Prod.mk.inj h
    exact ⟨rfl, fun _ => hheld hevaluator, fun hne => absurd rfl hne⟩
  · rw [if_neg hevaluator] at h ⊢
    match hsnapshot : w.snapshotBytes xlsx with
    | (.error e, w'') =>
      rw [hsnapshot] at h hcaptures
      obtain ⟨rfl, rfl⟩ := Prod.mk.inj h
      refine ⟨hcaptures.document, fun hok => absurd hok (by simp), fun _ => ?_⟩
      rw [hcaptures.evaluator]
      exact Bool.eq_false_iff.mpr hevaluator
    | (.ok bytes, w'') =>
      rw [hsnapshot] at h hcaptures
      have hwritten := hlib.written w.document bytes (hbytes (by rw [hsnapshot]))
      dsimp only at h ⊢
      split at h
      · obtain ⟨rfl, rfl⟩ := Prod.mk.inj h
        exact ⟨hcaptures.document, fun _ => hwritten, fun hne => absurd rfl hne⟩
      · obtain ⟨rfl, rfl⟩ := Prod.mk.inj h
        refine ⟨hcaptures.document, fun hok => absurd hok (by simp), fun _ => ?_⟩
        rw [hcaptures.evaluator]
        exact Bool.eq_false_iff.mpr hevaluator

theorem prepareCalculation_held (hlib : lib.Reads xlsx) (hsound : w.CaptureSound xlsx)
    (hheld : w.evaluator = true → w.document.HeldBy lib held) (engine : EngineRun)
    (hretained : (w.prepareCalculation xlsx engine).2.evaluator = true) :
    (w.prepareCalculation xlsx engine).2.document.HeldBy lib (w.ensuredInputs xlsx lib held) := by
  unfold ResidentWorkbook.prepareCalculation at *
  match hensure : w.ensureEvaluator xlsx engine with
  | (.error e, w') =>
    obtain ⟨_, _, hnone⟩ := ensuredInputs_held hlib hsound hheld hensure
    rw [hensure] at hretained
    exact absurd hretained (by simp [hnone (by simp)])
  | (.ok (), w') =>
    obtain ⟨hdocument, hensured, _⟩ := ensuredInputs_held hlib hsound hheld hensure
    rw [hensure] at hretained
    match hevaluation : engine.evaluation with
    | .error e =>
      rw [hevaluation] at hretained
      contradiction
    | .ok evaluation =>
      change Workbook.HeldBy lib w'.document _
      rw [hdocument]
      exact hensured rfl

theorem publishPreparedCalculation_held
    (hheld : w.evaluator = true → w.document.HeldBy lib held)
    (evaluation : EvaluatorEvaluation) (coverage : EvaluationCoverage)
    (hretained : (w.publishPreparedCalculation xlsx evaluation coverage).2.evaluator = true) :
    (w.publishPreparedCalculation xlsx evaluation coverage).2.document.HeldBy lib held := by
  unfold ResidentWorkbook.publishPreparedCalculation at *
  match hpublish : w.publishFormulaCaches xlsx evaluation.cacheUpdates with
  | (.error e, w') =>
    rw [hpublish, publishFormulaCaches_failed hpublish] at hretained
    rw [invalidateCalculationProof_evaluator] at hretained
    contradiction
  | (.ok (), w') =>
    obtain ⟨hcaches, hw'⟩ := publishFormulaCaches_ok hpublish
    have hevaluator : w'.evaluator = w.evaluator := by rw [hw']
    rw [hpublish] at hretained
    change w'.evaluator = true at hretained
    rw [hevaluator] at hretained
    exact heldBy_caches (hheld hretained) hcaches

theorem recalculate_held (hlib : lib.Reads xlsx) (hsound : w.CaptureSound xlsx)
    (hheld : w.evaluator = true → w.document.HeldBy lib held) (engine : EngineRun)
    (hretained : (w.recalculate xlsx engine).2.evaluator = true) :
    (w.recalculate xlsx engine).2.document.HeldBy lib (w.ensuredInputs xlsx lib held) := by
  unfold ResidentWorkbook.recalculate at *
  match hensure : w.ensureEvaluator xlsx engine with
  | (.error e, w') =>
    obtain ⟨_, _, hnone⟩ := ensuredInputs_held hlib hsound hheld hensure
    rw [hensure] at hretained
    exact absurd hretained (by simp [hnone (by simp)])
  | (.ok (), w') =>
    obtain ⟨hdocument, hensured, _⟩ := ensuredInputs_held hlib hsound hheld hensure
    rw [hensure] at hretained
    match hevaluation : engine.evaluation with
    | .error e =>
      rw [hevaluation] at hretained
      change w'.invalidateCalculationProof.evaluator = true at hretained
      rw [invalidateCalculationProof_evaluator] at hretained
      contradiction
    | .ok evaluation =>
      rw [hevaluation] at hretained
      dsimp only at hretained ⊢
      match hpublish : w'.publishFormulaCaches xlsx evaluation.cacheUpdates with
      | (.error e, w'') =>
        rw [hpublish, publishFormulaCaches_failed hpublish] at hretained
        rw [invalidateCalculationProof_evaluator] at hretained
        contradiction
      | (.ok (), w'') =>
        have hheld' : w'.document.HeldBy lib (w.ensuredInputs xlsx lib held) := by
          rw [hdocument]
          exact hensured rfl
        exact heldBy_caches hheld' (publishFormulaCaches_ok hpublish).1

end Held

/-! Calls that fail -/

theorem ensureEvaluator_document {engine : EngineRun} {result : Result Unit}
    (h : w.ensureEvaluator xlsx engine = (result, w')) : w'.document = w.document := by
  obtain ⟨captured, evaluator, hcaptures, heq⟩ := ensureEvaluator_cases xlsx w engine
  rw [h] at heq
  change w' = _ at heq
  rw [heq]
  exact hcaptures.document

theorem publishPreparedCellsInner_failed {checkBefore synchronized : Bool}
    {effects : List ResidentPreparedCellEffect} {e : String}
    (hwhole : checkCells w.document checkBefore effects = .ok () →
      ∀ e ∈ effects, e.after.assignable = true)
    (h : (w.publishPreparedCellsInner xlsx checkBefore synchronized effects).1 = .error e) :
    (w.publishPreparedCellsInner xlsx checkBefore synchronized effects).2.document =
      w.document := by
  unfold ResidentWorkbook.publishPreparedCellsInner at *
  split
  · rfl
  · rename_i hchecked
    have hok := assignCells_ok xlsx (checkCells_sheets hchecked) (hwhole hchecked)
    rw [hchecked] at h
    split
    · rename_i heq
      rw [heq] at hok
      contradiction
    · rename_i heq
      rw [heq] at h
      dsimp only at h
      split at h <;> contradiction

theorem publishPreparedCalculation_failed {evaluation : EvaluatorEvaluation}
    {coverage : EvaluationCoverage} {e : String}
    (h : (w.publishPreparedCalculation xlsx evaluation coverage).1 = .error e) :
    (w.publishPreparedCalculation xlsx evaluation coverage).2.document = w.document := by
  unfold ResidentWorkbook.publishPreparedCalculation at *
  split
  · rename_i heq
    rw [publishFormulaCaches_failed heq]
    exact invalidateCalculationProof_document w
  · rename_i heq
    rw [heq] at h
    contradiction

theorem recalculate_failed {engine : EngineRun} {e : String}
    (h : (w.recalculate xlsx engine).1 = .error e) :
    (w.recalculate xlsx engine).2.document = w.document := by
  unfold ResidentWorkbook.recalculate at *
  match hensure : w.ensureEvaluator xlsx engine with
  | (.error _, w') => exact ensureEvaluator_document hensure
  | (.ok (), w') =>
    have hdocument := ensureEvaluator_document hensure
    rw [hensure] at h
    match hevaluation : engine.evaluation with
    | .error _ =>
      change w'.invalidateCalculationProof.document = w.document
      rw [invalidateCalculationProof_document, hdocument]
    | .ok evaluation =>
      rw [hevaluation] at h
      dsimp only at h ⊢
      match hpublish : w'.publishFormulaCaches xlsx evaluation.cacheUpdates with
      | (.error _, w'') =>
        change w''.document = w.document
        rw [publishFormulaCaches_failed hpublish, invalidateCalculationProof_document, hdocument]
      | (.ok (), w'') =>
        rw [hpublish] at h
        contradiction

theorem prepareCalculation_document (w : ResidentWorkbook Archive) (engine : EngineRun) :
    (w.prepareCalculation xlsx engine).2.document = w.document := by
  unfold ResidentWorkbook.prepareCalculation
  match hensure : w.ensureEvaluator xlsx engine with
  | (.error _, w') => exact ensureEvaluator_document hensure
  | (.ok (), w') =>
    have hdocument := ensureEvaluator_document hensure
    match engine.evaluation with
    | .error _ => exact hdocument
    | .ok _ => exact hdocument

theorem prepareExternalCalculation_captures (w : ResidentWorkbook Archive) (engine : EngineRun) :
    (w.prepareExternalCalculation xlsx engine).2.document = w.document ∧
      ((w.prepareExternalCalculation xlsx engine).2.evaluator = true → w.evaluator = true) := by
  have hcaptures := snapshotBytes_captures xlsx w
  unfold ResidentWorkbook.prepareExternalCalculation
  match hsnapshot : w.snapshotBytes xlsx with
  | (.error _, w') =>
    rw [hsnapshot] at hcaptures
    exact ⟨hcaptures.document, fun h => hcaptures.evaluator ▸ h⟩
  | (.ok _, w') =>
    rw [hsnapshot] at hcaptures
    match engine.evaluation with
    | .error _ => exact ⟨hcaptures.document, fun h => hcaptures.evaluator ▸ h⟩
    | .ok _ => exact ⟨hcaptures.document, fun h => absurd h (by simp)⟩

theorem applyWriteMatrices_failed {synchronized : Bool} {ops : List SessionTransformOp}
    {e : String} (h : (w.applyWriteMatrices xlsx synchronized ops).1 = .error e) :
    (w.applyWriteMatrices xlsx synchronized ops).2 = w := by
  unfold ResidentWorkbook.applyWriteMatrices at *
  split
  · rfl
  · rename_i heq
    rw [heq] at h
    dsimp only at h
    split at h <;> contradiction

theorem replaceFromBytes_failed {bytes : Archive} {effect : ResidentCalculationEffect}
    {e : String} (h : (w.replaceFromBytes xlsx bytes effect).1 = .error e) :
    (w.replaceFromBytes xlsx bytes effect).2 = w := by
  unfold ResidentWorkbook.replaceFromBytes at *
  split
  · rfl
  · rename_i heq
    rw [heq] at h
    contradiction

theorem error_of_map {α : Type} {result : Result α} {f : α → Unit} {e : String}
    (h : result.map f = .error e) : result = .error e := by
  cases result with
  | error _ => exact congrArg _ (Except.error.inj h)
  | ok _ => contradiction

theorem KeepsProof.failed {call : ResidentCall Archive} (hkeeps : w.KeepsProof call) {e : String}
    (h : call.outcome xlsx w = .error e) : (call.run xlsx w).document = w.document := by
  have hcaptures := snapshotBytes_captures xlsx w
  cases call with
  | snapshotBytes => exact hcaptures.document
  | exportBytes => exact hcaptures.document
  | publishPreparedCells synchronized effects =>
    exact publishPreparedCellsInner_failed hkeeps.2 (error_of_map h)
  | recoverPreparedCells synchronized effects =>
    exact publishPreparedCellsInner_failed hkeeps.2 (error_of_map h)
  | prepareCalculation engine => exact prepareCalculation_document w engine
  | prepareExternalCalculation engine => exact (prepareExternalCalculation_captures w engine).1
  | publishPreparedCalculation evaluation coverage =>
    exact publishPreparedCalculation_failed (error_of_map h)
  | replaceFromBytes bytes effect =>
    exact congrArg document (replaceFromBytes_failed (error_of_map h))
  | applyWriteMatrices synchronized ops =>
    exact congrArg document (applyWriteMatrices_failed (error_of_map h))
  | recalculate engine => exact recalculate_failed (error_of_map h)
  | _ => contradiction

end ResidentWorkbook

open ResidentWorkbook

theorem EvaluatedWorkbook.Truthful.call (h : r.Truthful lib) (hlib : lib.Reads xlsx)
    (hsound : r.workbook.CaptureSound xlsx) {call : ResidentCall Archive}
    (hkeeps : r.workbook.KeepsProof call) (hpreserves : r.workbook.PreservesCells xlsx lib call) :
    (r.call xlsx lib call).Truthful lib := by
  refine ⟨fun hretained => ?_, h.stamp.call hkeeps⟩
  have hheld := h.evaluator
  have hcaptures := snapshotBytes_captures xlsx r.workbook
  cases call with
  | snapshotBytes =>
    change Workbook.HeldBy lib (r.workbook.snapshotBytes xlsx).2.document r.inputs
    rw [hcaptures.document]
    exact hheld (hcaptures.evaluator ▸ hretained)
  | exportBytes =>
    change Workbook.HeldBy lib (r.workbook.snapshotBytes xlsx).2.document r.inputs
    rw [hcaptures.document]
    exact hheld (hcaptures.evaluator ▸ hretained)
  | publishPreparedCells synchronized effects =>
    exact publishInputs_held hheld hkeeps.2 synchronized hretained
  | recoverPreparedCells synchronized effects =>
    exact publishInputs_held hheld hkeeps.2 synchronized hretained
  | prepareCalculation engine => exact prepareCalculation_held hlib hsound hheld engine hretained
  | prepareExternalCalculation engine =>
    have hexternal := @prepareExternalCalculation_captures _ xlsx r.workbook engine
    change Workbook.HeldBy lib (r.workbook.prepareExternalCalculation xlsx engine).2.document _
    rw [hexternal.1]
    exact hheld (hexternal.2 hretained)
  | publishPreparedCalculation evaluation coverage =>
    exact publishPreparedCalculation_held hheld evaluation coverage hretained
  | advanceMetadataState => exact hheld hretained
  | replaceFromBytes bytes effect =>
    change Workbook.HeldBy lib (r.workbook.replaceFromBytes xlsx bytes effect).2.document r.inputs
    change (r.workbook.replaceFromBytes xlsx bytes effect).2.evaluator = true at hretained
    unfold ResidentWorkbook.replaceFromBytes at hretained ⊢
    match hread : xlsx.readReader bytes with
    | .error e =>
      rw [hread] at hretained
      exact hheld hretained
    | .ok replacement =>
      rw [hread] at hretained
      cases effect with
      | preserve =>
        have hsame := hpreserves replacement hread
        exact heldBy_congr (hheld hretained) hsame.1 hsame.2
      | invalidate => contradiction
  | applyWriteMatrices synchronized ops => exact matricesInputs_held hheld synchronized ops hretained
  | recalculate engine => exact recalculate_held hlib hsound hheld engine hretained
  | revokeCalculationProof =>
    change r.workbook.invalidateCalculationProof.evaluator = true at hretained
    rw [invalidateCalculationProof_evaluator] at hretained
    contradiction
  | _ => contradiction

theorem EvaluatedWorkbook.Truthful.runCalls (h : r.Truthful lib) (hlib : lib.Reads xlsx)
    (hsound : r.workbook.CaptureSound xlsx) {calls : List (ResidentCall Archive)}
    (hkeeps : r.workbook.RunKeepsProof xlsx lib calls) :
    (r.runCalls xlsx lib calls).Truthful lib := by
  induction calls generalizing r with
  | nil => exact h
  | cons call rest ih =>
    obtain ⟨hcall, hpreserves, hrest⟩ := hkeeps
    exact ih (h.call hlib hsound hcall hpreserves) (hsound.call hcall.keepsCapture) hrest

end Runs

/-- From a new workbook, in every run whose calls keep the proof, a retained evaluator has the
formulas and values of the document, a current stamp names the current revision, and the next
such call leaves every cell when it fails before the document's revision moves. -/
theorem evaluator_and_stamp_truthful {Archive : Type} (xlsx : Xlsx Archive)
    (lib : EvaluatorLibrary Archive) (hlib : lib.Reads xlsx) {bytes : Archive} {epoch : String}
    {ingested : Bool} {r : EvaluatedWorkbook Archive}
    (hstart : EvaluatedWorkbook.fromBytes xlsx lib bytes epoch ingested = .ok r)
    (calls : List (ResidentCall Archive)) (hkeeps : r.workbook.RunKeepsProof xlsx lib calls) :
    (r.runCalls xlsx lib calls).Truthful lib ∧
      ∀ call, (r.runCalls xlsx lib calls).workbook.KeepsProof call →
        (r.runCalls xlsx lib calls).FailsCleanly xlsx call := by
  simp only [EvaluatedWorkbook.fromBytes, ResidentWorkbook.fromBytes, bind_eq_ok, pure_eq_ok]
    at hstart
  obtain ⟨workbook, ⟨document, hread, _, _, rfl⟩, rfl⟩ := hstart
  constructor
  · refine EvaluatedWorkbook.Truthful.runCalls ⟨fun _ => hlib.read bytes document hread, ?_⟩ hlib
      (ResidentWorkbook.CaptureSound.of_none xlsx rfl) hkeeps
    intro _ _ hcurrent
    contradiction
  · intro call hcall e herror _
    exact congrArg Workbook.cells (hcall.failed herror)

/-- An engine that reads no number in text and takes a document as it is. -/
def sampleLibrary : EvaluatorLibrary Workbook where
  parseNumber := fun _ => none
  ingest := fun document key =>
    evaluatorInput (⟨fun _ => none, fun _ _ => .value .empty⟩ : EvaluatorLibrary Unit)
      (document.cells key)

theorem sampleLibrary_input (cell : Option Cell) : evaluatorInput sampleLibrary cell =
    evaluatorInput (⟨fun _ => none, fun _ _ => .value .empty⟩ : EvaluatorLibrary Unit) cell := by
  unfold evaluatorInput
  cases cell with
  | none => rfl
  | some cell =>
    dsimp only
    cases cell.formula with
    | some _ => rfl
    | none => cases cell.value <;> rfl

theorem sampleLibrary_reads : sampleLibrary.Reads sampleXlsx := by
  constructor
  · intro bytes document h
    rw [← Except.ok.inj h]
    exact heldBy_iff.mpr fun key _ => sampleLibrary_input _
  · intro document bytes ⟨_, h⟩
    rw [← Except.ok.inj h]
    exact heldBy_iff.mpr fun key _ => sampleLibrary_input _

def sampleEvaluated : EvaluatedWorkbook Workbook := ⟨sampleResident, sampleLibrary.ingest sampleBase⟩

def sampleEngine : ResidentWorkbook.EngineRun := ⟨true, .ok ⟨0, [], [], 0, 0⟩⟩

/-- A formula is published and calculated, and a publication to a missing sheet fails. -/
theorem sampleEvaluated_truthful :
    EvaluatedWorkbook.fromBytes sampleXlsx sampleLibrary sampleBase "e" true =
      .ok sampleEvaluated ∧
    (sampleEvaluated.runCalls sampleXlsx sampleLibrary
      [samplePublish (.number 1) (some "A2"), .recalculate sampleEngine]).Truthful sampleLibrary ∧
    (sampleEvaluated.runCalls sampleXlsx sampleLibrary
      [samplePublish (.number 1) (some "A2"), .recalculate sampleEngine]).FailsCleanly sampleXlsx
        (.publishPreparedCells true [⟨"Missing", 1, 1, [0], none, ⟨.number 1, none⟩⟩]) := by
  have hstart : EvaluatedWorkbook.fromBytes sampleXlsx sampleLibrary sampleBase "e" true =
    .ok sampleEvaluated := rfl
  have hkeeps : sampleEvaluated.workbook.RunKeepsProof sampleXlsx sampleLibrary
      [samplePublish (.number 1) (some "A2"), .recalculate sampleEngine] := by
    refine ⟨⟨⟨by decide, by decide⟩, fun _ e he => ?_⟩, trivial, ⟨by decide, by decide⟩, trivial,
      trivial⟩
    rw [List.mem_singleton.mp he]
    rfl
  have htruth := evaluator_and_stamp_truthful sampleXlsx sampleLibrary sampleLibrary_reads hstart
    _ hkeeps
  refine ⟨hstart, htruth.1, htruth.2 _ ⟨⟨by decide, by decide⟩, fun _ e he => ?_⟩⟩
  rw [List.mem_singleton.mp he]
  rfl

/-- A state advanced past a current stamp leaves the stamp behind; a refused error text leaves
its formula in the cell, unknown to the evaluator; and a restored identity brings back a
capture from which the evaluator is built. -/
theorem evaluator_or_stamp_left_behind :
    ¬ (sampleEvaluated.runCalls sampleXlsx sampleLibrary
      [.recalculate sampleEngine, .advanceMetadataState]).workbook.StampSound ∧
    ¬ sampleEvaluated.FailsCleanly sampleXlsx (samplePublish (.error "#SPILL!") (some "A2")) ∧
    ¬ (sampleEvaluated.runCalls sampleXlsx sampleLibrary
      [samplePublish (.error "#SPILL!") (some "A2")]).Truthful sampleLibrary ∧
    ¬ (sampleEvaluated.runCalls sampleXlsx sampleLibrary
      [.snapshotBytes, samplePublish (.number 1) none, .restoreRevisionIdentity ⟨"e", 0, 0⟩,
        .prepareCalculation sampleEngine]).Truthful sampleLibrary := by
  refine ⟨fun h => ?_, fun h => ?_, fun h => ?_, fun h => ?_⟩
  · have hstamp := (h 0 _ rfl).2
    exact absurd hstamp (by decide)
  · have hcells := congrFun (h _ rfl rfl) ("Sheet1", 1, 1)
    exact absurd (congrArg Option.isSome hcells) (by decide)
  · have hinput := h.evaluator rfl ("Sheet1", 1, 1) (by decide)
    exact absurd hinput (by decide)
  · have hinput := h.evaluator rfl ("Sheet1", 1, 1) (by decide)
    exact absurd hinput (by decide)

end AgentSpreadsheet
