import AgentSpreadsheet.Store
import AgentSpreadsheet.Workbook
import Mathlib.Data.List.Sort

/-! The transaction and catalog owner of one resident workbook: how a write
request becomes a prepared transaction, and how a prepared transaction is
published or recovered. -/
namespace AgentSpreadsheet
open Library

/-- The code around the owner that is kept opaque: the XLSX library, the digests,
the formula parser, the workbook edits other than cell writes, and the texts of
diffs and details. -/
structure Tools (Archive : Type) where
  xlsx : Xlsx Archive
  digest : Digest Archive
  validateFormula : String → Result Unit
  /-- Static checks of an operation that is not a cell write; its cell count. -/
  validateOther : WriteOp → Result Nat
  payloadBytes : WriteRequest → Nat
  /-- An edit that is not a cell write; a failure may leave the workbook changed. -/
  applyOther : FormulaParsePolicy → WriteOp → Workbook → Result String × Workbook
  summaryDetail : WriteOp → Workbook → String
  preparedCellChange : CellKey → Option ResidentMaterializedCell →
    Option ResidentMaterializedCell → Option String
  diffBytes : Archive → Archive → Result WriteDiff
  addEffectManifest : WriteDiff → List WriteOpResult → WriteDiff

structure ResidentWriteSession (Archive : Type) where
  resourceId : ResourceId
  workbook : ResidentWorkbook Archive
  staged : Finmap fun _ : String => CanonicalStagedBundle
  catalogGeneration : Nat
  poisoned : Option String
  baseSha256 : String
  baseBytes : Archive

abbrev Owner (Archive α : Type) := Exec (ResidentWriteSession Archive) String α

namespace ResidentWriteSession
variable (tools : Tools Archive)

def fromBytes (resourceId : ResourceId) (bytes : Archive) (epoch : String) (ingested : Bool) :
    Result (ResidentWriteSession Archive) := do
  ensure (resourceId.kind = .session)
    "invalid request: resident resources require a session: identifier"
  let workbook ← ResidentWorkbook.fromBytes tools.xlsx bytes epoch ingested
  pure {
    resourceId, workbook, staged := ∅, catalogGeneration := 0, poisoned := none
    baseSha256 := tools.digest.archive bytes, baseBytes := bytes }

def sessionId (session : ResidentWriteSession Archive) : String := session.resourceId.key

def revision (session : ResidentWriteSession Archive) : String := session.workbook.stateRevisionId

end ResidentWriteSession

def onWorkbook (call : ResidentWorkbook Archive → Result α × ResidentWorkbook Archive) :
    Owner Archive α := fun session =>
  ((call session.workbook).1, { session with workbook := (call session.workbook).2 })

def ensureUsable : Owner Archive Unit := do
  let session ← Exec.get
  match session.poisoned with
  | none => pure ()
  | some reason => Exec.fail ("resident session requires recovery before use: " ++ reason)

section Requests
variable (tools : Tools Archive)

def invalidRequest (message : String) : String := "invalid request: " ++ message

def maxWriteOps : Nat := 128
def maxWriteCells : Nat := 100000
def maxWritePayloadBytes : Nat := 1048576
def maxPreparedCommonCells : Nat := 100000

def validateSheetName (name : String) : Result Unit :=
  ensure (name ≠ "" ∧ name.toList.length ≤ 31 ∧
    (name.toList.all fun c => !(c ∈ ['[', ']', ':', '*', '?', '/', '\\'])) = true ∧
    name.toList.head? ≠ some '\'' ∧ name.toList.getLast? ≠ some '\'')
    ("invalid sheet name '" ++ name ++ "'")

def validateCell (position : Position) : Result Unit := do
  ensure (position.1 ≠ 0 ∧ position.2 ≠ 0) "invalid cell reference"
  ensure (position.1 ≤ 16384 ∧ position.2 ≤ 1048576) "cell reference exceeds XLSX grid bounds"

def validateMatrixFormula : MatrixCell → Result Unit
  | .value _ => .ok ()
  | .formula formula => tools.validateFormula formula

/-- The static checks of one operation; the number of cells it names. -/
def validateOp : WriteOp → Result Nat
  | .setCells sheetName cells _ => do
    validateSheetName sheetName
    cells.forM fun cell => validateCell cell.1
    ensure (cells ≠ []) "cells must not be empty"
    cells.forM fun cell => validateMatrixFormula tools cell.2
    pure cells.length
  | .writeMatrix sheetName anchor rows _ => do
    validateSheetName sheetName
    validateCell anchor
    ensure (rows ≠ [] ∧ [] ∉ rows) "matrix rows must not be empty"
    let width := (rows.map List.length).foldl max 0
    ensure (anchor.2 + rows.length ≤ 1048577 ∧ anchor.1 + width ≤ 16385)
      "matrix exceeds XLSX grid bounds"
    rows.forM fun row => row.forM fun cell => (cell.map (validateMatrixFormula tools)).getD (.ok ())
    pure (rows.map List.length).sum
  | op => tools.validateOther op

def validateOps : List WriteOp → Nat → Result Unit
  | [], _ => .ok ()
  | op :: rest, cells => do
    let more ← validateOp tools op
    ensure (cells + more ≤ maxWriteCells) "request exceeds the cell limit"
    validateOps rest (cells + more)

def validateRequest (request : WriteRequest) : Result Unit := do
  ensure (request.ops ≠ [] ∧ request.ops.length ≤ maxWriteOps)
    (invalidRequest "ops must contain 1..=128 operations")
  ensure (isBlank request.expectedRevision.toUTF8.toList = false)
    (invalidRequest "expected_revision must not be empty")
  ensure (tools.payloadBytes request ≤ maxWritePayloadBytes)
    (invalidRequest "request exceeds 1048576 bytes")
  ensure (request.mode = .stage → request.atomic = true)
    (invalidRequest "stage requires atomic:true; non-atomic staged replay is unsupported")
  validateOps tools request.ops 0

def riskRank : OperationRisk → Nat
  | .low => 0
  | .moderate => 1
  | .high => 2
  | .destructive => 3

def worstRisk (ops : List WriteOp) : OperationRisk :=
  ops.foldl (fun worst op => if riskRank worst ≤ riskRank op.risk then op.risk else worst) .low

def writeImpact (ops : List WriteOp) : WriteImpact := ⟨ops.map WriteOp.kind, worstRisk ops⟩

def writeError (index : Nat) (op : WriteOp) (error : String) : WriteOpResult :=
  ⟨index, op.kind, .failed, none, some error⟩

def skippedResult (index : Nat) (op : WriteOp) : WriteOpResult :=
  ⟨index, op.kind, .skipped, none, none⟩

def appliedResult (index : Nat) (op : WriteOp) (detail : String) : WriteOpResult :=
  ⟨index, op.kind, .applied, some detail, none⟩

/-- The cells of a common operation, in the order it names them. -/
def commonCells : WriteOp → Option (List (CellKey × MatrixCell))
  | .setCells sheetName cells _ => some (cells.map fun (position, written) =>
      ((sheetName, position.1, position.2), written))
  | .writeMatrix sheetName anchor rows _ => some ((matrixCells anchor rows).map
      fun (position, written) => ((sheetName, position.1, position.2), written))
  | .other .. => none

/-- Only a matrix is checked against the grid again. -/
def commonTouchedCells (op : WriteOp) : Option (Result (List CellKey)) :=
  (commonCells op).map fun cells =>
    match op with
    | .writeMatrix .. => do
      ensure (∀ cell ∈ cells, cell.1.2.2 ≤ 1048576 ∧ cell.1.2.1 ≤ 16384)
        "matrix exceeds XLSX worksheet bounds"
      pure (cells.map (·.1))
    | _ => .ok (cells.map (·.1))

def WriteOp.overwriteFormulas : WriteOp → Bool
  | .setCells _ _ overwrite => overwrite
  | .writeMatrix _ _ _ overwrite => overwrite
  | .other .. => false

def WriteOp.sheetName : WriteOp → String
  | .setCells sheetName _ _ => sheetName
  | .writeMatrix sheetName _ _ _ => sheetName
  | .other .. => ""

/-- `apply_write_op_to_workbook`. A missing sheet is found before any cell of the
operation changes. -/
def applyWriteOpToWorkbook (policy : FormulaParsePolicy) (op : WriteOp) (book : Workbook) :
    Result String × Workbook :=
  match commonCells op with
  | none => tools.applyOther policy op book
  | some cells =>
    if op.sheetName ∉ book.sheets then
      (.error ("sheet '" ++ op.sheetName ++ "' not found"), book)
    else
      (.ok (tools.summaryDetail op book),
        (cells.foldl (setMatrixCell tools.xlsx op.overwriteFormulas) (book, 0)).1)

/-- Statuses of the results before a failure. -/
def rollBack (results : List WriteOpResult) (index : Nat) : List WriteOpResult :=
  (results.take index).map (fun result => { result with status := .rolledBack }) ++
    results.drop index

/-- `canonical_response_from_prepared`. -/
def canonicalResponseFromPrepared (request : WriteRequest) (revisionBefore revisionAfter : String)
    (results : List WriteOpResult) (diff : WriteDiff) (impact : WriteImpact)
    (failure : Option Nat) (applied : Nat) (stageChangeId : Option String) : WriteResponseData :=
  match failure with
  | some index =>
    if request.mode = .apply ∧ request.atomic = true then
      { status := .rolledBack, mode := .apply, atomic := true, revisionBefore
        revisionAfter := revisionBefore, ops := 0
        diff := ⟨0, true, "exact_baseline_to_result", [], []⟩, impact
        results := rollBack results index }
    else if request.mode ≠ .apply then
      { status := .failed, mode := request.mode, atomic := request.atomic, revisionBefore
        revisionAfter := revisionBefore, ops := 0
        diff := tools.addEffectManifest diff (rollBack results index), impact
        results := rollBack results index }
    else
      { status := .partialApply, mode := .apply, atomic := false, revisionBefore, revisionAfter
        ops := applied, diff := tools.addEffectManifest diff results, impact, results }
  | none =>
    let diff := tools.addEffectManifest diff results
    let mark (status : WriteOpStatus) := results.map fun result => { result with status }
    match request.mode with
    | .preview =>
      { status := .previewed, mode := .preview, atomic := request.atomic, revisionBefore
        revisionAfter := revisionBefore, ops := request.ops.length, diff, impact
        results := mark .previewed }
    | .stage =>
      { status := .staged (stageChangeId.getD ""), mode := .stage, atomic := true, revisionBefore
        revisionAfter, ops := request.ops.length, diff, impact, results := mark .staged }
    | .apply =>
      { status := .applied, mode := .apply, atomic := request.atomic, revisionBefore
        revisionAfter, ops := applied, diff, impact, results }

/-- The loop variables of a common preparation. `before` lists each touched cell
once, with what it was. -/
structure CommonPreparation where
  shadow : Workbook
  before : List (CellKey × Option ResidentMaterializedCell)
  sourceOpIndices : List (CellKey × Nat)
  results : List WriteOpResult
  failure : Option Nat

namespace CommonPreparation

/-- The shadow starts with the source's sheets and none of its cells. -/
def start (source : Workbook) : CommonPreparation :=
  ⟨⟨source.sheets, fun _ => none, ""⟩, [], [], [], none⟩

/-- Copy a touched cell the first time; a cell of a missing sheet is passed over. -/
def capture (source : Workbook) (p : CommonPreparation) (key : CellKey) : CommonPreparation :=
  if key ∈ p.before.map (·.1) then p
  else if key.1 ∉ source.sheets then p
  else
    { p with
      before := p.before ++ [(key, (source.cells key).map Cell.materialize)]
      shadow := match source.cells key with
        | some cell => p.shadow.setCell key cell
        | none => p.shadow }

def failAt (p : CommonPreparation) (index : Nat) (op : WriteOp) (error : String) :
    CommonPreparation :=
  { p with failure := some index, results := p.results ++ [writeError index op error] }

/-- One operation. An operation after a failure is skipped, in either mode. -/
def step (source : Workbook) (policy : FormulaParsePolicy) (p : CommonPreparation)
    (entry : WriteOp × Nat) : CommonPreparation :=
  let (op, index) := entry
  if p.failure.isSome then { p with results := p.results ++ [skippedResult index op] }
  else
    match (commonTouchedCells op).getD (.ok []) with
    | .error error => p.failAt index op error
    | .ok touched =>
      if maxPreparedCommonCells <
          p.before.length + (touched.filter (· ∉ p.before.map (·.1))).dedup.length then
        p.failAt index op "prepared common-cell limit exceeds 100000"
      else
        let p := touched.foldl (capture source) p
        match applyWriteOpToWorkbook tools policy op p.shadow with
        | (.error error, shadow) => { p with shadow }.failAt index op error
        | (.ok detail, shadow) =>
          { p with
            shadow
            sourceOpIndices := p.sourceOpIndices ++ touched.map (·, index)
            results := p.results ++ [appliedResult index op detail] }

def run (source : Workbook) (policy : FormulaParsePolicy) (ops : List WriteOp) :
    CommonPreparation :=
  ops.zipIdx.foldl (step tools source policy) (start source)

def rowMajor (a b : CellKey × Option ResidentMaterializedCell) : Prop :=
  a.1.1 < b.1.1 ∨ a.1.1 = b.1.1 ∧
    (a.1.2.2 < b.1.2.2 ∨ a.1.2.2 = b.1.2.2 ∧ a.1.2.1 ≤ b.1.2.1)

instance : DecidableRel rowMajor := fun a b =>
  inferInstanceAs (Decidable (a.1.1 < b.1.1 ∨ a.1.1 = b.1.1 ∧
    (a.1.2.2 < b.1.2.2 ∨ a.1.2.2 = b.1.2.2 ∧ a.1.2.1 ≤ b.1.2.1)))

def ordered (p : CommonPreparation) : List (CellKey × Option ResidentMaterializedCell) :=
  p.before.insertionSort rowMajor

def after (p : CommonPreparation) (key : CellKey) : Option ResidentMaterializedCell :=
  (p.shadow.cells key).map Cell.materialize

def effect (p : CommonPreparation) (entry : CellKey × Option ResidentMaterializedCell) :
    Option ResidentPreparedCellEffect :=
  match p.after entry.1 with
  | none => none
  | some after =>
    if entry.2 = some after then none
    else some {
      sheetName := entry.1.1, column := entry.1.2.1, row := entry.1.2.2
      sourceOpIndices := (p.sourceOpIndices.filter (·.1 = entry.1)).map (·.2)
      expectedBefore := entry.2, after }

def effects (p : CommonPreparation) : List ResidentPreparedCellEffect :=
  p.ordered.filterMap p.effect

def candidateDiff (p : CommonPreparation) : WriteDiff :=
  let changes := p.ordered.filterMap fun entry =>
    tools.preparedCellChange entry.1 entry.2 (p.after entry.1)
  ⟨changes.length, true, "exact_baseline_to_result", changes, []⟩

end CommonPreparation

/-- The revision after a prepared document mutation. -/
def predictedResidentRevision (session : ResidentWriteSession Archive) (mutated : Bool) : String :=
  if mutated then session.workbook.advanceDocument.stateRevisionId else session.revision

def stagedBundle (session : ResidentWriteSession Archive) (request : WriteRequest)
    (impact : WriteImpact) : CanonicalStagedBundle where
  label := request.label
  baseRevision := session.revision
  maxRisk := impact.risk
  atomic := true
  ops := request.ops
  formulaParsePolicy := request.formulaParsePolicy

def prepareCommonTransaction (session : ResidentWriteSession Archive) (request : WriteRequest)
    (stageChangeId : Option String) : PreparedResidentTransaction Archive :=
  let p := CommonPreparation.run tools session.workbook.document
    (request.formulaParsePolicy.getD .warn) request.ops
  let impact := writeImpact request.ops
  let applied := (p.results.filter fun result => result.status = .applied).length
  let publishCells := decide (request.mode = .apply) && !(request.atomic && p.failure.isSome) &&
    !p.effects.isEmpty
  { baseSha256 := session.baseSha256
    response := canonicalResponseFromPrepared tools request session.revision
      (predictedResidentRevision session publishCells) p.results (p.candidateDiff tools) impact
      p.failure applied stageChangeId
    publication := if publishCells then .cells p.effects else .none
    staged := if request.mode = .stage ∧ p.failure = none then
      some (stageChangeId.getD "", stagedBundle session request impact) else none
    consumeStaged := none }

/-- The kinds that leave a calculation proof standing. -/
def preservingKinds : List String :=
  ["style", "column_size", "freeze_panes", "set_zoom", "set_gridlines", "set_page_margins",
    "set_page_setup", "set_print_area", "set_page_breaks", "set_data_validation",
    "add_conditional_format", "set_conditional_format", "clear_conditional_formats"]

def calculationEffectForOps (ops : List WriteOp) : ResidentCalculationEffect :=
  if ops.all (fun op => op.kind ∈ preservingKinds) then .preserve else .invalidate

/-- Formula results are not part of a workbook's logical content. -/
def Workbook.blankFormulaResults (book : Workbook) : Workbook :=
  { book with
    cells := fun key => (book.cells key).map fun cell =>
      if cell.isFormula then cell.setFormulaResult .empty else cell }

def logicalWorkbookSha256 (bytes : Archive) : Result String := do
  let book ← tools.xlsx.readReader bytes
  let blanked ← tools.xlsx.writeWriter 0 book.blankFormulaResults
  pure (tools.digest.archive blanked)

/-- `apply_atomic_candidate`: the operations up to the first failure, on one
candidate. -/
def applyCandidate (policy : FormulaParsePolicy) (original : Workbook) (ops : List WriteOp) :
    Workbook × List WriteOpResult × Option Nat :=
  ops.zipIdx.foldl (fun (candidate, results, failure) (op, index) =>
    if failure.isSome then (candidate, results ++ [skippedResult index op], failure)
    else
      match applyWriteOpToWorkbook tools policy op candidate with
      | (.ok detail, candidate) => (candidate, results ++ [appliedResult index op detail], none)
      | (.error error, candidate) =>
        (candidate, results ++ [writeError index op error], some index)) (original, [], none)

/-- The non-atomic loop: a failed operation leaves no trace in the candidate. -/
def applyEach (policy : FormulaParsePolicy) (original : Workbook) (ops : List WriteOp) :
    Workbook × List WriteOpResult × Option Nat :=
  ops.zipIdx.foldl (fun (current, results, failure) (op, index) =>
    if failure.isSome then (current, results ++ [skippedResult index op], failure)
    else
      match applyWriteOpToWorkbook tools policy op current with
      | (.ok detail, candidate) => (candidate, results ++ [appliedResult index op detail], none)
      | (.error error, _) => (current, results ++ [writeError index op error], some index))
    (original, [], none)

def emptyDiff : WriteDiff := ⟨0, true, "exact_baseline_to_result", [], []⟩

/-- `execute_write_on_bytes`: the response and the candidate it commits. The
revision of a candidate is random there and rewritten by the caller. -/
def executeWriteOnBytes (bytes : Archive) (revision : String) (request : WriteRequest) :
    Result (WriteResponseData × Option Archive) := do
  validateRequest tools request
  ensure (request.resourceId.kind = .session)
    (invalidRequest "in-memory write requires a session: mutable resource_id")
  ensure (request.mode ≠ .stage)
    (invalidRequest "mode 'stage' is unavailable for in-memory sessions; use preview or apply")
  ensure (request.expectedRevision = revision)
    ("revision conflict: expected " ++ request.expectedRevision ++ ", current " ++ revision)
  let policy := request.formulaParsePolicy.getD .warn
  let impact := writeImpact request.ops
  let original ← tools.xlsx.readReader bytes
  if request.mode = .preview ∨ request.atomic = true then
    let (candidate, results, failure) := applyCandidate tools policy original request.ops
    if failure.isSome = true ∧ request.mode = .apply then
      pure (canonicalResponseFromPrepared tools request revision revision results emptyDiff impact
        failure 0 none, none)
    else
      let candidateBytes ← tools.xlsx.writeWriter 0 candidate
      let diff ← tools.diffBytes bytes candidateBytes
      pure (canonicalResponseFromPrepared tools request revision revision results diff impact
        failure (if failure.isSome then 0 else request.ops.length) none,
        if request.mode = .apply ∧ failure = none then some candidateBytes else none)
  else
    let (current, results, failure) := applyEach tools policy original request.ops
    let currentBytes ← tools.xlsx.writeWriter 0 current
    let diff ← tools.diffBytes bytes currentBytes
    let applied := (results.filter fun result => result.status = .applied).length
    pure (canonicalResponseFromPrepared tools request revision revision results diff impact
      failure applied none, if applied > 0 then some currentBytes else none)

def prepareSnapshotStage (session : ResidentWriteSession Archive) (bytes : Archive)
    (request : WriteRequest) (stageChangeId : Option String) :
    Result (PreparedResidentTransaction Archive) := do
  let (preview, _) ← executeWriteOnBytes tools bytes session.revision
    { request with mode := .preview }
  let transaction (response : WriteResponseData)
      (staged : Option (String × CanonicalStagedBundle)) : PreparedResidentTransaction Archive :=
    ⟨session.baseSha256, response, .none, staged, none⟩
  if preview.status = .previewed then
    let changeId := stageChangeId.getD ""
    pure (transaction
      { preview with
        status := .staged changeId, mode := .stage, atomic := true
        revisionBefore := session.revision, revisionAfter := session.revision
        results := preview.results.map fun result => { result with status := .staged } }
      (some (changeId, stagedBundle session request preview.impact)))
  else
    pure (transaction
      { preview with
        mode := .stage, revisionBefore := session.revision, revisionAfter := session.revision
        ops := 0 } none)

def prepareSnapshotApply (session : ResidentWriteSession Archive) (bytes : Archive)
    (currentSha256 : String) (request : WriteRequest) :
    Result (PreparedResidentTransaction Archive) := do
  let (response, candidate) ← executeWriteOnBytes tools bytes session.revision request
  let response := { response with
    revisionBefore := session.revision
    revisionAfter := predictedResidentRevision session candidate.isSome }
  let appliedOps := if response.status = .applied ∨ response.status = .partialApply then
      (response.results.filter fun result => result.status = .applied).filterMap
        fun result => request.ops[result.index]?
    else []
  let publication := match candidate with
    | some bytes => .snapshot currentSha256 bytes (tools.digest.archive bytes)
        (calculationEffectForOps appliedOps)
    | none => .none
  pure ⟨session.baseSha256, response, publication, none, none⟩

def prepareSnapshotTransaction (request : WriteRequest) (stageChangeId : Option String) :
    Owner Archive (PreparedResidentTransaction Archive) := do
  let bytes ← onWorkbook (ResidentWorkbook.snapshotBytes tools.xlsx)
  let currentSha256 ← Exec.lift (logicalWorkbookSha256 tools bytes)
  let session ← Exec.get
  if request.mode = .stage then
    Exec.lift (prepareSnapshotStage tools session bytes request stageChangeId)
  else Exec.lift (prepareSnapshotApply tools session bytes currentSha256 request)

def prepareResidentTransaction (request : WriteRequest) (stageChangeId : Option String) :
    Owner Archive (PreparedResidentTransaction Archive) := do
  Exec.lift (validateRequest tools request)
  let session ← Exec.get
  Exec.guard (request.resourceId = session.resourceId)
    (invalidRequest "resident write resource does not match its owning session")
  Exec.guard (request.expectedRevision = session.revision)
    ("revision conflict: expected " ++ request.expectedRevision ++ ", current " ++
      session.revision)
  if request.ops.all (fun op => (commonTouchedCells op).isSome) then
    pure (prepareCommonTransaction tools session request stageChangeId)
  else prepareSnapshotTransaction tools request stageChangeId

/-- The predecessor and content checks of a snapshot publication, then the
replacement. `mismatch` is the message for another predecessor. -/
def publishSnapshot (mismatch expectedBeforeSha256 : String) (bytes : Archive) (sha256 : String)
    (effect : ResidentCalculationEffect) : Owner Archive Unit := do
  let current ← onWorkbook (ResidentWorkbook.snapshotBytes tools.xlsx)
  let logical ← Exec.lift (logicalWorkbookSha256 tools current)
  Exec.guard (logical = expectedBeforeSha256) mismatch
  Exec.guard (tools.digest.archive bytes = sha256) "prepared snapshot content hash mismatch"
  let _ ← onWorkbook fun w => w.replaceFromBytes tools.xlsx bytes effect

def publishPublication (synchronized : Bool) :
    PreparedResidentPublication Archive → Owner Archive Unit
  | .none => pure ()
  | .cells effects => do
    let _ ← onWorkbook fun w => w.publishPreparedCells tools.xlsx synchronized effects
  | .snapshot expected bytes sha256 effect =>
    publishSnapshot tools "prepared snapshot logical before-state hash mismatch" expected bytes
      sha256 effect

def insertStaged (changeId : String) (bundle : CanonicalStagedBundle)
    (session : ResidentWriteSession Archive) : ResidentWriteSession Archive :=
  { session with
    staged := session.staged.insert changeId bundle
    catalogGeneration := session.catalogGeneration + 1 }

def removeStaged (changeId : String) (session : ResidentWriteSession Archive) :
    ResidentWriteSession Archive :=
  { session with
    staged := session.staged.erase changeId
    catalogGeneration := session.catalogGeneration + 1 }

def publishStaged : Option (String × CanonicalStagedBundle) → Owner Archive Unit
  | none => pure ()
  | some (changeId, bundle) => do
    let session ← Exec.get
    Exec.guard (changeId ∉ session.staged) "prepared stage identity already exists in catalog"
    Exec.modify (insertStaged changeId bundle)

def publishConsumed : Option String → Owner Archive Unit
  | none => pure ()
  | some changeId => do
    let session ← Exec.get
    Exec.guard (changeId ∈ session.staged)
      "prepared staged apply references missing catalog entry"
    Exec.modify (removeStaged changeId)

/-- `publish_resident_transaction`. -/
def publishResidentTransaction (synchronized : Bool)
    (prepared : PreparedResidentTransaction Archive) : Owner Archive Unit := do
  let session ← Exec.get
  Exec.guard (prepared.baseSha256 = session.baseSha256)
    "prepared transaction base identity does not match resident owner"
  publishPublication tools synchronized prepared.publication
  publishStaged prepared.staged
  publishConsumed prepared.consumeStaged
  let session ← Exec.get
  Exec.guard (session.revision = prepared.response.revisionAfter)
    "prepared publication revision mismatch"

/-- Recovery publishes the document part alone, against the logical predecessor. -/
def recoverPreparedDocument (prepared : PreparedResidentTransaction Archive) :
    Owner Archive Unit := do
  let session ← Exec.get
  Exec.guard (prepared.baseSha256 = session.baseSha256)
    "prepared transaction base identity does not match resident owner"
  match prepared.publication with
  | .none => pure ()
  | .cells effects => do
    let _ ← onWorkbook fun w => w.recoverPreparedCells tools.xlsx true effects
  | .snapshot expected bytes sha256 effect =>
    publishSnapshot tools "prepared snapshot logical predecessor mismatch during recovery"
      expected bytes sha256 effect

end Requests

/-- One workbook with an empty sheet; every other tool answers the least it can. -/
def sampleSessionTools : Tools Unit where
  xlsx := ⟨fun _ => .ok ⟨["Sheet1"], fun _ => none, ""⟩, fun _ _ => .ok (), fun text => .string text⟩
  digest := sampleDigest
  validateFormula := fun _ => .ok ()
  validateOther := fun _ => .ok 0
  payloadBytes := fun _ => 0
  applyOther := fun _ _ book => (.ok "", book)
  summaryDetail := fun _ _ => ""
  preparedCellChange := fun _ _ _ => none
  diffBytes := fun _ _ => .ok ⟨0, true, "", [], []⟩
  addEffectManifest := fun diff _ => diff

end AgentSpreadsheet
