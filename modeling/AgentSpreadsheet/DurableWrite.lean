import AgentSpreadsheet.Durable

/-! The durable operations that are not history controls: writes and the staged
catalog, calculation, and recovery behind a restart boundary. -/
namespace AgentSpreadsheet
open Library

section Operations
variable (tools : Tools Archive) (storage : Storage Archive)

/-- The transition a prepared transaction is journaled as. -/
def PreparedResidentTransaction.transition (prepared : PreparedResidentTransaction Archive) :
    ResidentTransition :=
  if prepared.publication.publishesDocument = false ∧ prepared.staged = none ∧
      prepared.consumeStaged = none then .receipt
  else if prepared.consumeStaged.isSome then .stageApply
  else if prepared.staged.isSome then .catalogStage
  else .mutation

def PreparedResidentTransaction.record (prepared : PreparedResidentTransaction Archive)
    (session : ResidentWriteSession Archive) (history : PortableHistoryState)
    (sessionId requestId fingerprint commitId : String) : PreparedResidentCommit Archive where
  schemaVersion := residentCommitSchema
  sessionId := sessionId
  commitId := commitId
  parentCommitId := history.streamTip
  historyParentCommitId := if prepared.publication.publishesDocument then history.head else none
  baseSha256 := session.baseSha256
  requestId := requestId
  requestFingerprint := fingerprint
  transition := prepared.transition
  effects := [{ preparedTransaction := .value prepared }]
  resultingHead := if prepared.publication.publishesDocument then some commitId else history.head
  resultingBranch := history.currentBranch
  resultingBranches := if prepared.publication.publishesDocument then
    history.branches.insert history.currentBranch (some commitId) else history.branches
  catalogGeneration := session.catalogGeneration +
    (if prepared.staged.isSome ∨ prepared.consumeStaged.isSome then 1 else 0)
  stateRevision := prepared.response.revisionAfter

def inStateOf (session : ResidentWriteSession Archive) (record : PreparedResidentCommit Archive) :
    Bool :=
  session.revision == record.stateRevision &&
    session.catalogGeneration == record.catalogGeneration

def persistedTransaction (record : PreparedResidentCommit Archive) :
    Result (PreparedResidentTransaction Archive) :=
  (findMember Effect.preparedTransaction record.effects).get
    "resident commit lacks prepared transaction"

/-- Publish a transaction whose record is in the journal. -/
def publishCommitted (synchronized : Bool) (committed : PreparedResidentCommit Archive)
    (persisted : PreparedResidentTransaction Archive) : Durable Archive WriteResponseData := do
  let w ← Exec.get
  if inStateOf w.session committed then do
    unpoison
    pure persisted.response
  else do
    let published ← Exec.attempt
      (onSession (publishResidentTransaction tools synchronized persisted))
    match published with
    | .error error => do
      poison ("post-commit prepared publication failed: " ++ error)
      Exec.fail "durable commit succeeded but publication failed; recovery required"
    | .ok () => do
      let w ← Exec.get
      if inStateOf w.session committed then do
        unpoison
        pure persisted.response
      else do
        poison "post-commit state/catalog differs from committed record"
        Exec.fail "durable publication invariant failed; recovery required"

/-- Journal a prepared transaction, then publish it. -/
def commitTransaction (supply : Supply) (history : PortableHistoryState)
    (sessionId requestId fingerprint : String) (prepared : PreparedResidentTransaction Archive) :
    Durable Archive WriteResponseData := do
  let w ← Exec.get
  let proposed := prepared.record w.session history sessionId requestId fingerprint supply.commitId
  let committed ← commitReconciled tools storage "durable commit outcome unknown: "
    "durable commit outcome unknown; recovery/reconciliation required" proposed
  poison "committed transaction publication pending; recovery required on failure"
  if committed.commitId = proposed.commitId then do
    let persisted ← Exec.lift (persistedTransaction proposed)
    publishCommitted tools supply.synchronized proposed persisted
  else do
    let records ← onHost (storage.load sessionId)
    let existing ← Exec.lift (required (records.find? fun r => r.commitId == committed.commitId)
      "reconciled resident commit is not readable")
    let persisted ← Exec.lift (persistedTransaction existing)
    -- a retained request denotes its original outcome; nothing is replayed
    unpoison
    pure persisted.response

def executeDurablePreparedOnResident (supply : Supply) (requestId : String)
    (request : WriteRequest) (consumeStaged : Option String) :
    Durable Archive WriteResponseData := do
  Exec.guard (requestId ≠ "") (invalidRequest "request_id is required for durable writes")
  onSession ensureUsable
  let sessionId := request.resourceId.toWorkbookId
  let w ← Exec.get
  let existing ← onHost (storage.load sessionId)
  let history ← Exec.lift (PortableHistoryState.replayBound tools.digest existing sessionId
    w.session.baseSha256)
  if (existing.getLast?.all (inStateOf w.session)) = false then do
    poison "durable journal state does not match resident state/catalog"
    Exec.fail "resident session requires recovery before durable write"
  else do
    let fingerprint := tools.digest.write w.session.baseSha256 consumeStaged request
    let reconciled ← onHost (storage.reconcile sessionId requestId fingerprint)
    match reconciled with
    | .committed outcome => do
      let committed ← Exec.lift (required
        (existing.find? fun r => r.commitId == outcome.commitId)
        "reconciled resident commit is not readable")
      let persisted ← Exec.lift (persistedTransaction committed)
      pure persisted.response
    | .notFound => do
      let stageChangeId := if request.mode = .stage then some supply.changeId else none
      let prepared ← onSession (prepareResidentTransaction tools request stageChangeId)
      let prepared := { prepared with consumeStaged }
      if request.mode = .preview ∨ prepared.response.status = .failed ∨
          prepared.response.status = .rolledBack then
        pure prepared.response
      else commitTransaction tools storage supply history sessionId requestId fingerprint prepared

def executeDurableWriteOnResident (supply : Supply) (requestId : String)
    (request : WriteRequest) : Durable Archive WriteResponseData :=
  executeDurablePreparedOnResident tools storage supply requestId request none

def CanonicalStagedBundle.request (bundle : CanonicalStagedBundle) (resourceId : ResourceId)
    (expectedRevision : String) : WriteRequest where
  resourceId := resourceId
  expectedRevision := expectedRevision
  mode := .apply
  atomic := bundle.atomic
  ops := bundle.ops
  label := none
  formulaParsePolicy := bundle.formulaParsePolicy

def applyStagedDurable (supply : Supply) (requestId changeId expectedRevision : String) :
    Durable Archive WriteResponseData := do
  onSession ensureUsable
  Exec.guard (requestId ≠ "") (invalidRequest "request_id is required for durable staged apply")
  let existing ← reconciledRecordByRequestId tools storage requestId
  match existing with
  | some record => do
    let persisted ← Exec.lift (persistedTransaction record)
    Exec.guard (record.transition = .stageApply ∧ persisted.consumeStaged = some changeId ∧
      persisted.response.revisionBefore = expectedRevision)
      "request identity reuse with different staged-apply input"
    pure persisted.response
  | none => do
    let w ← Exec.get
    let bundle ← Exec.lift (required (w.session.staged.lookup changeId)
      (invalidRequest ("staged change not found: " ++ changeId)))
    Exec.guard (bundle.baseRevision = w.session.revision ∧
      expectedRevision = w.session.revision)
      "revision conflict: staged write approval is stale"
    executeDurablePreparedOnResident tools storage supply requestId
      (bundle.request w.session.resourceId expectedRevision) (some changeId)

def discardRecord (session : ResidentWriteSession Archive) (history : PortableHistoryState)
    (requestId changeId commitId : String) : PreparedResidentCommit Archive where
  schemaVersion := residentCommitSchema
  sessionId := session.sessionId
  commitId := commitId
  parentCommitId := history.streamTip
  historyParentCommitId := none
  baseSha256 := session.baseSha256
  requestId := requestId
  requestFingerprint := tools.digest.text ("discard:" ++ changeId ++ ":" ++ session.revision)
  transition := .catalogDiscard
  effects := [{ discardStagedChangeId := some (.text changeId) }]
  resultingHead := history.head
  resultingBranch := history.currentBranch
  resultingBranches := history.branches
  catalogGeneration := session.catalogGeneration + 1
  stateRevision := session.revision

/-- `discard_staged`: whether the change was there. -/
def discardStaged (changeId : String) : Owner Archive Bool := do
  ensureUsable
  let session ← Exec.get
  if changeId ∈ session.staged then do
    Exec.modify (removeStaged changeId)
    pure true
  else pure false

def discardStagedDurable (supply : Supply) (requestId changeId : String) :
    Durable Archive Bool := do
  onSession ensureUsable
  Exec.guard (requestId ≠ "")
    (invalidRequest "request_id is required for durable catalog mutations")
  let existing ← reconciledRecordByRequestId tools storage requestId
  match existing with
  | some record => do
    Exec.guard (record.transition = .catalogDiscard ∧ record.effects.any (fun e =>
      e.discardStagedChangeId.bind Value.asStr == some changeId) = true)
      "request identity reuse with different catalog input"
    pure (!record.effects.any fun e => e.receiptOperation.isPresent)
  | none => do
    let w ← Exec.get
    if changeId ∉ w.session.staged then do
      let _ ← commitControlReceipt tools storage supply requestId .catalogDiscard
        [{ discardStagedChangeId := some (.text changeId) }]
      pure false
    else do
      let (records, history) ← loadHistory tools storage
      if (records.getLast?.all (inStateOf w.session)) = false then do
        poison "durable journal state does not match resident state"
        Exec.fail "resident session requires recovery before catalog mutation"
      else do
        let _ ← commitReconciled tools storage "catalog commit outcome unknown: "
          "catalog commit outcome unknown; recovery required"
          (discardRecord tools w.session history requestId changeId supply.commitId)
        let removed ← onSession (discardStaged changeId)
        if removed then pure true
        else do
          poison "committed staged discard could not publish"
          Exec.fail "committed catalog transition failed to publish; recovery required"

/-- A calculation request with what its engine answers. An external engine is
LibreOffice. -/
structure Calculation where
  external : Bool
  timeoutMs : Option Nat
  durationMs : Nat
  engine : ResidentWorkbook.EngineRun

namespace Calculation
variable (calculation : Calculation)

def backendName : String := if calculation.external then "libreoffice" else "formualizer"

/-- A missing timeout is `null`. -/
def timeoutValue : Value :=
  match calculation.timeoutMs with
  | some n => .number n
  | none => .null

def prepare (w : ResidentWorkbook Archive) :
    Result EvaluatorEvaluation × ResidentWorkbook Archive :=
  if calculation.external then w.prepareExternalCalculation tools.xlsx calculation.engine
  else w.prepareCalculation tools.xlsx calculation.engine

/-- Complete coverage at a revision. An external engine's caches are trusted. -/
def coverage (evaluation : EvaluatorEvaluation) (revisionId : String) : EvaluationCoverage :=
  if calculation.external then { evaluation.coverage revisionId with source := .trustedCache }
  else evaluation.coverage revisionId

def externalResult (revisionBefore : String) (coverage : EvaluationCoverage) : RecalculateData where
  revisionBefore := revisionBefore
  revisionAfter := coverage.revisionId
  durationMs := calculation.durationMs
  backend := calculation.backendName
  state := coverage.state
  evaluationCoverage := coverage
  status := if coverage.state = .clean then "completed" else "completed_with_errors"
  errorCount := none
  cellsEvaluated := none
  evalErrors := none
  warnings := []

def proof (revisionBefore : String) (evaluation : EvaluatorEvaluation)
    (coverage : EvaluationCoverage) : CalculationProof where
  evaluationDurationMs := some calculation.durationMs
  evalErrors := evaluation.evalErrors
  cellsEvaluated := some evaluation.cellsEvaluated
  coverage := .value coverage
  backend := if calculation.external then some calculation.backendName else none
  externalResult := if calculation.external then
    some (calculation.externalResult revisionBefore coverage) else none

def effects (revisionBefore : String) (evaluation : EvaluatorEvaluation)
    (coverage : EvaluationCoverage) : List (Effect Archive) :=
  [{ timeoutMs := some calculation.timeoutValue },
    { calculationProof := .value (calculation.proof revisionBefore evaluation coverage) }]

/-- The coverage an owner's calculation is published with. -/
def predictedCoverage (session : ResidentWriteSession Archive) (evaluation : EvaluatorEvaluation) :
    EvaluationCoverage :=
  calculation.coverage evaluation session.workbook.advanceMetadataState.stateRevisionId

def record (session : ResidentWriteSession Archive) (history : PortableHistoryState)
    (requestId commitId : String) (evaluation : EvaluatorEvaluation) :
    PreparedResidentCommit Archive where
  schemaVersion := residentCommitSchema
  sessionId := session.sessionId
  commitId := commitId
  parentCommitId := history.streamTip
  historyParentCommitId := none
  baseSha256 := session.baseSha256
  requestId := requestId
  requestFingerprint := tools.digest.calculate session.baseSha256 session.revision
    calculation.timeoutMs (if calculation.external then some calculation.backendName else none)
  transition := .calculationPublish
  effects := calculation.effects session.revision evaluation
    (calculation.predictedCoverage session evaluation)
  resultingHead := history.head
  resultingBranch := history.currentBranch
  resultingBranches := history.branches
  catalogGeneration := history.catalogGeneration
  stateRevision := session.workbook.advanceMetadataState.stateRevisionId

end Calculation

def recordedCoverage (record : PreparedResidentCommit Archive) : Result EvaluationCoverage := do
  let proof ← (findMember Effect.calculationProof record.effects).get
    "calculation publication lacks snapshot"
  proof.coverage.get "calculation publication lacks coverage"

/-- Journal a prepared calculation, then publish it. -/
def commitCalculation (supply : Supply) (requestId : String) (calculation : Calculation)
    (evaluation : EvaluatorEvaluation) : Durable Archive EvaluationCoverage := do
  let (_, history) ← loadHistory tools storage
  let w ← Exec.get
  if ownerMatches w.session history = false then do
    poison "portable history state differs before calculation publication"
    Exec.fail "resident session requires recovery before calculation"
  else do
    let proposed := calculation.record tools w.session history requestId supply.commitId evaluation
    let coverage := calculation.predictedCoverage w.session evaluation
    let committed ← commitReconciled tools storage "calculation commit outcome unknown: "
      "calculation commit outcome unknown; recovery required" proposed
    poison "committed calculation publication pending; recovery required on failure"
    if committed.commitId ≠ proposed.commitId then do
      let existing ← adoptCommitted storage "reconciled calculation record missing"
        "reconciled calculation publication requires recovery" committed.commitId
      let recorded ← Exec.lift (recordedCoverage existing)
      unpoison
      pure recorded
    else do
      let published ← Exec.attempt (onSession (onWorkbook fun w =>
        w.publishPreparedCalculation tools.xlsx evaluation coverage))
      match published with
      | .error error => do
        poison ("committed calculation publication failed: " ++ error)
        Exec.fail error
      | .ok _ => do
        unpoison
        pure coverage

def recalculateDurableWithBackend (supply : Supply) (requestId : String)
    (calculation : Calculation) : Durable Archive EvaluationCoverage := do
  onSession ensureUsable
  Exec.guard (requestId ≠ "") (invalidRequest "request_id is required")
  let existing ← reconciledRecordByRequestId tools storage requestId
  match existing with
  | some record => do
    Exec.guard (record.transition = .calculationPublish ∧
      findValue Effect.timeoutMs record.effects = some calculation.timeoutValue)
      "request identity reuse with different calculation input"
    let proof ← Exec.lift ((findMember Effect.calculationProof record.effects).get
      "calculation publication lacks snapshot")
    Exec.guard (proof.backend.getD "formualizer" = calculation.backendName)
      "request identity reuse with different calculation backend"
    Exec.lift (proof.coverage.get "calculation publication lacks coverage")
  | none => do
    let prepared ← Exec.attempt (onSession (onWorkbook (calculation.prepare tools)))
    match prepared with
    | .error error => do
      poison ("calculation failed before proof publication: " ++ error ++ "; recovery required")
      Exec.fail error
    | .ok evaluation => commitCalculation tools storage supply requestId calculation evaluation

def restartRecord (session : ResidentWriteSession Archive) (history : PortableHistoryState)
    (last requestId commitId : String) : PreparedResidentCommit Archive where
  schemaVersion := residentCommitSchema
  sessionId := session.sessionId
  commitId := commitId
  parentCommitId := history.streamTip
  historyParentCommitId := none
  baseSha256 := history.baseSha256
  requestId := requestId
  requestFingerprint := tools.digest.text ("restart:" ++ last ++ ":" ++ session.revision)
  transition := .restart
  effects := [{ restartBoundary := some (.bool true) }]
  resultingHead := history.head
  resultingBranch := history.currentBranch
  resultingBranches := history.branches
  catalogGeneration := session.catalogGeneration
  stateRevision := session.revision

/-- Commit the restart boundary. No owner is returned unless it is durable. -/
def commitRestart (proposed : PreparedResidentCommit Archive) : Hosted Archive Unit := do
  let committed ← Exec.attempt (commitRecord tools.digest proposed)
  match committed with
  | .ok _ => pure ()
  | .error error => do
    let reconciled ← Exec.attempt (reconcileRequest proposed.sessionId proposed.requestId
      proposed.requestFingerprint)
    match reconciled with
    | .ok (.committed _) => pure ()
    | .ok .notFound => Exec.fail error
    | .error reconcile => Exec.fail ("restart commit outcome unknown: " ++ error ++
        "; reconciliation failed: " ++ reconcile)

def recoverDurableResidentSession (supply : Supply) (resourceId : ResourceId) (base : Archive) :
    Hosted Archive (ResidentWriteSession Archive) := do
  let sessionId := resourceId.toWorkbookId
  let records ← loadRecords sessionId
  let session ← Exec.lift (recoverFromRecords tools supply.epoch supply.ingested resourceId base
    records)
  match records.getLast? with
  | none => pure session
  | some last => do
    let history ← Exec.lift (PortableHistoryState.replayBound tools.digest records sessionId
      (tools.digest.archive base))
    if history.discarded then pure session
    else do
      commitRestart tools (restartRecord tools session history last.commitId supply.requestId
        supply.commitId)
      pure session

end Operations

end AgentSpreadsheet
