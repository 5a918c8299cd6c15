import AgentSpreadsheet.History
import Mathlib.Data.Finset.Sort
import Mathlib.Data.String.Basic

/-! Validation of the canonical outcome stored in a record. Every operation's
response is checked against the effects and the replayed state it answers for. -/
namespace AgentSpreadsheet
open Library

def canonicalSchemaVersion : String := "1"

def CanonicalData.revisionBefore : CanonicalData → Option String
  | .createFork _ => none
  | .discardFork data => some data.revisionBefore
  | .exportFork data => some data.revisionBefore
  | .write data => some data.revisionBefore
  | .recalculate data => some data.revisionBefore
  | .checkpointCreate before _ _ _ _ => some before
  | .checkpointRestore before _ _ _ _ _ _ _ _ => some before
  | .checkpointDelete before _ _ _ _ => some before
  | .stagedApply _ before _ _ _ _ _ _ => some before
  | .stagedDiscard before _ _ _ _ => some before
  | .historyMutation _ before _ _ _ => some before
  | .other => none

/-- `data["revision_after"].as_str()`, which only a discard outcome is asked for. -/
def CanonicalData.revisionAfter : CanonicalData → Option String
  | .createFork _ => none
  | .discardFork data => some data.revisionAfter
  | .exportFork data => some data.revisionAfter
  | .write data => some data.revisionAfter
  | .recalculate data => some data.revisionAfter
  | .checkpointCreate _ after _ _ _ => some after
  | .checkpointRestore _ after _ _ _ _ _ _ _ => some after
  | .checkpointDelete _ after _ _ _ => some after
  | .stagedApply _ _ after _ _ _ _ _ => some after
  | .stagedDiscard _ after _ _ _ => some after
  | .historyMutation _ _ after _ _ => some after
  | .other => none

def CanonicalData.warnings : CanonicalData → Option (List String)
  | .createFork data => some data.warnings
  | .discardFork data => some data.warnings
  | .exportFork data => some data.warnings
  | .write _ => none
  | .recalculate data => some data.warnings
  | .checkpointCreate _ _ _ _ warnings => some warnings
  | .checkpointRestore _ _ _ _ _ _ _ _ warnings => some warnings
  | .checkpointDelete _ _ _ _ warnings => some warnings
  | .stagedApply _ _ _ _ _ _ _ warnings => some warnings
  | .stagedDiscard _ _ _ _ warnings => some warnings
  | .historyMutation .. => none
  | .other => none

def isSha256Hex (text : String) : Bool :=
  text.toList.length == 64 &&
    text.toList.all fun c => c.isDigit || ('a' ≤ c && c ≤ 'f') || ('A' ≤ c && c ≤ 'F')

def xlsxMediaType : String :=
  "application/vnd.openxmlformats-officedocument.spreadsheetml.sheet"

/-- The text before the last colon and the text after it. -/
def rsplitColon (text : String) : Option (List Char × List Char) :=
  match (text.toList.splitOn ':').reverse with
  | counter :: first :: rest => some (List.intercalate [':'] (first :: rest).reverse, counter)
  | _ => none

/-- The revision one state step before, for a first record that has no
predecessor to name it. -/
def initialBefore (stateRevision : String) : Result String := do
  let (stem, counter) ← required (rsplitColon stateRevision) "invalid calculation revision"
  let counter ← required (parseU64 counter) "invalid digit found in string"
  ensure (counter ≠ 0) "invalid calculation counter"
  pure (String.ofList stem ++ ":" ++ toString (counter.toNat - 1))

namespace CanonicalOutcome
variable (H : Digest Archive) (record : PreparedResidentCommit Archive)
  (state : PortableHistoryState)

/-- The identity an outcome must carry whatever its operation. -/
def identityBinds (outcome : CanonicalOutcome) : Bool :=
  let response := outcome.response
  (match response.resourceId with
    | some resource => (resource.kind == .session || resource.kind == .fork) &&
        resource.toWorkbookId == record.sessionId
    | none => false) &&
  outcome.coreFingerprint == record.requestFingerprint &&
  isSha256Hex outcome.inputSha256 &&
  response.schemaVersion == canonicalSchemaVersion &&
  response.revisionId == some (if response.operation = "discard_fork" then
    response.data.revisionAfter.getD "" else record.stateRevision)

/-- The revision an outcome must name as the one before it. -/
def expectedBefore : Result String :=
  match findMember Effect.preparedTransaction record.effects with
  | .value prepared => .ok prepared.response.revisionBefore
  | _ =>
    match state.stateRevision with
    | some revision => .ok revision
    | none =>
      if record.transition = .calculationPublish ∨ record.transition = .branchCreate then
        initialBefore record.stateRevision
      else .ok record.stateRevision

def validateCreateFork (outcome : CanonicalOutcome) : Result Unit := do
  let request ← (findMember Effect.resourceCreation record.effects).get
    "creation lacks prepared request"
  match outcome.response.data with
  | .createFork data =>
    ensure (record.transition = .receipt ∧ record.parentCommitId = none ∧
        record.effects.length = 2 ∧ request.expectedRevision ≠ "" ∧
        (request.resourceId.kind = .wb → request.expectedRevision = record.baseSha256) ∧
        (findMember Effect.receiptOperation record.effects).isPresent = false ∧
        (findMember Effect.preparedTransaction record.effects).isPresent = false ∧
        data.label = request.label ∧ (request.label.all fun l => l.utf8ByteSize ≤ 1024) = true ∧
        data.baseResourceId = request.resourceId ∧
        data.baseRevisionId = request.expectedRevision ∧
        some data.forkResourceId = outcome.response.resourceId ∧
        data.revisionId = record.stateRevision ∧ data.ttlSeconds = none ∧
        outcome.inputSha256 = H.createFork request ∧ data.warnings = [])
      "canonical creation outcome differs from prepared activation"
  | _ => .error "malformed create_fork data"

def validateDiscardFork (outcome : CanonicalOutcome) : Result Unit := do
  let request ← (findMember Effect.resourceDiscard record.effects).get
    "discard lacks prepared request"
  match outcome.response.data with
  | .discardFork data =>
    ensure (record.transition = .receipt ∧ record.effects.length = 2 ∧
        some request.resourceId = outcome.response.resourceId ∧
        request.expectedRevision = record.stateRevision ∧
        data.revisionBefore = record.stateRevision ∧
        data.revisionAfter = "discarded:" ++ record.commitId ∧ data.discarded = true ∧
        outcome.inputSha256 = H.discardFork request)
      "canonical discard outcome differs from prepared tombstone"
  | _ => .error "malformed discard_fork data"

/-- Control characters and path separators become underscores, and the two dot
names are replaced whole. -/
def sanitizeFilenameComponent (input : String) : String :=
  let out := input.map fun c =>
    if c.toNat < 32 || (127 ≤ c.toNat && c.toNat < 160) || c == '/' || c == '\\' then '_' else c
  if out = "." ∨ out = ".." then "_" else out

def exportDestinationName (name : String) : Result String := do
  ensure (sanitizeFilenameComponent name = name ∧
      ".xlsx".toList.isSuffixOf (name.toList.map Char.toLower) = true)
    "invalid request: destination name must be a safe .xlsx filename"
  pure name

def validateExportFork (outcome : CanonicalOutcome) : Result Unit := do
  let prepared ← (findMember Effect.resourceExport record.effects).get
    "export lacks prepared artifact"
  match outcome.response.data with
  | .exportFork data => do
    let name ← exportDestinationName prepared.request.destination
    ensure (record.transition = .receipt ∧ record.effects.length = 2 ∧
        prepared.otherMembers = 0 ∧
        some prepared.request.resourceId = outcome.response.resourceId ∧
        prepared.request.expectedRevision = record.stateRevision ∧
        data.revisionBefore = record.stateRevision ∧
        data.revisionAfter = record.stateRevision ∧ prepared.artifact = data.artifact ∧
        data.destination = name ∧ isSha256Hex data.artifact.sha256 = true ∧
        data.artifact.artifactId = "artifact-" ++ data.artifact.sha256 ∧
        data.artifact.mediaType = xlsxMediaType ∧
        outcome.inputSha256 = H.exportFork prepared.request)
      "canonical export outcome differs from prepared artifact"
  | _ => .error "malformed export_fork data"

def validateWrite (outcome : CanonicalOutcome) : Result Unit :=
  match outcome.response.data, findMember Effect.preparedTransaction record.effects with
  | .write data, .value prepared =>
    ensure ((findMember Effect.receiptOperation record.effects).isPresent = false ∧
        (record.transition = .mutation ∨ record.transition = .catalogStage ∨
          record.transition = .receipt) ∧ prepared.response = data)
      "canonical write outcome differs from prepared transaction"
  | _, _ => .error "canonical write outcome differs from prepared transaction"

/-- The backend fields of a recalculation must be those its proof recorded. -/
def backendFieldsValid (data : RecalculateData) (proof : CalculationProof) : Bool :=
  match proof.externalResult with
  | some external =>
    external == data && data.backend == "libreoffice" && proof.backend == some "libreoffice" &&
    data.evaluationCoverage.source == .trustedCache &&
    data.status == (if data.state = .clean then "completed" else "completed_with_errors") &&
    data.evalErrors == none && data.errorCount == none && data.cellsEvaluated == none
  | none =>
    let status := if data.evaluationCoverage.errorFormulaCells > 0 ∨ proof.evalErrors ≠ [] then
      "completed_with_errors" else "success"
    data.backend == "formualizer" && data.status == status &&
    data.evalErrors == (if proof.evalErrors ≠ [] then some proof.evalErrors else none) &&
    data.errorCount == some data.evaluationCoverage.errorFormulaCells &&
    data.cellsEvaluated.isSome && data.cellsEvaluated == proof.cellsEvaluated

def validateRecalculate (outcome : CanonicalOutcome) : Result Unit :=
  match outcome.response.data, findMember Effect.calculationProof record.effects with
  | .recalculate data, .value proof =>
    ensure (record.transition = .calculationPublish ∧
        proof.coverage = .value data.evaluationCoverage ∧
        data.revisionAfter = record.stateRevision ∧
        data.state = data.evaluationCoverage.state ∧ backendFieldsValid data proof = true ∧
        proof.evaluationDurationMs = some data.durationMs ∧ data.warnings = [])
      "canonical calculation outcome differs from proof"
  | _, _ => .error "canonical calculation outcome differs from proof"

def checkpointIds (checkpoints : Finmap fun _ : String => ResidentCheckpoint) : List String :=
  checkpoints.keys.sort (· ≤ ·)

def validateCheckpoint (outcome : CanonicalOutcome) : Result Unit :=
  match outcome.response.data, record.transition with
  | .checkpointCreate _ after checkpoint total _, .checkpoint => do
    let expected ← required (state.checkpoints.lookup record.requestId)
      "checkpoint outcome references missing checkpoint"
    ensure (checkpoint.checkpointId = expected.id ∧
        checkpoint.snapshotRevision = expected.stateRevision ∧
        checkpoint.label = expected.label ∧ checkpoint.createdAt = none ∧
        checkpoint.recalcNeeded = true ∧ total = state.checkpoints.keys.card ∧
        after = record.stateRevision)
      "canonical checkpoint outcome mismatch"
  | .checkpointDelete _ after checkpointId deleted _, .checkpointDelete =>
    ensure ((findValue Effect.checkpointId record.effects).bind Value.asStr = some checkpointId ∧
        deleted = true ∧ after = record.stateRevision)
      "canonical checkpoint deletion mismatch"
  | .checkpointRestore _ after restored removed discarded retained invalidated recalcNeeded _,
      .checkout => do
    let expected ← required (state.checkpoints.lookup restored.checkpointId)
      "restored checkpoint outcome references missing checkpoint"
    ensure (restored.snapshotRevision = expected.stateRevision ∧
        restored.label = expected.label ∧ restored.createdAt = none ∧
        restored.recalcNeeded = true ∧
        (findValue Effect.checkpointId record.effects).bind Value.asStr =
          some restored.checkpointId ∧
        after = record.stateRevision ∧ removed = 0 ∧ discarded = 0 ∧ invalidated = [] ∧
        recalcNeeded = true ∧ retained = checkpointIds state.checkpoints)
      "canonical checkpoint restoration mismatch"
  | _, _ => .error "canonical checkpoint action/transition mismatch"

def validateStagedChange (outcome : CanonicalOutcome) : Result Unit :=
  match outcome.response.data, record.transition with
  | .stagedApply head before after changeId opsApplied opKinds recalcNeeded _, .stageApply => do
    let prepared ← (findMember Effect.preparedTransaction record.effects).get
      "stage apply lacks prepared transaction"
    ensure (head = none ∨ head = record.resultingHead)
      "staged apply head differs from committed history"
    ensure (recalcNeeded ≠ state.calculationCurrent ∧
        prepared.consumeStaged = some changeId ∧ prepared.response.revisionBefore = before ∧
        after = record.stateRevision ∧ prepared.response.ops = opsApplied ∧
        prepared.response.impact.opKinds = opKinds)
      "canonical staged apply outcome mismatch"
  | .stagedDiscard _ after changeId discarded _, transition => do
    ensure (transition = .catalogDiscard ∨ transition = .receipt)
      "canonical staging action/transition mismatch"
    ensure ((transition = .receipt →
          findMember Effect.receiptOperation record.effects = .value .catalogDiscard) ∧
        (findValue Effect.discardStagedChangeId record.effects).bind Value.asStr =
          some changeId ∧
        after = record.stateRevision ∧ discarded = decide (transition = .catalogDiscard))
      "canonical staged discard mismatch"
  | _, _ => .error "canonical staging action/transition mismatch"

def validateSessionHistory (outcome : CanonicalOutcome) : Result Unit :=
  match outcome.response.data with
  | .historyMutation transition _ after head branch => do
    let expected ← if record.transition = .receipt then
        (findMember Effect.receiptOperation record.effects).get "history receipt lacks action"
      else pure record.transition
    ensure ((expected = .undo ∨ expected = .redo ∨ expected = .checkout ∨
          expected = .branchCreate ∨ expected = .branchSwitch) ∧
        transition = expected ∧ after = record.stateRevision ∧
        head = record.resultingHead ∧ branch = record.resultingBranch)
      "canonical history outcome/transition mismatch"
  | _ => .error "read-only history cannot authorize a transition"

def validateOperation (outcome : CanonicalOutcome) : Result Unit :=
  let operation := outcome.response.operation
  if operation = "create_fork" then validateCreateFork H record outcome
  else if operation = "discard_fork" then validateDiscardFork H record outcome
  else if operation = "export_fork" then validateExportFork H record outcome
  else if operation = "write" then validateWrite record outcome
  else if operation = "recalculate" then validateRecalculate record outcome
  else if operation = "checkpoint" then validateCheckpoint record state outcome
  else if operation = "staged_change" then validateStagedChange record state outcome
  else if operation = "session_history" then validateSessionHistory record outcome
  else .error "canonical outcome cannot authorize this transition"

/-- A typed metadata effect stands alone in its object. -/
def separate (key : Effect Archive → Member α) : Bool :=
  record.effects.all fun e => !(key e).isPresent || e.size == 1

/-- `canonical_outcome::validate`. `state` is the replayed state after the
record's own transition; its `stateRevision` is still the one before it. -/
def validate : Result Unit :=
  match record.effects.filter fun e => e.canonicalOutcome.isPresent with
  | [] => .ok ()
  | [effect] => do
    ensure (effect.size = 1) "canonical metadata must be a separate typed effect"
    let outcome ← effect.canonicalOutcome.get "canonical metadata must be a separate typed effect"
    let response := outcome.response
    ensure (identityBinds record outcome = true) "canonical outcome identity binding mismatch"
    ensure (separate record Effect.resourceExport = true)
      "export metadata must be a separate typed effect"
    ensure (separate record Effect.resourceDiscard = true)
      "discard metadata must be a separate typed effect"
    ensure ((findMember Effect.resourceDiscard record.effects).isPresent = true →
      response.operation = "discard_fork") "discard receipt requires a discard outcome"
    ensure ((findMember Effect.resourceExport record.effects).isPresent = true →
      response.operation = "export_fork") "export receipt requires an export outcome"
    ensure ((findMember Effect.resourceCreation record.effects).isPresent = true →
      response.operation = "create_fork") "creation receipt requires a creation outcome"
    ensure (separate record Effect.resourceCreation = true)
      "creation metadata must be a separate typed effect"
    match response.data.revisionBefore with
    | none => pure ()
    | some before => do
      let expected ← expectedBefore record state
      ensure (before = expected) "canonical outcome before revision mismatch"
    ensure (response.operation = "write" ∨ response.operation = "session_history" ∨
      response.data.warnings = some []) "canonical outcome contains unprepared warnings"
    validateOperation H record state outcome
  | _ => .error "duplicate canonical outcome metadata"

end CanonicalOutcome

end AgentSpreadsheet
