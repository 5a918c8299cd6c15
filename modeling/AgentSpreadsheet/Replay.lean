import AgentSpreadsheet.Outcome

/-! Replay of a resident journal. The loop body of the source is cut into the
checks it makes in order: admission, prepared transaction, control shape, the
transition itself, the resulting state, the revision progression, ABA, the
calculation status and the canonical outcome. -/
namespace AgentSpreadsheet
open Library

def planId (H : Digest Archive) (identity : String) : String :=
  "file_export_plan_" ++ H.text identity

def FileExportPlan.validate (plan : FileExportPlan) (sessionId : String) : Result Unit := do
  ensure (plan.intent.resourceId = "fork:" ++ sessionId ∨
    plan.intent.resourceId = "session:" ++ sessionId) "file export resource mismatch"
  ensure (plan.intent.requestId ≠ "" ∧ plan.intent.requestId.utf8ByteSize ≤ 256)
    "invalid file export request identity"
  ensure ((plan.intent.expectedRevision.all (· == plan.revisionId)) = true)
    "file export named revision mismatch"
  ensure ((plan.destinationGeneration.all fun generation => generation == "missing" ||
      ("sha256:".toList.isPrefixOf generation.toList &&
        isSha256Hex (String.ofList (generation.toList.drop 7)))) = true)
    "invalid export destination generation"
  ensure (plan.destination ≠ "" ∧ plan.destination.utf8ByteSize ≤ 4096)
    "invalid export destination"
  ensure ((plan.intent.destination.all (· == plan.destination)) = true)
    "export destination differs from explicit intent"
  ensure (plan.artifact.bytes ≤ 64 * 1024 * 1024 ∧ isSha256Hex plan.artifact.sha256 = true ∧
    plan.artifact.artifactId = "artifact-" ++ plan.artifact.sha256) "invalid capture metadata"
  ensure (isSha256Hex plan.sourceSha256 = true) "invalid source binding"
  ensure (plan.artifact.mediaType = xlsxMediaType) "invalid export media type"

namespace PreparedResidentCommit
variable (record : PreparedResidentCommit Archive)

/-- The prepared transaction of a record, when it carries one. -/
def preparedTransaction : Result (Option (PreparedResidentTransaction Archive)) :=
  (findMember Effect.preparedTransaction record.effects).decode

/-- Whether the record publishes a document change. -/
def publishesDocument : Bool :=
  match findMember Effect.preparedTransaction record.effects with
  | .value prepared => prepared.publication.publishesDocument
  | _ => false

end PreparedResidentCommit

/-- Every target is inside the XLSX grid and named once. -/
def cellTargetsValid : List ResidentPreparedCellEffect → Finset (String × Nat × Nat) → Bool
  | [], _ => true
  | effect :: rest, seen =>
    effect.sheetName ≠ "" && effect.row ≠ 0 && effect.column ≠ 0 && effect.row ≤ 1048576 &&
    effect.column ≤ 16384 && (effect.sheetName, effect.row, effect.column) ∉ seen &&
    cellTargetsValid rest (insert (effect.sheetName, effect.row, effect.column) seen)

def validatePublication (H : Digest Archive) : PreparedResidentPublication Archive → Result Unit
  | .none => .ok ()
  | .cells effects => do
    ensure (effects ≠ []) "document publication has no cell effects"
    ensure (cellTargetsValid effects ∅ = true) "prepared cell target is invalid or duplicated"
  | .snapshot _ bytes sha256 _ =>
    ensure (H.archive bytes = sha256) "prepared snapshot content identity mismatch"

def validatePortablePreparedRecord (H : Digest Archive) (record : PreparedResidentCommit Archive)
    (previousRevision : Option String) : Result Unit := do
  match ← record.preparedTransaction with
  | none =>
    ensure (record.transition ≠ .mutation ∧ record.transition ≠ .stageApply ∧
      record.transition ≠ .catalogStage) "transition requires prepared transaction"
  | some prepared =>
    ensure (prepared.baseSha256 = record.baseSha256 ∧
      prepared.response.revisionAfter = record.stateRevision)
      "prepared transaction identity/result mismatch"
    ensure ((previousRevision.all (· == prepared.response.revisionBefore)) = true)
      "prepared transaction before revision mismatch"
    validatePublication H prepared.publication
    let publishes := prepared.publication.publishesDocument
    ensure ((publishes = true → record.transition = .mutation ∨ record.transition = .stageApply) ∧
      (publishes = false → record.transition ≠ .mutation) ∧
      (prepared.staged.isSome = true ↔ record.transition = .catalogStage) ∧
      (prepared.consumeStaged.isSome = true ↔ record.transition = .stageApply))
      "prepared publication/control relationship mismatch"
    ensure (record.transition = .mutation ∨ record.transition = .stageApply ∨
      record.transition = .catalogStage ∨ record.transition = .receipt)
      "control cannot carry prepared document transaction"

/-- What a record with a prepared transaction passes. -/
theorem validatePortablePreparedRecord_value {H : Digest Archive}
    {record : PreparedResidentCommit Archive} {previousRevision : Option String}
    {prepared : PreparedResidentTransaction Archive}
    (h : findMember Effect.preparedTransaction record.effects = .value prepared) :
    validatePortablePreparedRecord H record previousRevision = .ok () ↔
      (prepared.baseSha256 = record.baseSha256 ∧
        prepared.response.revisionAfter = record.stateRevision) ∧
      (previousRevision.all (· == prepared.response.revisionBefore)) = true ∧
      validatePublication H prepared.publication = .ok () ∧
      ((prepared.publication.publishesDocument = true →
          record.transition = .mutation ∨ record.transition = .stageApply) ∧
        (prepared.publication.publishesDocument = false → record.transition ≠ .mutation) ∧
        (prepared.staged.isSome = true ↔ record.transition = .catalogStage) ∧
        (prepared.consumeStaged.isSome = true ↔ record.transition = .stageApply)) ∧
      (record.transition = .mutation ∨ record.transition = .stageApply ∨
        record.transition = .catalogStage ∨ record.transition = .receipt) := by
  have hread : record.preparedTransaction = .ok (some prepared) := by
    unfold PreparedResidentCommit.preparedTransaction
    rw [h]
    rfl
  unfold validatePortablePreparedRecord
  rw [hread]
  change (do
    ensure _ _
    ensure _ _
    validatePublication H prepared.publication
    ensure _ _
    ensure _ _) = Except.ok () ↔ _
  simp only [check_bind_eq_ok, ensure_eq_ok]

structure Replay where
  state : PortableHistoryState
  commitIds : Finset String
  requestIds : Finset String
  visibleStates : Finset (String × Nat)
  deriving DecidableEq

def Replay.start (sessionId baseSha256 : String) : Replay :=
  ⟨PortableHistoryState.empty sessionId baseSha256, ∅, ∅, ∅⟩

section Step
variable (H : Digest Archive) (record : PreparedResidentCommit Archive)

/-- Schema, identity, fresh ids and the linear predecessor. -/
def Replay.admitRecord (r : Replay) : Result Unit := do
  ensure (r.state.discarded = false)
    "resident journal contains a transition after resource discard"
  ensure (record.schemaVersion = residentCommitSchema)
    ("unsupported required resident commit schema '" ++ record.schemaVersion ++ "'")
  ensure (record.sessionId = r.state.sessionId ∧ record.baseSha256 = r.state.baseSha256)
    "resident history session/base identity mismatch"
  ensure (record.commitId ≠ "" ∧ record.commitId ∉ r.commitIds)
    "duplicate or empty resident commit id"
  ensure (record.requestId ≠ "" ∧ record.requestId ∉ r.requestIds)
    "duplicate or empty resident request id in stream"
  ensure (record.parentCommitId = r.state.streamTip) "resident linear predecessor mismatch"

/-- Document ancestry, history targets, the restart boundary and the isolation
of file-export receipts. -/
def checkControl (state : PortableHistoryState) : Result Unit := do
  ensure (record.historyParentCommitId.isSome = true →
    record.transition = .mutation ∨ record.transition = .stageApply)
    "control transition cannot have document ancestry"
  if record.transition = .undo ∨ record.transition = .redo ∨ record.transition = .checkout then
    let target ← required (findValue Effect.targetHead record.effects)
      "history control lacks prepared target"
    let target ← target.toOption
    ensure (target = record.resultingHead) "history control target/result mismatch"
  ensure (record.transition = .restart →
    record.effects.any (fun e => e.restartBoundary.bind Value.asBool == some true) = true)
    "restart lacks explicit boundary"
  ensure (record.requestId ∈ state.fileExportPlans →
    record.effects.any (fun e => e.fileExportResult.isPresent) = true)
    "request identity reserved by a pending file export"
  if record.effects.any (fun e => e.fileExportPlan.isPresent || e.fileExportResult.isPresent) then
    ensure (record.transition = .receipt ∧ record.effects.length = 1 ∧
      record.effects.all (fun e => e.size == 1) = true)
      "file export must be a separate typed receipt"
    ensure (H.control record.baseSha256 record.transition record.effects record.resultingHead
      record.resultingBranch record.resultingBranches = record.requestFingerprint)
      "file export request fingerprint mismatch"

/-- A no-op receipt is only for an operation that has nothing to do here. -/
def checkReceiptOperation (state : PortableHistoryState) (operation : ResidentTransition) :
    Result Unit :=
  match operation with
  | .undo => ensure (state.head = none) "invalid no-op receipt operation/state"
  | .redo => do
    let target ← state.redoTarget
    ensure (target = none) "invalid no-op receipt operation/state"
  | .catalogDiscard => do
    let id ← required ((findValue Effect.discardStagedChangeId record.effects).bind Value.asStr)
      "discard receipt lacks identity"
    ensure (id ∉ state.catalogIds) "discard receipt would have catalog effects"
  | .calculationInvalidate => .ok ()
  | _ => .error "invalid no-op receipt operation/state"

/-- `requestIds` already holds the record's own request id. -/
def admitFileExportPlan (state : PortableHistoryState) (requestIds : Finset String)
    (plan : FileExportPlan) : Result PortableHistoryState := do
  plan.validate state.sessionId
  let ancestry ← state.activeAncestry
  ensure (record.effects.length = 1 ∧ record.effects.all (fun e => e.size == 1) = true ∧
    record.requestId = planId H plan.intent.requestId ∧
    plan.intent.requestId ∉ requestIds ∧ plan.revisionId = record.stateRevision ∧
    plan.head = state.head ∧ plan.eventsReplayed = ancestry.length ∧
    state.fileExportPlans.keys.card < 128 ∧ plan.intent.requestId ∉ state.fileExportPlans)
    "invalid or duplicate file export plan"
  pure { state with fileExportPlans := state.fileExportPlans.insert plan.intent.requestId plan }

def admitFileExportResult (state : PortableHistoryState) (result : FileExportResult) :
    Result PortableHistoryState := do
  let plan ← required (state.fileExportPlans.lookup result.requestId)
    "file export result lacks plan"
  ensure (record.effects.length = 1 ∧ record.effects.all (fun e => e.size == 1) = true ∧
    record.requestId = result.requestId ∧ plan.result = result ∧
    result.requestId ∉ state.fileExportResults) "invalid file export result"
  pure { state with fileExportResults := state.fileExportResults.insert result.requestId result }

def applyReceipt (state : PortableHistoryState) (requestIds : Finset String) :
    Result PortableHistoryState := do
  let has (key : Effect Archive → Bool) := record.effects.any key
  if (findMember Effect.receiptOperation record.effects).isPresent then
    let operation ← (findMember Effect.receiptOperation record.effects).get "missing operation"
    checkReceiptOperation record state operation
    pure state
  else if has fun e => e.resourceCreation.isPresent then
    ensure (state.streamTip = none ∧ record.parentCommitId = none ∧
      has (fun e => e.canonicalOutcome.isPresent) = true)
      "creation receipt must be the initial canonical outcome"
    pure state
  else if has fun e => e.resourceDiscard.isPresent then
    ensure (has (fun e => e.canonicalOutcome.isPresent) = true)
      "discard receipt requires its canonical outcome"
    pure { state with discarded := true }
  else if has fun e => e.resourceExport.isPresent then
    ensure (has (fun e => e.canonicalOutcome.isPresent) = true)
      "export receipt requires its canonical outcome"
    pure state
  else if (findMember Effect.fileExportPlan record.effects).isPresent then
    let plan ← (findMember Effect.fileExportPlan record.effects).get "missing plan"
    admitFileExportPlan H record state requestIds plan
  else if (findMember Effect.fileExportResult record.effects).isPresent then
    let result ← (findMember Effect.fileExportResult record.effects).get "missing result"
    admitFileExportResult record state result
  else
    ensure (has (fun e => e.preparedTransaction.isPresent) = true)
      "receipt lacks persisted outcome"
    pure state

/-- Publication moves the head and the current branch's tip to the new commit. -/
def applyPublication (state : PortableHistoryState) : Result PortableHistoryState := do
  if record.publishesDocument then
    ensure (record.historyParentCommitId = state.head)
      "resident document-history parent mismatch"
    pure { state with
      historyParents := state.historyParents.insert record.commitId record.historyParentCommitId
      head := some record.commitId
      branches := state.branches.insert state.currentBranch (some record.commitId) }
  else
    ensure (record.historyParentCommitId = none)
      "catalog-only staged apply cannot have document ancestry"
    pure state

def applyMutation (state : PortableHistoryState) : Result PortableHistoryState := do
  ensure (record.effects.any (fun e => e.preparedTransaction.isPresent) = true)
    "mutation lacks prepared transaction"
  applyPublication record state

def applyStageApply (state : PortableHistoryState) : Result PortableHistoryState := do
  let state ← applyMutation record state
  let prepared ← (findMember Effect.preparedTransaction record.effects).get
    "mutation lacks prepared transaction"
  let changeId ← required prepared.consumeStaged "stage-apply lacks consumed staged identity"
  ensure (changeId ∈ state.catalogIds) "stage-apply references missing staged change"
  pure { state with
    catalogIds := state.catalogIds.erase changeId
    catalogGeneration := state.catalogGeneration + 1 }

def applyCatalogStage (state : PortableHistoryState) : Result PortableHistoryState := do
  ensure (record.historyParentCommitId = none) "catalog transition cannot have a history parent"
  let prepared ← (findMember Effect.preparedTransaction record.effects).get
    "catalog-stage lacks staged identity"
  let (changeId, _) ← required prepared.staged "catalog-stage lacks staged identity"
  ensure (changeId ∉ state.catalogIds) "duplicate staged change identity"
  pure { state with
    catalogIds := insert changeId state.catalogIds
    catalogGeneration := state.catalogGeneration + 1 }

def applyCatalogDiscard (state : PortableHistoryState) : Result PortableHistoryState := do
  ensure (record.historyParentCommitId = none) "catalog transition cannot have a history parent"
  let changeId ← required
    ((findValue Effect.discardStagedChangeId record.effects).bind Value.asStr)
    "catalog-discard lacks staged identity"
  ensure (changeId ∈ state.catalogIds) "catalog-discard references missing staged change"
  pure { state with
    catalogIds := state.catalogIds.erase changeId
    catalogGeneration := state.catalogGeneration + 1 }

def checkCalculationPublish : Result Unit := do
  ensure (record.historyParentCommitId = none)
    "non-mutation transition cannot have a history parent"
  let proof ← (findMember Effect.calculationProof record.effects).get
    "calculation publication lacks snapshot"
  let coverage ← proof.coverage.get "calculation publication lacks coverage"
  ensure (coverage.revisionId = record.stateRevision ∧
    coverage.evaluatedFormulaCells = coverage.formulaCells ∧
    coverage.unsupportedFormulaCells = 0)
    "calculation proof is not complete for the resulting revision"

def applyCheckpoint (state : PortableHistoryState) : PortableHistoryState :=
  { state with
    checkpoints := state.checkpoints.insert record.requestId {
      id := record.requestId
      head := state.head
      stateRevision := record.stateRevision
      label := (findValue Effect.label record.effects).bind Value.asStr }
    catalogGeneration := state.catalogGeneration + 1 }

def applyCheckpointDelete (state : PortableHistoryState) : Result PortableHistoryState := do
  let id ← required ((findValue Effect.checkpointId record.effects).bind Value.asStr)
    "checkpoint delete lacks identity"
  ensure (id ∈ state.checkpoints) "unknown checkpoint"
  pure { state with
    checkpoints := state.checkpoints.erase id
    catalogGeneration := state.catalogGeneration + 1 }

/-- The document parent of the head; the base has none. -/
def PortableHistoryState.undoTarget (state : PortableHistoryState) : Option String :=
  (state.head.bind state.historyParents.lookup).join

def applyUndo (state : PortableHistoryState) : Result PortableHistoryState := do
  ensure (record.resultingHead = state.undoTarget) "invalid undo target"
  pure { state with head := state.undoTarget }

def checkHistoryTarget (state : PortableHistoryState) : Result Unit :=
  ensure (∀ target, record.resultingHead = some target → target ∈ state.historyParents)
    "history move references unknown mutation"

def applyRedo (state : PortableHistoryState) : Result PortableHistoryState := do
  checkHistoryTarget record state
  let parent := (record.resultingHead.bind state.historyParents.lookup).join
  let redo ← state.redoTarget
  ensure (parent = state.head ∧ record.resultingHead = redo)
    "redo target is not the selected branch successor"
  pure { state with head := record.resultingHead }

def applyCheckout (state : PortableHistoryState) : Result PortableHistoryState := do
  checkHistoryTarget record state
  pure { state with head := record.resultingHead }

/-- An older record names no target and means the head. -/
def branchTarget (state : PortableHistoryState) : Result (Option String) :=
  match findValue Effect.branchTarget record.effects with
  | none => .ok state.head
  | some .null => .ok none
  | some (.text target) =>
    if target ∈ state.historyParents then .ok (some target)
    else .error "branch-create references an invalid mutation target"
  | some _ => .error "branch-create references an invalid mutation target"

def branchTargetMatches (state : PortableHistoryState) (target : Option String) : Bool :=
  match findValue Effect.requestedTarget record.effects with
  | none => true
  | some .null => target == state.head
  | some (.text value) => if value = "base" then target == none else target == some value
  | some _ => false

def branchLabels (state : PortableHistoryState) (name : String) :
    Result (Finmap fun _ : String => String) :=
  match findValue Effect.branchLabel record.effects with
  | none => .ok state.branchLabels
  | some .null => .ok state.branchLabels
  | some (.text label) =>
    if label.utf8ByteSize ≤ 1024 then .ok (state.branchLabels.insert name label)
    else .error "branch-create has invalid label"
  | some _ => .error "branch-create has invalid label"

def applyBranchCreate (state : PortableHistoryState) : Result PortableHistoryState := do
  let name ← required ((findValue Effect.branchName record.effects).bind Value.asStr)
    "branch-create lacks branch_name"
  ensure (name ∉ state.branches) "branch already exists"
  let target ← branchTarget record state
  ensure (branchTargetMatches record state target = true)
    "branch-create target differs from request"
  let labels ← branchLabels record state name
  pure { state with branchLabels := labels, branches := state.branches.insert name target }

def applyBranchSwitch (state : PortableHistoryState) : Result PortableHistoryState := do
  let name ← required ((findValue Effect.branchName record.effects).bind Value.asStr)
    "branch-switch lacks branch_name"
  let target ← required (state.branches.lookup name) "branch-switch references unknown branch"
  pure { state with currentBranch := name, head := target }

def applyTransition (state : PortableHistoryState) (requestIds : Finset String) :
    Result PortableHistoryState :=
  match record.transition with
  | .receipt => applyReceipt H record state requestIds
  | .mutation => applyMutation record state
  | .stageApply => applyStageApply record state
  | .catalogStage => applyCatalogStage record state
  | .catalogDiscard => applyCatalogDiscard record state
  | .calculationPublish => do
    checkCalculationPublish record
    pure state
  | .calculationInvalidate => do
    ensure (record.historyParentCommitId = none ∧
      record.effects.any (fun e => (e.reason.bind Value.asStr).isSome) = true)
      "invalid calculation-proof revocation"
    pure state
  | .checkpoint => .ok (applyCheckpoint record state)
  | .checkpointDelete => applyCheckpointDelete record state
  | .restart => do
    ensure (record.historyParentCommitId = none)
      "non-mutation transition cannot have a history parent"
    pure state
  | .undo => applyUndo record state
  | .redo => applyRedo record state
  | .checkout => applyCheckout record state
  | .branchCreate => applyBranchCreate record state
  | .branchSwitch => applyBranchSwitch record state

def checkResult (state : PortableHistoryState) : Result Unit :=
  ensure (record.resultingHead = state.head ∧ record.resultingBranch = state.currentBranch ∧
    record.resultingBranches = state.branches ∧
    record.catalogGeneration = state.catalogGeneration)
    "resident transition resulting state is inconsistent"

/-- Transitions that leave the state counter alone. -/
def catalogOnly : Bool :=
  record.transition = .catalogStage || record.transition = .catalogDiscard ||
  record.transition = .checkpoint || record.transition = .checkpointDelete ||
  record.transition = .receipt ||
  (record.transition = .stageApply && !record.publishesDocument)

/-- Transitions that advance the document counter. -/
def documentChange (headBefore : Option String) : Bool :=
  record.publishesDocument || record.transition = .undo || record.transition = .redo ||
  record.transition = .checkout ||
  (record.transition = .branchSwitch && headBefore ≠ record.resultingHead)

/-- The revision before the record: the replayed one, or for a first record the
one its prepared response names. -/
def previousRevision (stateRevision : Option String) : Option String :=
  match stateRevision with
  | some revision => some revision
  | none =>
    match findMember Effect.preparedTransaction record.effects with
    | .value prepared => some prepared.response.revisionBefore
    | _ => none

/-- The counters are `u64`, and their addition wraps. -/
def checkProgression (stateRevision headBefore : Option String) : Result Unit := do
  let next ← parseRevision record.stateRevision
  match previousRevision record stateRevision with
  | none => pure ()
  | some previous => do
    let previous ← parseRevision previous
    ensure (next.epoch = previous.epoch ∧
      next.document = previous.document + (if documentChange record headBefore then 1 else 0) ∧
      next.state = previous.state + (if catalogOnly record then 0 else 1))
      "invalid transition-specific resident revision progression"

/-- Whether the calculation is current after the record. -/
def calculationAfter (current : Bool) (headBefore : Option String) : Bool :=
  match record.transition with
  | .calculationPublish => true
  | .calculationInvalidate | .restart | .undo | .redo | .checkout => false
  | .branchSwitch => if headBefore ≠ record.resultingHead then false else current
  | .mutation | .stageApply =>
    match findMember Effect.preparedTransaction record.effects with
    | .value prepared =>
      match prepared.publication with
      | .none => current
      | .cells _ => false
      | .snapshot _ _ _ effect => if effect = .preserve then current else false
    | _ => current
  | _ => current

/-- The state after the record's transition with the calculation status set. -/
def settle (before after : PortableHistoryState) : PortableHistoryState :=
  { after with calculationCurrent := calculationAfter record after.calculationCurrent before.head }

def Replay.extend (r : Replay) (state : PortableHistoryState) : Replay where
  state := { state with
    streamTip := some record.commitId, stateRevision := some record.stateRevision }
  commitIds := insert record.commitId r.commitIds
  requestIds := insert record.requestId r.requestIds
  visibleStates := if record.transition = .receipt then r.visibleStates
    else insert (record.stateRevision, record.catalogGeneration) r.visibleStates

def Replay.step (r : Replay) : Result Replay := do
  r.admitRecord record
  validatePortablePreparedRecord H record r.state.stateRevision
  checkControl H record r.state
  let state ← applyTransition H record r.state (insert record.requestId r.requestIds)
  checkResult record state
  checkProgression record r.state.stateRevision r.state.head
  ensure (record.transition ≠ .receipt →
    (record.stateRevision, record.catalogGeneration) ∉ r.visibleStates)
    "resident observable state ABA detected"
  let state := settle record r.state state
  CanonicalOutcome.validate H record state
  pure (r.extend record state)

/-- Everything an accepted record passes; `state` is the one after its transition. -/
structure Accepted (r : Replay) (state : PortableHistoryState) : Prop where
  admitted : r.admitRecord record = .ok ()
  prepared : validatePortablePreparedRecord H record r.state.stateRevision = .ok ()
  control : checkControl H record r.state = .ok ()
  applied : applyTransition H record r.state (insert record.requestId r.requestIds) = .ok state
  result : checkResult record state = .ok ()
  progression : checkProgression record r.state.stateRevision r.state.head = .ok ()
  fresh : record.transition ≠ .receipt →
    (record.stateRevision, record.catalogGeneration) ∉ r.visibleStates
  outcome : CanonicalOutcome.validate H record (settle record r.state state) = .ok ()

theorem Replay.step_eq_ok {r r' : Replay} : r.step H record = .ok r' ↔
    ∃ state, Accepted H record r state ∧ r' = r.extend record (settle record r.state state) := by
  constructor
  · intro h
    simp only [Replay.step, bind_eq_ok, pure_eq_ok, ensure_eq_ok] at h
    obtain ⟨⟨⟩, hadmitted, ⟨⟩, hprepared, ⟨⟩, hcontrol, state, happlied, ⟨⟩, hresult, ⟨⟩, hprog, ⟨⟩,
      hfresh, ⟨⟩, houtcome, rfl⟩ := h
    exact ⟨state, ⟨hadmitted, hprepared, hcontrol, happlied, hresult, hprog, hfresh, houtcome⟩, rfl⟩
  · rintro ⟨state, h, rfl⟩
    simp only [Replay.step, bind_eq_ok, pure_eq_ok, ensure_eq_ok]
    exact ⟨(), h.admitted, (), h.prepared, (), h.control, state, h.applied, (), h.result, (),
      h.progression, (), h.fresh, (), h.outcome, rfl⟩

end Step

/-- The loop from the state a session and base identity start in. -/
def replayFrom (H : Digest Archive) (sessionId baseSha256 : String)
    (records : List (PreparedResidentCommit Archive)) : Result Replay :=
  records.foldlM (fun r record => r.step H record) (Replay.start sessionId baseSha256)

namespace PortableHistoryState
variable (H : Digest Archive) (records : List (PreparedResidentCommit Archive))

def replayValidatedIdentity : Result PortableHistoryState := do
  let first ← required records.head? "history stream is empty"
  let r ← replayFrom H first.sessionId first.baseSha256 records
  pure r.state

def replayBound (sessionId baseSha256 : String) : Result PortableHistoryState := do
  ensure (∀ record ∈ records, record.sessionId = sessionId ∧ record.baseSha256 = baseSha256)
    "resident history expected session/base identity mismatch"
  if records = [] then pure (empty sessionId baseSha256)
  else replayValidatedIdentity H records

def replay : Result PortableHistoryState := do
  let first ← required records.head? "history stream is empty"
  replayBound H records first.sessionId first.baseSha256

variable {H records}

/-- An owner's replay is the loop from its own identity. -/
theorem replayBound_eq_ok {sessionId baseSha256 : String} {s : PortableHistoryState} :
    replayBound H records sessionId baseSha256 = .ok s ↔
      (∀ record ∈ records, record.sessionId = sessionId ∧ record.baseSha256 = baseSha256) ∧
      ∃ r, replayFrom H sessionId baseSha256 records = .ok r ∧ r.state = s := by
  cases records with
  | nil => simp [replayBound, replayFrom, Replay.start]
  | cons first rest =>
    simp only [replayBound, replayValidatedIdentity, bind_eq_ok, ensure_eq_ok, pure_eq_ok,
      required_eq_ok, List.head?_cons, Option.some.injEq, reduceCtorEq, if_false,
      exists_eq_left', exists_and_left, exists_const]
    constructor
    · rintro ⟨hids, r, hr, rfl⟩
      obtain ⟨hs, hb⟩ := hids first List.mem_cons_self
      exact ⟨hids, r, hs ▸ hb ▸ hr, rfl⟩
    · rintro ⟨hids, r, hr, rfl⟩
      obtain ⟨hs, hb⟩ := hids first List.mem_cons_self
      exact ⟨hids, r, by rw [hs, hb]; exact hr, rfl⟩

/-- Replaying an extended stream continues from where the shorter one ended. -/
theorem replayBound_append {more : List (PreparedResidentCommit Archive)}
    {sessionId baseSha256 : String} {s s' : PortableHistoryState}
    (h : replayBound H records sessionId baseSha256 = .ok s)
    (h' : replayBound H (records ++ more) sessionId baseSha256 = .ok s') :
    ∃ r r', replayFrom H sessionId baseSha256 records = .ok r ∧ r.state = s ∧
      more.foldlM (fun r record => r.step H record) r = .ok r' ∧ r'.state = s' := by
  obtain ⟨_, r, hr, rfl⟩ := replayBound_eq_ok.mp h
  obtain ⟨_, r', hr', rfl⟩ := replayBound_eq_ok.mp h'
  unfold replayFrom at hr hr'
  rw [List.foldlM_append, hr] at hr'
  exact ⟨r, r', hr, rfl, hr', rfl⟩

theorem replayBound_concat {record : PreparedResidentCommit Archive}
    {sessionId baseSha256 : String} {s s' : PortableHistoryState}
    (h : replayBound H records sessionId baseSha256 = .ok s)
    (h' : replayBound H (records ++ [record]) sessionId baseSha256 = .ok s') :
    ∃ r state, replayFrom H sessionId baseSha256 records = .ok r ∧ r.state = s ∧
      Accepted H record r state ∧ s' = (r.extend record (settle record s state)).state := by
  obtain ⟨r, r', hr, rfl, hstep, rfl⟩ := replayBound_append h h'
  simp only [List.foldlM_cons, List.foldlM_nil, bind_eq_ok, pure_eq_ok] at hstep
  obtain ⟨_, hstep, rfl⟩ := hstep
  obtain ⟨state, haccepted, rfl⟩ := (Replay.step_eq_ok H record).mp hstep
  exact ⟨r, state, hr, rfl, haccepted, rfl⟩

end PortableHistoryState

end AgentSpreadsheet
