import AgentSpreadsheet.Recovery

/-! Durable operations of a resident session. Each loads and replays the journal,
proposes one record, commits it and publishes what it committed; a storage call
may fail on either side of its effect. -/
namespace AgentSpreadsheet
open Library

/-- The host's storage and how its calls to come will go. `outcome` is the
response the outcome decorator has captured; `submitted` is the record the last
commit call was given. -/
structure HostStorage (Archive : Type) where
  store : RecordStore Archive
  faults : List StorageFault
  outcome : Option CanonicalResponse
  submitted : Option (PreparedResidentCommit Archive)

abbrev Hosted (Archive α : Type) := Exec (HostStorage Archive) String α

structure World (Archive : Type) where
  session : ResidentWriteSession Archive
  host : HostStorage Archive

abbrev Durable (Archive α : Type) := Exec (World Archive) String α

/-- The decorator that stores a canonical outcome in the record it commits. -/
structure OutcomeStorage (Archive : Type) where
  requestId : String
  inputSha256 : String
  prepare : PreparedResidentCommit Archive → Result CanonicalResponse

abbrev Storage (Archive : Type) := Option (OutcomeStorage Archive)

/-- What one operation gets from outside: random identities, and whether an
evaluator takes the bytes and the cells it is given. -/
structure Supply where
  commitId : String
  changeId : String
  requestId : String
  epoch : String
  ingested : Bool
  synchronized : Bool
  deriving DecidableEq, Repr

def onSession (call : Owner Archive α) : Durable Archive α := fun w =>
  ((call w.session).1, { w with session := (call w.session).2 })

def onHost (call : Hosted Archive α) : Durable Archive α := fun w =>
  ((call w.host).1, { w with host := (call w.host).2 })

def poison (reason : String) : Durable Archive Unit :=
  Exec.modify fun w => { w with session := { w.session with poisoned := some reason } }

def unpoison : Durable Archive Unit :=
  Exec.modify fun w => { w with session := { w.session with poisoned := none } }

section HostStorage
variable (H : Digest Archive)

def nextFault : Hosted Archive StorageFault := fun host =>
  (.ok (host.faults.headD .none), { host with faults := host.faults.tail })

def loadRecords (sessionId : String) : Hosted Archive (List (PreparedResidentCommit Archive)) := do
  let fault ← nextFault
  let host ← Exec.get
  Exec.lift (host.store.load fault sessionId)

def commitRecord (prepared : PreparedResidentCommit Archive) :
    Hosted Archive DurableCommitOutcome := do
  let fault ← nextFault
  fun host => ((host.store.commit H fault prepared).1,
    { host with
      store := (host.store.commit H fault prepared).2
      submitted := some prepared })

def reconcileRequest (sessionId requestId requestFingerprint : String) :
    Hosted Archive ReconcileOutcome := do
  let fault ← nextFault
  let host ← Exec.get
  Exec.lift (host.store.reconcile fault sessionId requestId requestFingerprint)

end HostStorage

namespace OutcomeStorage
variable (storage : OutcomeStorage Archive)

/-- Take the response of a record that already answers the request. -/
def capture (record : PreparedResidentCommit Archive) : Hosted Archive Unit :=
  match findMember Effect.canonicalOutcome record.effects with
  | .absent => Exec.fail ("request predates canonical outcome retention; " ++
      "outcome requires operator reconciliation")
  | .malformed => Exec.fail "malformed canonical outcome"
  | .value outcome => do
    Exec.guard (outcome.inputSha256 = storage.inputSha256)
      "request identity reuse with different canonical input"
    Exec.modify fun host => { host with outcome := some outcome.response }

/-- The record with its canonical outcome as one more effect. -/
def decorate (prepared : PreparedResidentCommit Archive) (response : CanonicalResponse) :
    PreparedResidentCommit Archive :=
  { prepared with
    effects := prepared.effects ++ [{ canonicalOutcome := .value {
      inputSha256 := storage.inputSha256
      coreFingerprint := prepared.requestFingerprint
      response } }] }

/-- Whether a pending file export has reserved the request. -/
def reserved (record : PreparedResidentCommit Archive) : Bool :=
  record.effects.any fun e =>
    match e.fileExportPlan with
    | .value plan => plan.intent.requestId == storage.requestId
    | _ => false

def load (sessionId : String) : Hosted Archive (List (PreparedResidentCommit Archive)) := do
  let records ← loadRecords sessionId
  Exec.guard ((records.any storage.reserved) = false)
    "request identity reserved by filesystem export; canonical operation was not submitted"
  match records.find? fun record => record.requestId == storage.requestId with
  | none => pure records
  | some record => do
    storage.capture record
    pure records

def commit (H : Digest Archive) (prepared : PreparedResidentCommit Archive) :
    Hosted Archive DurableCommitOutcome := do
  let response ← Exec.lift (storage.prepare prepared)
  let committed ← commitRecord H (storage.decorate prepared response)
  Exec.guard (committed.commitId = prepared.commitId)
    "commit identity changed; canonical outcome reconciliation required"
  Exec.modify fun host => { host with outcome := some response }
  pure committed

def reconcile (sessionId requestId requestFingerprint : String) :
    Hosted Archive ReconcileOutcome := do
  let outcome ← reconcileRequest sessionId requestId requestFingerprint
  match outcome with
  | .notFound => pure .notFound
  | .committed committed => do
    let records ← loadRecords sessionId
    let record ← Exec.lift (required (records.find? fun r => r.commitId == committed.commitId)
      "committed canonical outcome missing")
    storage.capture record
    pure (.committed committed)

end OutcomeStorage

namespace Storage
variable (storage : Storage Archive)

def load (sessionId : String) : Hosted Archive (List (PreparedResidentCommit Archive)) :=
  match storage with
  | none => loadRecords sessionId
  | some decorated => decorated.load sessionId

def commit (H : Digest Archive) (prepared : PreparedResidentCommit Archive) :
    Hosted Archive DurableCommitOutcome :=
  match storage with
  | none => commitRecord H prepared
  | some decorated => decorated.commit H prepared

def reconcile (sessionId requestId requestFingerprint : String) :
    Hosted Archive ReconcileOutcome :=
  match storage with
  | none => reconcileRequest sessionId requestId requestFingerprint
  | some decorated => decorated.reconcile sessionId requestId requestFingerprint

end Storage

section Operations
variable (tools : Tools Archive) (storage : Storage Archive)

def loadHistory : Durable Archive
    (List (PreparedResidentCommit Archive) × PortableHistoryState) := do
  let w ← Exec.get
  let records ← onHost (storage.load w.session.sessionId)
  let history ← Exec.lift (PortableHistoryState.replayBound tools.digest records
    w.session.sessionId w.session.baseSha256)
  pure (records, history)

def ownerMatches (session : ResidentWriteSession Archive) (history : PortableHistoryState) : Bool :=
  (history.stateRevision.all (· == session.revision)) &&
    history.catalogGeneration == session.catalogGeneration

/-- Commit a proposed record. A failed commit is reconciled; when that fails as
well the owner cannot know the outcome and is poisoned. -/
def commitReconciled (unknown bail : String) (proposed : PreparedResidentCommit Archive) :
    Durable Archive DurableCommitOutcome := do
  let committed ← Exec.attempt (onHost (storage.commit tools.digest proposed))
  match committed with
  | .ok outcome => pure outcome
  | .error error => do
    let reconciled ← Exec.attempt (onHost (storage.reconcile proposed.sessionId
      proposed.requestId proposed.requestFingerprint))
    match reconciled with
    | .ok (.committed outcome) => pure outcome
    | .ok .notFound => Exec.fail error
    | .error reconcile => do
      poison (unknown ++ error ++ "; " ++ reconcile)
      Exec.fail bail

/-- The record of a request that is in the journal already, under the operation
its caller asked for. -/
def reconciledRecordByRequestId (requestId : String) :
    Durable Archive (Option (PreparedResidentCommit Archive)) := do
  onSession ensureUsable
  let (records, history) ← loadHistory tools storage
  let w ← Exec.get
  Exec.guard (ownerMatches w.session history = true)
    ("resident session requires recovery before outcome reconciliation: " ++
      "state/catalog mismatch")
  match records.find? fun record => record.requestId == requestId with
  | none => pure none
  | some record => do
    let outcome ← onHost (storage.reconcile w.session.sessionId requestId
      record.requestFingerprint)
    match outcome with
    | .notFound => Exec.fail "request disappeared during durable reconciliation"
    | .committed _ =>
      if record.transition = .receipt then
        match findMember Effect.receiptOperation record.effects with
        | .absent => pure (some record)
        | .malformed => Exec.fail "malformed receipt operation"
        | .value operation => pure (some { record with transition := operation })
      else pure (some record)

/-- The revision a control transition will publish. -/
def predictedControlRevision (session : ResidentWriteSession Archive)
    (transition : ResidentTransition) (moved : Bool) : String :=
  if transition = .checkpoint ∨ transition = .checkpointDelete ∨ transition = .receipt then
    session.revision
  else if moved then predictedResidentRevision session true
  else session.workbook.advanceMetadataState.stateRevisionId

/-- What a control transition records, and the document it moves to. -/
structure ControlPlan (Archive : Type) where
  transition : ResidentTransition
  effects : List (Effect Archive)
  resultingHead : Option String
  resultingBranch : String
  resultingBranches : Branches
  targetBytes : Option Archive

def ControlPlan.record (plan : ControlPlan Archive) (session : ResidentWriteSession Archive)
    (history : PortableHistoryState) (requestId commitId : String) :
    PreparedResidentCommit Archive where
  schemaVersion := residentCommitSchema
  sessionId := session.sessionId
  commitId := commitId
  parentCommitId := history.streamTip
  historyParentCommitId := none
  baseSha256 := session.baseSha256
  requestId := requestId
  requestFingerprint := tools.digest.control session.baseSha256 plan.transition plan.effects
    plan.resultingHead plan.resultingBranch plan.resultingBranches
  transition := plan.transition
  effects := plan.effects
  resultingHead := plan.resultingHead
  resultingBranch := plan.resultingBranch
  resultingBranches := plan.resultingBranches
  catalogGeneration := session.catalogGeneration +
    (if plan.transition = .checkpoint ∨ plan.transition = .checkpointDelete then 1 else 0)
  stateRevision := predictedControlRevision session plan.transition plan.targetBytes.isSome

/-- The owner's side of a committed control transition. -/
def ControlPlan.publish (plan : ControlPlan Archive) : Owner Archive Unit :=
  if plan.transition = .checkpoint ∨ plan.transition = .checkpointDelete then
    Exec.modify fun session => { session with catalogGeneration := session.catalogGeneration + 1 }
  else if plan.transition = .receipt then pure ()
  else
    match plan.targetBytes with
    | some bytes => do
      let _ ← onWorkbook fun w => w.replaceFromBytes tools.xlsx bytes .invalidate
    | none =>
      if plan.transition = .calculationInvalidate then
        onWorkbook fun w => (.ok (), w.revokeCalculationProof)
      else onWorkbook fun w => (.ok (), w.advanceMetadataState)

/-- A commit answered by another record: the owner may go on only if it is
already in that record's state. -/
def adoptCommitted (missing requiresRecovery committedId : String) :
    Durable Archive (PreparedResidentCommit Archive) := do
  let w ← Exec.get
  let records ← onHost (storage.load w.session.sessionId)
  let existing ← Exec.lift (required (records.find? fun r => r.commitId == committedId) missing)
  Exec.guard (w.session.revision = existing.stateRevision ∧
    w.session.catalogGeneration = existing.catalogGeneration) requiresRecovery
  pure existing

def commitPortableControlTransition (supply : Supply) (requestId : String)
    (plan : ControlPlan Archive) : Durable Archive String := do
  onSession ensureUsable
  Exec.guard (requestId ≠ "") (invalidRequest "request_id is required")
  let (_, history) ← loadHistory tools storage
  let w ← Exec.get
  if ownerMatches w.session history = false then do
    poison "portable history state differs from resident owner"
    Exec.fail "resident session requires recovery before history transition"
  else do
    let proposed := plan.record tools w.session history requestId supply.commitId
    let committed ← commitReconciled tools storage "history commit outcome unknown: "
      "history commit outcome unknown; recovery required" proposed
    poison "committed history publication pending; recovery required on failure"
    if committed.commitId ≠ proposed.commitId then do
      let existing ← adoptCommitted storage "reconciled history commit is not readable"
        "reconciled history transition requires recovery" committed.commitId
      unpoison
      pure existing.stateRevision
    else do
      let published ← Exec.attempt (onSession (plan.publish tools))
      match published with
      | .error error => do
        poison ("committed history publication failed: " ++ error)
        Exec.fail error
      | .ok () => do
        let w ← Exec.get
        if w.session.revision ≠ proposed.stateRevision then do
          poison "history publication revision mismatch"
          Exec.fail "committed history transition failed to publish; recovery required"
        else do
          unpoison
          pure proposed.stateRevision

/-- An accepted operation that had nothing to do. -/
def commitControlReceipt (supply : Supply) (requestId : String) (operation : ResidentTransition)
    (effects : List (Effect Archive)) : Durable Archive String := do
  onSession ensureUsable
  let (_, history) ← loadHistory tools storage
  commitPortableControlTransition tools storage supply requestId {
    transition := .receipt
    effects := effects ++ [{ receiptOperation := .value operation }]
    resultingHead := history.head
    resultingBranch := history.currentBranch
    resultingBranches := history.branches
    targetBytes := none }

inductive LifecycleReceipt where
  | creation (request : CreateForkRequest)
  | discard (request : DiscardForkRequest)
  | resourceExport (request : ExportForkRequest) (artifact : ArtifactMetadata)
  | fileExportPlan (plan : FileExportPlan)
  | fileExportResult (result : FileExportResult)

def LifecycleReceipt.effect : LifecycleReceipt → Effect Archive
  | .creation request => { resourceCreation := .value request }
  | .discard request => { resourceDiscard := .value request }
  | .resourceExport request artifact => { resourceExport := .value ⟨request, artifact, 0⟩ }
  | .fileExportPlan plan => { fileExportPlan := .value plan }
  | .fileExportResult result => { fileExportResult := .value result }

/-- A receipt with one effect, at the head and the branches of the history. -/
def commitReceiptAt (supply : Supply) (requestId : String) (history : PortableHistoryState)
    (receipt : LifecycleReceipt) : Durable Archive String :=
  commitPortableControlTransition tools storage supply requestId {
    transition := .receipt
    effects := [receipt.effect]
    resultingHead := history.head
    resultingBranch := history.currentBranch
    resultingBranches := history.branches
    targetBytes := none }

/-- The receipt of a creation is the first record. -/
def commitCreationReceipt (supply : Supply) (requestId : String) (request : CreateForkRequest) :
    Durable Archive String := do
  let (records, history) ← loadHistory tools storage
  Exec.guard (records.isEmpty = true) "creation requires an unpublished empty journal"
  commitReceiptAt tools storage supply requestId history (.creation request)

/-- A terminal tombstone is a receipt, not a workbook edit or another outcome log. -/
def commitDiscardReceipt (supply : Supply) (requestId : String) (request : DiscardForkRequest) :
    Durable Archive String := do
  onSession ensureUsable
  let (_, history) ← loadHistory tools storage
  Exec.guard (history.discarded = false) "resource has been discarded"
  commitReceiptAt tools storage supply requestId history (.discard request)

def commitExportReceipt (supply : Supply) (requestId : String) (request : ExportForkRequest)
    (artifact : ArtifactMetadata) : Durable Archive String := do
  let (_, history) ← loadHistory tools storage
  commitReceiptAt tools storage supply requestId history (.resourceExport request artifact)

def commitFileExportReceipt (supply : Supply) (requestId : String) (receipt : LifecycleReceipt) :
    Durable Archive String := do
  let (_, history) ← loadHistory tools storage
  commitReceiptAt tools storage supply requestId history receipt

/-- A record holds exactly these effects, besides its outcome. -/
def holdsExactly (key : Effect Archive → Option Value) (value : Value)
    (record : PreparedResidentCommit Archive) : Bool :=
  match record.effects.filter fun e => !e.canonicalOutcome.isPresent with
  | [e] => e.size == 1 && key e == some value
  | _ => false

def checkpointDurable (supply : Supply) (requestId : String) (label : Option String) :
    Durable Archive String := do
  onSession ensureUsable
  let existing ← reconciledRecordByRequestId tools storage requestId
  match existing with
  | some record => do
    Exec.guard (record.transition = .checkpoint ∧
      holdsExactly Effect.label (Value.ofOption label) record = true)
      "request identity reuse with different checkpoint input"
    pure record.stateRevision
  | none => do
    let (_, history) ← loadHistory tools storage
    commitPortableControlTransition tools storage supply requestId {
      transition := .checkpoint
      effects := [{ label := some (Value.ofOption label) }]
      resultingHead := history.head
      resultingBranch := history.currentBranch
      resultingBranches := history.branches
      targetBytes := none }

def deleteCheckpointDurable (supply : Supply) (requestId checkpointId : String) :
    Durable Archive String := do
  onSession ensureUsable
  let existing ← reconciledRecordByRequestId tools storage requestId
  match existing with
  | some record => do
    Exec.guard (record.transition = .checkpointDelete ∧
      holdsExactly Effect.checkpointId (.text checkpointId) record = true)
      "request identity reuse with different checkpoint deletion input"
    pure record.stateRevision
  | none => do
    let (_, history) ← loadHistory tools storage
    Exec.guard (checkpointId ∈ history.checkpoints) "unknown checkpoint"
    commitPortableControlTransition tools storage supply requestId {
      transition := .checkpointDelete
      effects := [{ checkpointId := some (.text checkpointId) }]
      resultingHead := history.head
      resultingBranch := history.currentBranch
      resultingBranches := history.branches
      targetBytes := none }

def materialize (supply : Supply) (records : List (PreparedResidentCommit Archive))
    (target : Option String) : Durable Archive Archive := do
  let w ← Exec.get
  Exec.lift (materializePortableHead tools supply.epoch supply.ingested w.session.resourceId
    w.session.baseBytes records target)

def restoreCheckpointDurable (supply : Supply) (requestId checkpointId : String) :
    Durable Archive String := do
  onSession ensureUsable
  let existing ← reconciledRecordByRequestId tools storage requestId
  match existing with
  | some record => do
    Exec.guard (record.transition = .checkout ∧
      record.effects.any (fun e => e.checkpointId.bind Value.asStr == some checkpointId) = true)
      "request identity reuse with different checkpoint restore input"
    pure record.stateRevision
  | none => do
    let (records, history) ← loadHistory tools storage
    let checkpoint ← Exec.lift (required (history.checkpoints.lookup checkpointId)
      "unknown checkpoint")
    let bytes ← materialize tools supply records checkpoint.head
    commitPortableControlTransition tools storage supply requestId {
      transition := .checkout
      effects := [{
        checkpointId := some (.text checkpointId)
        targetHead := some (Value.ofOption checkpoint.head) }]
      resultingHead := checkpoint.head
      resultingBranch := history.currentBranch
      resultingBranches := history.branches
      targetBytes := some bytes }

def validBranchName (name : String) : Bool :=
  name ≠ "" && name.toList.all fun c => c.isAlphanum || c == '_' || c == '-'

/-- The tip of a branch to create. Any mutation record of the stream is taken for
a target, whether it published a document or not. -/
def branchCreateTarget (records : List (PreparedResidentCommit Archive))
    (history : PortableHistoryState) : Option String → Result (Option String)
  | none => .ok history.head
  | some target =>
    if target = "base" then .ok none
    else if records.any (fun record => record.commitId == target &&
        (record.transition == .mutation || record.transition == .stageApply)) then
      .ok (some target)
    else .error (invalidRequest "unknown branch mutation target")

def branchCreateEffect (name : String) (requested target label : Option String) :
    Effect Archive :=
  if requested = none ∧ label = none then { branchName := some (.text name) }
  else {
    branchName := some (.text name)
    branchTarget := some (Value.ofOption target)
    requestedTarget := some (Value.ofOption requested)
    branchLabel := some (Value.ofOption label) }

def createBranchAtDurable (supply : Supply) (requestId name : String)
    (targetCommitId label : Option String) : Durable Archive String := do
  onSession ensureUsable
  Exec.guard ((label.all fun l => l.utf8ByteSize ≤ 1024) = true ∧
    (targetCommitId.all fun t => t ≠ "" && t.utf8ByteSize ≤ 256) = true)
    (invalidRequest "invalid branch target or label length")
  Exec.guard (validBranchName name = true) (invalidRequest "invalid branch name")
  let existing ← reconciledRecordByRequestId tools storage requestId
  match existing with
  | some record => do
    Exec.guard (record.transition = .branchCreate ∧
      record.effects.any (fun e => e.branchName.bind Value.asStr == some name &&
        e.requestedTarget.bind Value.asStr == targetCommitId &&
        e.branchLabel.bind Value.asStr == label) = true)
      "request identity reuse with different branch-create input"
    pure record.stateRevision
  | none => do
    let (records, history) ← loadHistory tools storage
    Exec.guard (name ∉ history.branches) "branch already exists"
    let target ← Exec.lift (branchCreateTarget records history targetCommitId)
    commitPortableControlTransition tools storage supply requestId {
      transition := .branchCreate
      effects := [branchCreateEffect name targetCommitId target label]
      resultingHead := history.head
      resultingBranch := history.currentBranch
      resultingBranches := history.branches.insert name target
      targetBytes := none }

/-- The caller's base bytes are compared with the session's. `sameBase` says how
that comparison comes out; bytes that pass it are the session's. -/
def validateBase (sameBase : Bool) : Owner Archive Unit := do
  ensureUsable
  Exec.guard (sameBase = true) "resident history base identity mismatch"

def switchBranchDurable (supply : Supply) (requestId name : String) (sameBase : Bool) :
    Durable Archive String := do
  onSession (validateBase sameBase)
  let existing ← reconciledRecordByRequestId tools storage requestId
  match existing with
  | some record => do
    Exec.guard (record.transition = .branchSwitch ∧
      record.effects.any (fun e => e.branchName.bind Value.asStr == some name) = true)
      "request identity reuse with different branch-switch input"
    pure record.stateRevision
  | none => do
    let (records, history) ← loadHistory tools storage
    let target ← Exec.lift (required (history.branches.lookup name)
      (invalidRequest "unknown branch"))
    let targetBytes ← if target ≠ history.head then do
        let bytes ← materialize tools supply records target
        pure (some bytes)
      else pure none
    commitPortableControlTransition tools storage supply requestId {
      transition := .branchSwitch
      effects := [{ branchName := some (.text name) }]
      resultingHead := target
      resultingBranch := name
      resultingBranches := history.branches
      targetBytes }

def moveHeadDurable (supply : Supply) (requestId : String) (transition : ResidentTransition)
    (target : Option String) (sameBase : Bool) : Durable Archive String := do
  onSession (validateBase sameBase)
  let (records, history) ← loadHistory tools storage
  let targetBytes ← materialize tools supply records target
  commitPortableControlTransition tools storage supply requestId {
    transition
    effects := [{ targetHead := some (Value.ofOption target) }]
    resultingHead := target
    resultingBranch := history.currentBranch
    resultingBranches := history.branches
    targetBytes := some targetBytes }

def undoDurable (supply : Supply) (requestId : String) (sameBase : Bool) :
    Durable Archive String := do
  onSession (validateBase sameBase)
  let existing ← reconciledRecordByRequestId tools storage requestId
  match existing with
  | some record => do
    Exec.guard (record.transition = .undo) "request identity reuse with different history input"
    pure record.stateRevision
  | none => do
    let (_, history) ← loadHistory tools storage
    match history.head with
    | none => commitControlReceipt tools storage supply requestId .undo []
    | some head => do
      let target ← Exec.lift (history.historyParent head)
      moveHeadDurable tools storage supply requestId .undo target sameBase

def redoDurable (supply : Supply) (requestId : String) (sameBase : Bool) :
    Durable Archive String := do
  onSession (validateBase sameBase)
  let existing ← reconciledRecordByRequestId tools storage requestId
  match existing with
  | some record => do
    Exec.guard (record.transition = .redo) "request identity reuse with different history input"
    pure record.stateRevision
  | none => do
    let (_, history) ← loadHistory tools storage
    let redo ← Exec.lift history.redoTarget
    match redo with
    | none => commitControlReceipt tools storage supply requestId .redo []
    | some target => moveHeadDurable tools storage supply requestId .redo (some target) sameBase

def checkoutDurable (supply : Supply) (requestId target : String) (sameBase : Bool) :
    Durable Archive String := do
  onSession (validateBase sameBase)
  let existing ← reconciledRecordByRequestId tools storage requestId
  match existing with
  | some record => do
    Exec.guard (record.transition = .checkout ∧
      record.effects.any (fun e => e.targetHead.bind Value.asStr == some target) = true)
      "request identity reuse with different checkout input"
    pure record.stateRevision
  | none => moveHeadDurable tools storage supply requestId .checkout (some target) sameBase

def isDirtyStamp : CalculationStamp → Bool
  | .dirty _ => true
  | _ => false

def revokeCalculationDurable (supply : Supply) (requestId : String) : Durable Archive String := do
  onSession ensureUsable
  let existing ← reconciledRecordByRequestId tools storage requestId
  match existing with
  | some record => do
    Exec.guard (record.transition = .calculationInvalidate ∧
      record.effects.any (fun e =>
        e.reason.bind Value.asStr == some "explicit_proof_revocation") = true)
      "request identity reuse with different calculation input"
    pure record.stateRevision
  | none => do
    let w ← Exec.get
    let effects : List (Effect Archive) := [{ reason := some (.text "explicit_proof_revocation") }]
    if isDirtyStamp w.session.workbook.calculation then
      commitControlReceipt tools storage supply requestId .calculationInvalidate effects
    else do
      let (_, history) ← loadHistory tools storage
      commitPortableControlTransition tools storage supply requestId {
        transition := .calculationInvalidate
        effects
        resultingHead := history.head
        resultingBranch := history.currentBranch
        resultingBranches := history.branches
        targetBytes := none }

end Operations

end AgentSpreadsheet
