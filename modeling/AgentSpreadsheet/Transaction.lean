import AgentSpreadsheet.Session

/-! The write transaction over a storage backend. Its two backends are the bytes
of an in-memory session and the work file of a fork. -/
namespace AgentSpreadsheet
open Library Library.Exec

structure WriteSnapshot (Archive : Type) where
  bytes : Archive
  revision : String
  contentRevision : String

/-- `WriteTransactionBackend`. `document` and `revision` are what the backend
stands at; no call of a transaction reads them. -/
structure Backend (σ Archive : Type) where
  validateResource : ResourceId → σ → Result Unit
  snapshot : Exec σ String (WriteSnapshot Archive)
  supportsStage : Bool
  commit : String → Archive → List String → Exec σ String String
  stage : String → CanonicalStagedBundle → Option String → WriteImpact → WriteDiff →
    Exec σ String (String × String)
  document : σ → Option Archive
  revision : σ → Option String

section Backends
variable (digest : Digest Archive)

def revisionConflict (expected current : String) : String :=
  "revision conflict: expected " ++ expected ++ ", current " ++ current

/-- `committed` is the candidate of this transaction. -/
structure ByteSession (Archive : Type) where
  bytes : Archive
  revision : String
  committed : Option Archive

/-- `ByteSessionBackend`. `revisionId` is random. -/
def byteBackend (revisionId : String) : Backend (ByteSession Archive) Archive where
  validateResource := fun resourceId _ => ensure (resourceId.kind = .session)
    (invalidRequest "in-memory write requires a session: mutable resource_id")
  snapshot := Exec.act fun s => (⟨s.bytes, s.revision, digest.archive s.bytes⟩, s)
  supportsStage := false
  commit := fun expectedRevision bytes _ => do
    let s ← Exec.get
    Exec.guard (expectedRevision = s.revision) (revisionConflict expectedRevision s.revision)
    Exec.modify fun s => { s with committed := some bytes }
    pure ("state:" ++ revisionId)
  stage := fun _ _ _ _ _ => Exec.fail (invalidRequest
    "mode 'stage' is unavailable for this storage backend; use preview or apply")
  document := fun s => some (s.committed.getD s.bytes)
  revision := fun s => some s.revision

structure StagedChange where
  changeId : String
  label : Option String
  bundle : CanonicalStagedBundle
  opKinds : List String
  changeItems : Nat
  deriving DecidableEq, Repr

structure CanonicalOperationRecord where
  sequence : Nat
  kind : String
  opKinds : List String
  revisionBefore : String
  revisionAfter : String
  deriving DecidableEq, Repr

/-- A fork: its work file, and what it keeps beside it. -/
structure ForkContext (Archive : Type) where
  forkId : String
  workFile : Option Archive
  contentRevision : String
  stateRevision : String
  stagedChanges : List StagedChange
  canonicalOperations : List CanonicalOperationRecord
  recalcNeeded : Bool

def maxStagedChangesPerFork : Nat := 20

/-- A work file that was changed from outside is its own new revision. -/
def ForkContext.syncRevisions : Exec (ForkContext Archive) String String := do
  let fork ← Exec.get
  let bytes ← Exec.lift (required fork.workFile "No such file or directory (os error 2)")
  Exec.act fun fork =>
    if digest.archive bytes ≠ fork.contentRevision then
      (digest.archive bytes,
        { fork with
          contentRevision := digest.archive bytes, stateRevision := digest.archive bytes })
    else (fork.stateRevision, fork)

/-- The oldest changes make room. -/
def ForkContext.pushStagedChange (fork : ForkContext Archive) (staged : StagedChange) :
    ForkContext Archive :=
  let changes := fork.stagedChanges ++ [staged]
  { fork with stagedChanges := changes.drop (changes.length - maxStagedChangesPerFork) }

def ForkContext.pushCanonicalOperation (fork : ForkContext Archive) (kind : String)
    (opKinds : List String) (revisionBefore revisionAfter : String) : ForkContext Archive :=
  { fork with canonicalOperations := fork.canonicalOperations ++
      [⟨(fork.canonicalOperations.getLast?.map (·.sequence + 1)).getD 1, kind, opKinds,
        revisionBefore, revisionAfter⟩] }

/-- The file, the revisions and the operation log of a committed write. -/
def ForkContext.committed (fork : ForkContext Archive) (bytes : Archive) (opKinds : List String)
    (revisionBefore revisionAfter : String) : ForkContext Archive :=
  { fork with
    workFile := some bytes
    recalcNeeded := true
    contentRevision := digest.archive bytes
    stateRevision := revisionAfter }.pushCanonicalOperation "write" opKinds revisionBefore
      revisionAfter

/-- `ForkFileBackend`. `changeId` and `revisionId` are random. -/
def forkBackend (changeId revisionId : String) : Backend (ForkContext Archive) Archive where
  validateResource := fun resourceId fork =>
    ensure (resourceId.kind = .fork ∧ resourceId.key = fork.forkId)
      (invalidRequest "native canonical write requires the bound fork: mutable resource_id")
  snapshot := do
    let revision ← ForkContext.syncRevisions digest
    let fork ← Exec.get
    let bytes ← Exec.lift (required fork.workFile "No such file or directory (os error 2)")
    pure ⟨bytes, revision, fork.contentRevision⟩
  supportsStage := true
  commit := fun expectedRevision bytes opKinds => do
    let current ← ForkContext.syncRevisions digest
    Exec.guard (current = expectedRevision) (revisionConflict expectedRevision current)
    Exec.modify fun fork =>
      fork.committed digest bytes opKinds expectedRevision ("state:" ++ revisionId)
    pure ("state:" ++ revisionId)
  stage := fun expectedRevision bundle label impact diff => do
    let current ← ForkContext.syncRevisions digest
    Exec.guard (current = expectedRevision) (revisionConflict expectedRevision current)
    Exec.modify fun fork => { fork.pushStagedChange
      ⟨changeId, label, bundle, impact.opKinds, diff.changeCount⟩ with
        stateRevision := "state:" ++ revisionId }
    pure (changeId, "state:" ++ revisionId)
  document := fun fork => fork.workFile
  revision := fun fork => fork.workFile.map fun bytes =>
    if digest.archive bytes ≠ fork.contentRevision then digest.archive bytes
    else fork.stateRevision

end Backends

section Transaction
variable (tools : Tools Archive) (backend : Backend σ Archive)

/-- What a candidate without a failure is turned into. -/
def settleCandidate (snapshot : WriteSnapshot Archive) (request : WriteRequest)
    (candidateBytes : Archive) (diff : WriteDiff) : Exec σ String (String × Option String) :=
  let impact := writeImpact request.ops
  match request.mode with
  | .preview => pure (snapshot.revision, none)
  | .stage => do
    let bundle : CanonicalStagedBundle := {
      label := request.label
      baseRevision := snapshot.contentRevision
      maxRisk := impact.risk
      atomic := true
      ops := request.ops
      formulaParsePolicy := request.formulaParsePolicy }
    let (changeId, revisionAfter) ← backend.stage snapshot.revision bundle request.label impact diff
    pure (revisionAfter, some changeId)
  | .apply => do
    let revisionAfter ← backend.commit snapshot.revision candidateBytes impact.opKinds
    pure (revisionAfter, none)

/-- Previews, stages and atomic applies run on one candidate. -/
def executeOnCandidate (snapshot : WriteSnapshot Archive) (request : WriteRequest)
    (original : Workbook) : Exec σ String WriteResponseData := do
  let impact := writeImpact request.ops
  let (candidate, results, failure) := applyCandidate tools
    (request.formulaParsePolicy.getD .warn) original request.ops
  if failure.isSome then
    let diff ← if request.mode = .apply then pure emptyDiff
      else do
        let candidateBytes ← Exec.lift (tools.xlsx.writeWriter 0 candidate)
        Exec.lift (tools.diffBytes snapshot.bytes candidateBytes)
    pure (canonicalResponseFromPrepared tools request snapshot.revision snapshot.revision results
      diff impact failure 0 none)
  else
    let candidateBytes ← Exec.lift (tools.xlsx.writeWriter 0 candidate)
    let diff ← Exec.lift (tools.diffBytes snapshot.bytes candidateBytes)
    let (revisionAfter, changeId) ← settleCandidate backend snapshot request candidateBytes diff
    pure (canonicalResponseFromPrepared tools request snapshot.revision revisionAfter results diff
      impact none request.ops.length changeId)

/-- The kinds of the applied operations alone are committed. -/
def commitApplied (snapshot : WriteSnapshot Archive) (applied : Nat) (bytes : Archive)
    (opKinds : List String) : Exec σ String String :=
  if applied > 0 then backend.commit snapshot.revision bytes (opKinds.take applied)
  else pure snapshot.revision

/-- A non-atomic apply takes a candidate for each operation. -/
def executeEach (snapshot : WriteSnapshot Archive) (request : WriteRequest) (original : Workbook) :
    Exec σ String WriteResponseData := do
  let impact := writeImpact request.ops
  let (current, results, failure) := applyEach tools (request.formulaParsePolicy.getD .warn)
    original request.ops
  let applied := (results.filter fun result => result.status = .applied).length
  let currentBytes ← Exec.lift (tools.xlsx.writeWriter 0 current)
  let diff ← Exec.lift (tools.diffBytes snapshot.bytes currentBytes)
  let revisionAfter ← commitApplied backend snapshot applied currentBytes impact.opKinds
  pure (canonicalResponseFromPrepared tools request snapshot.revision revisionAfter results diff
    impact failure applied none)

def executeWriteTransaction (request : WriteRequest) : Exec σ String WriteResponseData := do
  Exec.lift (validateRequest tools request)
  let s ← Exec.get
  Exec.lift (backend.validateResource request.resourceId s)
  Exec.guard (request.mode = .stage → backend.supportsStage = true) (invalidRequest
    "mode 'stage' is unavailable for in-memory sessions; use preview or apply")
  let snapshot ← backend.snapshot
  Exec.guard (request.expectedRevision = snapshot.revision)
    (revisionConflict request.expectedRevision snapshot.revision)
  let original ← Exec.lift (tools.xlsx.readReader snapshot.bytes)
  if request.mode = .preview ∨ request.mode = .stage ∨ request.atomic = true then
    executeOnCandidate tools backend snapshot request original
  else executeEach tools backend snapshot request original

end Transaction

end AgentSpreadsheet
