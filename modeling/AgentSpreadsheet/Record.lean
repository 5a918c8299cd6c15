import AgentSpreadsheet.Write
import Mathlib.Data.Finmap

/-! Resident commit records. A record's effects are JSON objects in the journal;
here every member that replay or validation looks up is a field, so that an
effect is the decoded form of the object it is stored as. -/
namespace AgentSpreadsheet

inductive ResidentTransition where
  | mutation
  | stageApply
  | catalogStage
  | catalogDiscard
  | calculationPublish
  | calculationInvalidate
  | undo
  | redo
  | checkout
  | branchCreate
  | branchSwitch
  | checkpoint
  | checkpointDelete
  | receipt
  | restart
  deriving DecidableEq, Repr

/-- A JSON scalar; `other` stands for arrays and objects, which no lookup of
these members accepts. -/
inductive Value where
  | null
  | bool (b : Bool)
  | number (n : Nat)
  | text (s : String)
  | other
  deriving DecidableEq, Repr

def Value.asStr : Value → Option String
  | .text s => some s
  | _ => none

def Value.asBool : Value → Option Bool
  | .bool b => some b
  | _ => none

/-- An optional string as JSON: a missing string is `null`. -/
def Value.ofOption : Option String → Value
  | some s => .text s
  | none => .null

/-- Deserialisation of `Option<String>`. -/
def Value.toOption : Value → Result (Option String)
  | .null => .ok none
  | .text s => .ok (some s)
  | _ => .error "invalid type: expected an optional string"

@[simp] theorem Value.toOption_ofOption (s : Option String) :
    (Value.ofOption s).toOption = .ok s := by
  cases s <;> rfl

/-- A typed member of a JSON object: missing, present but not of its type, or
present with a value. -/
inductive Member (α : Type) where
  | absent
  | malformed
  | value (a : α)
  deriving DecidableEq

def Member.isPresent : Member α → Bool
  | .absent => false
  | _ => true

def Member.decode (m : Member α) : Result (Option α) :=
  match m with
  | .absent => .ok none
  | .malformed => .error "malformed member"
  | .value a => .ok (some a)

def Member.get (m : Member α) (message : String) : Result α :=
  match m with
  | .absent => .error message
  | .malformed => .error "malformed member"
  | .value a => .ok a

inductive EvaluationState where
  | clean
  | errorsFound
  | partialEvaluation
  | notEvaluated
  deriving DecidableEq, Repr

inductive EvaluationSource where
  | formualizer
  | trustedCache
  | none
  deriving DecidableEq, Repr

inductive EvaluationFreshness where
  | currentRevision
  | unknown
  deriving DecidableEq, Repr

structure EvaluationCoverage where
  formulaCells : Nat
  evaluatedFormulaCells : Nat
  unsupportedFormulaCells : Nat
  errorFormulaCells : Nat
  source : EvaluationSource
  freshness : EvaluationFreshness
  revisionId : String
  deriving DecidableEq, Repr

def EvaluationCoverage.state (c : EvaluationCoverage) : EvaluationState :=
  if c.errorFormulaCells > 0 then .errorsFound
  else if c.formulaCells = 0 then .clean
  else if c.freshness ≠ .currentRevision then
    if c.evaluatedFormulaCells > 0 ∧ c.evaluatedFormulaCells < c.formulaCells then
      .partialEvaluation
    else .notEvaluated
  else if c.evaluatedFormulaCells = 0 then .notEvaluated
  else if c.evaluatedFormulaCells < c.formulaCells ∨ c.unsupportedFormulaCells > 0 then
    .partialEvaluation
  else .clean

structure RecalculateData where
  revisionBefore : String
  revisionAfter : String
  durationMs : Nat
  backend : String
  state : EvaluationState
  evaluationCoverage : EvaluationCoverage
  status : String
  errorCount : Option Nat
  cellsEvaluated : Option Nat
  evalErrors : Option (List String)
  warnings : List String
  deriving DecidableEq, Repr

/-- The `calculation_proof` member. -/
structure CalculationProof where
  evaluationDurationMs : Option Nat
  evalErrors : List String
  cellsEvaluated : Option Nat
  coverage : Member EvaluationCoverage
  backend : Option String
  externalResult : Option RecalculateData
  deriving DecidableEq

structure ArtifactMetadata where
  artifactId : String
  mediaType : String
  bytes : Nat
  sha256 : String
  deriving DecidableEq, Repr

structure CreateForkRequest where
  resourceId : ResourceId
  expectedRevision : String
  label : Option String
  deriving DecidableEq, Repr

structure CreateForkData where
  label : Option String
  baseResourceId : ResourceId
  baseRevisionId : String
  forkResourceId : ResourceId
  revisionId : String
  ttlSeconds : Option Nat
  warnings : List String
  deriving DecidableEq, Repr

structure DiscardForkRequest where
  resourceId : ResourceId
  expectedRevision : String
  deriving DecidableEq, Repr

structure DiscardForkData where
  revisionBefore : String
  revisionAfter : String
  discarded : Bool
  warnings : List String
  deriving DecidableEq, Repr

/-- `destination` is the name of a workspace destination. -/
structure ExportForkRequest where
  resourceId : ResourceId
  expectedRevision : String
  destination : String
  deriving DecidableEq, Repr

structure ExportForkData where
  revisionBefore : String
  revisionAfter : String
  destination : String
  artifact : ArtifactMetadata
  warnings : List String
  deriving DecidableEq, Repr

/-- The `resource_export` member. -/
structure ResourceExport where
  request : ExportForkRequest
  artifact : ArtifactMetadata
  otherMembers : Nat
  deriving DecidableEq, Repr

structure FileExportIntent where
  resourceId : String
  requestId : String
  expectedRevision : Option String
  destination : Option String
  force : Bool
  deriving DecidableEq, Repr

structure FileExportResult where
  head : Option String
  eventsReplayed : Nat
  requestId : String
  resourceId : String
  revisionId : String
  outputPath : String
  artifact : ArtifactMetadata
  deriving DecidableEq, Repr

structure FileExportPlan where
  head : Option String
  eventsReplayed : Nat
  intent : FileExportIntent
  revisionId : String
  artifact : ArtifactMetadata
  sourceSha256 : String
  destination : String
  destinationGeneration : Option String
  deriving DecidableEq, Repr

def FileExportPlan.result (plan : FileExportPlan) : FileExportResult where
  head := plan.head
  eventsReplayed := plan.eventsReplayed
  requestId := plan.intent.requestId
  resourceId := plan.intent.resourceId
  revisionId := plan.revisionId
  outputPath := plan.destination
  artifact := plan.artifact

structure CheckpointDescriptor where
  checkpointId : String
  createdAt : Option String
  label : Option String
  snapshotRevision : String
  recalcNeeded : Bool
  deriving DecidableEq, Repr

/-- The decoded `data` of a canonical response. -/
inductive CanonicalData where
  | createFork (data : CreateForkData)
  | discardFork (data : DiscardForkData)
  | exportFork (data : ExportForkData)
  | write (data : WriteResponseData)
  | recalculate (data : RecalculateData)
  | checkpointCreate (revisionBefore revisionAfter : String) (checkpoint : CheckpointDescriptor)
      (totalCheckpoints : Nat) (warnings : List String)
  | checkpointRestore (revisionBefore revisionAfter : String)
      (restoredCheckpoint : CheckpointDescriptor) (operationsRemoved stagedChangesDiscarded : Nat)
      (retainedCheckpointIds invalidatedCheckpointIds : List String) (recalcNeeded : Bool)
      (warnings : List String)
  | checkpointDelete (revisionBefore revisionAfter checkpointId : String) (deleted : Bool)
      (warnings : List String)
  | stagedApply (head : Option String) (revisionBefore revisionAfter changeId : String)
      (opsApplied : Nat) (opKinds : List String) (recalcNeeded : Bool) (warnings : List String)
  | stagedDiscard (revisionBefore revisionAfter changeId : String) (discarded : Bool)
      (warnings : List String)
  | historyMutation (transition : ResidentTransition) (revisionBefore revisionAfter : String)
      (head : Option String) (branch : String)
  | other
  deriving DecidableEq

structure CanonicalResponse where
  schemaVersion : String
  operation : String
  resourceId : Option ResourceId
  revisionId : Option String
  data : CanonicalData
  deriving DecidableEq

structure CanonicalOutcome where
  inputSha256 : String
  coreFingerprint : String
  response : CanonicalResponse
  deriving DecidableEq

/-- One effect object. `otherMembers` counts the members no reader looks up. -/
structure Effect (Archive : Type) where
  preparedTransaction : Member (PreparedResidentTransaction Archive) := .absent
  canonicalOutcome : Member CanonicalOutcome := .absent
  receiptOperation : Member ResidentTransition := .absent
  resourceCreation : Member CreateForkRequest := .absent
  resourceDiscard : Member DiscardForkRequest := .absent
  resourceExport : Member ResourceExport := .absent
  fileExportPlan : Member FileExportPlan := .absent
  fileExportResult : Member FileExportResult := .absent
  calculationProof : Member CalculationProof := .absent
  timeoutMs : Option Value := none
  targetHead : Option Value := none
  restartBoundary : Option Value := none
  discardStagedChangeId : Option Value := none
  reason : Option Value := none
  label : Option Value := none
  checkpointId : Option Value := none
  branchName : Option Value := none
  branchTarget : Option Value := none
  requestedTarget : Option Value := none
  branchLabel : Option Value := none
  otherMembers : Nat := 0
  deriving DecidableEq

def Effect.size (e : Effect Archive) : Nat :=
  e.preparedTransaction.isPresent.toNat + e.canonicalOutcome.isPresent.toNat +
  e.receiptOperation.isPresent.toNat + e.resourceCreation.isPresent.toNat +
  e.resourceDiscard.isPresent.toNat + e.resourceExport.isPresent.toNat +
  e.fileExportPlan.isPresent.toNat + e.fileExportResult.isPresent.toNat +
  e.calculationProof.isPresent.toNat + e.timeoutMs.isSome.toNat + e.targetHead.isSome.toNat +
  e.restartBoundary.isSome.toNat + e.discardStagedChangeId.isSome.toNat + e.reason.isSome.toNat +
  e.label.isSome.toNat + e.checkpointId.isSome.toNat + e.branchName.isSome.toNat +
  e.branchTarget.isSome.toNat + e.requestedTarget.isSome.toNat + e.branchLabel.isSome.toNat +
  e.otherMembers

/-- Branch name to tip; a branch at the immutable base has no tip. -/
abbrev Branches := Finmap fun _ : String => Option String

structure PreparedResidentCommit (Archive : Type) where
  schemaVersion : String
  sessionId : String
  commitId : String
  /-- Previous record in the append-only stream, never document ancestry. -/
  parentCommitId : Option String
  /-- Parent document mutation for mutation and stage-apply records. -/
  historyParentCommitId : Option String
  baseSha256 : String
  requestId : String
  requestFingerprint : String
  transition : ResidentTransition
  effects : List (Effect Archive)
  resultingHead : Option String
  resultingBranch : String
  resultingBranches : Branches
  catalogGeneration : Nat
  stateRevision : String
  deriving DecidableEq

def residentCommitSchema : String := "resident.commit.v1"

def findMember (key : Effect Archive → Member α) : List (Effect Archive) → Member α
  | [] => .absent
  | e :: rest =>
    match key e with
    | .absent => findMember key rest
    | m => m

def findValue (key : Effect Archive → Option Value) (effects : List (Effect Archive)) :
    Option Value :=
  effects.findSome? key

theorem findMember_cons (key : Effect Archive → Member α) (e : Effect Archive)
    (rest : List (Effect Archive)) :
    findMember key (e :: rest) =
      if (key e).isPresent then key e else findMember key rest := by
  rw [findMember]
  cases key e <;> simp [Member.isPresent]

/-- Digests and fingerprints of the program: SHA-256 over serialised values. -/
structure Digest (Archive : Type) where
  archive : Archive → String
  text : String → String
  control : String → ResidentTransition → List (Effect Archive) → Option String → String →
    Branches → String
  write : String → Option String → WriteRequest → String
  calculate : String → String → Option Nat → Option String → String
  createFork : CreateForkRequest → String
  discardFork : DiscardForkRequest → String
  exportFork : ExportForkRequest → String

end AgentSpreadsheet
