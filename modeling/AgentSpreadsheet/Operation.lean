import AgentSpreadsheet.Commit

/-! Durable operations as one vocabulary. Each proposes at most one record, from
the owner it finds and the history it replays; `Ran` says everything a call can
do to the owner and its storage. -/
namespace AgentSpreadsheet
open Library Library.Exec

inductive DurableOp where
  | write (request : WriteRequest)
  | applyStaged (changeId expectedRevision : String)
  | discardStaged (changeId : String)
  | recalculate (calculation : Calculation)
  | checkpoint (label : Option String)
  | deleteCheckpoint (checkpointId : String)
  | restoreCheckpoint (checkpointId : String)
  | createBranch (name : String) (target label : Option String)
  | switchBranch (name : String) (sameBase : Bool)
  | undo (sameBase : Bool)
  | redo (sameBase : Bool)
  | checkout (target : String) (sameBase : Bool)
  | revokeCalculation
  | receipt (receipt : LifecycleReceipt)

def ignore (call : Durable Archive α) : Durable Archive Unit := do
  let _ ← call

section Run
variable (tools : Tools Archive) (storage : Storage Archive) (supply : Supply)
  (requestId : String)

def DurableOp.run : DurableOp → Durable Archive Unit
  | .write request => ignore (executeDurableWriteOnResident tools storage supply requestId request)
  | .applyStaged changeId expectedRevision =>
    ignore (applyStagedDurable tools storage supply requestId changeId expectedRevision)
  | .discardStaged changeId => ignore (discardStagedDurable tools storage supply requestId changeId)
  | .recalculate calculation =>
    ignore (recalculateDurableWithBackend tools storage supply requestId calculation)
  | .checkpoint label => ignore (checkpointDurable tools storage supply requestId label)
  | .deleteCheckpoint checkpointId =>
    ignore (deleteCheckpointDurable tools storage supply requestId checkpointId)
  | .restoreCheckpoint checkpointId =>
    ignore (restoreCheckpointDurable tools storage supply requestId checkpointId)
  | .createBranch name target label =>
    ignore (createBranchAtDurable tools storage supply requestId name target label)
  | .switchBranch name sameBase =>
    ignore (switchBranchDurable tools storage supply requestId name sameBase)
  | .undo sameBase => ignore (undoDurable tools storage supply requestId sameBase)
  | .redo sameBase => ignore (redoDurable tools storage supply requestId sameBase)
  | .checkout target sameBase =>
    ignore (checkoutDurable tools storage supply requestId target sameBase)
  | .revokeCalculation => ignore (revokeCalculationDurable tools storage supply requestId)
  | .receipt (.creation request) =>
    ignore (commitCreationReceipt tools storage supply requestId request)
  | .receipt (.discard request) =>
    ignore (commitDiscardReceipt tools storage supply requestId request)
  | .receipt (.resourceExport request artifact) =>
    ignore (commitExportReceipt tools storage supply requestId request artifact)
  | .receipt (.fileExportPlan plan) =>
    ignore (commitFileExportReceipt tools storage supply requestId (.fileExportPlan plan))
  | .receipt (.fileExportResult result) =>
    ignore (commitFileExportReceipt tools storage supply requestId (.fileExportResult result))

end Run

namespace ControlPlan

/-- A transition that leaves the head and the branches. -/
def stay (history : PortableHistoryState) (transition : ResidentTransition)
    (effects : List (Effect Archive)) : ControlPlan Archive where
  transition := transition
  effects := effects
  resultingHead := history.head
  resultingBranch := history.currentBranch
  resultingBranches := history.branches
  targetBytes := none

/-- A transition that moves the head on its branch to a document. -/
def move (history : PortableHistoryState) (transition : ResidentTransition)
    (effects : List (Effect Archive)) (target : Option String) (bytes : Archive) :
    ControlPlan Archive :=
  { stay history transition effects with resultingHead := target, targetBytes := some bytes }

end ControlPlan

section Proposals
variable (tools : Tools Archive) (supply : Supply) (s : ResidentWriteSession Archive)
  (records : List (PreparedResidentCommit Archive)) (history : PortableHistoryState)

def Materializes (target : Option String) (bytes : Archive) : Prop :=
  materializePortableHead tools supply.epoch supply.ingested s.resourceId s.baseBytes records
    target = .ok bytes

inductive Plans : DurableOp → ControlPlan Archive → Prop
  | checkpoint (label : Option String) : Plans (.checkpoint label)
      (.stay history .checkpoint [{ label := some (Value.ofOption label) }])
  | checkpointDelete (id : String) (known : id ∈ history.checkpoints) :
      Plans (.deleteCheckpoint id)
        (.stay history .checkpointDelete [{ checkpointId := some (.text id) }])
  | checkpointRestore (id : String) (checkpoint : ResidentCheckpoint) (bytes : Archive)
      (known : history.checkpoints.lookup id = some checkpoint)
      (target : Materializes tools supply s records checkpoint.head bytes) :
      Plans (.restoreCheckpoint id) (.move history .checkout [{
        checkpointId := some (.text id)
        targetHead := some (Value.ofOption checkpoint.head) }] checkpoint.head bytes)
  | branchCreate (name : String) (requested label target : Option String)
      (sizes : (label.all fun l => l.utf8ByteSize ≤ 1024) = true)
      (valid : validBranchName name = true) (fresh : name ∉ history.branches)
      (known : branchCreateTarget records history requested = .ok target) :
      Plans (.createBranch name requested label)
        { ControlPlan.stay history .branchCreate [branchCreateEffect name requested target label]
          with resultingBranches := history.branches.insert name target }
  | switchAway (name : String) (sameBase : Bool) (target : Option String) (bytes : Archive)
      (known : history.branches.lookup name = some target) (away : target ≠ history.head)
      (materializes : Materializes tools supply s records target bytes) :
      Plans (.switchBranch name sameBase)
        { ControlPlan.move history .branchSwitch [{ branchName := some (.text name) }] target bytes
          with resultingBranch := name }
  | switchHere (name : String) (sameBase : Bool)
      (known : history.branches.lookup name = some history.head) :
      Plans (.switchBranch name sameBase)
        { ControlPlan.stay history .branchSwitch [{ branchName := some (.text name) }]
          with resultingBranch := name }
  | undo (sameBase : Bool) (head : String) (target : Option String) (bytes : Archive)
      (current : history.head = some head) (parent : history.historyParent head = .ok target)
      (materializes : Materializes tools supply s records target bytes) :
      Plans (.undo sameBase) (.move history .undo [{ targetHead := some (Value.ofOption target) }]
        target bytes)
  | undoNothing (sameBase : Bool) (base : history.head = none) :
      Plans (.undo sameBase) (.stay history .receipt [{ receiptOperation := .value .undo }])
  | redo (sameBase : Bool) (target : String) (bytes : Archive)
      (next : history.redoTarget = .ok (some target))
      (materializes : Materializes tools supply s records (some target) bytes) :
      Plans (.redo sameBase) (.move history .redo
        [{ targetHead := some (Value.ofOption (some target)) }] (some target) bytes)
  | redoNothing (sameBase : Bool) (next : history.redoTarget = .ok none) :
      Plans (.redo sameBase) (.stay history .receipt [{ receiptOperation := .value .redo }])
  | checkout (target : String) (sameBase : Bool) (bytes : Archive)
      (materializes : Materializes tools supply s records (some target) bytes) :
      Plans (.checkout target sameBase) (.move history .checkout
        [{ targetHead := some (Value.ofOption (some target)) }] (some target) bytes)
  | discardNothing (changeId : String) (absent : changeId ∉ s.staged) :
      Plans (.discardStaged changeId) (.stay history .receipt
        [{ discardStagedChangeId := some (.text changeId) },
          { receiptOperation := .value .catalogDiscard }])
  | revoke (standing : isDirtyStamp s.workbook.calculation = false) :
      Plans .revokeCalculation (.stay history .calculationInvalidate
        [{ reason := some (.text "explicit_proof_revocation") }])
  | revokeNothing (dirty : isDirtyStamp s.workbook.calculation = true) :
      Plans .revokeCalculation (.stay history .receipt
        [{ reason := some (.text "explicit_proof_revocation") },
          { receiptOperation := .value .calculationInvalidate }])
  | receipt (receipt : LifecycleReceipt)
      (kept : ∀ request, receipt = .discard request → history.discarded = false) :
      Plans (.receipt receipt) (.stay history .receipt [receipt.effect])

/-- The write request an operation stands for, with the staged change it uses up. -/
inductive Requests : DurableOp → WriteRequest → Option String → Prop
  | write (request : WriteRequest) : Requests (.write request) request none
  | applyStaged (changeId expectedRevision : String) (bundle : CanonicalStagedBundle)
      (staged : s.staged.lookup changeId = some bundle)
      (base : bundle.baseRevision = s.revision) (current : expectedRevision = s.revision) :
      Requests (.applyStaged changeId expectedRevision)
        (bundle.request s.resourceId expectedRevision) (some changeId)

variable (requestId : String)

/-- A record an operation proposes, and how its owner publishes it. -/
inductive Proposes : DurableOp → PreparedResidentCommit Archive → Owner Archive Unit → Prop
  | control {op : DurableOp} {plan : ControlPlan Archive}
      (plans : Plans tools supply s records history op plan) (named : requestId ≠ "") :
      Proposes op (plan.record tools s history requestId supply.commitId) (plan.publish tools)
  | transaction {op : DurableOp} {request : WriteRequest} {consume : Option String}
      {prepared : PreparedResidentTransaction Archive} {before : ResidentWriteSession Archive}
      (requests : Requests s op request consume) (named : requestId ≠ "")
      (prepares : prepareResidentTransaction tools request
        (if request.mode = .stage then some supply.changeId else none) before = (.ok prepared, s))
      (kept : request.mode ≠ .preview ∧ prepared.response.status ≠ .failed ∧
        prepared.response.status ≠ .rolledBack) :
      Proposes op ({ prepared with consumeStaged := consume }.record s history s.sessionId
          requestId (tools.digest.write s.baseSha256 consume request) supply.commitId)
        (publishResidentTransaction tools supply.synchronized
          { prepared with consumeStaged := consume })
  | discard (changeId : String) (named : requestId ≠ "") (staged : changeId ∈ s.staged) :
      Proposes (.discardStaged changeId)
        (discardRecord tools s history requestId changeId supply.commitId)
        (Exec.modify (removeStaged changeId))
  | calculation {calculation : Calculation} {evaluation : EvaluatorEvaluation}
      {before : ResidentWorkbook Archive} (named : requestId ≠ "")
      (prepares : calculation.prepare tools before = (.ok evaluation, s.workbook)) :
      Proposes (.recalculate calculation)
        (calculation.record tools s history requestId supply.commitId evaluation)
        (do let _ ← onWorkbook fun w => w.publishPreparedCalculation tools.xlsx evaluation
              (calculation.predictedCoverage s evaluation))

end Proposals

end AgentSpreadsheet
