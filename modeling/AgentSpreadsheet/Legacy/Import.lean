import AgentSpreadsheet.Legacy.Log
import AgentSpreadsheet.Session
import Mathlib.Data.List.Sort

/-! Import of a frozen legacy session. The branching log becomes one journal:
the path of `main` first, then each other branch by name, with synthetic control
records where stream order leaves the ancestry. -/
namespace AgentSpreadsheet.Legacy
open Library

/-- The two members of `resident-import-frozen.json` that are read. -/
structure FrozenMarker where
  frozen : Option Bool
  baseSha256 : Option String
  deriving DecidableEq, Repr

/-- The directory of a session that was copied while writers were excluded.
`staged` are the file stems under `staged/`. -/
structure FrozenCopy where
  files : Files
  marker : Member FrozenMarker
  staged : List String

structure LegacyResidentImport (Archive : Type) where
  baseBytes : Archive
  records : List (PreparedResidentCommit Archive)
  /-- Approvals of the HEAD alone; they must be previewed again. -/
  rejectedStagedIds : List String

def checkMarker (marker : Member FrozenMarker) (baseSha256 : String) : Result Unit := do
  let frozen ← marker.get "legacy import requires an explicitly frozen copy"
  ensure (frozen.frozen = some true ∧ frozen.baseSha256 = some baseSha256)
    "legacy frozen import base binding mismatch"

/-- `materialize_at` with nothing in between. -/
def Files.materializeAt (store : Tools Archive) (files : Files) (target : String) :
    Result Archive :=
  ((Legacy.materializeAt store target).exec FileAct.perform files).1

section Events
variable (store : Tools Archive)

/-- The importer checks the events it was given once more. -/
def LogScan.verify (scan : LogScan) (event : OpEvent) : Result LogScan := do
  ensure (event.sessionId = store.sessionId ∧ event.verifyIntegrity store = true)
    ("legacy event '" ++ event.opId ++ "' failed session/payload/hash validation")
  ensure (event.prevEventHash = scan.previousHash)
    ("legacy event append hash chain is corrupt at '" ++ event.opId ++ "'")
  ensure (event.opId ∉ scan.ids) ("duplicate legacy event id '" ++ event.opId ++ "'")
  pure ⟨event.eventHash, scan.ids ++ [event.opId]⟩

def verifyParent (ids : List String) (event : OpEvent) : Result Unit :=
  match event.parentId with
  | none => .ok ()
  | some parent => ensure (parent ∈ ids)
    ("legacy event '" ++ event.opId ++ "' references missing parent '" ++ parent ++ "'")

def verifyEvents (events : List OpEvent) : Result Unit := do
  let _ ← events.foldlM (LogScan.verify store) ⟨none, []⟩
  events.forM (verifyParent (events.map (·.opId)))

end Events

abbrev BranchTips := List (String × Option String)

def BranchTips.add (tips : BranchTips) (branch : BranchInfo) : Result BranchTips := do
  ensure (branch.name ∉ tips.map (·.1)) ("duplicate legacy branch '" ++ branch.name ++ "'")
  pure (tips.orderedInsert (fun a b => a.1 ≤ b.1) (branch.name, branch.tipOpId))

def branchTips (branches : List BranchInfo) : Result BranchTips := branches.foldlM BranchTips.add []

section Order
variable (events : List OpEvent)

/-- Walk from a cursor back to the base; `result` is also what was seen. -/
def walk : Nat → Option String → List String → Result (List String)
  | _, none, result => .ok result
  | 0, some _, _ => .error "legacy event ancestry cycle"
  | fuel + 1, some id, result =>
    if id ∈ result then .error "legacy event ancestry cycle"
    else
      match findEvent events id with
      | none => .error ("legacy branch references unknown event '" ++ id ++ "'")
      | some event => walk fuel event.parentId (id :: result)

def ancestry (tip : Option String) : Result (List String) := walk events (events.length + 1) tip []

def addPath (ordered path : List String) : List String :=
  path.foldl (fun ordered id => if id ∈ ordered then ordered else ordered ++ [id]) ordered

def addBranch (ordered : List String) (branch : String × Option String) :
    Result (List String) :=
  if branch.1 = "main" then .ok ordered
  else do
    let path ← ancestry events branch.2
    pure (addPath ordered path)

/-- The order of the journal, from the path of `main` on. -/
def orderedFrom (tips : BranchTips) (mainPath : List String) : Result (List String) :=
  tips.foldlM (addBranch events) mainPath

/-- Whether the branch is not `main` and its ancestry holds the event. -/
def carries (id : String) (branch : String × Option String) : Bool :=
  branch.1 ≠ "main" &&
    match ancestry events branch.2 with
    | .ok path => decide (id ∈ path)
    | .error _ => false

def desiredBranch (tips : BranchTips) (mainPath : List String) (id : String) : String :=
  ((tips.find? fun branch => carries events id branch && decide (id ∉ mainPath)).map
    (·.1)).getD "main"

end Order

/-- `import_control_{:016x}`. -/
def controlId (generation : Nat) : String :=
  "import_control_" ++ String.ofList ((Nat.toDigits 16 generation).leftpad 16 '0')

def revisionText (epoch : String) (document generation : Nat) : String :=
  "resident:" ++ epoch ++ ":" ++ toString document ++ ":" ++ toString generation

structure Import (Archive : Type) where
  records : List (PreparedResidentCommit Archive)
  documentRevision : Nat
  stateGeneration : Nat
  activeBranch : String
  activeHead : Option String
  importedBranches : Branches

def Import.start : Import Archive where
  records := []
  documentRevision := 0
  stateGeneration := 0
  activeBranch := "main"
  activeHead := none
  importedBranches := Finmap.singleton "main" none

section Records
variable (store : Tools Archive) (tools : AgentSpreadsheet.Tools Archive)

def importBase : String := tools.digest.archive store.base

def importEpoch : String :=
  tools.digest.text ("legacy-import:" ++ store.sessionId ++ ":" ++ importBase store tools)

/-- Whether a control moves the document: an undo, a checkout, or a switch away
from the head of the last record. -/
def movesDocument (records : List (PreparedResidentCommit Archive))
    (transition : ResidentTransition) (head : Option String) : Bool :=
  transition = .undo || transition = .checkout ||
    (transition = .branchSwitch && records.getLast?.bind (·.resultingHead) ≠ head)

def controlRecord (i : Import Archive) (transition : ResidentTransition) (effect : Effect Archive)
    (document : Nat) : PreparedResidentCommit Archive where
  schemaVersion := residentCommitSchema
  sessionId := store.sessionId
  commitId := controlId (i.stateGeneration + 1)
  parentCommitId := i.records.getLast?.map (·.commitId)
  historyParentCommitId := none
  baseSha256 := importBase store tools
  requestId := "legacy_control_" ++ controlId (i.stateGeneration + 1)
  requestFingerprint := tools.digest.text (controlId (i.stateGeneration + 1))
  transition := transition
  effects := [effect]
  resultingHead := i.activeHead
  resultingBranch := i.activeBranch
  resultingBranches := i.importedBranches
  catalogGeneration := 0
  stateRevision := revisionText (importEpoch store tools) document (i.stateGeneration + 1)

/-- `i` already has the head, the branch and the table the control results in. -/
def Import.appendControl (i : Import Archive) (transition : ResidentTransition)
    (effect : Effect Archive) : Import Archive :=
  let document := if movesDocument i.records transition i.activeHead then i.documentRevision + 1
    else i.documentRevision
  { i with
    records := i.records ++ [controlRecord store tools i transition effect document]
    documentRevision := document
    stateGeneration := i.stateGeneration + 1 }

def Import.checkout (i : Import Archive) (target : Option String) : Import Archive :=
  { i with activeHead := target }.appendControl store tools .checkout
    { targetHead := some (.ofOption target) }

/-- A checkout that is left out when the head is there already. -/
def Import.moveTo (i : Import Archive) (target : Option String) : Import Archive :=
  if i.activeHead = target then i else i.checkout store tools target

def Import.createBranch (i : Import Archive) (name : String) (tip : Option String) :
    Import Archive :=
  { i with importedBranches := i.importedBranches.insert name tip }.appendControl store tools
    .branchCreate { branchName := some (.text name) }

def Import.switchBranch (i : Import Archive) (name message : String) : Result (Import Archive) := do
  let head ← required (i.importedBranches.lookup name) message
  pure ({ i with activeBranch := name, activeHead := head }.appendControl store tools
    .branchSwitch { branchName := some (.text name) })

/-- Go to the branch an event is on, from its fork. -/
def Import.enterBranch (i : Import Archive) (event : OpEvent) (branch : String) :
    Result (Import Archive) :=
  if branch = i.activeBranch then .ok i
  else
    let i := i.moveTo store tools event.parentId
    let i := if branch ∈ i.importedBranches then i
      else i.createBranch store tools branch event.parentId
    i.switchBranch store tools branch "legacy branch was not imported"

def eventPrepared (event : OpEvent) (document generation : Nat) (before : String)
    (after : Archive) : PreparedResidentTransaction Archive where
  baseSha256 := importBase store tools
  response := {
    status := .applied
    mode := .apply
    atomic := true
    revisionBefore := revisionText (importEpoch store tools) (document - 1) (generation - 1)
    revisionAfter := revisionText (importEpoch store tools) document generation
    ops := 1
    diff := ⟨0, false, "legacy_materialized_snapshot", [], []⟩
    impact := ⟨[event.kind], .moderate⟩
    results := [] }
  publication := .snapshot before after (tools.digest.archive after) .invalidate
  staged := none
  consumeStaged := none

/-- `i` already has the counters, the head and the table of the event. -/
def eventRecord (i : Import Archive) (event : OpEvent) (before : String) (after : Archive)
    (fingerprint : String) : PreparedResidentCommit Archive where
  schemaVersion := residentCommitSchema
  sessionId := store.sessionId
  commitId := event.opId
  parentCommitId := (i.records.getLast?.map (·.commitId)).filter (· ≠ event.opId)
  historyParentCommitId := event.parentId
  baseSha256 := importBase store tools
  requestId := "legacy_event_" ++ event.opId
  requestFingerprint := fingerprint
  transition := .mutation
  effects := [{
    preparedTransaction := .value (eventPrepared store tools event i.documentRevision
      i.stateGeneration before after)
    otherMembers := 1 }]
  resultingHead := i.activeHead
  resultingBranch := i.activeBranch
  resultingBranches := i.importedBranches
  catalogGeneration := 0
  stateRevision := revisionText (importEpoch store tools) i.documentRevision i.stateGeneration

/-- The variables after an event on the active branch. -/
def Import.advance (i : Import Archive) (event : OpEvent) : Import Archive :=
  { i with
    documentRevision := i.documentRevision + 1
    stateGeneration := i.stateGeneration + 1
    activeHead := some event.opId
    importedBranches := i.importedBranches.insert i.activeBranch (some event.opId) }

def Import.append (i : Import Archive) (record : PreparedResidentCommit Archive) :
    Import Archive := { i with records := i.records ++ [record] }

def predecessorBytes (files : Files) : Option String → Result Archive
  | some parent => files.materializeAt store parent
  | none => .ok store.base

def Import.appendEvent (i : Import Archive) (files : Files) (event : OpEvent) :
    Result (Import Archive) := do
  let predecessor ← predecessorBytes store files event.parentId
  let after ← files.materializeAt store event.opId
  let before ← logicalWorkbookSha256 tools predecessor
  let fingerprint ← required event.eventHash "called `Option::unwrap()` on a `None` value"
  pure ((i.advance event).append (eventRecord store tools (i.advance event) event before after
    fingerprint))

def Import.event (files : Files) (events : List OpEvent) (tips : BranchTips)
    (mainPath : List String) (i : Import Archive) (id : String) : Result (Import Archive) := do
  let event ← required (findEvent events id) "legacy event identity missing"
  let i ← i.enterBranch store tools event (desiredBranch events tips mainPath id)
  i.appendEvent store tools files event

/-- A branch that owns no event of its own. -/
def Import.alias (i : Import Archive) (branch : String × Option String) : Import Archive :=
  if branch.1 ∈ i.importedBranches then i
  else (i.moveTo store tools branch.2).createBranch store tools branch.1 branch.2

def Import.select (i : Import Archive) (current : String) : Result (Import Archive) :=
  if i.activeBranch = current then .ok i
  else i.switchBranch store tools current "selected legacy branch was not imported"

/-- HEAD, possibly undone. -/
def Import.restoreHead (i : Import Archive) (events : List OpEvent) (head : Option String) :
    Import Archive :=
  if i.activeHead = head then i
  else if (i.activeHead.bind (findEvent events)).bind (·.parentId) = head then
    { i with activeHead := head }.appendControl store tools .undo
      { targetHead := some (.ofOption head) }
  else i.checkout store tools head

def importRecords (files : Files) (events : List OpEvent) (tips : BranchTips) :
    Result (Import Archive) := do
  let mainPath ← ancestry events ((tips.find? (·.1 == "main")).bind (·.2))
  let ordered ← orderedFrom events tips mainPath
  ensure (ordered.length = events.length)
    "legacy event log contains orphan events not committed by any branch"
  let i ← ordered.foldlM (Import.event store tools files events tips mainPath) Import.start
  let i := tips.foldl (Import.alias store tools) i
  let i ← i.select store tools (trim files.currentBranch)
  pure (i.restoreHead store tools events files.readHead)

def importLegacySession (copy : FrozenCopy) : Result (LegacyResidentImport Archive) := do
  ensure (validSessionId store.sessionId = true) "invalid legacy session id"
  checkMarker copy.marker (importBase store tools)
  let events ← copy.files.readEvents store
  verifyEvents store events
  let tips ← branchTips copy.files.branches
  ensure (trim copy.files.currentBranch ∈ tips.map (·.1))
    "legacy CURRENT_BRANCH references an unknown branch"
  let i ← importRecords store tools copy.files events tips
  -- the generated authority is validated before it is returned
  let _ ← PortableHistoryState.replayBound tools.digest i.records store.sessionId
    (importBase store tools)
  pure ⟨store.base, i.records, copy.staged.insertionSort (· ≤ ·)⟩

end Records

end AgentSpreadsheet.Legacy
