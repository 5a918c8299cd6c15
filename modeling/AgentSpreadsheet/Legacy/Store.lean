import AgentSpreadsheet.Revision
import AgentSpreadsheet.Library.Script
import Mathlib.Data.Finset.Basic

/-! The legacy session store: one directory of files for a session. Every call is
a script of the file accesses it makes, in their order. -/
namespace AgentSpreadsheet.Legacy
open Library

structure Preconditions where
  cellMatches : List (String × String)
  workbookHashBefore : Option String
  deriving DecidableEq, Repr

/-- `payload` is its JSON text; `details` are the serialised fields that no call
of the store reads. -/
structure OpEvent where
  opId : String
  parentId : Option String
  sessionId : String
  kind : String
  payload : String
  canonicalPayloadHash : String
  preconditions : Option Preconditions
  details : String
  prevEventHash : Option String
  eventHash : Option String
  deriving DecidableEq, Repr

structure BranchInfo where
  name : String
  tipOpId : Option String
  forkPoint : Option String
  label : Option String
  deriving DecidableEq, Repr

/-- One session, its immutable base, and the code around the store. -/
structure Tools (Archive : Type) where
  sessionId : String
  base : Archive
  payloadHash : String → String
  /-- The digest of an event's JSON. -/
  recordHash : OpEvent → String
  workbookHash : Archive → String
  /-- Open a workbook, replay events on it in order and serialise it. -/
  replay : Archive → List OpEvent → Result Archive
  evaluateCellMatches : Archive → List (String × String) → Result (List String)

structure Files where
  log : List OpEvent
  head : String
  currentBranch : String
  branches : List BranchInfo
  frozen : Bool
  deriving DecidableEq, Repr

def Files.create : Files where
  log := []
  head := ""
  currentBranch := "main"
  branches := [⟨"main", none, none, none⟩]
  frozen := false

/-- Unicode `White_Space`. -/
def isWhitespace (c : Char) : Bool :=
  (9 ≤ c.toNat && c.toNat ≤ 13) || c.toNat == 0x20 || c.toNat == 0x85 || c.toNat == 0xA0 ||
  c.toNat == 0x1680 || (0x2000 ≤ c.toNat && c.toNat ≤ 0x200A) || c.toNat == 0x2028 ||
  c.toNat == 0x2029 || c.toNat == 0x202F || c.toNat == 0x205F || c.toNat == 0x3000

def trim (text : String) : String :=
  String.ofList (((text.toList.dropWhile isWhitespace).reverse.dropWhile isWhitespace).reverse)

def validSessionId (id : String) : Bool :=
  id ≠ "" && id.toList.all fun c => c.isAlphanum || c == '_' || c == '-'

def validateSessionId (id : String) : Result Unit :=
  ensure (validSessionId id = true) "invalid session id"

/-- The op id in a HEAD file; a blank file is the base. -/
def headOf (content : String) : Option String :=
  if trim content = "" then none else some (trim content)

def Files.readHead (files : Files) : Option String := headOf files.head

inductive FileAct where
  | readHead
  | writeHead (content : String)
  | readBranchName
  | writeBranchName (content : String)
  | readBranches
  | writeBranches (branches : List BranchInfo)
  | readLog
  | appendLog (event : OpEvent)
  | readFrozen
  | lock
  | unlock
  deriving DecidableEq

abbrev FileAct.Ans : FileAct → Type
  | .readHead | .readBranchName => String
  | .readBranches => List BranchInfo
  | .readLog => List OpEvent
  | .readFrozen => Bool
  | _ => Unit

def FileAct.perform : (act : FileAct) → Files → act.Ans × Files
  | .readHead, files => (files.head, files)
  | .writeHead content, files => ((), { files with head := content })
  | .readBranchName, files => (files.currentBranch, files)
  | .writeBranchName content, files => ((), { files with currentBranch := content })
  | .readBranches, files => (files.branches, files)
  | .writeBranches branches, files => ((), { files with branches })
  | .readLog, files => (files.log, files)
  | .appendLog event, files => ((), { files with log := files.log ++ [event] })
  | .readFrozen, files => (files.frozen, files)
  | .lock, files => ((), files)
  | .unlock, files => ((), files)

abbrev FileScript := Script FileAct.Ans String

def access (act : FileAct) : FileScript act.Ans := Script.access act

section Log
variable (tools : Tools Archive)

def OpEvent.verifyIntegrity (event : OpEvent) : Bool :=
  event.canonicalPayloadHash == tools.payloadHash event.payload &&
    event.eventHash == some (tools.recordHash { event with eventHash := none })

/-- The hash is over the record as it stands. -/
def OpEvent.seal (event : OpEvent) : OpEvent :=
  { event with eventHash := some (tools.recordHash event) }

structure LogScan where
  previousHash : Option String
  ids : List String
  deriving DecidableEq, Repr

def LogScan.step (scan : LogScan) (event : OpEvent) : Result LogScan := do
  validateSessionId event.opId
  ensure (event.sessionId = tools.sessionId ∧ event.verifyIntegrity tools = true)
    ("legacy event '" ++ event.opId ++ "' failed session/payload/hash validation")
  ensure (event.prevEventHash = scan.previousHash)
    ("legacy event append hash chain is corrupt at '" ++ event.opId ++ "'")
  ensure (event.opId ∉ scan.ids) ("duplicate legacy event id '" ++ event.opId ++ "'")
  pure ⟨event.eventHash, scan.ids ++ [event.opId]⟩

def checkParents (events : List OpEvent) : Result Unit :=
  events.forM fun event =>
    ensure (∀ parent, event.parentId = some parent → parent ∈ events.map (·.opId))
      ("legacy event '" ++ event.opId ++ "' references missing parent")

/-- Integrity, hash chain, identities and parents of a log. -/
def checkLog (events : List OpEvent) : Result Unit := do
  let _ ← events.foldlM (LogScan.step tools) ⟨none, []⟩
  checkParents events

def findEvent (events : List OpEvent) (id : String) : Option OpEvent :=
  events.find? fun event => event.opId == id

/-- Walk from a cursor to the first event that is committed already. The number
of events bounds the walk, since every step commits a new one. -/
def commitTip (events : List OpEvent) :
    Nat → Option String → Finset String → Result (Finset String)
  | _, none, committed => .ok committed
  | 0, some id, _ => .error ("legacy projection references missing event '" ++ id ++ "'")
  | fuel + 1, some id, committed =>
    if id ∈ committed then .ok committed
    else
      match findEvent events id with
      | none => .error ("legacy projection references missing event '" ++ id ++ "'")
      | some event => commitTip events fuel event.parentId (insert id committed)

def committedIds (events : List OpEvent) (tips : List String) : Result (Finset String) :=
  tips.foldlM (fun committed tip => commitTip events (events.length + 1) (some tip) committed) ∅

def projectionTips (branches : List BranchInfo) (head : Option String) : List String :=
  branches.filterMap (·.tipOpId) ++ head.toList

end Log

section Calls
variable (tools : Tools Archive)

def ensureLegacyWritable : FileScript Unit := do
  let frozen ← access .readFrozen
  Script.guard (frozen = false)
    "legacy session is frozen for resident import; mutation refused"

def readHead : FileScript (Option String) := do
  let content ← access .readHead
  pure (headOf content)

def writeHead (opId : String) : FileScript Unit := do
  ensureLegacyWritable
  access (.writeHead opId)

def clearHead : FileScript Unit := do
  ensureLegacyWritable
  access (.writeHead "")

def currentBranch : FileScript String := do
  let content ← access .readBranchName
  pure (trim content)

def getBranch (branches : List BranchInfo) (name : String) : Option BranchInfo :=
  branches.find? fun branch => branch.name == name

/-- The first branch of the name gets the tip. -/
def setTip (name opId : String) : List BranchInfo → List BranchInfo
  | [] => []
  | branch :: rest =>
    if branch.name = name then { branch with tipOpId := some opId } :: rest
    else branch :: setTip name opId rest

def readEvents : FileScript (List OpEvent) := do
  let events ← access .readLog
  Script.lift (checkLog tools events)
  let branches ← access .readBranches
  let head ← readHead
  let committed ← Script.lift (committedIds events (projectionTips branches head))
  pure (events.filter fun event => event.opId ∈ committed)

/-- Parents from a target back to the base; oldest first. -/
def ancestryLoop (events : List OpEvent) :
    Nat → Option String → List String → List OpEvent → Result (List OpEvent)
  | _, none, _, ancestry => .ok ancestry
  | 0, some _, _, _ => .error "legacy event ancestry cycle"
  | fuel + 1, some id, seen, ancestry =>
    if id ∈ seen then .error "legacy event ancestry cycle"
    else
      match findEvent events id with
      | none => .error "target event is absent from committed legacy history"
      | some event => ancestryLoop events fuel event.parentId (id :: seen) (event :: ancestry)

def materializeAt (target : String) : FileScript Archive := do
  let events ← readEvents tools
  let ancestry ← Script.lift (ancestryLoop events (events.length + 1) (some target) [] [])
  Script.lift (tools.replay tools.base ancestry)

def materialize : FileScript Archive := do
  let head ← readHead
  match head with
  | some id => materializeAt tools id
  | none => pure tools.base

def checkPreconditions (event : OpEvent) : FileScript Unit :=
  match event.preconditions with
  | none => pure ()
  | some preconditions =>
    if preconditions.cellMatches = [] ∧ preconditions.workbookHashBefore = none then pure ()
    else do
      let bytes ← materialize tools
      Script.guard ((preconditions.workbookHashBefore.all (· == tools.workbookHash bytes)) = true)
        "precondition failed: workbook_hash_before mismatch"
      if preconditions.cellMatches = [] then pure ()
      else do
        let violations ← Script.lift
          (tools.evaluateCellMatches bytes preconditions.cellMatches)
        Script.guard (violations = []) "precondition failed"

/-- The hash of the log's last event; at the base there is none. -/
def previousHash (head : Option String) : FileScript (Option String) :=
  match head with
  | none => pure none
  | some _ => do
    let events ← access .readLog
    pure (events.getLast?.bind (·.eventHash))

/-- The part of `append_event` under the lock; the branch it has moved. -/
def appendLocked (event : OpEvent) : FileScript String := do
  let head ← readHead
  Script.guard (event.parentId = head) "CAS conflict: event parent_id differs from HEAD"
  checkPreconditions tools event
  let prevEventHash ← previousHash head
  let event := { event with prevEventHash }.seal tools
  access (.appendLog event)
  writeHead event.opId
  let branch ← currentBranch
  let branches ← access .readBranches
  access (.writeBranches (setTip branch event.opId branches))
  pure branch

/-- Give the lock back, however the script ends. -/
def unlocking : FileScript α → FileScript α
  | .done result => .call .unlock fun _ => .done result
  | .call act next => .call act fun answer => unlocking (next answer)

/-- `append_event`, less the best-effort snapshot. -/
def appendEvent (event : OpEvent) : FileScript String := do
  Script.lift (validateSessionId event.opId)
  Script.guard (event.sessionId = tools.sessionId) "event belongs to a different session"
  ensureLegacyWritable
  access .lock
  unlocking do
    ensureLegacyWritable
    appendLocked tools event

def switchBranch (name : String) : FileScript Unit := do
  ensureLegacyWritable
  let branches ← access .readBranches
  let branch ← Script.lift (required (getBranch branches name) ("branch not found: " ++ name))
  access (.writeBranchName name)
  match branch.tipOpId with
  | some opId => writeHead opId
  | none => clearHead

def createBranch (name : String) (forkPoint label : Option String) : FileScript Unit := do
  ensureLegacyWritable
  let branches ← access .readBranches
  Script.guard (getBranch branches name = none) ("branch already exists: " ++ name)
  access (.writeBranches (branches ++ [⟨name, forkPoint, forkPoint, label⟩]))

def moveHead (target : Option String) : FileScript Unit :=
  match target with
  | some opId => writeHead opId
  | none => clearHead

def undo : FileScript (Option String) := do
  let head ← readHead
  match head with
  | none => Script.fail "already at base: nothing to undo"
  | some id => do
    let events ← readEvents tools
    let event ← Script.lift (required (findEvent events id)
      ("HEAD event '" ++ id ++ "' not found in binlog"))
    moveHead event.parentId
    pure event.parentId

/-- The first logged child of HEAD; at the base the first event. -/
def redoChild (events : List OpEvent) : Option String → Option OpEvent
  | some id => events.find? fun event => event.parentId == some id
  | none => events.head?

def redo : FileScript (Option String) := do
  let head ← readHead
  let events ← readEvents tools
  let event ← Script.lift (required (redoChild events head) "nothing to redo")
  writeHead event.opId
  pure (some event.opId)

def checkout (opId : String) : FileScript Unit := do
  let events ← readEvents tools
  Script.guard (opId ∈ events.map (·.opId)) ("op_id '" ++ opId ++ "' not found in event log")
  writeHead opId

end Calls

inductive Call where
  | append (event : OpEvent)
  | createBranch (name : String) (forkPoint label : Option String)
  | switchBranch (name : String)
  | undo
  | redo
  | checkout (opId : String)
  deriving DecidableEq

/-- What a call is acknowledged with. `append_event` itself returns nothing; the
reply keeps the branch it has moved. -/
inductive Reply where
  | appended (branch : String)
  | moved (head : Option String)
  | done
  deriving DecidableEq

def Call.script (tools : Tools Archive) : Call → FileScript Reply
  | .append event => do
    let branch ← appendEvent tools event
    pure (.appended branch)
  | .createBranch name forkPoint label => do
    Legacy.createBranch name forkPoint label
    pure .done
  | .switchBranch name => do
    Legacy.switchBranch name
    pure .done
  | .undo => do
    let head ← Legacy.undo tools
    pure (.moved head)
  | .redo => do
    let head ← Legacy.redo tools
    pure (.moved head)
  | .checkout opId => do
    Legacy.checkout tools opId
    pure .done

def Call.run (tools : Tools Archive) (call : Call) : Exec Files String Reply :=
  (call.script tools).exec FileAct.perform

end AgentSpreadsheet.Legacy
