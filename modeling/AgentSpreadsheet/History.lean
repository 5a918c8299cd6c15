import AgentSpreadsheet.Record

/-! The replayed state of a resident journal, and the two walks over its
document history: the active ancestry and the redo target. -/
namespace AgentSpreadsheet

structure ResidentCheckpoint where
  id : String
  head : Option String
  stateRevision : String
  label : Option String
  deriving DecidableEq, Repr

/-- Document commit to its document parent; `none` is the immutable base. -/
abbrev HistoryParents := Finmap fun _ : String => Option String

structure PortableHistoryState where
  sessionId : String
  baseSha256 : String
  streamTip : Option String
  head : Option String
  currentBranch : String
  branches : Branches
  branchLabels : Finmap fun _ : String => String
  fileExportPlans : Finmap fun _ : String => FileExportPlan
  fileExportResults : Finmap fun _ : String => FileExportResult
  catalogGeneration : Nat
  stateRevision : Option String
  checkpoints : Finmap fun _ : String => ResidentCheckpoint
  calculationCurrent : Bool
  /-- A terminal resource tombstone, retained in the same authoritative stream. -/
  discarded : Bool
  historyParents : HistoryParents
  catalogIds : Finset String
  deriving DecidableEq

def PortableHistoryState.empty (sessionId baseSha256 : String) : PortableHistoryState where
  sessionId := sessionId
  baseSha256 := baseSha256
  streamTip := none
  head := none
  currentBranch := "main"
  branches := Finmap.singleton "main" none
  branchLabels := ∅
  fileExportPlans := ∅
  fileExportResults := ∅
  catalogGeneration := 0
  stateRevision := none
  checkpoints := ∅
  calculationCurrent := false
  discarded := false
  historyParents := ∅
  catalogIds := ∅

namespace PortableHistoryState

def stagedChangeCount (s : PortableHistoryState) : Nat := s.catalogIds.card

def historyParent (s : PortableHistoryState) (commitId : String) : Result (Option String) :=
  match s.historyParents.lookup commitId with
  | some parent => .ok parent
  | none => .error ("unknown document-history commit '" ++ commitId ++ "'")

/-- The source loop advances `child` and `cursor` together, so one of them is
kept. `fuel` bounds the walk by the number of document commits; the `seen` set
stops it first. -/
def redoTargetLoop (parents : HistoryParents) (head : Option String) :
    Nat → String → Finset String → Result (Option String)
  | 0, _, _ => .error "resident redo ancestry cycle"
  | fuel + 1, cursor, seen =>
    if cursor ∈ seen then .error "resident redo ancestry cycle"
    else
      match parents.lookup cursor with
      | none => .error "resident redo ancestry references unknown commit"
      | some parent =>
        if parent = head then .ok (some cursor)
        else
          match parent with
          | none => .ok none
          | some next => redoTargetLoop parents head fuel next (insert cursor seen)

def redoTarget (s : PortableHistoryState) : Result (Option String) :=
  match (s.branches.lookup s.currentBranch).join with
  | none => .ok none
  | some tip => redoTargetLoop s.historyParents s.head (s.historyParents.keys.card + 1) tip ∅

/-- `result` is built front to back, which is the reversal the source makes at
its end. -/
def activeAncestryLoop (parents : HistoryParents) :
    Nat → Option String → Finset String → List String → Result (List String)
  | _, none, _, result => .ok result
  | 0, some _, _, _ => .error "resident document ancestry cycle"
  | fuel + 1, some id, seen, result =>
    if id ∈ seen then .error "resident document ancestry cycle"
    else
      match parents.lookup id with
      | none => .error "resident ancestry references unknown parent"
      | some parent => activeAncestryLoop parents fuel parent (insert id seen) (id :: result)

def activeAncestry (s : PortableHistoryState) : Result (List String) :=
  activeAncestryLoop s.historyParents (s.historyParents.keys.card + 1) s.head ∅ []

end PortableHistoryState

end AgentSpreadsheet
