import AgentSpreadsheet.Session

/-! Rebuilding a resident owner from its base and its journal. Documents follow
the ancestry of the head; the staged catalog follows the stream. -/
namespace AgentSpreadsheet
open Library

def firstPrepared (records : List (PreparedResidentCommit Archive)) :
    Result (Option (PreparedResidentTransaction Archive)) :=
  match records.find? fun record =>
      (findMember Effect.preparedTransaction record.effects).isPresent with
  | none => .ok none
  | some record => record.preparedTransaction

/-- The parts of a revision text, without the checks replay makes of an epoch. -/
def revisionParts (message revision : String) : Result ResidentRevision :=
  match revision.toList.splitOn ':' with
  | [scheme, epoch, document, state] => do
    ensure (scheme = "resident".toList) message
    let document ← required (parseU64 document) "invalid digit found in string"
    let state ← required (parseU64 state) "invalid digit found in string"
    pure ⟨String.ofList epoch, document, state⟩
  | _ => .error message

def runOwner (call : Owner Archive α) (session : ResidentWriteSession Archive) :
    Result (ResidentWriteSession Archive) :=
  match call session with
  | (.ok _, session) => .ok session
  | (.error e, _) => .error e

def restoreRevision (revision : ResidentRevision) (session : ResidentWriteSession Archive) :
    ResidentWriteSession Archive :=
  { session with workbook := session.workbook.restoreRevisionIdentity revision }

/-- A new owner under the revision its first prepared transaction started from. -/
def restoreFirst (message : String) (first : Option (PreparedResidentTransaction Archive))
    (session : ResidentWriteSession Archive) : Result (ResidentWriteSession Archive) :=
  match first with
  | none => .ok session
  | some first => do
    let revision ← revisionParts message first.response.revisionBefore
    pure (restoreRevision revision session)

/-- Walk document parents from a target back to the base; oldest first. The
number of records bounds the walk, and the `seen` set stops it first. -/
def portableAncestryLoop (records : List (PreparedResidentCommit Archive)) :
    Nat → Option String → List String → List (PreparedResidentCommit Archive) →
      Result (List (PreparedResidentCommit Archive))
  | _, none, _, ancestry => .ok ancestry
  | 0, some _, _, _ => .error "resident history ancestry cycle"
  | fuel + 1, some id, seen, ancestry =>
    if id ∈ seen then .error "resident history ancestry cycle"
    else
      match records.find? fun record => record.commitId == id with
      | none => .error "resident history target references unknown commit"
      | some record =>
        if record.transition = .mutation ∨ record.transition = .stageApply then
          portableAncestryLoop records fuel record.historyParentCommitId (id :: seen)
            (record :: ancestry)
        else .error "resident history ancestry references non-mutation commit"

def portableAncestry (records : List (PreparedResidentCommit Archive)) (target : Option String) :
    Result (List (PreparedResidentCommit Archive)) :=
  portableAncestryLoop records (records.length + 1) target [] []

section Recovery
variable (tools : Tools Archive)

def recoverRecord (message : String) (record : PreparedResidentCommit Archive) :
    Owner Archive Unit := do
  let prepared ← Exec.lift record.preparedTransaction
  let prepared ← Exec.lift (required prepared message)
  recoverPreparedDocument tools prepared

def recoverRecords (message : String) : List (PreparedResidentCommit Archive) → Owner Archive Unit
  | [] => pure ()
  | record :: rest => do
    recoverRecord tools message record
    recoverRecords message rest

/-- The bytes of the document at a head of the history. -/
def materializePortableHead (epoch : String) (ingested : Bool) (resourceId : ResourceId)
    (base : Archive) (records : List (PreparedResidentCommit Archive)) (target : Option String) :
    Result Archive := do
  let session ← ResidentWriteSession.fromBytes tools resourceId base epoch ingested
  let first ← firstPrepared records
  let session ← restoreFirst "resident history has invalid epoch identity" first session
  let ancestry ← portableAncestry records target
  let session ← runOwner
    (recoverRecords tools "resident mutation lacks prepared transaction" ancestry) session
  (session.workbook.exportBytes tools.xlsx).1

/-- Catalog authority follows the stream. -/
def recoverCatalog (session : ResidentWriteSession Archive)
    (record : PreparedResidentCommit Archive) : Result (ResidentWriteSession Archive) :=
  match record.transition with
  | .catalogStage => do
    let prepared ← record.preparedTransaction
    let prepared ← required prepared "catalog-stage lacks prepared transaction"
    let (changeId, bundle) ← required prepared.staged "catalog-stage lacks staged bundle"
    ensure (changeId ∉ session.staged) "duplicate staged change identity during recovery"
    pure (insertStaged changeId bundle session)
  | .catalogDiscard => do
    let changeId ← required
      ((findValue Effect.discardStagedChangeId record.effects).bind Value.asStr)
      "catalog-discard lacks staged identity"
    ensure (changeId ∈ session.staged) "catalog-discard references missing staged change"
    pure (removeStaged changeId session)
  | .stageApply => do
    let prepared ← record.preparedTransaction
    let prepared ← required prepared "stage-apply lacks prepared transaction"
    let changeId ← required prepared.consumeStaged "stage-apply lacks consumed staged identity"
    ensure (changeId ∈ session.staged) "stage-apply references missing staged change"
    pure (removeStaged changeId session)
  | .checkpoint | .checkpointDelete =>
    .ok { session with catalogGeneration := session.catalogGeneration + 1 }
  | _ => .ok session

/-- An inactive document mutation must be sound as well. -/
def checkInactive (epoch : String) (ingested : Bool) (resourceId : ResourceId) (base : Archive)
    (records : List (PreparedResidentCommit Archive)) (active : List String)
    (record : PreparedResidentCommit Archive) : Result Unit :=
  if record.commitId ∉ active ∧
      (record.transition = .mutation ∨ record.transition = .stageApply) then do
    let prepared ← record.preparedTransaction
    let prepared ← required prepared "mutation lacks prepared transaction"
    if prepared.publication.publishesDocument then do
      let _ ← materializePortableHead tools epoch ingested resourceId base records
        (some record.commitId)
      pure ()
    else pure ()
  else .ok ()

def recoverFromRecords (epoch : String) (ingested : Bool) (resourceId : ResourceId)
    (base : Archive) (records : List (PreparedResidentCommit Archive)) :
    Result (ResidentWriteSession Archive) := do
  let history ← PortableHistoryState.replayBound tools.digest records resourceId.toWorkbookId
    (tools.digest.archive base)
  let session ← ResidentWriteSession.fromBytes tools resourceId base epoch ingested
  let first ← firstPrepared records
  ensure ((first.all fun prepared => prepared.baseSha256 == session.baseSha256) = true)
    "resident recovery base workbook identity mismatch"
  let session ← restoreFirst "resident recovery has invalid initial revision identity" first
    session
  let active ← history.activeAncestry
  let session ← runOwner (recoverRecords tools "active mutation lacks prepared transaction"
    (records.filter fun record => record.commitId ∈ active)) session
  records.forM (checkInactive tools epoch ingested resourceId base records active)
  let session ← records.foldlM recoverCatalog session
  ensure (session.catalogGeneration = history.catalogGeneration)
    "resident recovered catalog generation mismatch"
  match history.stateRevision with
  | none => pure session
  | some revision => do
    let revision ← revisionParts "resident history has invalid final revision identity" revision
    let session := restoreRevision revision session
    pure { session with workbook := session.workbook.markRestartBoundary }

end Recovery

end AgentSpreadsheet
