import AgentSpreadsheet.Stream
import AgentSpreadsheet.Codec
import AgentSpreadsheet.Library.Lines

/-! The native resident journal: one file of hash-chained JSON lines a session.
Every call holds the session's file lock from its load to its last write, so a
call is one step of the journal; the faults it meets are its argument. -/
namespace AgentSpreadsheet
open Library

/-- UTF-8 text that `trim` leaves empty: only characters of `White_Space`. -/
def isBlank : List UInt8 → Bool
  | [] => true
  | 0xC2 :: 0x85 :: rest => isBlank rest
  | 0xC2 :: 0xA0 :: rest => isBlank rest
  | 0xE1 :: 0x9A :: 0x80 :: rest => isBlank rest
  | 0xE2 :: 0x81 :: 0x9F :: rest => isBlank rest
  | 0xE2 :: 0x80 :: c :: rest =>
    ((0x80 ≤ c && c ≤ 0x8A) || c == 0xA8 || c == 0xA9 || c == 0xAF) && isBlank rest
  | 0xE3 :: 0x80 :: 0x80 :: rest => isBlank rest
  | b :: rest => ((9 ≤ b && b ≤ 13) || b == 0x20) && isBlank rest

/-- `lines` takes the carriage return of a CRLF ending with it. -/
def stripCarriageReturn (line : List UInt8) : List UInt8 :=
  if line.getLast? = some carriageReturn then line.dropLast else line

/-- The loop variables of a load; `index` counts every line read. -/
structure Loaded (Archive : Type) where
  index : Nat
  envelopes : List (JournalEnvelope Archive)
  previousHash : Option String

structure DurableCommitOutcome where
  commitId : String
  sequence : Nat
  deriving DecidableEq, Repr

inductive ReconcileOutcome where
  | committed (outcome : DurableCommitOutcome)
  | notFound
  deriving DecidableEq, Repr

structure NativeResidentJournal where
  files : Finmap fun _ : String => List UInt8
  maxBytes : Nat

structure Faults where
  beforeWrite : Bool := false
  sync : Bool := false
  afterCommit : Bool := false
  fileSync : Bool := false
  directorySync : Bool := false
  deriving DecidableEq, Repr

def validSessionId (sessionId : String) : Bool :=
  sessionId ≠ "" && sessionId.toList.all fun c => c.isAlphanum || c == '_' || c == '-'

def debugOption : Option String → String
  | some id => "Some(\"" ++ id ++ "\")"
  | none => "None"

section Load
variable (H : Digest Archive) (codec : LineCodec Archive) (sessionId : String)

def readLine (loaded : Loaded Archive) (line : List UInt8) : Result (Loaded Archive) :=
  let line := stripCarriageReturn line
  let index := loaded.index + 1
  if isBlank line then .ok { loaded with index }
  else do
    let envelope ← required (codec.fromStr line)
      ("corrupt journal record at line " ++ toString index)
    ensure (envelope.record.schemaVersion = residentCommitSchema)
      ("unsupported required resident commit schema '" ++ envelope.record.schemaVersion ++ "'")
    ensure (envelope.record.sessionId = sessionId)
      "journal record belongs to a different session"
    ensure (envelope.sequence = loaded.envelopes.length + 1 ∧
      envelope.previousHash = loaded.previousHash ∧
      envelope.hash = codec.envelopeHash envelope.sequence envelope.record envelope.previousHash)
      ("resident journal integrity failure at sequence " ++ toString envelope.sequence)
    pure ⟨index, loaded.envelopes ++ [envelope], some envelope.hash⟩

/-- The envelopes of a file, the length of its complete part and its length. -/
def loadEnvelopesWithBoundary (file : Option (List UInt8)) :
    Result (List (JournalEnvelope Archive) × Nat × Nat) := do
  ensure (validSessionId sessionId = true) "invalid session id for journal path"
  match file with
  | none => pure ([], 0, 0)
  | some raw => do
    let loaded ← (linesOf newline raw).foldlM (readLine codec sessionId) ⟨0, [], none⟩
    if loaded.envelopes ≠ [] then
      let _ ← PortableHistoryState.replay H (loaded.envelopes.map (·.record))
      pure (loaded.envelopes, completeLength newline raw, raw.length)
    else pure (loaded.envelopes, completeLength newline raw, raw.length)

end Load

namespace NativeResidentJournal
variable (H : Digest Archive) (codec : LineCodec Archive) (journal : NativeResidentJournal)

def loadEnvelopes (sessionId : String) :
    Result (List (JournalEnvelope Archive) × Nat × Nat) :=
  loadEnvelopesWithBoundary H codec sessionId (journal.files.lookup sessionId)

def load (sessionId : String) : Result (List (PreparedResidentCommit Archive)) := do
  let (entries, _, _) ← journal.loadEnvelopes H codec sessionId
  let records := entries.map (·.record)
  if records ≠ [] then
    let _ ← PortableHistoryState.replay H records
    pure records
  else pure records

/-- `set_len` on the session's file, when there is one. -/
def setLen (sessionId : String) (length : Nat) : NativeResidentJournal :=
  match journal.files.lookup sessionId with
  | none => journal
  | some raw => { journal with files := journal.files.insert sessionId (raw.take length) }

def append (sessionId : String) (bytes : List UInt8) : NativeResidentJournal :=
  let raw := (journal.files.lookup sessionId).getD []
  { journal with files := journal.files.insert sessionId (raw ++ bytes) }

def syncFile (faults : Faults) : Result Unit :=
  ensure (faults.fileSync = false) "persistent file sync failure; outcome uncertain"

def syncDirectory (faults : Faults) : Result Unit :=
  ensure (faults.directorySync = false) "persistent directory sync failure; outcome uncertain"

def syncBarriers (faults : Faults) : Result Unit := do
  syncFile faults
  syncDirectory faults

/-- What a commit call decides before it touches the file. -/
inductive CommitPlan (Archive : Type) where
  /-- The request is in the stream already. -/
  | retry (outcome : DurableCommitOutcome) (completeLen : Nat)
  | append (envelope : JournalEnvelope Archive) (completeLen physicalLen : Nat)

def planCommit (prepared : PreparedResidentCommit Archive) : Result (CommitPlan Archive) := do
  ensure (prepared.schemaVersion = residentCommitSchema)
    ("unsupported resident commit schema '" ++ prepared.schemaVersion ++ "': prepare refused")
  let (entries, completeLen, physicalLen) ← journal.loadEnvelopes H codec prepared.sessionId
  ensure (∀ entry ∈ entries, entry.record.baseSha256 = prepared.baseSha256)
    "journal expected base identity mismatch"
  match entries.find? fun entry => entry.record.requestId == prepared.requestId with
  | some existing => do
    ensure (existing.record.requestFingerprint = prepared.requestFingerprint)
      "request identity reuse with a different fingerprint"
    pure (.retry ⟨existing.record.commitId, existing.sequence⟩ completeLen)
  | none => do
    let parent := entries.getLast?.map (·.record.commitId)
    ensure (prepared.parentCommitId = parent)
      ("journal CAS conflict: expected parent " ++ debugOption prepared.parentCommitId ++
        ", current " ++ debugOption parent)
    let _ ← PortableHistoryState.replayBound H (entries.map (·.record) ++ [prepared])
      prepared.sessionId prepared.baseSha256
    pure (.append (nextEnvelope codec.envelopeHash entries prepared) completeLen physicalLen)

def writeEnvelope (faults : Faults) (envelope : JournalEnvelope Archive)
    (completeLen physicalLen : Nat) : Result DurableCommitOutcome × NativeResidentJournal :=
  let sessionId := envelope.record.sessionId
  let truncated := journal.setLen sessionId completeLen
  if physicalLen ≠ completeLen ∧ faults.fileSync = true then
    (.error "persistent file sync failure; outcome uncertain", truncated)
  else
    let written := truncated.append sessionId (codec.encode envelope ++ [newline])
    let acknowledged : Result DurableCommitOutcome := do
      ensure (faults.sync = false) "injected journal fsync failure; outcome uncertain"
      syncBarriers faults
      ensure (faults.afterCommit = false)
        "commit outcome unknown after durable append; reconcile request identity"
      pure ⟨envelope.record.commitId, envelope.sequence⟩
    (acknowledged, written)

def commit (faults : Faults) (prepared : PreparedResidentCommit Archive) :
    Result DurableCommitOutcome × NativeResidentJournal :=
  match journal.planCommit H codec prepared with
  | .error e => (.error e, journal)
  | .ok (.retry outcome completeLen) =>
    let synced : Result DurableCommitOutcome := do
      syncBarriers faults
      pure outcome
    (synced, journal.setLen prepared.sessionId completeLen)
  | .ok (.append envelope completeLen physicalLen) =>
    if faults.beforeWrite then (.error "injected failure before journal write", journal)
    else if journal.maxBytes < completeLen + (codec.encode envelope).length + 1 then
      (.error ("resident journal lifetime byte quota reached; no acknowledged history or " ++
        "outcomes expired"), journal)
    else journal.writeEnvelope codec faults envelope completeLen physicalLen

def reconcile (faults : Faults) (sessionId requestId requestFingerprint : String) :
    Result ReconcileOutcome × NativeResidentJournal :=
  match journal.loadEnvelopes H codec sessionId with
  | .error e => (.error e, journal)
  | .ok (entries, completeLen, _) =>
    let reconciled : Result ReconcileOutcome := do
      (if sessionId ∈ journal.files then syncBarriers faults else .ok ())
      match entries.find? fun entry => entry.record.requestId == requestId with
      | none => pure .notFound
      | some entry => do
        ensure (entry.record.requestFingerprint = requestFingerprint)
          "request identity fingerprint mismatch"
        pure (.committed ⟨entry.record.commitId, entry.sequence⟩)
    (reconciled, journal.setLen sessionId completeLen)

end NativeResidentJournal

end AgentSpreadsheet
