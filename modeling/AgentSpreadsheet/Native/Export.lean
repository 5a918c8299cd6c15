import AgentSpreadsheet.Replay
import AgentSpreadsheet.Library.Script
import Mathlib.Data.List.AList

/-! Export of a resident workbook to a file. The sink works by single accesses to
the file system, so that the process may be stopped between any two of them; a
file is written byte by byte. A stopped process loses nothing it wrote, so syncing
a file or a directory has no effect here. -/
namespace AgentSpreadsheet
namespace NativeExport
open Library

abbrev Bytes := List UInt8

/-- Directories and links are not regular files. -/
inductive FileNode where
  | file (bytes : Bytes)
  | other
  deriving DecidableEq, Repr

abbrev Files := AList fun _ : String => FileNode

/-- What the journal says about file exports: the plans and results of replay and
the request ids of all records. -/
structure ReceiptLog where
  sessionId : String
  head : Option String
  eventsReplayed : Nat
  discarded : Bool
  requestIds : List String
  plans : List FileExportPlan
  results : List FileExportResult

structure ExportState where
  files : Files
  log : ReceiptLog

def maxSourceBytes : Nat := 64 * 1024 * 1024
def maxCaptureBytes : Nat := 128 * 1024 * 1024
def maxFileExportPlans : Nat := 128

def parentOf (path : String) : String :=
  String.ofList ((path.toList.reverse.dropWhile (· ≠ '/')).drop 1).reverse

namespace ReceiptLog

def plan? (log : ReceiptLog) (requestId : String) : Option FileExportPlan :=
  log.plans.find? fun plan => plan.intent.requestId = requestId

def result? (log : ReceiptLog) (requestId : String) : Option FileExportResult :=
  log.results.find? fun result => result.requestId = requestId

def commitPlan (H : Digest Bytes) (log : ReceiptLog) (plan : FileExportPlan) :
    Result ReceiptLog := do
  let recordId := planId H plan.intent.requestId
  ensure (log.discarded = false)
    "resident journal contains a transition after resource discard"
  ensure (recordId ∉ log.requestIds) "duplicate or empty resident request id in stream"
  plan.validate log.sessionId
  ensure (plan.intent.requestId ∉ recordId :: log.requestIds ∧ plan.head = log.head ∧
    plan.eventsReplayed = log.eventsReplayed ∧ log.plans.length < maxFileExportPlans ∧
    log.plan? plan.intent.requestId = none) "invalid or duplicate file export plan"
  pure { log with requestIds := recordId :: log.requestIds, plans := plan :: log.plans }

def commitResult (log : ReceiptLog) (result : FileExportResult) : Result ReceiptLog := do
  ensure (log.discarded = false)
    "resident journal contains a transition after resource discard"
  ensure (result.requestId ∉ log.requestIds) "duplicate or empty resident request id in stream"
  let plan ← required (log.plan? result.requestId) "file export result lacks plan"
  ensure (plan.result = result ∧ log.result? result.requestId = none) "invalid file export result"
  pure { log with
    requestIds := result.requestId :: log.requestIds, results := result :: log.results }

end ReceiptLog

/-! ### Accesses -/

inductive Access where
  | read (path : String)
  | readDirectory (path : String)
  | createNew (path : String)
  | append (path : String) (byte : UInt8)
  | rename (source target : String)
  | hardLink (source target : String)
  | removeFile (path : String)
  | load
  | commitPlan (plan : FileExportPlan)
  | commitResult (result : FileExportResult)

abbrev Answer : Access → Type
  | .read _ => Option FileNode
  | .readDirectory _ => List FileNode
  | .createNew _ => Bool
  | .append _ _ => Unit
  | .rename _ _ => Unit
  | .hardLink _ _ => Bool
  | .removeFile _ => Unit
  | .load => ReceiptLog
  | .commitPlan _ => Result Unit
  | .commitResult _ => Result Unit

namespace ExportState

def node (s : ExportState) (path : String) : Option FileNode := s.files.lookup path

def put (s : ExportState) (path : String) (node : FileNode) : ExportState :=
  { s with files := s.files.insert path node }

def remove (s : ExportState) (path : String) : ExportState :=
  { s with files := s.files.erase path }

def entries (s : ExportState) (directory : String) : List FileNode :=
  (s.files.entries.filter fun entry => parentOf entry.1 = directory).map Sigma.snd

def committed (s : ExportState) (log : Result ReceiptLog) : Result Unit × ExportState :=
  match log with
  | .ok log => (.ok (), { s with log })
  | .error e => (.error e, s)

end ExportState

section Perform
variable (H : Digest Bytes)

def perform : (act : Access) → ExportState → Answer act × ExportState
  | .read path, s => (s.node path, s)
  | .readDirectory path, s => (s.entries path, s)
  | .createNew path, s => if (s.node path).isNone then (true, s.put path (.file [])) else (false, s)
  | .append path byte, s =>
    match s.node path with
    | some (.file bytes) => ((), s.put path (.file (bytes ++ [byte])))
    | _ => ((), s)
  | .rename source target, s =>
    match s.node source with
    | some node => ((), (s.put target node).remove source)
    | none => ((), s)
  | .hardLink source target, s =>
    match s.node source, s.node target with
    | some node, none => (true, s.put target node)
    | _, _ => (false, s)
  | .removeFile path, s => ((), s.remove path)
  | .load, s => (s.log, s)
  | .commitPlan plan, s => s.committed (s.log.commitPlan H plan)
  | .commitResult result, s => s.committed (s.log.commitResult result)

end Perform

abbrev Step (α : Type) := Script Answer String α

def read (path : String) : Step (Option FileNode) := Script.access (Access.read path)
def readDirectory (path : String) : Step (List FileNode) :=
  Script.access (Access.readDirectory path)
def createNew (path : String) : Step Bool := Script.access (Access.createNew path)
def append (path : String) (byte : UInt8) : Step Unit := Script.access (Access.append path byte)
def rename (source target : String) : Step Unit := Script.access (Access.rename source target)
def hardLink (source target : String) : Step Bool := Script.access (Access.hardLink source target)
def removeFile (path : String) : Step Unit := Script.access (Access.removeFile path)
def load : Step ReceiptLog := Script.access Access.load

/-- A commit that fails ends the script. -/
def commitPlan (plan : FileExportPlan) : Step Unit := do
  let committed : Result Unit ← Script.access (Access.commitPlan plan)
  Script.lift committed

def commitResult (result : FileExportResult) : Step Unit := do
  let committed : Result Unit ← Script.access (Access.commitResult result)
  Script.lift committed

/-! ### The sink -/

/-- A resource's binding and directory. `trusted` says of a path that it is absolute
in a canonical directory whose ancestors nobody else can write. -/
structure Sink where
  source : String
  sourceSha256 : String
  directory : String
  trusted : String → Bool

def readRegular (node : Option FileNode) : Result Bytes :=
  match node with
  | some (.file bytes) =>
    if bytes.length ≤ maxSourceBytes then .ok bytes
    else .error "export path must be a bounded regular file"
  | some .other => .error "export path must be a bounded regular file"
  | none => .error "No such file or directory"

def regularBytes (path : String) : Step Bytes := do
  let node ← read path
  Script.lift (readRegular node)

section Sink
variable (H : Digest Bytes) (sink : Sink)

def Sink.captureRoot : String := sink.directory ++ "/captures"

def Sink.capturePath (sha256 : String) : String := sink.captureRoot ++ "/" ++ sha256 ++ ".xlsx"

def destination (path : String) : Step Unit := do
  Script.guard (sink.trusted path = true) "export ancestors must be real directories"
  let node ← read path
  Script.guard (node ≠ some .other) "export destination must be a regular file"

def verifySource : Step Unit := do
  let bytes ← regularBytes sink.source
  Script.guard (H.archive bytes = sink.sourceSha256) "source changed; use save-as or explicit --force"

def generation (node : Option FileNode) : Result String :=
  match node with
  | none => .ok "missing"
  | some node => do
    let bytes ← readRegular (some node)
    pure ("sha256:" ++ H.archive bytes)

def destinationGeneration (path : String) : Step String := do
  let node ← read path
  Script.lift (generation H node)

def Sink.target (intent : FileExportIntent) : String := intent.destination.getD sink.source

/-- An explicit destination is new or forced; the source is unchanged or forced. -/
def checkAuthority (intent : FileExportIntent) : Step Unit :=
  match intent.destination with
  | some path => do
    Script.guard (path ≠ sink.source) "source replacement requires --source, not --output"
    let node ← read path
    Script.guard (intent.force = true ∨ node = none) "output exists; use --force to replace it"
  | none => if intent.force then pure () else verifySource H sink

/-- The generation of the destination, when the intent may be carried out. -/
def authorize (intent : FileExportIntent) : Step String := do
  destination sink (sink.target intent)
  checkAuthority H sink intent
  destinationGeneration H (sink.target intent)

def writeAll (path : String) : Bytes → Step Unit
  | [] => pure ()
  | byte :: rest => do
    append path byte
    writeAll path rest

def createFile (path : String) (bytes : Bytes) : Step Unit := do
  let created ← createNew path
  Script.guard (created = true) "File exists"
  writeAll path bytes

def FileNode.length : FileNode → Nat
  | .file bytes => bytes.length
  | .other => 0

/-- What the captures take, including those no plan refers to. -/
def captureUse (entries : List FileNode) : Nat := (entries.map FileNode.length).sum

def writeCapture (bytes : Bytes) : Step Unit := do
  let entries ← readDirectory sink.captureRoot
  Script.guard (.other ∉ entries) "unexpected capture directory entry"
  Script.guard (captureUse entries + bytes.length ≤ maxCaptureBytes)
    "retained capture lifetime byte quota reached (including orphans); no automatic history expiry"
  createFile (sink.capturePath (H.archive bytes)) bytes

def artifactOf (bytes : Bytes) : ArtifactMetadata where
  artifactId := "artifact-" ++ H.archive bytes
  mediaType := xlsxMediaType
  bytes := bytes.length
  sha256 := H.archive bytes

/-- A capture is written in place, unless a file of its name is there. -/
def prepareCapture (bytes : Bytes) : Step Unit := do
  let node ← read (sink.capturePath (H.archive bytes))
  if node = none then writeCapture H sink bytes else pure ()

def retain (bytes : Bytes) : Step ArtifactMetadata := do
  Script.guard (bytes.length ≤ maxSourceBytes) "capture exceeds byte limit"
  prepareCapture H sink bytes
  let retained ← regularBytes (sink.capturePath (H.archive bytes))
  Script.guard (retained = bytes) "capture hash collision or incomplete preparation"
  pure (artifactOf H bytes)

/-- The temporary file goes to the destination: over it, or only where there is none. -/
def replace (intent : FileExportIntent) (temporary path : String) : Step Unit :=
  if intent.force = true ∨ intent.destination = none then rename temporary path
  else do
    let linked ← hardLink temporary path
    Script.guard (linked = true) "File exists"
    removeFile temporary

def checkSource (intent : FileExportIntent) : Step Unit :=
  if intent.destination = none ∧ intent.force = false then verifySource H sink else pure ()

def publishFile (intent : FileExportIntent) (path temporary expected : String) (bytes : Bytes) :
    Step Unit := do
  createFile temporary bytes
  checkSource H sink intent
  let current ← destinationGeneration H path
  Script.guard (current = expected) "export destination changed during publication"
  replace intent temporary path

/-- The destination is as it was when the plan was made. -/
def checkGeneration (plan : FileExportPlan) : Step String := do
  let _ ← authorize H sink plan.intent
  let expected ← Script.lift (required plan.destinationGeneration
    "old pending export lacks destination generation; publication refused")
  let current ← destinationGeneration H plan.destination
  Script.guard (current = expected)
    "export destination changed since first admission; pending capture will not overwrite newer data"
  pure expected

/-- The part of a publication that replaces a destination which does not have the
artifact yet. The temporary file is removed in any case. -/
def replaceDestination (plan : FileExportPlan) (temporary : String) (bytes : Bytes) :
    Step Unit := do
  let expected ← checkGeneration H sink plan
  let result ← (publishFile H sink plan.intent plan.destination temporary expected bytes).attempt
  removeFile temporary
  Script.lift result

def temporaryPath (path uuid : String) : String := parentOf path ++ "/.asp-export-" ++ uuid

def readExisting (path : String) : Step (Option Bytes) := do
  let node ← read path
  if node = none then pure none
  else do
    let bytes ← regularBytes path
    pure (some bytes)

/-- The retained artifact, and what the destination has. -/
def checkPlan (plan : FileExportPlan) : Step (Bytes × Option Bytes) := do
  Script.guard (plan.sourceSha256 = sink.sourceSha256) "export source authority mismatch"
  let bytes ← regularBytes (sink.capturePath plan.artifact.sha256)
  Script.guard (bytes.length = plan.artifact.bytes ∧ H.archive bytes = plan.artifact.sha256)
    "retained capture mismatch"
  destination sink plan.destination
  Script.guard (plan.destination = sink.target plan.intent)
    "prepared path differs from authorized destination"
  Script.guard (plan.intent.destination = none ∨ plan.destination ≠ sink.source)
    "source replacement requires explicit source intent"
  let existing ← readExisting plan.destination
  pure (bytes, existing)

/-- A destination that has the artifact was published before. -/
def publish (uuid : String) (plan : FileExportPlan) : Step Unit := do
  let (bytes, existing) ← checkPlan H sink plan
  if existing = some bytes then pure ()
  else replaceDestination H sink plan (temporaryPath plan.destination uuid) bytes

end Sink

/-! ### The export -/

/-- The owner of the workbook: what an export captures of it. -/
structure ExportOwner where
  poisoned : Bool
  revision : String
  bytes : Bytes

def sessionOf (resourceId : String) : Option String :=
  match resourceId.toList.dropWhile (· ≠ ':') with
  | [] => none
  | _ :: rest => some (String.ofList rest)

section Export
variable (H : Digest Bytes) (sink : Sink) (owner : ExportOwner) (uuid : String)

/-- Publication of a durable plan, and its receipt. -/
def finishExport (log : ReceiptLog) (plan : FileExportPlan) : Step FileExportResult := do
  Script.guard (log.discarded = false) "discarded resource cannot publish a new filesystem export"
  Script.guard (owner.poisoned = false) "resident owner is poisoned"
  let current ← load
  Script.guard (planId H plan.intent.requestId ∈ current.requestIds) "export plan is not readable"
  publish H sink uuid plan
  commitResult plan.result
  pure plan.result

def exportPlan (log : ReceiptLog) (intent : FileExportIntent) (artifact : ArtifactMetadata)
    (destinationGeneration : String) : FileExportPlan where
  head := log.head
  eventsReplayed := log.eventsReplayed
  intent := intent
  revisionId := owner.revision
  artifact := artifact
  sourceSha256 := sink.sourceSha256
  destination := sink.target intent
  destinationGeneration := some destinationGeneration

/-- The plan of a first admission: authority and capture. -/
def prepareExport (log : ReceiptLog) (sessionId : String) (intent : FileExportIntent) :
    Step FileExportPlan := do
  Script.guard (intent.requestId ∉ log.requestIds ∧ planId H intent.requestId ∉ log.requestIds ∧
      log.plan? (planId H intent.requestId) = none)
    "file export public or preparation request identity belongs to another operation; export not submitted"
  Script.guard (log.plans.length < maxFileExportPlans)
    "file export plan lifetime quota reached; acknowledged captures are not expired"
  Script.guard (owner.poisoned = false) "resident owner is poisoned"
  Script.guard ((intent.expectedRevision.all (· == owner.revision)) = true)
    "revision conflict: named export revision is not the retained current revision"
  let destinationGeneration ← authorize H sink intent
  let artifact ← retain H sink owner.bytes
  Script.guard (artifact.bytes = owner.bytes.length ∧ artifact.sha256 = H.archive owner.bytes)
    "capture metadata mismatch"
  let plan := exportPlan sink owner log intent artifact destinationGeneration
  Script.lift (plan.validate sessionId)
  pure plan

/-- A first admission, with its receipt. -/
def admitExport (log : ReceiptLog) (sessionId : String) (intent : FileExportIntent) :
    Step FileExportPlan := do
  let plan ← prepareExport H sink owner log sessionId intent
  commitPlan plan
  pure plan

/-- A plan that is there is carried out, whatever the workbook is by now. -/
def continueExport (sessionId : String) (intent : FileExportIntent) (log : ReceiptLog) :
    Step FileExportResult :=
  match log.plan? intent.requestId with
  | some plan => do
    Script.guard (plan.intent = intent) "file export request identity reuse with different input"
    match log.result? intent.requestId with
    | some result => pure result
    | none => finishExport H sink owner uuid log plan
  | none => do
    let plan ← admitExport H sink owner log sessionId intent
    finishExport H sink owner uuid log plan

def exportFile (intent : FileExportIntent) : Step FileExportResult := do
  let sessionId ← Script.lift (required (sessionOf intent.resourceId) "invalid resource")
  Script.guard (intent.requestId ≠ "" ∧ intent.requestId.utf8ByteSize ≤ 256) "invalid request identity"
  let log ← load
  continueExport H sink owner uuid sessionId intent log

end Export

/-! ### Runs -/

section Runs
variable {H : Digest Bytes} {sink : Sink} {s t : ExportState} {path other : String}

abbrev run (H : Digest Bytes) (x : Step α) (s : ExportState) : Result α × ExportState :=
  Script.exec (perform H) x s

abbrev StopsAt (H : Digest Bytes) (x : Step α) (s t : ExportState) : Prop :=
  Script.Stops (perform H) x s t

namespace ExportState

@[simp] theorem node_put (node : FileNode) : (s.put path node).node path = some node := by
  simp [put, ExportState.node]

theorem node_put_ne (node : FileNode) (h : other ≠ path) :
    (s.put path node).node other = s.node other := by
  simp [put, ExportState.node, h]

theorem node_remove_ne (h : other ≠ path) : (s.remove path).node other = s.node other := by
  simp [remove, ExportState.node, h]

@[simp] theorem put_put (node node' : FileNode) :
    (s.put path node).put path node' = s.put path node' := by
  simp [put]

end ExportState

def Reads : Access → Prop
  | .read _ | .readDirectory _ | .load => True
  | _ => False

theorem perform_reads {act : Access} (h : Reads act) : (perform H act s).2 = s := by
  cases act <;> first | rfl | exact h.elim

theorem stops_reads {x : Step α} (hx : x.Within Reads) (h : StopsAt H x s t) : t = s := by
  refine hx.stops (I := fun now => now = s) ?_ rfl h
  rintro act now hact rfl
  exact perform_reads hact

theorem stops_of_run {x : Step α} {r : Result α} (h : run H x s = (r, t)) : StopsAt H x s t := by
  have hstops : StopsAt H x s (run H x s).2 := Script.stops_exec x s
  rwa [h] at hstops

/-- A sequence that begins with reading is stopped with nothing changed, or later. -/
theorem stops_after_reads {x : Step α} {f : α → Step β} (hx : x.Within Reads)
    (h : StopsAt H (x >>= f) s t) :
    t = s ∨ ∃ a, run H x s = (.ok a, s) ∧ StopsAt H (f a) s t := by
  rcases h.split with hfirst | ⟨a, u, hrun, hsecond⟩
  · exact .inl (stops_reads hx hfirst)
  · have hu : u = s := stops_reads hx (stops_of_run hrun)
    subst hu
    exact .inr ⟨a, hrun, hsecond⟩

theorem run_read : run H (read path) s = (.ok (s.node path), s) := rfl

theorem run_regularBytes : run H (regularBytes path) s = (readRegular (s.node path), s) := by
  unfold run regularBytes
  rw [Script.exec_bind, Exec.bind_apply]
  rfl

theorem run_destinationGeneration :
    run H (destinationGeneration H path) s = (generation H (s.node path), s) := by
  unfold run destinationGeneration
  rw [Script.exec_bind, Exec.bind_apply]
  rfl

theorem bind_ok {x : Step α} {f : α → Step β} {b : β} :
    run H (x >>= f) s = (.ok b, t) ↔ ∃ a u, run H x s = (.ok a, u) ∧ run H (f a) u = (.ok b, t) := by
  unfold run
  rw [Script.exec_bind, Exec.bind_ok_iff]

theorem guard_ok {p : Prop} [Decidable p] {message : String} {u : Unit} :
    run H (Script.guard p message) s = (.ok u, t) ↔ p ∧ s = t := by
  unfold run
  rw [Script.exec_guard, Exec.guard_ok_iff]

theorem lift_ok {r : Result α} {a : α} :
    run H (Script.lift r) s = (.ok a, t) ↔ r = .ok a ∧ s = t := by
  unfold run
  rw [Script.exec_lift, Exec.lift_ok_iff]

theorem pure_ok {a b : α} : run H (pure a) s = (.ok b, t) ↔ a = b ∧ s = t := by
  unfold run
  rw [Script.exec_pure, Exec.pure_ok_iff]

theorem read_ok {node : Option FileNode} :
    run H (read path) s = (.ok node, t) ↔ s.node path = node ∧ s = t := by
  rw [run_read, Prod.mk.injEq, Except.ok.injEq]

theorem regularBytes_ok {bytes : Bytes} :
    run H (regularBytes path) s = (.ok bytes, t) ↔ readRegular (s.node path) = .ok bytes ∧ s = t := by
  rw [run_regularBytes, Prod.mk.injEq]

theorem destinationGeneration_ok {g : String} :
    run H (destinationGeneration H path) s = (.ok g, t) ↔
      generation H (s.node path) = .ok g ∧ s = t := by
  rw [run_destinationGeneration, Prod.mk.injEq]

/-- The source has the content the resource was bound to. -/
def SourceIntact (H : Digest Bytes) (sink : Sink) (s : ExportState) : Prop :=
  ∃ bytes, readRegular (s.node sink.source) = .ok bytes ∧ H.archive bytes = sink.sourceSha256

theorem verifySource_ok {u : Unit} :
    run H (verifySource H sink) s = (.ok u, t) ↔ SourceIntact H sink s ∧ s = t := by
  unfold verifySource SourceIntact
  simp only [bind_ok, regularBytes_ok, guard_ok]
  constructor
  · rintro ⟨bytes, _, ⟨hread, rfl⟩, hsha, rfl⟩
    exact ⟨⟨bytes, hread, hsha⟩, rfl⟩
  · rintro ⟨⟨bytes, hread, hsha⟩, rfl⟩
    exact ⟨bytes, s, ⟨hread, rfl⟩, hsha, rfl⟩

/-- The sink takes the intent, and the destination is at the generation. -/
structure Authorized (H : Digest Bytes) (sink : Sink) (intent : FileExportIntent) (s : ExportState)
    (g : String) : Prop where
  trusted : sink.trusted (sink.target intent) = true
  regular : s.node (sink.target intent) ≠ some .other
  explicit : ∀ path, intent.destination = some path →
    path ≠ sink.source ∧ (intent.force = true ∨ s.node path = none)
  source : intent.destination = none → intent.force = false → SourceIntact H sink s
  current : generation H (s.node (sink.target intent)) = .ok g

theorem destination_ok {u : Unit} :
    run H (destination sink path) s = (.ok u, t) ↔
      (sink.trusted path = true ∧ s.node path ≠ some .other) ∧ s = t := by
  unfold destination
  simp only [bind_ok, guard_ok, read_ok]
  constructor
  · rintro ⟨_, _, ⟨htrusted, rfl⟩, _, _, ⟨rfl, rfl⟩, hregular, rfl⟩
    exact ⟨⟨htrusted, hregular⟩, rfl⟩
  · rintro ⟨⟨htrusted, hregular⟩, rfl⟩
    exact ⟨(), s, ⟨htrusted, rfl⟩, _, s, ⟨rfl, rfl⟩, hregular, rfl⟩

theorem checkAuthority_ok {intent : FileExportIntent} {u : Unit} :
    run H (checkAuthority H sink intent) s = (.ok u, t) ↔
      ((∀ path, intent.destination = some path →
          path ≠ sink.source ∧ (intent.force = true ∨ s.node path = none)) ∧
        (intent.destination = none → intent.force = false → SourceIntact H sink s)) ∧ s = t := by
  unfold checkAuthority
  cases hdestination : intent.destination with
  | some path =>
    simp only [bind_ok, guard_ok, read_ok]
    constructor
    · rintro ⟨_, _, ⟨hsource, rfl⟩, _, _, ⟨rfl, rfl⟩, hforce, rfl⟩
      refine ⟨⟨?_, by simp⟩, rfl⟩
      intro path' hpath
      cases hpath
      exact ⟨hsource, hforce⟩
    · rintro ⟨⟨hexplicit, _⟩, rfl⟩
      obtain ⟨hsource, hforce⟩ := hexplicit path rfl
      exact ⟨(), s, ⟨hsource, rfl⟩, _, s, ⟨rfl, rfl⟩, hforce, rfl⟩
  | none =>
    cases hforce : intent.force with
    | true =>
      simp only [if_true, pure_ok]
      simp
    | false =>
      simp only [Bool.false_eq_true, if_false, verifySource_ok]
      simp

theorem authorize_ok {intent : FileExportIntent} {g : String} :
    run H (authorize H sink intent) s = (.ok g, t) ↔ Authorized H sink intent s g ∧ s = t := by
  unfold authorize
  simp only [bind_ok, destination_ok, checkAuthority_ok, destinationGeneration_ok]
  constructor
  · rintro ⟨_, _, ⟨⟨htrusted, hregular⟩, rfl⟩, _, _, ⟨⟨hexplicit, hsource⟩, rfl⟩, hcurrent, rfl⟩
    exact ⟨⟨htrusted, hregular, hexplicit, hsource, hcurrent⟩, rfl⟩
  · rintro ⟨h, rfl⟩
    exact ⟨(), s, ⟨⟨h.trusted, h.regular⟩, rfl⟩, (), s, ⟨⟨h.explicit, h.source⟩, rfl⟩, h.current, rfl⟩

/-- Authority looks at the destination only; the source is read where it is the destination. -/
theorem Authorized.congr {intent : FileExportIntent} {g : String}
    (h : Authorized H sink intent s g) (htarget : t.node (sink.target intent) =
      s.node (sink.target intent)) : Authorized H sink intent t g where
  trusted := h.trusted
  regular := by rw [htarget]; exact h.regular
  explicit := by
    intro path hpath
    have htarget' : sink.target intent = path := by simp [Sink.target, hpath]
    rw [htarget'] at htarget
    rw [htarget]
    exact h.explicit path hpath
  source := by
    intro hnone hforce
    have htarget' : sink.target intent = sink.source := by simp [Sink.target, hnone]
    unfold SourceIntact
    rw [← htarget', htarget, htarget']
    exact h.source hnone hforce
  current := by rw [htarget]; exact h.current

/-! ### Writing files -/

theorem run_append (byte : UInt8) (before : Bytes) :
    run H (append path byte) (s.put path (.file before)) =
      (.ok (), s.put path (.file (before ++ [byte]))) := by
  have hperform : perform H (.append path byte) (s.put path (.file before)) =
      ((), s.put path (.file (before ++ [byte]))) := by
    simp [perform]
  change (Except.ok (perform H (.append path byte) _).1,
    (perform H (.append path byte) (s.put path (.file before))).2) = _
  rw [hperform]

theorem run_writeAll (bytes before : Bytes) :
    run H (writeAll path bytes) (s.put path (.file before)) =
      (.ok (), s.put path (.file (before ++ bytes))) := by
  induction bytes generalizing before with
  | nil => simp [writeAll, run, Exec.pure_apply]
  | cons byte rest ih =>
    unfold writeAll
    rw [bind_ok]
    refine ⟨(), _, run_append byte before, ?_⟩
    rw [ih, List.append_assoc, List.singleton_append]

theorem createNew_ok {created : Bool} :
    run H (createNew path) s = (.ok created, t) ↔
      (created = true ∧ s.node path = none ∧ t = s.put path (.file [])) ∨
        (created = false ∧ s.node path ≠ none ∧ t = s) := by
  change (Except.ok (perform H (.createNew path) s).1, (perform H (.createNew path) s).2) = _ ↔ _
  cases hnode : s.node path with
  | none =>
    have hperform : perform H (.createNew path) s = (true, s.put path (.file [])) := by
      simp [perform, hnode]
    rw [hperform, Prod.mk.injEq, Except.ok.injEq]
    simp [eq_comm]
  | some node =>
    have hperform : perform H (.createNew path) s = (false, s) := by
      simp [perform, hnode]
    rw [hperform, Prod.mk.injEq, Except.ok.injEq]
    simp [eq_comm]

theorem createFile_ok {bytes : Bytes} {u : Unit} :
    run H (createFile path bytes) s = (.ok u, t) ↔
      s.node path = none ∧ t = s.put path (.file bytes) := by
  unfold createFile
  simp only [bind_ok, createNew_ok, guard_ok]
  constructor
  · rintro ⟨created, _, ⟨rfl, hnone, rfl⟩ | ⟨rfl, _, rfl⟩, _, _, ⟨hcreated, rfl⟩, hwritten⟩
    · rw [run_writeAll, List.nil_append, Prod.mk.injEq] at hwritten
      exact ⟨hnone, hwritten.2.symm⟩
    · contradiction
  · rintro ⟨hnone, rfl⟩
    refine ⟨true, _, .inl ⟨rfl, hnone, rfl⟩, (), _, ⟨rfl, rfl⟩, ?_⟩
    rw [run_writeAll, List.nil_append]

def Touches (path : String) : Access → Prop
  | .read _ | .readDirectory _ | .load => True
  | .createNew target | .append target _ | .removeFile target => target = path
  | _ => False

theorem reads_touches {act : Access} (h : Reads act) : Touches path act := by
  cases act <;> trivial

def SameBut (paths : List String) (s t : ExportState) : Prop :=
  t.log = s.log ∧ ∀ path, path ∉ paths → t.node path = s.node path

theorem SameBut.refl (paths : List String) (s : ExportState) : SameBut paths s s :=
  ⟨rfl, fun _ _ => rfl⟩

theorem SameBut.trans {paths : List String} {u : ExportState} (h : SameBut paths s t)
    (h' : SameBut paths t u) : SameBut paths s u :=
  ⟨h'.1.trans h.1, fun path hpath => (h'.2 path hpath).trans (h.2 path hpath)⟩

theorem sameBut_put (node : FileNode) : SameBut [path] s (s.put path node) :=
  ⟨rfl, fun other hother => ExportState.node_put_ne node (by simpa using hother)⟩

theorem sameBut_remove : SameBut [path] s (s.remove path) :=
  ⟨rfl, fun other hother => ExportState.node_remove_ne (by simpa using hother)⟩

theorem SameBut.mono {paths more : List String} (h : SameBut paths s t)
    (hsub : paths ⊆ more) : SameBut more s t :=
  ⟨h.1, fun path hpath => h.2 path fun hmem => hpath (hsub hmem)⟩

theorem perform_touches {act : Access} (h : Touches path act) :
    SameBut [path] s (perform H act s).2 := by
  cases act with
  | read | readDirectory | load => exact SameBut.refl _ _
  | createNew target =>
    obtain rfl : target = path := h
    simp only [perform]
    split
    · exact sameBut_put _
    · exact SameBut.refl _ _
  | append target byte =>
    obtain rfl : target = path := h
    simp only [perform]
    split
    · exact sameBut_put _
    · exact SameBut.refl _ _
  | removeFile target =>
    obtain rfl : target = path := h
    exact sameBut_remove
  | rename | hardLink | commitPlan | commitResult => exact h.elim

theorem stops_touches {x : Step α} (hx : x.Within (Touches path)) (h : StopsAt H x s t) :
    SameBut [path] s t := by
  refine hx.stops (I := fun now => SameBut [path] s now) ?_ (SameBut.refl _ _) h
  intro act now hact hnow
  exact hnow.trans (perform_touches hact)

/-! ### What the scripts access -/

theorem within_read : (read path).Within Reads := Script.within_access trivial

theorem within_regularBytes : (regularBytes path).Within Reads :=
  within_read.bind fun _ => Script.within_lift _

theorem within_destination : (destination sink path).Within Reads :=
  (Script.within_guard _ _).bind fun _ => within_read.bind fun _ => Script.within_guard _ _

theorem within_verifySource : (verifySource H sink).Within Reads :=
  within_regularBytes.bind fun _ => Script.within_guard _ _

theorem within_destinationGeneration : (destinationGeneration H path).Within Reads :=
  within_read.bind fun _ => Script.within_lift _

theorem within_checkAuthority (intent : FileExportIntent) :
    (checkAuthority H sink intent).Within Reads := by
  unfold checkAuthority
  cases intent.destination with
  | some path =>
    exact (Script.within_guard _ _).bind fun _ => within_read.bind fun _ => Script.within_guard _ _
  | none =>
    cases intent.force
    · exact within_verifySource
    · exact Script.within_pure _

theorem within_authorize (intent : FileExportIntent) : (authorize H sink intent).Within Reads :=
  within_destination.bind fun _ => (within_checkAuthority intent).bind fun _ =>
    within_destinationGeneration

theorem within_writeAll (bytes : Bytes) : (writeAll path bytes).Within (Touches path) := by
  induction bytes with
  | nil => exact Script.within_pure ()
  | cons byte rest ih =>
    exact Script.Within.bind (x := append path byte) (Script.within_access rfl) fun _ => ih

theorem within_createFile (bytes : Bytes) : (createFile path bytes).Within (Touches path) :=
  Script.Within.bind (x := createNew path) (Script.within_access rfl) fun _ =>
    (Script.within_guard _ _).bind fun _ => within_writeAll bytes

theorem within_checkSource (intent : FileExportIntent) :
    (checkSource H sink intent).Within Reads := by
  unfold checkSource
  split
  · exact within_verifySource
  · exact Script.within_pure _

theorem within_checkGeneration (plan : FileExportPlan) :
    (checkGeneration H sink plan).Within Reads :=
  (within_authorize _).bind fun _ => (Script.within_lift _).bind fun _ =>
    within_destinationGeneration.bind fun _ => (Script.within_guard _ _).bind fun _ =>
      Script.within_pure _

theorem within_readExisting : (readExisting path).Within Reads := by
  refine within_read.bind fun node => ?_
  split
  · exact Script.within_pure _
  · exact within_regularBytes.bind fun _ => Script.within_pure _

theorem within_checkPlan (plan : FileExportPlan) : (checkPlan H sink plan).Within Reads :=
  (Script.within_guard _ _).bind fun _ => within_regularBytes.bind fun _ =>
    (Script.within_guard _ _).bind fun _ => within_destination.bind fun _ =>
      (Script.within_guard _ _).bind fun _ => (Script.within_guard _ _).bind fun _ =>
        within_readExisting.bind fun _ => Script.within_pure _

theorem within_retain (bytes : Bytes) :
    (retain H sink bytes).Within (Touches (sink.capturePath (H.archive bytes))) := by
  have hread : (read (sink.capturePath (H.archive bytes))).Within
      (Touches (sink.capturePath (H.archive bytes))) := within_read.mono fun _ => reads_touches
  have hregular : (regularBytes (sink.capturePath (H.archive bytes))).Within
      (Touches (sink.capturePath (H.archive bytes))) :=
    within_regularBytes.mono fun _ => reads_touches
  have hprepare : (prepareCapture H sink bytes).Within
      (Touches (sink.capturePath (H.archive bytes))) := by
    refine hread.bind fun node => ?_
    split
    · exact Script.Within.bind (x := readDirectory sink.captureRoot) (Script.within_access trivial)
        fun _ => (Script.within_guard _ _).bind fun _ => (Script.within_guard _ _).bind fun _ =>
          within_createFile bytes
    · exact Script.within_pure _
  exact (Script.within_guard _ _).bind fun _ => hprepare.bind fun _ => hregular.bind fun _ =>
    (Script.within_guard _ _).bind fun _ => Script.within_pure _

/-! ### Captures -/

def HasRoom (sink : Sink) (s : ExportState) (bytes : Bytes) : Prop :=
  .other ∉ s.entries sink.captureRoot ∧
    captureUse (s.entries sink.captureRoot) + bytes.length ≤ maxCaptureBytes

/-- A capture of the bytes is complete, or there is none and room for it. -/
def Capturable (H : Digest Bytes) (sink : Sink) (s : ExportState) (bytes : Bytes) : Prop :=
  s.node (sink.capturePath (H.archive bytes)) = some (.file bytes) ∨
    (s.node (sink.capturePath (H.archive bytes)) = none ∧ HasRoom sink s bytes)

theorem readDirectory_ok {entries : List FileNode} :
    run H (readDirectory path) s = (.ok entries, t) ↔ s.entries path = entries ∧ s = t := by
  change ((.ok (s.entries path) : Result (List FileNode)), s) = _ ↔ _
  rw [Prod.mk.injEq, Except.ok.injEq]

theorem writeCapture_ok {bytes : Bytes} {u : Unit} :
    run H (writeCapture H sink bytes) s = (.ok u, t) ↔
      HasRoom sink s bytes ∧ s.node (sink.capturePath (H.archive bytes)) = none ∧
        t = s.put (sink.capturePath (H.archive bytes)) (.file bytes) := by
  unfold writeCapture HasRoom
  simp only [bind_ok, readDirectory_ok, guard_ok, createFile_ok]
  constructor
  · rintro ⟨_, _, ⟨rfl, rfl⟩, _, _, ⟨hother, rfl⟩, _, _, ⟨hquota, rfl⟩, hnone, rfl⟩
    exact ⟨⟨hother, hquota⟩, hnone, rfl⟩
  · rintro ⟨⟨hother, hquota⟩, hnone, rfl⟩
    exact ⟨_, s, ⟨rfl, rfl⟩, (), s, ⟨hother, rfl⟩, (), s, ⟨hquota, rfl⟩, hnone, rfl⟩

theorem prepareCapture_ok {bytes : Bytes} {u : Unit} :
    run H (prepareCapture H sink bytes) s = (.ok u, t) ↔
      (s.node (sink.capturePath (H.archive bytes)) ≠ none ∧ t = s) ∨
        (s.node (sink.capturePath (H.archive bytes)) = none ∧ HasRoom sink s bytes ∧
          t = s.put (sink.capturePath (H.archive bytes)) (.file bytes)) := by
  unfold prepareCapture
  simp only [bind_ok, read_ok]
  constructor
  · rintro ⟨_, _, ⟨rfl, rfl⟩, h⟩
    split at h
    next hnone =>
      obtain ⟨hroom, _, rfl⟩ := writeCapture_ok.mp h
      exact .inr ⟨hnone, hroom, rfl⟩
    next hsome => exact .inl ⟨hsome, (pure_ok.mp h).2.symm⟩
  · rintro (⟨hsome, rfl⟩ | ⟨hnone, hroom, rfl⟩)
    · refine ⟨_, t, ⟨rfl, rfl⟩, ?_⟩
      rw [if_neg hsome]
      exact pure_ok.mpr ⟨rfl, rfl⟩
    · refine ⟨_, s, ⟨rfl, rfl⟩, ?_⟩
      rw [if_pos hnone]
      exact writeCapture_ok.mpr ⟨hroom, hnone, rfl⟩

theorem readRegular_file {node : Option FileNode} {bytes : Bytes} :
    readRegular node = .ok bytes ↔ node = some (.file bytes) ∧ bytes.length ≤ maxSourceBytes := by
  cases node with
  | none => simp [readRegular]
  | some node =>
    cases node with
    | other => simp [readRegular]
    | file content =>
      unfold readRegular
      dsimp only
      split
      next hlimit =>
        simp only [Except.ok.injEq, Option.some.injEq, FileNode.file.injEq]
        constructor
        · rintro rfl
          exact ⟨rfl, hlimit⟩
        · exact fun h => h.1
      next hlimit =>
        simp only [reduceCtorEq, Option.some.injEq, FileNode.file.injEq, false_iff]
        rintro ⟨rfl, hlimit'⟩
        exact hlimit hlimit'

/-- A capture succeeds where it is complete or can be written, and leaves it complete. -/
theorem retain_ok {bytes : Bytes} {artifact : ArtifactMetadata} :
    run H (retain H sink bytes) s = (.ok artifact, t) ↔
      bytes.length ≤ maxSourceBytes ∧ artifact = artifactOf H bytes ∧ Capturable H sink s bytes ∧
        t = if s.node (sink.capturePath (H.archive bytes)) = none
          then s.put (sink.capturePath (H.archive bytes)) (.file bytes) else s := by
  unfold retain Capturable
  simp only [bind_ok, guard_ok, prepareCapture_ok, regularBytes_ok, pure_ok, readRegular_file]
  constructor
  · rintro ⟨_, _, ⟨hlimit, rfl⟩, _, _, ⟨hsome, rfl⟩ | ⟨hnone, hroom, rfl⟩, _, _,
      ⟨⟨hread, _⟩, rfl⟩, _, _, ⟨rfl, rfl⟩, rfl, rfl⟩
    · rw [if_neg hsome]
      exact ⟨hlimit, rfl, .inl hread, rfl⟩
    · rw [if_pos hnone]
      exact ⟨hlimit, rfl, .inr ⟨hnone, hroom⟩, rfl⟩
  · rintro ⟨hlimit, rfl, hcapture | ⟨hnone, hroom⟩, rfl⟩
    · have hsome : s.node (sink.capturePath (H.archive bytes)) ≠ none := by simp [hcapture]
      rw [if_neg hsome]
      exact ⟨(), s, ⟨hlimit, rfl⟩, (), s, .inl ⟨hsome, rfl⟩, bytes, s, ⟨⟨hcapture, hlimit⟩, rfl⟩, (), s,
        ⟨rfl, rfl⟩, rfl, rfl⟩
    · rw [if_pos hnone]
      exact ⟨(), s, ⟨hlimit, rfl⟩, (), _, .inr ⟨hnone, hroom, rfl⟩, bytes, _,
        ⟨⟨ExportState.node_put _, hlimit⟩, rfl⟩, (), _, ⟨rfl, rfl⟩, rfl, rfl⟩

end Runs

end NativeExport
end AgentSpreadsheet
