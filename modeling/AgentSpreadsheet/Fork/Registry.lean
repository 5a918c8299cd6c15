import AgentSpreadsheet.Transaction

/-! A fork of the registry: its work file, revisions, staged changes, checkpoints
and operation history. Canonical operations run under the fork's lock and swap
revisions; the older tools change the work file without it. -/
namespace AgentSpreadsheet.Registry
open Library Library.Exec

/-- One operation of a staged change; the payload of an older tool is its JSON text. -/
inductive StagedOp where
  | canonicalWriteBundle (bundle : CanonicalStagedBundle)
  | tool (kind payload : String)
  deriving DecidableEq, Repr

/-- `createdAt` is a reading of the wall clock. -/
structure StagedChange where
  changeId : String
  createdAt : Int
  label : Option String
  ops : List StagedOp
  deriving DecidableEq, Repr

/-- `snapshot` is the content of the checkpoint's file. -/
structure Checkpoint (Archive : Type) where
  checkpointId : String
  createdAt : Int
  label : Option String
  snapshot : Archive
  recalcNeeded : Bool
  snapshotStateRevision : String
  canonicalOperationLen : Nat
  deriving DecidableEq, Repr

/-- What a fork stood at when its revision was returned. `found` says that the
revision is the hash of a file found changed. -/
structure Observation (Archive : Type) where
  revision : String
  workFile : Archive
  stagedChanges : List StagedChange
  checkpoints : List (Checkpoint Archive)
  canonicalOperations : List CanonicalOperationRecord
  found : Bool

/-- `returned` are the revisions answered so far; nothing reads it. -/
structure ForkContext (Archive : Type) where
  forkId : String
  workFile : Archive
  contentRevision : String
  stateRevision : String
  stagedChanges : List StagedChange
  checkpoints : List (Checkpoint Archive)
  canonicalOperations : List CanonicalOperationRecord
  recalcNeeded : Bool
  returned : List (Observation Archive)

/-- What an operation draws from outside: random identities, the wall clock, the
file's content when a tool without the lock writes it in between, and failures
of the file system. -/
structure Ambient (Archive : Type) where
  revisionId : String
  freshId : String
  now : Int
  raced : Option Archive := none
  /-- A copy, a removal or a check of the base file fails. -/
  fails : Bool := false
  /-- The work file cannot be read back after it was replaced. -/
  hashFails : Bool := false

/-- `size` is the length of a file. -/
structure FileTools (Archive : Type) where
  tools : Tools Archive
  size : Archive → Nat

def maxCheckpointsPerFork : Nat := 10
def maxCheckpointTotalBytes : Nat := 500 * 1024 * 1024

abbrev ForkExec (Archive α : Type) := Exec (ForkContext Archive) String α

section Context
variable (digest : Digest Archive)

/-- A new fork is named by its content. -/
def ForkContext.new (forkId : String) (base : Archive) : ForkContext Archive :=
  ⟨forkId, base, digest.archive base, digest.archive base, [], [], [], false, []⟩

def ForkContext.observe (fork : ForkContext Archive) (found : Bool) : ForkContext Archive :=
  { fork with returned := fork.returned ++ [⟨fork.stateRevision, fork.workFile, fork.stagedChanges,
      fork.checkpoints, fork.canonicalOperations, found⟩] }

/-- A work file found changed is its own new revision. -/
def ForkContext.found (fork : ForkContext Archive) : ForkContext Archive :=
  { fork with
    contentRevision := digest.archive fork.workFile
    stateRevision := digest.archive fork.workFile }.observe true

def syncRevisions : ForkExec Archive String := Exec.act fun fork =>
  if digest.archive fork.workFile ≠ fork.contentRevision then
    (digest.archive fork.workFile, fork.found digest)
  else (fork.stateRevision, fork.observe false)

/-- The compare of every compare-and-swap. -/
def expecting (expected : String) : ForkExec Archive String := do
  let before ← syncRevisions digest
  Exec.guard (before = expected) (revisionConflict expected before)
  pure before

/-- A tool that holds no lock writes the work file. -/
def race (ambient : Ambient Archive) : ForkExec Archive Unit :=
  Exec.modify fun fork => { fork with workFile := ambient.raced.getD fork.workFile }

/-- The work file is replaced; the operation fails if it cannot be read back. -/
def overwrite (ambient : Ambient Archive) (bytes : Archive) (flag : Bool → Bool) :
    ForkExec Archive Unit := do
  Exec.modify fun fork => { fork with
    workFile := ambient.raced.getD bytes
    recalcNeeded := flag fork.recalcNeeded }
  Exec.guard (ambient.hashFails = false) "failed to read the work file"

def Ambient.state (ambient : Ambient Archive) : String := "state:" ++ ambient.revisionId

def ForkContext.pushStagedChange (fork : ForkContext Archive) (staged : StagedChange) :
    ForkContext Archive :=
  let changes := fork.stagedChanges ++ [staged]
  { fork with stagedChanges := changes.drop (changes.length - maxStagedChangesPerFork) }

def ForkContext.pushCanonicalOperation (fork : ForkContext Archive) (kind : String)
    (opKinds : List String) (revisionBefore revisionAfter : String) : ForkContext Archive :=
  { fork with canonicalOperations := fork.canonicalOperations ++
      [⟨(fork.canonicalOperations.getLast?.map (·.sequence + 1)).getD 1, kind, opKinds,
        revisionBefore, revisionAfter⟩] }

/-- The file is replaced and read back; a tool may write it in between. -/
def ForkContext.replaced (fork : ForkContext Archive) (bytes : Archive)
    (ambient : Ambient Archive) : ForkContext Archive :=
  { fork with
    workFile := ambient.raced.getD bytes
    contentRevision := digest.archive (ambient.raced.getD bytes)
    stateRevision := ambient.state }

/-- The oldest checkpoints make room: by their number, then by their size, of
which the last one is exempt. -/
def evictBytes (size : Archive → Nat) : List (Checkpoint Archive) → List (Checkpoint Archive)
  | [] => []
  | oldest :: rest =>
    if ((oldest :: rest).map fun checkpoint => size checkpoint.snapshot).sum ≤
        maxCheckpointTotalBytes ∨ rest = [] then oldest :: rest
    else evictBytes size rest

def enforceCheckpointLimits (size : Archive → Nat) (checkpoints : List (Checkpoint Archive)) :
    List (Checkpoint Archive) :=
  evictBytes size (checkpoints.drop (checkpoints.length - maxCheckpointsPerFork))

/-- A checkpoint of the fork as it stands, and the revision of having it. -/
def ForkContext.pushCheckpoint (fork : ForkContext Archive) (size : Archive → Nat)
    (label : Option String) (ambient : Ambient Archive) : ForkContext Archive :=
  { fork with
    checkpoints := enforceCheckpointLimits size (fork.checkpoints ++ [⟨ambient.freshId, ambient.now,
      label, fork.workFile, fork.recalcNeeded, fork.stateRevision,
      fork.canonicalOperations.length⟩])
    stateRevision := ambient.state }

/-- What a canonical restore leaves: the file and the flag of the checkpoint, the
history cut to its length, and of the rest what is not dated later. -/
def ForkContext.rewound (fork : ForkContext Archive) (target : Checkpoint Archive)
    (ambient : Ambient Archive) : ForkContext Archive :=
  { fork.replaced digest target.snapshot ambient with
    stagedChanges := fork.stagedChanges.filter fun change => ¬ target.createdAt < change.createdAt
    checkpoints := fork.checkpoints.filter fun checkpoint =>
      ¬ target.createdAt < checkpoint.createdAt
    canonicalOperations := fork.canonicalOperations.take target.canonicalOperationLen
    recalcNeeded := target.recalcNeeded }

end Context

section Canonical
variable (t : FileTools Archive) (ambient : Ambient Archive)

/-- `ForkFileBackend`. -/
def forkBackend : Backend (ForkContext Archive) Archive where
  validateResource := fun resourceId fork =>
    ensure (resourceId.kind = .fork ∧ resourceId.key = fork.forkId)
      (invalidRequest "native canonical write requires the bound fork: mutable resource_id")
  snapshot := do
    let revision ← syncRevisions t.tools.digest
    let fork ← Exec.get
    pure ⟨fork.workFile, revision, fork.contentRevision⟩
  supportsStage := true
  commit := fun expectedRevision bytes opKinds => do
    let _ ← expecting t.tools.digest expectedRevision
    overwrite ambient bytes fun _ => true
    Exec.modify fun fork => { fork.replaced t.tools.digest bytes ambient with
      recalcNeeded := true }.pushCanonicalOperation "write" opKinds expectedRevision ambient.state
    pure ambient.state
  stage := fun expectedRevision bundle label _ _ => do
    let _ ← expecting t.tools.digest expectedRevision
    Exec.modify fun fork => { fork.pushStagedChange
      ⟨ambient.freshId, ambient.now, label, [.canonicalWriteBundle bundle]⟩ with
        stateRevision := ambient.state }
    pure (ambient.freshId, ambient.state)
  document := fun fork => some fork.workFile
  revision := fun fork => some (if t.tools.digest.archive fork.workFile ≠ fork.contentRevision
    then t.tools.digest.archive fork.workFile else fork.stateRevision)

/-- The last part of a recalculation. Its first part compares the revision and
copies the work file; the copy was evaluated outside the lock. -/
def finishRecalculation (expected : String) (evaluated : Archive) (complete : Bool) :
    ForkExec Archive Unit := do
  let before ← expecting t.tools.digest expected
  Exec.guard (ambient.fails = false) "failed to persist temporary file"
  overwrite ambient evaluated id
  Exec.modify fun fork => { fork.replaced t.tools.digest evaluated ambient with
    recalcNeeded := !complete }.pushCanonicalOperation "recalculate" [] before ambient.state

/-- The artifact is the content of the revision it is exported at. -/
def exportFork (expected : String) : ForkExec Archive Archive := do
  let _ ← expecting t.tools.digest expected
  Exec.guard (ambient.fails = false) "base file content changed since fork creation"
  race ambient
  let fork ← Exec.get
  let contents := t.tools.digest.archive fork.workFile
  if contents ≠ fork.contentRevision then do
    Exec.modify fun fork => fork.found t.tools.digest
    Exec.fail (revisionConflict expected contents)
  else do
    Exec.modify fun fork => { fork with stateRevision := ambient.state }
    pure fork.workFile

def checkpointCreate (expected : String) (label : Option String) : ForkExec Archive Unit := do
  let _ ← expecting t.tools.digest expected
  race ambient
  Exec.guard (ambient.fails = false) "failed to copy the work file"
  Exec.modify fun fork => fork.pushCheckpoint t.size label ambient

/-- The file goes first: a checkpoint whose file cannot be removed stays. -/
def checkpointDelete (expected checkpointId : String) : ForkExec Archive Unit := do
  let _ ← expecting t.tools.digest expected
  let fork ← Exec.get
  Exec.guard ((fork.checkpoints.any fun checkpoint => checkpoint.checkpointId == checkpointId) = true)
    ("checkpoint not found: " ++ checkpointId)
  Exec.guard (ambient.fails = false) "failed to remove the snapshot"
  Exec.modify fun fork => { fork with
    checkpoints := fork.checkpoints.eraseP fun checkpoint => checkpoint.checkpointId == checkpointId
    stateRevision := ambient.state }

/-- The file is replaced before anything else changes; then it is read back. -/
def checkpointRestore (expected checkpointId : String) : ForkExec Archive Unit := do
  let _ ← expecting t.tools.digest expected
  let fork ← Exec.get
  let target ← Exec.lift (required (fork.checkpoints.find? fun checkpoint =>
    checkpoint.checkpointId == checkpointId) ("checkpoint not found: " ++ checkpointId))
  Exec.guard (ambient.fails = false) "failed to persist temporary file"
  overwrite ambient target.snapshot id
  Exec.modify fun fork => fork.rewound t.tools.digest target ambient

/-- Only a change of the canonical write is managed here. -/
def canonicalBundle (change : StagedChange) : Result CanonicalStagedBundle :=
  match change.ops with
  | [.canonicalWriteBundle bundle] => .ok bundle
  | _ => .error (invalidRequest "only canonical write bundles can be managed by staged_change")

/-- The candidate of a staged bundle over the content it was staged on. -/
def applyBundle (bytes : Archive) (bundle : CanonicalStagedBundle) : Result (Archive × Nat) := do
  ensure (bundle.atomic = true)
    (invalidRequest "canonical staged bundles must preserve atomic semantics")
  ensure (t.tools.digest.archive bytes = bundle.baseRevision)
    ("revision conflict: staged write expected " ++ bundle.baseRevision ++ ", current " ++
      t.tools.digest.archive bytes)
  let original ← t.tools.xlsx.readReader bytes
  let (candidate, _, failure) := applyCandidate t.tools (bundle.formulaParsePolicy.getD .warn)
    original bundle.ops
  ensure (failure = none) ("staged write op failed")
  let candidateBytes ← t.tools.xlsx.writeWriter 0 candidate
  pure (candidateBytes, bundle.ops.length)

def stagedApply (expected changeId : String) : ForkExec Archive Nat := do
  let before ← expecting t.tools.digest expected
  let fork ← Exec.get
  let staged ← Exec.lift (required (fork.stagedChanges.find? fun change =>
    change.changeId == changeId) ("staged change not found: " ++ changeId))
  let bundle ← Exec.lift (canonicalBundle staged)
  Exec.guard (bundle.baseRevision = fork.contentRevision)
    (revisionConflict bundle.baseRevision fork.contentRevision)
  let (bytes, opsApplied) ← Exec.lift (applyBundle t fork.workFile bundle)
  overwrite ambient bytes id
  Exec.modify fun fork => { (fork.replaced t.tools.digest bytes ambient).pushCanonicalOperation
      "write" (bundle.ops.map (·.kind)) before ambient.state with
    recalcNeeded := decide (opsApplied > 0) || fork.recalcNeeded
    stagedChanges := fork.stagedChanges.eraseP fun change => change.changeId == changeId }
  pure opsApplied

def stagedDiscard (expected changeId : String) : ForkExec Archive Unit := do
  let _ ← expecting t.tools.digest expected
  let fork ← Exec.get
  Exec.guard ((fork.stagedChanges.any fun change => change.changeId == changeId) = true)
    ("staged change not found: " ++ changeId)
  Exec.modify fun fork => { fork with
    stagedChanges := fork.stagedChanges.eraseP fun change => change.changeId == changeId
    stateRevision := ambient.state }

end Canonical

/-- The canonical operations on a fork. A recalculation begins with a look at the
revision, as every read does. -/
inductive CanonicalOp (Archive : Type) where
  | look
  | write (request : WriteRequest)
  | finishRecalculation (expected : String) (evaluated : Archive) (complete : Bool)
  | export (expected : String)
  | checkpointCreate (expected : String) (label : Option String)
  | checkpointDelete (expected checkpointId : String)
  | checkpointRestore (expected checkpointId : String)
  | stagedApply (expected changeId : String)
  | stagedDiscard (expected changeId : String)

/-- The answer of the operation is left out: whether it succeeded is what counts. -/
def CanonicalOp.run (t : FileTools Archive) (ambient : Ambient Archive) :
    CanonicalOp Archive → ForkExec Archive Unit
  | .look => do
    let _ ← syncRevisions t.tools.digest
  | .write request => do
    let _ ← executeWriteTransaction t.tools (forkBackend t ambient) request
  | .finishRecalculation expected evaluated complete =>
    Registry.finishRecalculation t ambient expected evaluated complete
  | .export expected => do
    let _ ← exportFork t ambient expected
  | .checkpointCreate expected label => Registry.checkpointCreate t ambient expected label
  | .checkpointDelete expected checkpointId =>
    Registry.checkpointDelete t ambient expected checkpointId
  | .checkpointRestore expected checkpointId =>
    Registry.checkpointRestore t ambient expected checkpointId
  | .stagedApply expected changeId => do
    let _ ← Registry.stagedApply t ambient expected changeId
  | .stagedDiscard expected changeId => Registry.stagedDiscard t ambient expected changeId

section Tools
variable (t : FileTools Archive) (ambient : Ambient Archive)

/-- The older tools. Of them only those that take the lock move the revision. -/
inductive ToolOp (Archive : Type) where
  /-- An edit, style, structure or import tool wrote the work file. -/
  | writeFile (bytes : Archive)
  | markRecalc
  | addStagedChange (label : Option String) (ops : List StagedOp)
  | takeStagedChange (changeId : String)
  /-- The part of `apply_staged_change` that applies a canonical bundle. -/
  | applyBundle (bundle : CanonicalStagedBundle)
  | createCheckpoint (label : Option String)
  | deleteCheckpoint (checkpointId : String)
  | restoreCheckpoint (checkpointId : String)

def ToolOp.run : ToolOp Archive → ForkExec Archive Unit
  | .writeFile bytes => Exec.modify fun fork => { fork with workFile := bytes }
  | .markRecalc => Exec.modify fun fork => { fork with recalcNeeded := true }
  | .addStagedChange label ops => Exec.modify fun fork => { fork.pushStagedChange
      ⟨ambient.freshId, ambient.now, label, ops⟩ with stateRevision := ambient.state }
  | .takeStagedChange changeId => do
    let fork ← Exec.get
    Exec.guard ((fork.stagedChanges.any fun change => change.changeId == changeId) = true)
      ("staged change not found: " ++ changeId)
    Exec.modify fun fork => { fork with
      stagedChanges := fork.stagedChanges.eraseP fun change => change.changeId == changeId
      stateRevision := ambient.state }
  | .applyBundle bundle => do
    let _ ← syncRevisions t.tools.digest
    let fork ← Exec.get
    let (bytes, applied) ← Exec.lift (Registry.applyBundle t fork.workFile bundle)
    if applied > 0 then Exec.modify fun fork => { fork.replaced t.tools.digest bytes ambient with
      recalcNeeded := true }
    else Exec.modify fun fork => { fork with workFile := bytes }
  | .createCheckpoint label => do
    let _ ← syncRevisions t.tools.digest
    race ambient
    Exec.guard (ambient.fails = false) "failed to copy the work file"
    Exec.modify fun fork => fork.pushCheckpoint t.size label ambient
  | .deleteCheckpoint checkpointId => do
    let fork ← Exec.get
    Exec.guard ((fork.checkpoints.any fun checkpoint =>
      checkpoint.checkpointId == checkpointId) = true) ("checkpoint not found: " ++ checkpointId)
    Exec.modify fun fork => { fork with
      checkpoints := fork.checkpoints.eraseP fun checkpoint =>
        checkpoint.checkpointId == checkpointId
      stateRevision := ambient.state }
  | .restoreCheckpoint checkpointId => do
    let fork ← Exec.get
    let target ← Exec.lift (required (fork.checkpoints.find? fun checkpoint =>
      checkpoint.checkpointId == checkpointId) ("checkpoint not found: " ++ checkpointId))
    Exec.guard (ambient.fails = false) "failed to copy the snapshot"
    -- checkpoints and the history stay
    Exec.modify fun fork => { fork.replaced t.tools.digest target.snapshot ambient with
      stagedChanges := fork.stagedChanges.filter fun change =>
        ¬ target.createdAt < change.createdAt
      recalcNeeded := target.recalcNeeded }

end Tools

/-- A step on a fork: an operation of either family. -/
inductive ForkOp (Archive : Type) where
  | canonical (op : CanonicalOp Archive)
  | tool (op : ToolOp Archive)

structure ForkEvent (Archive : Type) where
  op : ForkOp Archive
  ambient : Ambient Archive

def ForkEvent.perform (t : FileTools Archive) (event : ForkEvent Archive) :
    ForkExec Archive Unit :=
  match event.op with
  | .canonical op => op.run t event.ambient
  | .tool op => op.run t event.ambient

def ForkContext.run (t : FileTools Archive) (fork : ForkContext Archive)
    (events : List (ForkEvent Archive)) : ForkContext Archive :=
  events.foldl (fun fork event => (event.perform t fork).2) fork

section Rules
variable {tools : Tools Archive} {backend : Backend σ Archive} {I J E : σ → Prop} {s : σ}

/-- What a snapshot keeps, and what a commit or a stage takes it to, is what a
write transaction ends in. Nothing fails after a commit. -/
theorem executeWriteTransaction_ends {request : WriteRequest} (hok : ∀ s, I s → J s)
    (herror : ∀ s, I s → E s) (hsnapshot : ∀ s, I s → Ends backend.snapshot s (fun _ => I) E)
    (hcommit : ∀ s bytes opKinds, I s →
      Ends (backend.commit request.expectedRevision bytes opKinds) s (fun _ => J) E)
    (hstage : request.mode = .stage → ∀ s bundle label impact diff, I s →
      Ends (backend.stage request.expectedRevision bundle label impact diff) s (fun _ => J) E)
    (h : I s) :
    Ends (executeWriteTransaction tools backend request) s (fun _ => J) E := by
  unfold executeWriteTransaction
  refine ends_lift_bind (fun _ _ => ends_get_bind ?_) fun _ _ => herror s h
  refine ends_lift_bind (fun _ _ => ?_) fun _ _ => herror s h
  refine ends_guard_bind (fun _ => ?_) fun _ => herror s h
  refine (hsnapshot s h).bind ?_
  intro snapshot s₁ h₁
  refine ends_guard_bind (fun hexpected => ?_) fun _ => herror s₁ h₁
  rw [hexpected] at hcommit hstage
  refine ends_lift_bind (fun original _ => ?_) fun _ _ => herror s₁ h₁
  split
  · unfold executeOnCandidate
    dsimp only
    split
    · split
      · exact ends_pure (hok s₁ h₁)
      · exact ends_lift_bind (fun _ _ => ends_lift_bind (fun _ _ => ends_pure (hok s₁ h₁))
          fun _ _ => herror s₁ h₁) fun _ _ => herror s₁ h₁
    · refine ends_lift_bind (fun candidate _ => ?_) fun _ _ => herror s₁ h₁
      refine ends_lift_bind (fun diff _ => ?_) fun _ _ => herror s₁ h₁
      have hsettle : Ends (settleCandidate backend snapshot request candidate diff) s₁
          (fun _ => J) E := by
        unfold settleCandidate
        split
        · exact ends_pure (hok s₁ h₁)
        · rename_i hmode
          exact (hstage hmode s₁ _ _ _ _ h₁).bind fun _ _ h₂ => ends_pure h₂
        · exact (hcommit s₁ _ _ h₁).bind fun _ _ h₂ => ends_pure h₂
      exact hsettle.bind fun _ _ h₂ => ends_pure h₂
  · unfold executeEach
    dsimp only
    refine ends_lift_bind (fun bytes _ => ?_) fun _ _ => herror s₁ h₁
    refine ends_lift_bind (fun diff _ => ?_) fun _ _ => herror s₁ h₁
    have happlied : ∀ applied opKinds, Ends (commitApplied backend snapshot applied bytes opKinds)
        s₁ (fun _ => J) E := by
      intro applied opKinds
      unfold commitApplied
      split
      · exact hcommit s₁ _ _ h₁
      · exact ends_pure (hok s₁ h₁)
    exact (happlied _ _).bind fun _ _ h₂ => ends_pure h₂

theorem ends_overwrite_bind {fork : ForkContext Archive} {ambient : Ambient Archive}
    {bytes : Archive} {flag : Bool → Bool} {f : Unit → ForkExec Archive α}
    {Q : α → ForkContext Archive → Prop} {E : ForkContext Archive → Prop}
    (hread : ambient.hashFails = false → Ends (f ()) { fork with
      workFile := ambient.raced.getD bytes, recalcNeeded := flag fork.recalcNeeded } Q E)
    (hunread : ambient.hashFails = true → E { fork with
      workFile := ambient.raced.getD bytes, recalcNeeded := flag fork.recalcNeeded }) :
    Ends (overwrite ambient bytes flag >>= f) fork Q E := by
  cases hfails : ambient.hashFails with
  | false =>
    have hcontinue := hread hfails
    unfold overwrite
    change Ends (Exec.guard (ambient.hashFails = false) _ >>= f) _ Q E
    exact ends_guard_bind (fun _ => hcontinue) fun h => absurd hfails h
  | true =>
    have herror := hunread hfails
    unfold overwrite
    change Ends (Exec.guard (ambient.hashFails = false) _ >>= f) _ Q E
    exact ends_guard_bind (fun h => absurd (hfails.symm.trans h) (by decide)) fun _ => herror

end Rules

def Unmoved (fork fork' : ForkContext Archive) : Prop :=
  ∃ returned, fork' = { fork with returned }

section Looks
variable {ambient : Ambient Archive} {fork fork' : ForkContext Archive}

/-- With the file as it was left, a look at the revision moves nothing. -/
theorem sync_current {digest : Digest Archive}
    (hsynced : digest.archive fork.workFile = fork.contentRevision) (h : Unmoved fork fork') :
    Ends (syncRevisions digest) fork'
      (fun before fork' => before = fork.stateRevision ∧ Unmoved fork fork') (Unmoved fork) := by
  obtain ⟨returned, rfl⟩ := h
  unfold Ends syncRevisions
  rw [act_apply, if_neg (not_not.mpr hsynced)]
  exact ⟨rfl, _, rfl⟩

theorem sync_unmoved {digest : Digest Archive}
    (hsynced : digest.archive fork.workFile = fork.contentRevision) (h : Unmoved fork fork') :
    EndsIn (syncRevisions digest) fork' (Unmoved fork) :=
  (sync_current hsynced h).mono (fun _ _ h => h.2) fun _ h => h

theorem expecting_current {digest : Digest Archive}
    (hsynced : digest.archive fork.workFile = fork.contentRevision) (h : Unmoved fork fork')
    (expected : String) :
    Ends (expecting digest expected) fork'
      (fun _ fork' => expected = fork.stateRevision ∧ Unmoved fork fork') (Unmoved fork) := by
  unfold expecting
  refine (sync_current hsynced h).bind fun before _ h => ?_
  refine ends_guard_bind (fun hbefore => ends_pure ⟨?_, h.2⟩) fun _ => h.2
  rw [← hbefore]
  exact h.1

theorem expecting_unmoved {digest : Digest Archive}
    (hsynced : digest.archive fork.workFile = fork.contentRevision) (h : Unmoved fork fork')
    (expected : String) :
    EndsIn (expecting digest expected) fork' (Unmoved fork) :=
  (expecting_current hsynced h expected).mono (fun _ _ h => h.2) fun _ h => h

theorem ends_overwrite_read {bytes : Archive} {flag : Bool → Bool} {f : Unit → ForkExec Archive α}
    {Q : α → ForkContext Archive → Prop} {E : ForkContext Archive → Prop}
    (hreads : ambient.hashFails = false)
    (hrest : Ends (f ()) { fork with
      workFile := ambient.raced.getD bytes, recalcNeeded := flag fork.recalcNeeded } Q E) :
    Ends (overwrite ambient bytes flag >>= f) fork Q E :=
  ends_overwrite_bind (fun _ => hrest) fun h => absurd (hreads.symm.trans h) (by decide)

end Looks

/-- Two workbooks whose hashes are 64 zeros and 64 ones. -/
def sampleForkTools : FileTools Bool where
  tools :=
    { xlsx := ⟨fun _ => .ok ⟨["Sheet1"], fun _ => none, ""⟩, fun _ _ => .ok true,
        fun text => .string text⟩
      digest :=
        { archive := fun bytes => String.ofList (List.replicate 64 (if bytes then '1' else '0'))
          text := fun _ => ""
          control := fun _ _ _ _ _ _ => ""
          write := fun _ _ _ => ""
          calculate := fun _ _ _ _ => ""
          createFork := fun _ => ""
          discardFork := fun _ => ""
          exportFork := fun _ => "" }
      validateFormula := fun _ => .ok ()
      validateOther := fun _ => .ok 0
      payloadBytes := fun _ => 0
      applyOther := fun _ _ book => (.ok "", book)
      summaryDetail := fun _ _ => ""
      preparedCellChange := fun _ _ _ => none
      diffBytes := fun _ _ => .ok ⟨0, true, "", [], []⟩
      addEffectManifest := fun diff _ => diff }
  size := fun _ => 1

theorem sampleForkTools_injective : Function.Injective sampleForkTools.tools.digest.archive := by
  intro a b h
  cases a <;> cases b <;> first | rfl | exact absurd h (by decide)

theorem sampleForkTools_hex (bytes : Bool) (id : String) :
    sampleForkTools.tools.digest.archive bytes ≠ "state:" ++ id := by
  intro h
  have hhead := congrArg (fun text => text.toList.head?) h
  cases bytes <;> simp [sampleForkTools, List.replicate_succ] at hhead

def sampleAmbient (n : Nat) : Ambient Bool where
  revisionId := "rev-" ++ toString n
  freshId := "cp-" ++ toString n
  now := n

end AgentSpreadsheet.Registry
