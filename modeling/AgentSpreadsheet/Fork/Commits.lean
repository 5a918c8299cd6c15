import AgentSpreadsheet.Fork.Registry
import AgentSpreadsheet.Library.Interference
import AgentSpreadsheet.Library.Versions

/-! Canonical requests on one fork at once. Each is a critical section, but for a
recalculation: it compares the revision in one section, copies and evaluates the work
file without the lock, and publishes in another section that compares again. -/
namespace AgentSpreadsheet.Registry
open Library Library.Exec

/-- `evaluate` is what the backend makes of a copy of the work file. -/
inductive CanonicalRequest (Archive : Type) where
  | look
  | write (request : WriteRequest)
  | recalculate (expected : String) (evaluate : Archive → Result (Archive × Bool))
  | export (expected : String)
  | checkpointCreate (expected : String) (label : Option String)
  | checkpointDelete (expected checkpointId : String)
  | checkpointRestore (expected checkpointId : String)
  | stagedApply (expected changeId : String)
  | stagedDiscard (expected changeId : String)

def CanonicalRequest.expectedRevision : CanonicalRequest Archive → Option String
  | look => none
  | write request => some request.expectedRevision
  | recalculate expected _ | .export expected | checkpointCreate expected _
  | checkpointDelete expected _ | checkpointRestore expected _ | stagedApply expected _
  | stagedDiscard expected _ => some expected

/-- What a recalculation publishes is evaluated from the content before. -/
def CanonicalRequest.Evaluated : CanonicalRequest Archive → Archive → Archive → Prop
  | recalculate _ evaluate, before, after => ∃ complete, evaluate before = .ok (after, complete)
  | _, _, _ => True

structure ForkVersion (Archive : Type) where
  revision : String
  content : Archive
  deriving DecidableEq

structure Commit (Archive : Type) where
  request : CanonicalRequest Archive
  before : ForkVersion Archive
  after : ForkVersion Archive

/-- The fork, and what its code does not keep: the identities drawn so far and the
requests that have moved the revision. -/
structure SharedFork (Archive : Type) where
  fork : ForkContext Archive
  drawn : List String
  commits : List (Commit Archive)

inductive CommitAct (Archive : Type) where
  | compare (expected : String)
  | copyWorkFile
  | critical (request : CanonicalRequest Archive) (op : CanonicalOp Archive)

abbrev CommitAnswer {Archive : Type} : CommitAct Archive → Type
  | .copyWorkFile => Result Archive
  | _ => Result Unit

abbrev CommitScript (Archive α : Type) := Script (@CommitAnswer Archive) String α

section Sections
variable (t : FileTools Archive)

def ForkContext.version (fork : ForkContext Archive) : ForkVersion Archive :=
  ⟨if t.tools.digest.archive fork.workFile ≠ fork.contentRevision then
    t.tools.digest.archive fork.workFile else fork.stateRevision, fork.workFile⟩

def compareRevision (expected : String) : ForkExec Archive Unit := do
  let _ ← expecting t.tools.digest expected

def SharedFork.compared (s : SharedFork Archive) (expected : String) : SharedFork Archive :=
  { s with fork := (compareRevision t expected s.fork).2 }

/-- A request commits when it succeeds and has moved the revision. -/
def SharedFork.commit (s : SharedFork Archive) (request : CanonicalRequest Archive) (id : String)
    (ended : Result Unit × ForkContext Archive) : SharedFork Archive where
  fork := ended.2
  drawn := s.drawn ++ [id]
  commits :=
    if ended.1.isOk = true ∧ (ended.2.version t).revision ≠ (s.fork.version t).revision then
      s.commits ++ [⟨request, s.fork.version t, ended.2.version t⟩]
    else s.commits

/-- Nobody writes the file without the lock, and random identities are new; `admits`
restricts what else comes from outside. -/
def performsSection (admits : Ambient Archive → Prop) : (act : CommitAct Archive) →
    SharedFork Archive → CommitAnswer act → SharedFork Archive → Prop
  | .compare expected, s, answer, s' =>
    s' = s.compared t expected ∧ answer = (compareRevision t expected s.fork).1
  | .copyWorkFile, s, answer, s' => s' = s ∧ ∀ copied, answer = .ok copied → copied = s.fork.workFile
  | .critical request op, s, answer, s' => ∃ ambient : Ambient Archive, admits ambient ∧
      ambient.raced = none ∧ ambient.revisionId ∉ s.drawn ∧
      s' = s.commit t request ambient.revisionId (op.run t ambient s.fork) ∧
      answer = (op.run t ambient s.fork).1

def commitSharing (forkId : String) (base : Archive) (admits : Ambient Archive → Prop) :
    Sharing Nat (@CommitAnswer Archive) (SharedFork Archive) where
  initial s := s = ⟨.new t.tools.digest forkId base, [], []⟩
  performs _ := performsSection t admits
  release _ s := s
  event _ _ := False

/-- A new fork is named by its content. -/
def baseVersion (base : Archive) : ForkVersion Archive := ⟨t.tools.digest.archive base, base⟩

end Sections

/-! ### Requests -/

def criticalSection (request : CanonicalRequest Archive) (op : CanonicalOp Archive) :
    CommitScript Archive Unit := do
  let ended ← Script.access (.critical request op)
  Script.lift ended

def recalculateScript (expected : String) (evaluate : Archive → Result (Archive × Bool)) :
    CommitScript Archive Unit := do
  let compared ← Script.access (.compare expected)
  Script.lift compared
  let copied ← Script.access .copyWorkFile
  let evaluatedPath ← Script.lift copied
  let result ← Script.lift (evaluate evaluatedPath)
  criticalSection (.recalculate expected evaluate)
    (.finishRecalculation expected result.1 result.2)

def CanonicalRequest.script : CanonicalRequest Archive → CommitScript Archive Unit
  | look => criticalSection .look .look
  | write request => criticalSection (.write request) (.write request)
  | recalculate expected evaluate => recalculateScript expected evaluate
  | .export expected => criticalSection (.export expected) (.export expected)
  | checkpointCreate expected label =>
    criticalSection (.checkpointCreate expected label) (.checkpointCreate expected label)
  | checkpointDelete expected checkpointId =>
    criticalSection (.checkpointDelete expected checkpointId) (.checkpointDelete expected checkpointId)
  | checkpointRestore expected checkpointId =>
    criticalSection (.checkpointRestore expected checkpointId)
      (.checkpointRestore expected checkpointId)
  | stagedApply expected changeId =>
    criticalSection (.stagedApply expected changeId) (.stagedApply expected changeId)
  | stagedDiscard expected changeId =>
    criticalSection (.stagedDiscard expected changeId) (.stagedDiscard expected changeId)

def IsCanonical (script : CommitScript Archive Unit) : Prop :=
  ∃ request : CanonicalRequest Archive, script = request.script

/-- The work file can be read back after it was replaced. -/
def ReadsBack (ambient : Ambient Archive) : Prop := ambient.hashFails = false

/-! ### One section -/

section Section
variable {t : FileTools Archive} {ambient : Ambient Archive} {fork fork' : ForkContext Archive}

def CanonicalOp.expectedRevision : CanonicalOp Archive → Option String
  | look => none
  | write request => some request.expectedRevision
  | finishRecalculation expected _ _ | .export expected | checkpointCreate expected _
  | checkpointDelete expected _ | checkpointRestore expected _ | stagedApply expected _
  | stagedDiscard expected _ => some expected

def CanonicalOp.Publishes : CanonicalOp Archive → Archive → Prop
  | finishRecalculation _ evaluated _, content => content = evaluated
  | _, _ => True

structure Advances (t : FileTools Archive) (ambient : Ambient Archive) (op : CanonicalOp Archive)
    (fork fork' : ForkContext Archive) : Prop where
  expected : op.expectedRevision = some fork.stateRevision
  state : fork'.stateRevision = ambient.state
  synced : t.tools.digest.archive fork'.workFile = fork'.contentRevision
  published : op.Publishes fork'.workFile

theorem advances_expecting {op : CanonicalOp Archive} {expected : String}
    {f : String → ForkExec Archive α}
    (hsynced : t.tools.digest.archive fork.workFile = fork.contentRevision)
    (hunmoved : Unmoved fork fork')
    (hrest : ∀ before returned, expected = fork.stateRevision →
      Ends (f before) { fork with returned }
        (fun _ fork' => Unmoved fork fork' ∨ Advances t ambient op fork fork') (Unmoved fork)) :
    Ends (expecting t.tools.digest expected >>= f) fork'
      (fun _ fork' => Unmoved fork fork' ∨ Advances t ambient op fork fork') (Unmoved fork) := by
  refine (expecting_current hsynced hunmoved expected).bind fun before fork₁ h => ?_
  obtain ⟨hexpected, returned, rfl⟩ := h
  exact hrest before returned hexpected

/-- A section moves the revision on or leaves the fork as it was; one that fails leaves it
as it was. -/
theorem CanonicalOp.advances (op : CanonicalOp Archive) (hraced : ambient.raced = none)
    (hreads : ReadsBack ambient)
    (hsynced : t.tools.digest.archive fork.workFile = fork.contentRevision) :
    Ends (op.run t ambient) fork
      (fun _ fork' => Unmoved fork fork' ∨ Advances t ambient op fork fork') (Unmoved fork) := by
  have hsame (returned) : Unmoved fork { fork with returned } := ⟨returned, rfl⟩
  cases op with
  | look =>
    refine (sync_unmoved hsynced (hsame _)).bind fun _ fork₁ h => ?_
    exact ends_pure (.inl h)
  | write request =>
    have hwrite : Ends (executeWriteTransaction t.tools (forkBackend t ambient) request) fork
        (fun _ fork' => Unmoved fork fork' ∨ Advances t ambient (.write request) fork fork')
        (Unmoved fork) := by
      refine executeWriteTransaction_ends (I := Unmoved fork) (fun _ h => .inl h) (fun _ h => h)
        ?_ ?_ ?_ (hsame _)
      · intro fork₁ h₁
        refine (sync_unmoved hsynced h₁).bind fun _ fork₂ h₂ => ?_
        exact ends_get_bind (ends_pure h₂)
      · intro fork₁ bytes opKinds h₁
        refine advances_expecting hsynced h₁ fun before returned hexpected => ?_
        refine ends_overwrite_read hreads (ends_modify_bind (ends_pure (.inr ?_)))
        exact ⟨congrArg some hexpected, rfl, rfl, trivial⟩
      · intro _ fork₁ bundle label impact diff h₁
        refine advances_expecting hsynced h₁ fun before returned hexpected => ?_
        refine ends_modify_bind (ends_pure (.inr ?_))
        exact ⟨congrArg some hexpected, rfl, hsynced, trivial⟩
    exact hwrite.bind fun _ fork₁ h => ends_pure h
  | finishRecalculation expected evaluated complete =>
    refine advances_expecting hsynced (hsame _) fun before returned hexpected => ?_
    refine ends_guard_bind (fun _ => ?_) fun _ => hsame returned
    refine ends_overwrite_read hreads (ends_modify (.inr ?_))
    refine ⟨congrArg some hexpected, rfl, rfl, ?_⟩
    change ambient.raced.getD evaluated = evaluated
    rw [hraced]
    rfl
  | «export» expected =>
    refine Ends.bind (advances_expecting hsynced (hsame _) fun before returned hexpected => ?_)
      fun _ fork₁ h => ends_pure h
    refine ends_guard_bind (fun _ => ?_) fun _ => hsame returned
    refine ends_modify_bind (ends_get_bind ?_)
    simp only [hraced, Option.getD_none]
    rw [if_neg (not_not.mpr hsynced)]
    refine ends_modify_bind (ends_pure (.inr ?_))
    exact ⟨congrArg some hexpected, rfl, hsynced, trivial⟩
  | checkpointCreate expected label =>
    refine advances_expecting hsynced (hsame _) fun before returned hexpected => ?_
    refine ends_modify_bind ?_
    simp only [hraced, Option.getD_none]
    refine ends_guard_bind (fun _ => ends_modify (.inr ?_)) fun _ => hsame returned
    exact ⟨congrArg some hexpected, rfl, hsynced, trivial⟩
  | checkpointDelete expected checkpointId =>
    refine advances_expecting hsynced (hsame _) fun before returned hexpected => ?_
    refine ends_get_bind (ends_guard_bind (fun _ => ?_) fun _ => hsame returned)
    refine ends_guard_bind (fun _ => ends_modify (.inr ?_)) fun _ => hsame returned
    exact ⟨congrArg some hexpected, rfl, hsynced, trivial⟩
  | checkpointRestore expected checkpointId =>
    refine advances_expecting hsynced (hsame _) fun before returned hexpected => ?_
    refine ends_get_bind (ends_lift_bind (fun target _ => ?_) fun _ _ => hsame returned)
    refine ends_guard_bind (fun _ => ?_) fun _ => hsame returned
    refine ends_overwrite_read hreads (ends_modify (.inr ?_))
    exact ⟨congrArg some hexpected, rfl, rfl, trivial⟩
  | stagedApply expected changeId =>
    refine Ends.bind (advances_expecting hsynced (hsame _) fun before returned hexpected => ?_)
      fun _ fork₁ h => ends_pure h
    refine ends_get_bind (ends_lift_bind (fun staged _ => ?_) fun _ _ => hsame returned)
    refine ends_lift_bind (fun bundle _ => ?_) fun _ _ => hsame returned
    refine ends_guard_bind (fun _ => ?_) fun _ => hsame returned
    refine ends_lift_bind (fun result _ => ?_) fun _ _ => hsame returned
    refine ends_overwrite_read hreads (ends_modify_bind (ends_pure (.inr ?_)))
    exact ⟨congrArg some hexpected, rfl, rfl, trivial⟩
  | stagedDiscard expected changeId =>
    refine advances_expecting hsynced (hsame _) fun before returned hexpected => ?_
    refine ends_get_bind (ends_guard_bind (fun _ => ends_modify (.inr ?_)) fun _ => hsame returned)
    exact ⟨congrArg some hexpected, rfl, hsynced, trivial⟩

end Section

/-! ### All sections -/

/-- The commits follow one another from the base to the fork as it stands. -/
structure Chained (t : FileTools Archive) (base : Archive) (s : SharedFork Archive) : Prop where
  synced : t.tools.digest.archive s.fork.workFile = s.fork.contentRevision
  linked : Linked Commit.before Commit.after (baseVersion t base) s.commits
  current : currentVersion Commit.after (baseVersion t base) s.commits = s.fork.version t
  distinct : ((versions Commit.after (baseVersion t base) s.commits).map (·.revision)).Nodup
  named : ∀ version ∈ versions Commit.after (baseVersion t base) s.commits,
    version.revision = t.tools.digest.archive base ∨
      ∃ id ∈ s.drawn, version.revision = "state:" ++ id
  compared : ∀ commit ∈ s.commits, commit.request.expectedRevision = some commit.before.revision
  evaluated : ∀ commit ∈ s.commits,
    commit.request.Evaluated commit.before.content commit.after.content

/-- Commits stay, and only a commit changes the work file. -/
def Continues (s s' : SharedFork Archive) : Prop :=
  s.commits <+: s'.commits ∧ (s'.commits = s.commits → s'.fork.workFile = s.fork.workFile)

/-- A section runs the request's operation; a recalculation publishes at its revision what
is evaluated from the content of it. -/
def Due : CommitAct Archive → SharedFork Archive → Prop
  | .critical request op, s => op.expectedRevision = request.expectedRevision ∧
      ∀ content, op.Publishes content → op.expectedRevision = some s.fork.stateRevision →
        request.Evaluated s.fork.workFile content
  | _, _ => True

def commitDiscipline (t : FileTools Archive) (base : Archive) :
    Discipline Nat (CommitAct Archive) (SharedFork Archive) where
  inv := Chained t base
  rely _ := Continues
  allowed _ := Due
  idle _ _ := True
  ended _ _ := True

section Chain
variable {t : FileTools Archive} {base : Archive} {s s' : SharedFork Archive}
  {fork fork' : ForkContext Archive} {ambient : Ambient Archive}

theorem version_of_synced (hsynced : t.tools.digest.archive fork.workFile = fork.contentRevision) :
    fork.version t = ⟨fork.stateRevision, fork.workFile⟩ := by
  unfold ForkContext.version
  rw [if_neg (not_not.mpr hsynced)]

theorem Unmoved.stateRevision (h : Unmoved fork fork') :
    fork'.stateRevision = fork.stateRevision := by
  obtain ⟨returned, rfl⟩ := h
  rfl

theorem version_unmoved (h : Unmoved fork fork') : fork'.version t = fork.version t := by
  obtain ⟨returned, rfl⟩ := h
  rfl

theorem Continues.refl (s : SharedFork Archive) : Continues s s :=
  ⟨List.prefix_refl _, fun _ => rfl⟩

theorem Continues.trans {s'' : SharedFork Archive} (h : Continues s s') (h' : Continues s' s'') :
    Continues s s'' := by
  refine ⟨h.1.trans h'.1, fun hsame => ?_⟩
  have hmiddle : s'.commits = s.commits := by
    have hback := h'.1
    rw [hsame] at hback
    exact hback.eq_of_length_le h.1.length_le
  rw [h'.2 (hsame.trans hmiddle.symm), h.2 hmiddle]

theorem Chained.new (t : FileTools Archive) (forkId : String) (base : Archive) :
    Chained t base ⟨.new t.tools.digest forkId base, [], []⟩ where
  synced := rfl
  linked := .nil
  current := by
    rw [version_of_synced rfl]
    rfl
  distinct := List.nodup_singleton _
  named version hversion := by
    rw [List.mem_singleton.mp hversion]
    exact .inl rfl
  compared commit hcommit := absurd hcommit List.not_mem_nil
  evaluated commit hcommit := absurd hcommit List.not_mem_nil

/-- What leaves the fork as it was leaves the chain; identities may have been drawn. -/
theorem Chained.unmoved (h : Chained t base s) (hunmoved : Unmoved s.fork fork')
    {drawn : List String} (hdrawn : s.drawn ⊆ drawn) :
    Chained t base ⟨fork', drawn, s.commits⟩ ∧ Continues s ⟨fork', drawn, s.commits⟩ := by
  refine ⟨⟨?_, h.linked, ?_, h.distinct, ?_, h.compared, h.evaluated⟩, List.prefix_refl _, ?_⟩
  · obtain ⟨returned, rfl⟩ := hunmoved
    exact h.synced
  · rw [h.current]
    exact (version_unmoved hunmoved).symm
  · intro version hversion
    refine (h.named version hversion).imp_right ?_
    intro ⟨id, hid, hname⟩
    exact ⟨id, hdrawn hid, hname⟩
  · obtain ⟨returned, rfl⟩ := hunmoved
    exact fun _ => rfl

theorem Chained.fresh (h : Chained t base s)
    (hhex : ∀ bytes id, t.tools.digest.archive bytes ≠ "state:" ++ id)
    (hfresh : ambient.revisionId ∉ s.drawn) (version : ForkVersion Archive)
    (hversion : version ∈ versions Commit.after (baseVersion t base) s.commits) :
    version.revision ≠ ambient.state := by
  intro hsame
  rcases h.named version hversion with hbase | ⟨id, hid, hname⟩
  · exact hhex base _ (hbase.symm.trans hsame)
  · have heq : id = ambient.revisionId := (String.append_right_inj "state:").mp (hname.symm.trans hsame)
    rw [heq] at hid
    exact hfresh hid

theorem Chained.advanced (h : Chained t base s) {request : CanonicalRequest Archive}
    {op : CanonicalOp Archive} (hhex : ∀ bytes id, t.tools.digest.archive bytes ≠ "state:" ++ id)
    (hfresh : ambient.revisionId ∉ s.drawn) (hdue : Due (.critical request op) s)
    (hadvances : Advances t ambient op s.fork fork') :
    Chained t base ⟨fork', s.drawn ++ [ambient.revisionId],
      s.commits ++ [⟨request, s.fork.version t, fork'.version t⟩]⟩ where
  synced := hadvances.synced
  linked := h.linked.concat h.current.symm
  current := by rw [currentVersion_concat]
  distinct := by
    rw [versions_concat, List.map_append]
    refine List.nodup_append'.mpr ⟨h.distinct, List.nodup_singleton _, ?_⟩
    intro revision hbefore hafter
    obtain ⟨version, hversion, rfl⟩ := List.mem_map.mp hbefore
    apply h.fresh hhex hfresh version hversion
    rw [List.mem_singleton.mp hafter, version_of_synced hadvances.synced]
    exact hadvances.state
  named version hversion := by
    rw [versions_concat] at hversion
    rcases List.mem_append.mp hversion with hbefore | hafter
    · refine (h.named version hbefore).imp_right ?_
      intro ⟨id, hid, hname⟩
      exact ⟨id, List.mem_append_left _ hid, hname⟩
    · rw [List.mem_singleton.mp hafter, version_of_synced hadvances.synced]
      exact .inr ⟨ambient.revisionId, by simp, hadvances.state⟩
  compared commit hcommit := by
    rcases List.mem_append.mp hcommit with hbefore | hlast
    · exact h.compared commit hbefore
    · rw [List.mem_singleton.mp hlast, version_of_synced h.synced, ← hdue.1]
      exact hadvances.expected
  evaluated commit hcommit := by
    rcases List.mem_append.mp hcommit with hbefore | hlast
    · exact h.evaluated commit hbefore
    · rw [List.mem_singleton.mp hlast]
      exact hdue.2 _ hadvances.published hadvances.expected

theorem Chained.commit (h : Chained t base s) {request : CanonicalRequest Archive}
    {op : CanonicalOp Archive} (hhex : ∀ bytes id, t.tools.digest.archive bytes ≠ "state:" ++ id)
    (hreads : ReadsBack ambient) (hraced : ambient.raced = none)
    (hfresh : ambient.revisionId ∉ s.drawn) (hdue : Due (.critical request op) s) :
    Chained t base (s.commit t request ambient.revisionId (op.run t ambient s.fork)) ∧
      Continues s (s.commit t request ambient.revisionId (op.run t ambient s.fork)) := by
  have hadvances := op.advances hraced hreads h.synced
  have hkept (fork' : ForkContext Archive) (hunmoved : Unmoved s.fork fork') :=
    h.unmoved hunmoved (List.subset_append_left s.drawn [ambient.revisionId])
  unfold Ends at hadvances
  unfold SharedFork.commit
  cases hrun : op.run t ambient s.fork with
  | mk result fork' =>
    rw [hrun] at hadvances
    cases result with
    | error e =>
      rw [if_neg (fun hmoved => nomatch hmoved.1)]
      exact hkept fork' hadvances
    | ok u =>
      rcases hadvances with hunmoved | hadvances
      · rw [if_neg (fun hmoved => hmoved.2 (congrArg _ (version_unmoved hunmoved)))]
        exact hkept fork' hunmoved
      · have hmoved : (fork'.version t).revision ≠ (s.fork.version t).revision := by
          rw [version_of_synced hadvances.synced]
          change fork'.stateRevision ≠ _
          rw [hadvances.state, ← h.current]
          exact (h.fresh hhex hfresh _ currentVersion_mem).symm
        rw [if_pos ⟨rfl, hmoved⟩]
        refine ⟨h.advanced hhex hfresh hdue hadvances, List.prefix_append _ _, fun hsame => ?_⟩
        have hlength := congrArg List.length hsame
        simp at hlength

theorem compareRevision_ends {expected : String}
    (hsynced : t.tools.digest.archive fork.workFile = fork.contentRevision) :
    Ends (compareRevision t expected) fork
      (fun _ fork' => expected = fork.stateRevision ∧ Unmoved fork fork') (Unmoved fork) := by
  unfold compareRevision
  refine (expecting_current hsynced ⟨_, rfl⟩ expected).bind fun _ fork₁ h => ?_
  exact ends_pure h

theorem Chained.compare (h : Chained t base s) (expected : String) :
    Chained t base (s.compared t expected) ∧ Continues s (s.compared t expected) := by
  have hends := (@compareRevision_ends _ _ _ expected h.synced).mono
    (fun _ _ hend => hend.2) fun _ hend => hend
  exact h.unmoved hends.final (List.Subset.refl _)

theorem commitDiscipline_sound (hhex : ∀ bytes id, t.tools.digest.archive bytes ≠ "state:" ++ id)
    (forkId : String) :
    (commitDiscipline t base).Sound (commitSharing t forkId base ReadsBack) where
  refl _ := Continues.refl
  trans _ _ _ _ := Continues.trans
  initial s hs := by
    rw [show s = _ from hs]
    exact ⟨.new t forkId base, fun _ => trivial⟩
  access i act s answer s' hinv hdue hperforms := by
    cases act with
    | compare expected =>
      rw [hperforms.1]
      obtain ⟨hchained, hcontinues⟩ := Chained.compare hinv expected
      exact ⟨hchained, fun _ _ => hcontinues⟩
    | copyWorkFile =>
      rw [hperforms.1]
      exact ⟨hinv, fun _ _ => Continues.refl s⟩
    | critical request op =>
      obtain ⟨ambient, hreads, hraced, hfresh, hafter, -⟩ := hperforms
      rw [hafter]
      obtain ⟨hchained, hcontinues⟩ := Chained.commit hinv hhex hreads hraced hfresh hdue
      exact ⟨hchained, fun _ _ => hcontinues⟩
  finish _ s hinv _ := ⟨hinv, trivial, fun _ _ => Continues.refl s⟩
  event _ _ _ hevent := hevent.elim
  idle _ _ _ _ _ := trivial
  ended _ _ _ _ _ := trivial

end Chain

/-! ### Requests are due -/

section Requests
variable {t : FileTools Archive} {base : Archive} {forkId : String} {task : Nat}
  {s : SharedFork Archive}

def KeepsDue (t : FileTools Archive) (base : Archive) (forkId : String) (task : Nat)
    (script : CommitScript Archive α) (s : SharedFork Archive) : Prop :=
  script.Keeps (commitSharing t forkId base ReadsBack) (commitDiscipline t base) task
    (fun _ _ => True) s

theorem keepsDue_critical {request : CanonicalRequest Archive} {op : CanonicalOp Archive}
    (hdue : ∀ s', Chained t base s' → Continues s s' → Due (.critical request op) s') :
    KeepsDue t base forkId task (criticalSection request op) s := by
  intro s' hchained hcontinues
  exact ⟨hdue s' hchained hcontinues, fun _ _ _ _ => trivial⟩

/-- Requests of one section; none of them publishes what it brought along. -/
theorem keepsDue_single {request : CanonicalRequest Archive} {op : CanonicalOp Archive}
    (hexpected : op.expectedRevision = request.expectedRevision)
    (hevaluated : ∀ before after, request.Evaluated before after) :
    KeepsDue t base forkId task (criticalSection request op) s :=
  keepsDue_critical fun _ _ _ => ⟨hexpected, fun _ _ _ => hevaluated _ _⟩

/-- If the revision is still the one compared when the recalculation publishes, the work
file was the same all the time, also when it was copied. -/
theorem keepsDue_recalculate (expected : String)
    (evaluate : Archive → Result (Archive × Bool)) :
    KeepsDue t base forkId task (recalculateScript expected evaluate) s := by
  intro s₀ h₀ _
  refine ⟨trivial, fun compared s₁ hcompare h₁ => ?_⟩
  obtain ⟨hs₁, hcompared⟩ := hcompare
  cases compared with
  | error e => exact trivial
  | ok u =>
    have hfound : (compareRevision t expected s₀.fork).1 = .ok u := hcompared.symm
    have hlooked := (@compareRevision_ends _ _ _ expected h₀.synced).ok
      (Prod.ext hfound rfl)
    have hcurrent : expected = s₁.fork.stateRevision := by
      rw [hs₁]
      exact hlooked.1.trans hlooked.2.stateRevision.symm
    intro s₂ h₂ hcontinues₂
    refine ⟨trivial, fun copied s₃ hcopy h₃ => ?_⟩
    obtain ⟨rfl, hcopied⟩ := hcopy
    cases copied with
    | error e => exact trivial
    | ok copy =>
      have hcopy : copy = s₃.fork.workFile := hcopied copy rfl
      change KeepsDue t base forkId task
        (Script.lift (evaluate copy) >>= fun result => criticalSection _
          (.finishRecalculation expected result.1 result.2)) s₃
      cases hevaluate : evaluate copy with
      | error e => exact trivial
      | ok result =>
        apply keepsDue_critical
        intro s₄ h₄ hcontinues₄
        refine ⟨rfl, fun content hpublishes hexpected => ?_⟩
        have hrevision : (s₄.fork.version t).revision = (s₁.fork.version t).revision := by
          rw [version_of_synced h₄.synced, version_of_synced h₁.synced]
          exact (Option.some.inj hexpected).symm.trans hcurrent
        have hsame : s₄.commits = s₁.commits := by
          refine eq_of_currentVersion (hcontinues₂.trans hcontinues₄).1 h₄.distinct ?_
          rw [h₄.current, h₁.current]
          exact hrevision
        have hcommits : s₄.commits = s₃.commits := by
          have hback := hcontinues₄.1
          rw [hsame] at hback ⊢
          exact hcontinues₂.1.eq_of_length_le hback.length_le
        change ∃ complete, evaluate s₄.fork.workFile = .ok (content, complete)
        rw [hcontinues₄.2 hcommits, ← hcopy, show content = result.1 from hpublishes]
        exact ⟨result.2, hevaluate⟩

theorem CanonicalRequest.keepsDue (request : CanonicalRequest Archive) :
    KeepsDue t base forkId task request.script s := by
  cases request with
  | recalculate expected evaluate => exact keepsDue_recalculate expected evaluate
  | look => exact keepsDue_single rfl fun _ _ => trivial
  | write request => exact keepsDue_single rfl fun _ _ => trivial
  | «export» expected => exact keepsDue_single rfl fun _ _ => trivial
  | checkpointCreate expected label => exact keepsDue_single rfl fun _ _ => trivial
  | checkpointDelete expected checkpointId => exact keepsDue_single rfl fun _ _ => trivial
  | checkpointRestore expected checkpointId => exact keepsDue_single rfl fun _ _ => trivial
  | stagedApply expected changeId => exact keepsDue_single rfl fun _ _ => trivial
  | stagedDiscard expected changeId => exact keepsDue_single rfl fun _ _ => trivial

end Requests

/-- In every interleaving of canonical requests whose sections read the work file back
after they replaced it, the commits are a chain of the revisions the requests expected, no
two of them expected the same, and a recalculation publishes what is evaluated from the
content of its own revision. -/
theorem fork_commits_linked {t : FileTools Archive}
    (hhex : ∀ bytes id, t.tools.digest.archive bytes ≠ "state:" ++ id) (forkId : String)
    (base : Archive) {w : Library.World Nat (@CommitAnswer Archive) String Unit (SharedFork Archive)}
    (hw : w.Reached (commitSharing t forkId base ReadsBack) IsCanonical) :
    Linked Commit.before Commit.after (baseVersion t base) w.shared.commits ∧
      (∀ commit ∈ w.shared.commits,
        commit.request.expectedRevision = some commit.before.revision) ∧
      (w.shared.commits.Pairwise fun a b =>
        a.request.expectedRevision ≠ b.request.expectedRevision) ∧
      ∀ commit ∈ w.shared.commits,
        commit.request.Evaluated commit.before.content commit.after.content := by
  have hkeeps (task : Nat) (script : CommitScript Archive Unit) (s : SharedFork Archive)
      (hscript : IsCanonical script) : KeepsDue t base forkId task script s := by
    obtain ⟨request, rfl⟩ := hscript
    exact request.keepsDue
  obtain ⟨hchained, -⟩ := (commitDiscipline_sound hhex forkId).reached
    (fun task script s hscript _ _ => hkeeps task script s hscript) hw
  refine ⟨hchained.linked, hchained.compared, ?_, hchained.evaluated⟩
  refine (hchained.linked.starts_distinct hchained.distinct).imp_of_mem ?_
  intro a b ha hb hdistinct hsame
  rw [hchained.compared a ha, hchained.compared b hb] at hsame
  exact hdistinct (Option.some.inj hsame)

/-! ### A restore that is not read back -/

section Samples
variable {admits : Ambient Bool → Prop} {s : SharedFork Bool}
  {tasks : List (Option (CommitScript Bool Unit))} {ambient : Ambient Bool}

/-- A world of a run on a fork of the workbook of zeros. -/
def Runs (admits : Ambient Bool → Prop) (s : SharedFork Bool)
    (tasks : List (Option (CommitScript Bool Unit))) : Prop :=
  (Library.World.ofList s tasks).Reached (commitSharing sampleForkTools "f" false admits) IsCanonical

/-- A request's last section, from its begin or from where it has come to. -/
theorem section_runs {request : CanonicalRequest Bool} {op : CanonicalOp Bool}
    (h : Runs admits s tasks) (i : Nat) (htask : tasks[i]? = some (some (criticalSection request op)))
    (hadmits : admits ambient) (hraced : ambient.raced = none)
    (hfresh : ambient.revisionId ∉ s.drawn) :
    Runs admits (s.commit sampleForkTools request ambient.revisionId
      (op.run sampleForkTools ambient s.fork)) (tasks.set i none) := by
  obtain ⟨hi, -⟩ := List.getElem?_eq_some_iff.mp htask
  have hended := Library.World.Reached.accessList h i (op.run sampleForkTools ambient s.fork).1
    (s.commit sampleForkTools request ambient.revisionId (op.run sampleForkTools ambient s.fork))
    htask ⟨ambient, hadmits, hraced, hfresh, rfl, rfl⟩
  have hfinished := Library.World.Reached.finishList hended i (List.getElem?_set_self hi)
  rw [List.set_set] at hfinished
  exact hfinished

theorem request_runs {op : CanonicalOp Bool} (request : CanonicalRequest Bool)
    (h : Runs admits s tasks) (i : Nat) (hidle : tasks[i]? = some none)
    (hscript : request.script = criticalSection request op) (hadmits : admits ambient)
    (hraced : ambient.raced = none) (hfresh : ambient.revisionId ∉ s.drawn) :
    Runs admits (s.commit sampleForkTools request ambient.revisionId
      (op.run sampleForkTools ambient s.fork)) (tasks.set i none) := by
  obtain ⟨hi, -⟩ := List.getElem?_eq_some_iff.mp hidle
  have hbegun := Library.World.Reached.beginList h i hidle ⟨request, rfl⟩
  rw [hscript] at hbegun
  have hended := section_runs hbegun i (List.getElem?_set_self hi) hadmits hraced hfresh
  rw [List.set_set] at hended
  exact hended

/-- The backend makes the workbook of ones of every workbook. -/
def toOnes : Bool → Result (Bool × Bool) := fun _ => .ok (true, true)

theorem recalculation_runs (expected : String) (h : Runs admits s tasks) (i : Nat)
    (hidle : tasks[i]? = some none)
    (hcompare : (compareRevision sampleForkTools expected s.fork).1 = .ok ())
    (hadmits : admits ambient) (hraced : ambient.raced = none)
    (hfresh : ambient.revisionId ∉ s.drawn) :
    Runs admits ((s.compared sampleForkTools expected).commit sampleForkTools
      (.recalculate expected toOnes) ambient.revisionId
      ((CanonicalOp.finishRecalculation expected true true).run sampleForkTools ambient
        (s.compared sampleForkTools expected).fork)) (tasks.set i none) := by
  obtain ⟨hi, -⟩ := List.getElem?_eq_some_iff.mp hidle
  have hbegun := Library.World.Reached.beginList h i hidle ⟨.recalculate expected toOnes, rfl⟩
  have hcompared := Library.World.Reached.accessList hbegun i (.ok () : Result Unit)
    (s.compared sampleForkTools expected) (List.getElem?_set_self hi) ⟨rfl, hcompare.symm⟩
  rw [List.set_set] at hcompared
  have hcopied := Library.World.Reached.accessList hcompared i
    (.ok (s.compared sampleForkTools expected).fork.workFile : Result Bool)
    (s.compared sampleForkTools expected) (List.getElem?_set_self hi)
    ⟨rfl, fun copied hcopied => (Except.ok.inj hcopied).symm⟩
  rw [List.set_set] at hcopied
  have hended := section_runs hcopied i (List.getElem?_set_self hi) hadmits hraced hfresh
  rw [List.set_set] at hended
  exact hended

def zeros : String := String.ofList (List.replicate 64 '0')

def recalculated : SharedFork Bool :=
  let created : SharedFork Bool := SharedFork.commit sampleForkTools
    ⟨.new sampleForkTools.tools.digest "f" false, [], []⟩ (.checkpointCreate zeros none) "rev-1"
    ((CanonicalOp.checkpointCreate zeros none).run sampleForkTools (sampleAmbient 1)
      (.new sampleForkTools.tools.digest "f" false))
  (created.compared sampleForkTools "state:rev-1").commit sampleForkTools
    (.recalculate "state:rev-1" toOnes) "rev-2"
    ((CanonicalOp.finishRecalculation "state:rev-1" true true).run sampleForkTools (sampleAmbient 2)
      (created.compared sampleForkTools "state:rev-1").fork)

theorem recalculated_runs (hadmits : ∀ n, admits (sampleAmbient n)) (n : Nat) :
    Runs admits recalculated (List.replicate (n + 2) none) := by
  have hstart : Runs admits ⟨.new sampleForkTools.tools.digest "f" false, [], []⟩
      (List.replicate (n + 2) none) := Library.World.Reached.startList rfl (n + 2)
  have hcreated := @request_runs _ _ _ (sampleAmbient 1) _ (.checkpointCreate zeros none) hstart 0
    rfl rfl (hadmits 1) rfl (by decide)
  have hrecalculated := @recalculation_runs _ _ _ (sampleAmbient 2) "state:rev-1" hcreated 1 rfl
    (by decide +kernel) (hadmits 2) rfl (by decide)
  exact hrecalculated

/-- Two commits, the second of what is evaluated from the base. -/
theorem fork_commits_linked_recalculated :
    recalculated.commits.map (·.after.revision) = ["state:rev-1", "state:rev-2"] ∧
      Linked Commit.before Commit.after (baseVersion sampleForkTools false) recalculated.commits ∧
      ∀ commit ∈ recalculated.commits,
        commit.request.Evaluated commit.before.content commit.after.content := by
  have hruns : Runs ReadsBack recalculated (List.replicate 2 none) :=
    recalculated_runs (fun _ => rfl) 0
  have hlinked := fork_commits_linked sampleForkTools_hex "f" false hruns
  exact ⟨by decide +kernel, hlinked.1, hlinked.2.2.2⟩

/-- The restore of the checkpoint replaces the file and cannot read it back. -/
def unreadRestore : SharedFork Bool :=
  recalculated.commit sampleForkTools (.checkpointRestore "state:rev-2" "cp-1") "rev-3"
    ((CanonicalOp.checkpointRestore "state:rev-2" "cp-1").run sampleForkTools
      { sampleAmbient 3 with hashFails := true } recalculated.fork)

/-- Then the revision of the base is back, and a request expecting it commits again. -/
def committedTwice : SharedFork Bool :=
  unreadRestore.commit sampleForkTools (.checkpointCreate zeros none) "rev-4"
    ((CanonicalOp.checkpointCreate zeros none).run sampleForkTools (sampleAmbient 4)
      unreadRestore.fork)

theorem committedTwice_runs : Runs (fun _ => True) committedTwice (List.replicate 4 none) := by
  have hruns : Runs (fun _ => True) recalculated (List.replicate 4 none) :=
    recalculated_runs (fun _ => trivial) 2
  have hrestored := @request_runs _ _ _ { sampleAmbient 3 with hashFails := true } _
    (.checkpointRestore "state:rev-2" "cp-1") hruns 2 rfl rfl trivial rfl (by decide)
  have hcommitted := @request_runs _ _ _ (sampleAmbient 4) _ (.checkpointCreate zeros none)
    hrestored 3 rfl rfl trivial rfl (by decide)
  exact hcommitted

/-- Neither is left: the chain, and one commit for each expected revision. -/
theorem unread_restore_breaks_chain :
    ¬ ∀ (t : FileTools Bool), Function.Injective t.tools.digest.archive →
      (∀ bytes id, t.tools.digest.archive bytes ≠ "state:" ++ id) →
      ∀ (forkId : String) (base : Bool)
        (w : Library.World Nat (@CommitAnswer Bool) String Unit (SharedFork Bool)),
        w.Reached (commitSharing t forkId base fun _ => True) IsCanonical →
        Linked Commit.before Commit.after (baseVersion t base) w.shared.commits ∨
        w.shared.commits.Pairwise fun a b =>
          a.request.expectedRevision ≠ b.request.expectedRevision := by
  intro h
  have hfails := h sampleForkTools sampleForkTools_injective sampleForkTools_hex "f" false _
    committedTwice_runs
  change Linked Commit.before Commit.after (baseVersion sampleForkTools false)
    committedTwice.commits ∨ committedTwice.commits.Pairwise _ at hfails
  unfold Linked at hfails
  revert hfails
  decide +kernel

end Samples

end AgentSpreadsheet.Registry
