import AgentSpreadsheet.Fork.Registry

/-! Restoring a checkpoint of a fork. The history is cut by a recorded length, the
staged changes and checkpoints by their dates; the two agree as long as whatever
follows a checkpoint is dated later. -/
namespace AgentSpreadsheet.Registry
open Library Library.Exec

section Relations

/-- No checkpoint is made or restored: the history grows, and what is staged is
dated after every checkpoint. -/
structure Kept (digest : Digest Archive) (fork fork' : ForkContext Archive) : Prop where
  history : fork.canonicalOperations <+: fork'.canonicalOperations
  staged : ∀ change ∈ fork'.stagedChanges, change ∈ fork.stagedChanges ∨
    ∀ checkpoint ∈ fork.checkpoints, checkpoint.createdAt < change.createdAt
  checkpoints : fork'.checkpoints.Sublist fork.checkpoints
  synced : digest.archive fork'.workFile = fork'.contentRevision

/-- A canonical operation with no other tool at work. -/
def ForkEvent.Canonical (event : ForkEvent Archive) : Prop :=
  (∃ op, event.op = .canonical op) ∧ event.ambient.raced = none

/-- The clock reads later than the date of every checkpoint when a checkpoint or a
change is made, and no earlier than that of a staged change when a checkpoint is
made; a replaced file can be read back. -/
def Dated (fork : ForkContext Archive) (event : ForkEvent Archive) : Prop :=
  event.ambient.hashFails = false ∧
  match event.op with
  | .canonical (.checkpointCreate _ _) =>
    (∀ checkpoint ∈ fork.checkpoints, checkpoint.createdAt < event.ambient.now) ∧
    ∀ change ∈ fork.stagedChanges, change.createdAt ≤ event.ambient.now
  | .canonical (.write request) => request.mode = .stage →
    ∀ checkpoint ∈ fork.checkpoints, checkpoint.createdAt < event.ambient.now
  | _ => True

def DatedRun (t : FileTools Archive) (fork : ForkContext Archive)
    (events : List (ForkEvent Archive)) : Prop :=
  ∀ before event after, events = before ++ event :: after → Dated (fork.run t before) event

end Relations

section Operations
variable {t : FileTools Archive} {ambient : Ambient Archive} {fork fork' : ForkContext Archive}

theorem Unmoved.kept {digest : Digest Archive}
    (hsynced : digest.archive fork.workFile = fork.contentRevision) (h : Unmoved fork fork') :
    Kept digest fork fork' := by
  obtain ⟨returned, rfl⟩ := h
  exact ⟨List.prefix_refl _, fun _ hchange => .inl hchange, List.Sublist.refl _, hsynced⟩

theorem kept_expecting {expected : String} {f : String → ForkExec Archive α}
    (hsynced : t.tools.digest.archive fork.workFile = fork.contentRevision)
    (hunmoved : Unmoved fork fork')
    (hrest : ∀ before returned, Ends (f before) { fork with returned }
      (fun _ => Kept t.tools.digest fork) (Kept t.tools.digest fork)) :
    EndsIn (expecting t.tools.digest expected >>= f) fork' (Kept t.tools.digest fork) := by
  refine ((expecting_unmoved hsynced hunmoved expected).mono (fun _ _ h => h) fun _ h =>
    h.kept hsynced).bind ?_
  rintro before _ ⟨returned, rfl⟩
  exact hrest before returned

theorem mem_pushStagedChange {change staged : StagedChange}
    (h : change ∈ (fork.pushStagedChange staged).stagedChanges) :
    change ∈ fork.stagedChanges ∨ change = staged := by
  have hmem := List.mem_of_mem_drop h
  simpa using hmem

/-- Neither a checkpoint made nor one restored. -/
def CanonicalOp.leavesCheckpoints : CanonicalOp Archive → Bool
  | .checkpointCreate _ _ | .checkpointRestore _ _ => false
  | _ => true

theorem CanonicalOp.kept {op : CanonicalOp Archive} (hleaves : op.leavesCheckpoints = true)
    (hraced : ambient.raced = none)
    (hsynced : t.tools.digest.archive fork.workFile = fork.contentRevision)
    (hdated : Dated fork ⟨.canonical op, ambient⟩) :
    EndsIn (op.run t ambient) fork (Kept t.tools.digest fork) := by
  have hsame (returned) : Kept t.tools.digest fork { fork with returned } :=
    Unmoved.kept hsynced ⟨returned, rfl⟩
  cases op with
  | look =>
    refine ((sync_unmoved hsynced ⟨_, rfl⟩).mono (fun _ _ h => h) fun _ h => h.kept hsynced).bind ?_
    exact fun _ _ h => ends_pure (h.kept hsynced)
  | write request =>
    have hwrite : EndsIn (executeWriteTransaction t.tools (forkBackend t ambient) request) fork
        (Kept t.tools.digest fork) := by
      refine executeWriteTransaction_ends (I := Unmoved fork) (fun _ h => h.kept hsynced)
        (fun _ h => h.kept hsynced) ?_ ?_ ?_ ⟨fork.returned, rfl⟩
      · intro fork₁ h₁
        refine ((sync_unmoved hsynced h₁).mono (fun _ _ h => h) fun _ h => h.kept hsynced).bind ?_
        exact fun _ _ h₂ => ends_get_bind (ends_pure h₂)
      · intro fork₁ bytes opKinds h₁
        refine kept_expecting hsynced h₁ fun before returned => ?_
        refine ends_overwrite_read hdated.1 (ends_modify_bind (ends_pure ?_))
        exact ⟨List.prefix_append _ _, fun _ h => .inl h, List.Sublist.refl _, rfl⟩
      · intro hmode fork₁ bundle label impact diff h₁
        refine kept_expecting hsynced h₁ fun before returned => ends_modify_bind (ends_pure ?_)
        refine ⟨List.prefix_refl _, fun change h => ?_, List.Sublist.refl _, hsynced⟩
        refine (mem_pushStagedChange h).imp id ?_
        intro heq checkpoint hcheckpoint
        rw [heq]
        exact hdated.2 hmode checkpoint hcheckpoint
    exact hwrite.bind fun _ _ h => ends_pure h
  | finishRecalculation expected evaluated complete =>
    refine kept_expecting hsynced ⟨_, rfl⟩ fun before returned => ?_
    refine ends_guard_bind (fun _ => ?_) fun _ => hsame returned
    refine ends_overwrite_read hdated.1 (ends_modify ?_)
    exact ⟨List.prefix_append _ _, fun _ h => .inl h, List.Sublist.refl _, rfl⟩
  | «export» expected =>
    refine Ends.bind (kept_expecting hsynced ⟨_, rfl⟩ fun before returned => ?_) fun _ _ h => ends_pure h
    refine ends_guard_bind (fun _ => ?_) fun _ => hsame returned
    refine ends_modify_bind (ends_get_bind ?_)
    simp only [hraced, Option.getD_none]
    rw [if_neg (not_not.mpr hsynced)]
    refine ends_modify_bind (ends_pure ?_)
    exact ⟨List.prefix_refl _, fun _ h => .inl h, List.Sublist.refl _, hsynced⟩
  | checkpointCreate expected label => cases hleaves
  | checkpointRestore expected checkpointId => cases hleaves
  | checkpointDelete expected checkpointId =>
    refine kept_expecting hsynced ⟨_, rfl⟩ fun before returned => ?_
    refine ends_get_bind (ends_guard_bind (fun _ => ?_) fun _ => hsame returned)
    refine ends_guard_bind (fun _ => ends_modify ?_) fun _ => hsame returned
    exact ⟨List.prefix_refl _, fun _ h => .inl h, List.eraseP_sublist, hsynced⟩
  | stagedApply expected changeId =>
    refine Ends.bind (kept_expecting hsynced ⟨_, rfl⟩ fun before returned => ?_) fun _ _ h => ends_pure h
    refine ends_get_bind (ends_lift_bind (fun staged _ => ?_) fun _ _ => hsame returned)
    refine ends_lift_bind (fun bundle _ => ?_) fun _ _ => hsame returned
    refine ends_guard_bind (fun _ => ?_) fun _ => hsame returned
    refine ends_lift_bind (fun result _ => ?_) fun _ _ => hsame returned
    refine ends_overwrite_read hdated.1 (ends_modify_bind (ends_pure ?_))
    exact ⟨List.prefix_append _ _, fun _ h => .inl (List.mem_of_mem_eraseP h),
      List.Sublist.refl _, rfl⟩
  | stagedDiscard expected changeId =>
    refine kept_expecting hsynced ⟨_, rfl⟩ fun before returned => ?_
    refine ends_get_bind (ends_guard_bind (fun _ => ends_modify ?_) fun _ => hsame returned)
    exact ⟨List.prefix_refl _, fun _ h => .inl (List.mem_of_mem_eraseP h), List.Sublist.refl _,
      hsynced⟩

theorem checkpointCreate_ends {expected : String} {label : Option String}
    (hraced : ambient.raced = none)
    (hsynced : t.tools.digest.archive fork.workFile = fork.contentRevision) :
    Ends (checkpointCreate t ambient expected label) fork
      (fun _ fork' => ∃ returned, fork' = { fork with returned }.pushCheckpoint t.size label ambient)
      (Unmoved fork) := by
  refine (expecting_unmoved hsynced ⟨_, rfl⟩ expected).bind ?_
  rintro before _ ⟨returned, rfl⟩
  refine ends_modify_bind ?_
  simp only [hraced, Option.getD_none]
  exact ends_guard_bind (fun _ => ends_modify ⟨returned, rfl⟩) fun _ => ⟨returned, rfl⟩

theorem checkpointRestore_ends {expected checkpointId : String}
    (hreads : ambient.hashFails = false)
    (hsynced : t.tools.digest.archive fork.workFile = fork.contentRevision) :
    Ends (checkpointRestore t ambient expected checkpointId) fork
      (fun _ fork' => ∃ returned target, target ∈ fork.checkpoints ∧
        target.checkpointId = checkpointId ∧
        fork' = { fork with returned }.rewound t.tools.digest target ambient)
      (Unmoved fork) := by
  refine (expecting_unmoved hsynced ⟨_, rfl⟩ expected).bind ?_
  rintro before _ ⟨returned, rfl⟩
  refine ends_get_bind (ends_lift_bind (fun target htarget => ?_) fun _ _ => ⟨returned, rfl⟩)
  refine ends_guard_bind (fun _ => ?_) fun _ => ⟨returned, rfl⟩
  refine ends_overwrite_read hreads ?_
  have hfound := required_eq_ok.mp htarget
  have hid := List.find?_some hfound
  exact ends_modify ⟨returned, target, List.mem_of_find?_eq_some hfound, beq_iff_eq.mp hid, rfl⟩

/-- What a canonical operation can do to the checkpoints. -/
theorem CanonicalOp.run_cases (op : CanonicalOp Archive) (hraced : ambient.raced = none)
    (hsynced : t.tools.digest.archive fork.workFile = fork.contentRevision)
    (hdated : Dated fork ⟨.canonical op, ambient⟩) :
    Kept t.tools.digest fork (op.run t ambient fork).2 ∨
    (∃ expected label returned, op = .checkpointCreate expected label ∧
      (op.run t ambient fork).2 = { fork with returned }.pushCheckpoint t.size label ambient) ∨
    ∃ target returned, target ∈ fork.checkpoints ∧
      (op.run t ambient fork).2 = { fork with returned }.rewound t.tools.digest target ambient := by
  cases op with
  | checkpointCreate expected label =>
    rcases Ends.final (P := fun fork' => Kept t.tools.digest fork fork' ∨ ∃ returned,
        fork' = { fork with returned }.pushCheckpoint t.size label ambient)
      ((checkpointCreate_ends hraced hsynced).mono (fun _ _ h => .inr h) fun _ h =>
        .inl (h.kept hsynced)) with hkept | ⟨returned, hcreated⟩
    · exact .inl hkept
    · exact .inr (.inl ⟨expected, label, returned, rfl, hcreated⟩)
  | checkpointRestore expected checkpointId =>
    rcases Ends.final (P := fun fork' => Kept t.tools.digest fork fork' ∨ ∃ returned target,
        target ∈ fork.checkpoints ∧ target.checkpointId = checkpointId ∧
        fork' = { fork with returned }.rewound t.tools.digest target ambient)
      ((checkpointRestore_ends hdated.1 hsynced).mono (fun _ _ h => .inr h) fun _ h =>
        .inl (h.kept hsynced)) with hkept | ⟨returned, target, htarget, _, hrestored⟩
    · exact .inl hkept
    · exact .inr (.inr ⟨target, returned, htarget, hrestored⟩)
  | look => exact .inl (CanonicalOp.kept rfl hraced hsynced hdated).final
  | write request => exact .inl (CanonicalOp.kept rfl hraced hsynced hdated).final
  | finishRecalculation expected evaluated complete =>
    exact .inl (CanonicalOp.kept rfl hraced hsynced hdated).final
  | «export» expected => exact .inl (CanonicalOp.kept rfl hraced hsynced hdated).final
  | checkpointDelete expected checkpointId =>
    exact .inl (CanonicalOp.kept rfl hraced hsynced hdated).final
  | stagedApply expected changeId =>
    exact .inl (CanonicalOp.kept rfl hraced hsynced hdated).final
  | stagedDiscard expected changeId =>
    exact .inl (CanonicalOp.kept rfl hraced hsynced hdated).final

end Operations

section Order
variable {t : FileTools Archive} {ambient : Ambient Archive} {fork fork' : ForkContext Archive}
  {label : Option String} {returned : List (Observation Archive)}
  {target checkpoint : Checkpoint Archive}

/-- The checkpoints stand in the order of their dates and of their history. -/
structure Ordered (digest : Digest Archive) (fork : ForkContext Archive) : Prop where
  dates : fork.checkpoints.Pairwise fun c d =>
    c.createdAt < d.createdAt ∧ c.canonicalOperationLen ≤ d.canonicalOperationLen
  lengths : ∀ c ∈ fork.checkpoints, c.canonicalOperationLen ≤ fork.canonicalOperations.length
  synced : digest.archive fork.workFile = fork.contentRevision

theorem Ordered.new (digest : Digest Archive) (forkId : String) (base : Archive) :
    Ordered digest (.new digest forkId base) := by
  constructor <;> simp [ForkContext.new]

theorem evictBytes_sublist (size : Archive → Nat) (checkpoints : List (Checkpoint Archive)) :
    (evictBytes size checkpoints).Sublist checkpoints := by
  induction checkpoints with
  | nil => exact List.Sublist.refl _
  | cons oldest rest ih =>
    unfold evictBytes
    split
    · exact List.Sublist.refl _
    · exact ih.cons oldest

theorem enforceCheckpointLimits_sublist (size : Archive → Nat)
    (checkpoints : List (Checkpoint Archive)) :
    (enforceCheckpointLimits size checkpoints).Sublist checkpoints :=
  (evictBytes_sublist size _).trans (List.drop_sublist _ _)

theorem mem_pushCheckpoint
    (h : checkpoint ∈ (fork.pushCheckpoint t.size label ambient).checkpoints) :
    checkpoint ∈ fork.checkpoints ∨ checkpoint = ⟨ambient.freshId, ambient.now, label,
      fork.workFile, fork.recalcNeeded, fork.stateRevision, fork.canonicalOperations.length⟩ := by
  have hmem := (enforceCheckpointLimits_sublist t.size _).mem h
  simpa using hmem

/-- Of two checkpoints the one not dated later has no longer history. -/
theorem Ordered.length_le {digest : Digest Archive} (h : Ordered digest fork)
    (hcheckpoint : checkpoint ∈ fork.checkpoints) (htarget : target ∈ fork.checkpoints)
    (hdate : ¬ target.createdAt < checkpoint.createdAt) :
    checkpoint.canonicalOperationLen ≤ target.canonicalOperationLen := by
  obtain ⟨i, hi, rfl⟩ := List.getElem_of_mem hcheckpoint
  obtain ⟨j, hj, rfl⟩ := List.getElem_of_mem htarget
  have hdates := List.pairwise_iff_getElem.mp h.dates
  rcases Nat.lt_trichotomy i j with hlt | rfl | hgt
  · exact (hdates i j hi hj hlt).2
  · exact le_refl _
  · exact absurd (hdates j i hj hi hgt).1 hdate

theorem Ordered.kept {digest : Digest Archive} (h : Ordered digest fork)
    (hkept : Kept digest fork fork') : Ordered digest fork' := by
  refine ⟨h.dates.sublist hkept.checkpoints, fun c hc => ?_, hkept.synced⟩
  exact (h.lengths c (hkept.checkpoints.mem hc)).trans hkept.history.length_le

theorem Ordered.created {digest : Digest Archive} (h : Ordered digest fork)
    (hdates : ∀ c ∈ fork.checkpoints, c.createdAt < ambient.now) :
    Ordered digest ({ fork with returned }.pushCheckpoint t.size label ambient) := by
  refine ⟨?_, fun c hc => ?_, h.synced⟩
  · refine List.Pairwise.sublist (enforceCheckpointLimits_sublist t.size _) ?_
    refine List.pairwise_append.mpr ⟨h.dates, List.pairwise_singleton _ _, ?_⟩
    intro c hc d hd
    rw [List.mem_singleton.mp hd]
    exact ⟨hdates c hc, h.lengths c hc⟩
  · rcases mem_pushCheckpoint hc with hc | rfl
    · exact h.lengths c hc
    · exact le_refl _

theorem Ordered.rewound {digest : Digest Archive} (h : Ordered digest fork)
    (htarget : target ∈ fork.checkpoints) :
    Ordered digest ({ fork with returned }.rewound digest target ambient) := by
  refine ⟨h.dates.sublist List.filter_sublist, fun c hc => ?_, rfl⟩
  obtain ⟨hmem, hdate⟩ := List.mem_filter.mp hc
  have hle := h.length_le hmem htarget (of_decide_eq_true hdate)
  have hlength := h.lengths target htarget
  change _ ≤ (fork.canonicalOperations.take target.canonicalOperationLen).length
  rw [List.length_take]
  omega

end Order

section Origin
variable {t : FileTools Archive} {ambient : Ambient Archive}
  {origin after fork fork' : ForkContext Archive} {label : Option String}
  {returned : List (Observation Archive)} {target checkpoint : Checkpoint Archive}

/-- What a checkpoint made in `origin`, with `after` the fork right after it, still
says about the fork. -/
structure Since (origin after : ForkContext Archive) (checkpoint : Checkpoint Archive)
    (fork : ForkContext Archive) : Prop where
  snapshot : checkpoint.snapshot = origin.workFile
  recalc : checkpoint.recalcNeeded = origin.recalcNeeded
  length : checkpoint.canonicalOperationLen = origin.canonicalOperations.length
  history : origin.canonicalOperations <+: fork.canonicalOperations
  stagedBefore : ∀ x ∈ origin.stagedChanges, x.createdAt ≤ checkpoint.createdAt
  stagedSince : ∀ x ∈ fork.stagedChanges, x.createdAt ≤ checkpoint.createdAt →
    x ∈ origin.stagedChanges
  checkpointsBefore : ∀ c ∈ after.checkpoints, c.createdAt ≤ checkpoint.createdAt
  checkpointsSince : ∀ c ∈ fork.checkpoints, c.createdAt ≤ checkpoint.createdAt →
    c ∈ after.checkpoints

theorem Since.kept {digest : Digest Archive} (h : Since origin after checkpoint fork)
    (hmem : checkpoint ∈ fork.checkpoints) (hkept : Kept digest fork fork') :
    Since origin after checkpoint fork' := by
  refine ⟨h.snapshot, h.recalc, h.length, h.history.trans hkept.history, h.stagedBefore, ?_,
    h.checkpointsBefore, fun c hc => h.checkpointsSince c (hkept.checkpoints.mem hc)⟩
  intro x hx hdate
  rcases hkept.staged x hx with hx | hlater
  · exact h.stagedSince x hx hdate
  · have hlt := hlater checkpoint hmem
    omega

theorem Since.created (h : Since origin after checkpoint fork)
    (hdate : checkpoint.createdAt < ambient.now) :
    Since origin after checkpoint ({ fork with returned }.pushCheckpoint t.size label ambient) := by
  refine ⟨h.snapshot, h.recalc, h.length, h.history, h.stagedBefore, h.stagedSince,
    h.checkpointsBefore, ?_⟩
  intro c hc hle
  rcases mem_pushCheckpoint hc with hc | rfl
  · exact h.checkpointsSince c hc hle
  · have hnow : ambient.now ≤ checkpoint.createdAt := hle
    omega

theorem Since.rewound {digest : Digest Archive} (h : Since origin after checkpoint fork)
    (hlength : checkpoint.canonicalOperationLen ≤ target.canonicalOperationLen) :
    Since origin after checkpoint ({ fork with returned }.rewound digest target ambient) := by
  refine ⟨h.snapshot, h.recalc, h.length, ?_, h.stagedBefore,
    fun x hx => h.stagedSince x (List.mem_of_mem_filter hx), h.checkpointsBefore,
    fun c hc => h.checkpointsSince c (List.mem_of_mem_filter hc)⟩
  change origin.canonicalOperations <+: fork.canonicalOperations.take target.canonicalOperationLen
  exact List.prefix_take_iff.mpr ⟨h.history, h.length ▸ hlength⟩

theorem Since.start (hdates : ∀ c ∈ fork.checkpoints, c.createdAt < ambient.now)
    (hstaged : ∀ x ∈ fork.stagedChanges, x.createdAt ≤ ambient.now) :
    Since fork ({ fork with returned }.pushCheckpoint t.size label ambient)
      ⟨ambient.freshId, ambient.now, label, fork.workFile, fork.recalcNeeded, fork.stateRevision,
        fork.canonicalOperations.length⟩
      ({ fork with returned }.pushCheckpoint t.size label ambient) := by
  refine ⟨rfl, rfl, rfl, List.prefix_refl _, hstaged, fun x hx _ => hx, ?_, fun c hc _ => hc⟩
  intro c hc
  rcases mem_pushCheckpoint hc with hc | rfl
  · exact Int.le_of_lt (hdates c hc)
  · exact le_refl _

end Origin

section Run
variable {t : FileTools Archive} {start : ForkContext Archive} {events : List (ForkEvent Archive)}
  {event : ForkEvent Archive} {checkpoint : Checkpoint Archive}

theorem ForkContext.run_concat : start.run t (events ++ [event]) =
    (event.perform t (start.run t events)).2 := by
  simp [ForkContext.run, List.foldl_append]

theorem DatedRun.of_concat (h : DatedRun t start (events ++ [event])) :
    DatedRun t start events ∧ Dated (start.run t events) event := by
  refine ⟨fun before e after hsplit => ?_, h events event [] rfl⟩
  exact h before e (after ++ [event]) (by rw [hsplit]; simp)

theorem DatedRun.nil : DatedRun t start [] := by
  intro before e after hsplit
  simp at hsplit

theorem DatedRun.cons (h : Dated start event)
    (hrest : DatedRun t (event.perform t start).2 events) : DatedRun t start (event :: events) := by
  intro before e after hsplit
  cases before with
  | nil =>
    obtain ⟨rfl, rfl⟩ := List.cons.inj hsplit
    exact h
  | cons first before =>
    obtain ⟨rfl, htail⟩ := List.cons.inj hsplit
    exact hrest before e after htail

def MadeBy (t : FileTools Archive) (start : ForkContext Archive) (events : List (ForkEvent Archive))
    (checkpoint : Checkpoint Archive) : Prop :=
  ∃ before create between, events = before ++ create :: between ∧
    (∃ expected label, create.op = .canonical (.checkpointCreate expected label)) ∧
    checkpoint.checkpointId = create.ambient.freshId ∧
    Since (start.run t before) (start.run t (before ++ [create])) checkpoint (start.run t events)

theorem MadeBy.concat (h : MadeBy t start events checkpoint)
    (hstep : ∀ origin after, Since origin after checkpoint (start.run t events) →
      Since origin after checkpoint (start.run t (events ++ [event]))) :
    MadeBy t start (events ++ [event]) checkpoint := by
  obtain ⟨before, create, between, hsplit, hop, hid, hsince⟩ := h
  refine ⟨before, create, between ++ [event], ?_, hop, hid, hstep _ _ hsince⟩
  rw [hsplit]
  simp

theorem step_made (hordered : Ordered t.tools.digest (start.run t events))
    (hmade : ∀ c ∈ (start.run t events).checkpoints, MadeBy t start events c)
    (hcanonical : event.Canonical) (hdated : Dated (start.run t events) event) :
    Ordered t.tools.digest (start.run t (events ++ [event])) ∧
      ∀ c ∈ (start.run t (events ++ [event])).checkpoints, MadeBy t start (events ++ [event]) c := by
  obtain ⟨op, ambient⟩ := event
  obtain ⟨⟨op, rfl⟩, hraced⟩ := hcanonical
  have hrun : start.run t (events ++ [⟨.canonical op, ambient⟩]) =
      (op.run t ambient (start.run t events)).2 := ForkContext.run_concat
  rcases op.run_cases hraced hordered.synced hdated with
    hkept | ⟨expected, label, returned, rfl, hafter⟩ | ⟨target, returned, htarget, hafter⟩
  · rw [← hrun] at hkept
    refine ⟨hordered.kept hkept, fun c hc => ?_⟩
    have hmem := hkept.checkpoints.mem hc
    exact (hmade c hmem).concat fun _ _ hsince => hsince.kept hmem hkept
  · rw [hafter] at hrun
    refine ⟨hrun ▸ hordered.created hdated.2.1, fun c hc => ?_⟩
    rw [hrun] at hc
    rcases mem_pushCheckpoint hc with hmem | rfl
    · refine (hmade c hmem).concat fun _ _ hsince => ?_
      rw [hrun]
      exact hsince.created (hdated.2.1 c hmem)
    · refine ⟨events, _, [], rfl, ⟨expected, label, rfl⟩, rfl, ?_⟩
      rw [hrun]
      exact Since.start hdated.2.1 hdated.2.2
  · rw [hafter] at hrun
    refine ⟨hrun ▸ hordered.rewound htarget, fun c hc => ?_⟩
    rw [hrun] at hc
    obtain ⟨hmem, hdate⟩ := List.mem_filter.mp hc
    refine (hmade c hmem).concat fun _ _ hsince => ?_
    rw [hrun]
    exact hsince.rewound (hordered.length_le hmem htarget (of_decide_eq_true hdate))

theorem run_made (hordered : Ordered t.tools.digest start) (hnone : start.checkpoints = [])
    (hcanonical : ∀ event ∈ events, event.Canonical) (hdated : DatedRun t start events) :
    Ordered t.tools.digest (start.run t events) ∧
      ∀ c ∈ (start.run t events).checkpoints, MadeBy t start events c := by
  induction events using List.reverseRecOn with
  | nil => exact ⟨hordered, fun c hc => by simp [ForkContext.run, hnone] at hc⟩
  | append_singleton events event ih =>
    obtain ⟨hbefore, hlast⟩ := hdated.of_concat
    obtain ⟨hordered', hmade⟩ := ih (fun e he => hcanonical e (List.mem_append_left _ he)) hbefore
    exact step_made hordered' hmade (hcanonical event (by simp)) hlast

end Run

/-- The fork after a restore, against the fork the checkpoint was made in, the fork
right after that and the fork before the restore. -/
structure Rewinds [DecidableEq Archive] (origin after fork restored : ForkContext Archive) :
    Prop where
  document : restored.workFile = origin.workFile
  recalc : restored.recalcNeeded = origin.recalcNeeded
  history : restored.canonicalOperations = origin.canonicalOperations
  staged : restored.stagedChanges =
    fork.stagedChanges.filter fun change => change ∈ origin.stagedChanges
  checkpoints : restored.checkpoints =
    fork.checkpoints.filter fun checkpoint => checkpoint ∈ after.checkpoints
  lengths : ∀ checkpoint ∈ restored.checkpoints,
    checkpoint.canonicalOperationLen ≤ restored.canonicalOperations.length

theorem Since.rewinds [DecidableEq Archive] {digest : Digest Archive} {ambient : Ambient Archive}
    {origin after fork : ForkContext Archive} {target : Checkpoint Archive}
    {returned : List (Observation Archive)} (h : Since origin after target fork)
    (hordered : Ordered digest ({ fork with returned }.rewound digest target ambient))
    (hraced : ambient.raced = none) :
    Rewinds origin after fork ({ fork with returned }.rewound digest target ambient) := by
  refine ⟨?_, h.recalc, ?_, ?_, ?_, hordered.lengths⟩
  · simp only [ForkContext.rewound, ForkContext.replaced, hraced, Option.getD_none]
    exact h.snapshot
  · simp only [ForkContext.rewound, h.length]
    exact (List.prefix_iff_eq_take.mp h.history).symm
  · refine List.filter_congr fun change hchange => ?_
    rw [decide_eq_decide, not_lt]
    exact ⟨h.stagedSince change hchange, h.stagedBefore change⟩
  · refine List.filter_congr fun checkpoint hcheckpoint => ?_
    rw [decide_eq_decide, not_lt]
    exact ⟨h.checkpointsSince checkpoint hcheckpoint, h.checkpointsBefore checkpoint⟩

/-- After every run of canonical operations whose dates follow their order, a
restore that succeeds rewinds the fork to the step that made the checkpoint, and
one that fails changes nothing. -/
theorem checkpoint_restore_rewinds [DecidableEq Archive] {t : FileTools Archive} (forkId : String)
    (base : Archive) {events : List (ForkEvent Archive)} {ambient : Ambient Archive}
    {expected checkpointId : String} (hcanonical : ∀ event ∈ events, event.Canonical)
    (hraced : ambient.raced = none)
    (hdated : DatedRun t (.new t.tools.digest forkId base)
      (events ++ [⟨.canonical (.checkpointRestore expected checkpointId), ambient⟩])) :
    (∀ restored, checkpointRestore t ambient expected checkpointId
        ((ForkContext.new t.tools.digest forkId base).run t events) = (.ok (), restored) →
      ∃ before create between, events = before ++ create :: between ∧
        (∃ expected label, create.op = .canonical (.checkpointCreate expected label)) ∧
        checkpointId = create.ambient.freshId ∧
        Rewinds ((ForkContext.new t.tools.digest forkId base).run t before)
          ((ForkContext.new t.tools.digest forkId base).run t (before ++ [create]))
          ((ForkContext.new t.tools.digest forkId base).run t events) restored) ∧
    ∀ error left, checkpointRestore t ambient expected checkpointId
        ((ForkContext.new t.tools.digest forkId base).run t events) = (.error error, left) →
      Unmoved ((ForkContext.new t.tools.digest forkId base).run t events) left := by
  obtain ⟨hbefore, hlast⟩ := hdated.of_concat
  obtain ⟨hordered, hmade⟩ := run_made (.new t.tools.digest forkId base) rfl hcanonical hbefore
  constructor
  · intro restored hrun
    obtain ⟨returned, target, htarget, rfl, rfl⟩ :=
      (checkpointRestore_ends hlast.1 hordered.synced).ok hrun
    obtain ⟨before, create, between, hsplit, hop, hid, hsince⟩ := hmade target htarget
    exact ⟨before, create, between, hsplit, hop, hid,
      hsince.rewinds (hordered.rewound htarget) hraced⟩
  · intro error left hrun
    exact (checkpointRestore_ends hlast.1 hordered.synced).error hrun

/-- A checkpoint of the base, and a recalculation after it. -/
def sampleRecalculated : List (ForkEvent Bool) :=
  [⟨.canonical (.checkpointCreate (String.ofList (List.replicate 64 '0')) none), sampleAmbient 1⟩,
    ⟨.canonical (.finishRecalculation "state:rev-1" true true), sampleAmbient 2⟩]

def sampleStart : ForkContext Bool := .new sampleForkTools.tools.digest "f" false

/-- The restore succeeds and rewinds the recalculation. -/
theorem sampleRecalculated_restore_rewinds :
    ∃ restored, checkpointRestore sampleForkTools (sampleAmbient 3) "state:rev-2" "cp-1"
        (sampleStart.run sampleForkTools sampleRecalculated) = (.ok (), restored) ∧
      ∃ before create between, sampleRecalculated = before ++ create :: between ∧
        Rewinds (sampleStart.run sampleForkTools before)
          (sampleStart.run sampleForkTools (before ++ [create]))
          (sampleStart.run sampleForkTools sampleRecalculated) restored := by
  have hcanonical : ∀ event ∈ sampleRecalculated, event.Canonical := by
    intro event hevent
    simp only [sampleRecalculated, List.mem_cons, List.not_mem_nil, or_false] at hevent
    rcases hevent with rfl | rfl
    · exact ⟨⟨_, rfl⟩, rfl⟩
    · exact ⟨⟨_, rfl⟩, rfl⟩
  have hdated : DatedRun sampleForkTools sampleStart (sampleRecalculated ++
      [⟨.canonical (.checkpointRestore "state:rev-2" "cp-1"), sampleAmbient 3⟩]) := by
    refine .cons ⟨rfl, ?_, ?_⟩ (.cons ⟨rfl, trivial⟩ (.cons ⟨rfl, trivial⟩ .nil))
    · exact fun _ h => absurd h List.not_mem_nil
    · exact fun _ h => absurd h List.not_mem_nil
  have hok : (checkpointRestore sampleForkTools (sampleAmbient 3) "state:rev-2" "cp-1"
      (sampleStart.run sampleForkTools sampleRecalculated)).1.toOption = some () := by
    decide +kernel
  have hrewinds := checkpoint_restore_rewinds "f" false hcanonical rfl hdated
  cases hrun : checkpointRestore sampleForkTools (sampleAmbient 3) "state:rev-2" "cp-1"
      (sampleStart.run sampleForkTools sampleRecalculated) with
  | mk result restored =>
    rw [hrun] at hok
    cases result with
    | error e => cases hok
    | ok u =>
      obtain ⟨before, create, between, hsplit, _, _, h⟩ := hrewinds.1 restored hrun
      exact ⟨restored, rfl, before, create, between, hsplit, h⟩

def setBack : List (ForkEvent Bool) :=
  sampleRecalculated ++
    [⟨.canonical (.checkpointCreate "state:rev-2" none), { sampleAmbient 3 with now := 0 }⟩]

/-- A restore of the first checkpoint keeps the second, whose history is longer than
the one it leaves. -/
theorem set_back_clock_keeps_later_checkpoint :
    ¬ ∀ (t : FileTools Bool) (forkId : String) (base : Bool) (events : List (ForkEvent Bool))
      (ambient : Ambient Bool) (expected checkpointId : String) (restored : ForkContext Bool),
      (∀ event ∈ events, event.Canonical) → ambient.raced = none →
      checkpointRestore t ambient expected checkpointId
        ((ForkContext.new t.tools.digest forkId base).run t events) = (.ok (), restored) →
      ∀ checkpoint ∈ restored.checkpoints,
        checkpoint.canonicalOperationLen ≤ restored.canonicalOperations.length := by
  intro h
  have hcanonical : ∀ event ∈ setBack, event.Canonical := by
    intro event hevent
    simp only [setBack, sampleRecalculated, List.cons_append, List.nil_append, List.mem_cons,
      List.not_mem_nil, or_false] at hevent
    rcases hevent with rfl | rfl | rfl
    · exact ⟨⟨_, rfl⟩, rfl⟩
    · exact ⟨⟨_, rfl⟩, rfl⟩
    · exact ⟨⟨_, rfl⟩, rfl⟩
  have hkept : (checkpointRestore sampleForkTools (sampleAmbient 4) "state:rev-3" "cp-1"
      (sampleStart.run sampleForkTools setBack)).1.toOption = some () ∧
      ((checkpointRestore sampleForkTools (sampleAmbient 4) "state:rev-3" "cp-1"
        (sampleStart.run sampleForkTools setBack)).2.checkpoints.map (·.canonicalOperationLen),
      (checkpointRestore sampleForkTools (sampleAmbient 4) "state:rev-3" "cp-1"
        (sampleStart.run sampleForkTools setBack)).2.canonicalOperations.length) = ([0, 1], 0) := by
    decide +kernel
  cases hrun : checkpointRestore sampleForkTools (sampleAmbient 4) "state:rev-3" "cp-1"
      (sampleStart.run sampleForkTools setBack) with
  | mk result restored =>
    rw [hrun] at hkept
    obtain ⟨hok, hlists⟩ := hkept
    obtain ⟨hlengths, hhistory⟩ := Prod.mk.inj hlists
    cases result with
    | error e => cases hok
    | ok u =>
      have hall := h sampleForkTools "f" false setBack (sampleAmbient 4) "state:rev-3" "cp-1"
        restored hcanonical rfl hrun
      have hmem : 1 ∈ restored.checkpoints.map (·.canonicalOperationLen) := by
        dsimp only at hlengths
        rw [hlengths]
        decide
      obtain ⟨checkpoint, hcheckpoint, hlength⟩ := List.mem_map.mp hmem
      have hle := hall checkpoint hcheckpoint
      dsimp only at hhistory
      omega

end AgentSpreadsheet.Registry
