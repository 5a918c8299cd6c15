import AgentSpreadsheet.Fork.Registry

/-! What the revisions of a fork identify. A revision is drawn at random when the
fork moves under its lock, and is a content hash when the work file was found
changed; only a content hash can come back. -/
namespace AgentSpreadsheet.Registry
open Library Library.Exec

section Identity
variable (digest : Digest Archive)

def Observation.Agrees (a b : Observation Archive) : Prop :=
  a.revision = b.revision → a.workFile = b.workFile ∧ a.stagedChanges = b.stagedChanges ∧
    a.checkpoints = b.checkpoints ∧ a.canonicalOperations = b.canonicalOperations

instance [DecidableEq Archive] : DecidableRel (@Observation.Agrees Archive) := fun a b =>
  inferInstanceAs (Decidable (a.revision = b.revision → a.workFile = b.workFile ∧
    a.stagedChanges = b.stagedChanges ∧ a.checkpoints = b.checkpoints ∧
    a.canonicalOperations = b.canonicalOperations))

/-- No file is found changed to content that was the fork's revision before. -/
def FoundNew (returned : List (Observation Archive)) : Prop :=
  returned.Pairwise fun earlier later => later.found = true →
    earlier.revision ≠ digest.archive later.workFile

/-- `used` are the random identities drawn so far. -/
structure Identified (used : List String) (fork : ForkContext Archive) : Prop where
  state : fork.stateRevision = fork.contentRevision ∨
    ∃ id ∈ used, fork.stateRevision = "state:" ++ id
  named : ∀ o ∈ fork.returned, o.revision = digest.archive o.workFile ∨
    ∃ id ∈ used, o.revision = "state:" ++ id
  current : ∀ o ∈ fork.returned, o.revision = fork.stateRevision →
    digest.archive o.workFile = fork.contentRevision ∧ o.stagedChanges = fork.stagedChanges ∧
    o.checkpoints = fork.checkpoints ∧ o.canonicalOperations = fork.canonicalOperations
  unique : fork.returned.Pairwise Observation.Agrees

/-- As long as no file is found changed to what it was before. -/
def Tracks (used : List String) (fork : ForkContext Archive) : Prop :=
  FoundNew digest fork.returned → Identified digest used fork

end Identity

section Steps
variable {digest : Digest Archive} {used : List String} {fork fork' : ForkContext Archive}
  {t : FileTools Archive} {ambient : Ambient Archive}

theorem Tracks.new (forkId : String) (base : Archive) :
    Tracks digest [] (.new digest forkId base) := fun _ =>
  ⟨.inl rfl, by simp [ForkContext.new], by simp [ForkContext.new],
    by simp [ForkContext.new]⟩

theorem FoundNew.of_append {returned more : List (Observation Archive)}
    (h : FoundNew digest (returned ++ more)) : FoundNew digest returned :=
  (List.pairwise_append.mp h).1

theorem Tracks.mono (h : Tracks digest used fork) (id : String) :
    Tracks digest (used ++ [id]) fork := by
  intro hnew
  have hid := h hnew
  refine ⟨hid.state.imp_right ?_, fun o ho => (hid.named o ho).imp_right ?_,
    hid.current, hid.unique⟩
  · exact fun ⟨id, hmem, heq⟩ => ⟨id, List.mem_append_left _ hmem, heq⟩
  · exact fun ⟨id, hmem, heq⟩ => ⟨id, List.mem_append_left _ hmem, heq⟩

theorem Tracks.file (h : Tracks digest used fork) (bytes : Archive) (recalcNeeded : Bool) :
    Tracks digest used { fork with workFile := bytes, recalcNeeded } := by
  intro hnew
  have hid := h hnew
  exact ⟨hid.state, hid.named, hid.current, hid.unique⟩

theorem Tracks.advance (h : Tracks digest used fork) (hreturned : fork'.returned = fork.returned)
    {id : String} (hfresh : id ∉ used) (hhex : ∀ bytes id, digest.archive bytes ≠ "state:" ++ id)
    (hstate : fork'.stateRevision = "state:" ++ id) : Tracks digest (used ++ [id]) fork' := by
  intro hnew
  rw [hreturned] at hnew
  have hid := h hnew
  refine ⟨.inr ⟨id, by simp, hstate⟩, ?_, ?_, hreturned ▸ hid.unique⟩
  · rw [hreturned]
    exact (h.mono id hnew).named
  · rw [hreturned, hstate]
    intro o ho hrevision
    rcases hid.named o ho with hnamed | ⟨other, hother, hnamed⟩
    · exact absurd (hnamed.symm.trans hrevision) (hhex o.workFile id)
    · have hsame : other = id := String.append_right_inj "state:" |>.mp (hnamed.symm.trans hrevision)
      exact absurd (hsame ▸ hother) hfresh

theorem Tracks.found (h : Tracks digest used fork) : Tracks digest used (fork.found digest) := by
  intro hnew
  have hid := h hnew.of_append
  obtain ⟨_, _, hlast⟩ := List.pairwise_append.mp hnew
  have hapart (o : Observation Archive) (ho : o ∈ fork.returned) :
      o.revision ≠ digest.archive fork.workFile := hlast o ho _ (List.mem_singleton.mpr rfl) rfl
  refine ⟨.inl rfl, ?_, ?_, ?_⟩
  · intro o ho
    rcases List.mem_append.mp ho with ho | ho
    · exact hid.named o ho
    · rw [List.mem_singleton.mp ho]
      exact .inl rfl
  · intro o ho hrevision
    rcases List.mem_append.mp ho with ho | ho
    · exact absurd hrevision (hapart o ho)
    · rw [List.mem_singleton.mp ho]
      exact ⟨rfl, rfl, rfl, rfl⟩
  · refine List.pairwise_append.mpr ⟨hid.unique, List.pairwise_singleton _ _, ?_⟩
    intro o ho last hlast hsame
    rw [List.mem_singleton.mp hlast] at hsame
    exact absurd hsame (hapart o ho)

theorem Tracks.sync (h : Tracks digest used fork) (hfree : Function.Injective digest.archive) :
    EndsIn (syncRevisions digest) fork (Tracks digest used) := by
  change Tracks digest used ((syncRevisions digest : ForkExec Archive String) fork).2
  unfold syncRevisions
  rw [act_apply]
  split
  · exact h.found
  · rename_i hsame
    have hcontent : digest.archive fork.workFile = fork.contentRevision := not_not.mp hsame
    intro hnew
    have hid := h hnew.of_append
    refine ⟨hid.state, ?_, ?_, ?_⟩
    · intro o ho
      rcases List.mem_append.mp ho with ho | ho
      · exact hid.named o ho
      · rw [List.mem_singleton.mp ho]
        exact hid.state.imp_left fun hstate => hstate.trans hcontent.symm
    · intro o ho hrevision
      rcases List.mem_append.mp ho with ho | ho
      · exact hid.current o ho hrevision
      · rw [List.mem_singleton.mp ho]
        exact ⟨hcontent, rfl, rfl, rfl⟩
    · refine List.pairwise_append.mpr ⟨hid.unique, List.pairwise_singleton _ _, ?_⟩
      intro o ho last hlast hrevision
      rw [List.mem_singleton.mp hlast] at hrevision ⊢
      obtain ⟨hfile, hrest⟩ := hid.current o ho hrevision
      exact ⟨hfree (hfile.trans hcontent.symm), hrest⟩

theorem Tracks.expecting (h : Tracks digest used fork)
    (hfree : Function.Injective digest.archive) (expected : String) :
    EndsIn (expecting digest expected) fork (Tracks digest used) := by
  unfold Registry.expecting
  refine (h.sync hfree).bind fun before fork₁ h₁ => ?_
  exact ends_guard_bind (fun _ => ends_pure h₁) fun _ => h₁

theorem Tracks.race (h : Tracks digest used fork) :
    EndsIn (race ambient) fork (Tracks digest used) :=
  ends_modify (h.file (ambient.raced.getD fork.workFile) fork.recalcNeeded)

end Steps

section Operations
variable {t : FileTools Archive} {ambient : Ambient Archive} {used : List String}
  {fork : ForkContext Archive}

def Moves (t : FileTools Archive) (ambient : Ambient Archive) (used : List String)
    (x : ForkExec Archive α) (fork : ForkContext Archive) : Prop :=
  Ends x fork (fun _ => Tracks t.tools.digest (used ++ [ambient.revisionId]))
    (Tracks t.tools.digest (used ++ [ambient.revisionId]))

variable (hfree : Function.Injective t.tools.digest.archive)
  (hhex : ∀ bytes id, t.tools.digest.archive bytes ≠ "state:" ++ id)
  (hfresh : ambient.revisionId ∉ used)

include hfree in
theorem moves_sync {f : String → ForkExec Archive α} (h : Tracks t.tools.digest used fork)
    (hrest : ∀ revision fork₁, Tracks t.tools.digest used fork₁ →
      Moves t ambient used (f revision) fork₁) :
    Moves t ambient used (syncRevisions t.tools.digest >>= f) fork :=
  ((h.sync hfree).mono (fun _ _ h => h) fun _ h => h.mono _).bind hrest

theorem moves_race {f : Unit → ForkExec Archive α} (h : Tracks t.tools.digest used fork)
    (hrest : ∀ fork₁, Tracks t.tools.digest used fork₁ → Moves t ambient used (f ()) fork₁) :
    Moves t ambient used (race ambient >>= f) fork :=
  (h.race.mono (fun _ _ h => h) fun _ h => h.mono _).bind fun _ => hrest

theorem moves_overwrite {bytes : Archive} {flag : Bool → Bool} {f : Unit → ForkExec Archive α}
    (h : Tracks t.tools.digest used fork)
    (hrest : ∀ fork₁, Tracks t.tools.digest used fork₁ → Moves t ambient used (f ()) fork₁) :
    Moves t ambient used (overwrite ambient bytes flag >>= f) fork := by
  have hfile := h.file (ambient.raced.getD bytes) (flag fork.recalcNeeded)
  exact ends_overwrite_bind (fun _ => hrest _ hfile) fun _ => hfile.mono _

include hfree in
/-- Every canonical operation compares the revision first. -/
theorem moves_expecting {expected : String} {f : String → ForkExec Archive α}
    (h : Tracks t.tools.digest used fork)
    (hrest : ∀ before fork₁, Tracks t.tools.digest used fork₁ →
      Moves t ambient used (f before) fork₁) :
    Moves t ambient used (expecting t.tools.digest expected >>= f) fork :=
  ((h.expecting hfree expected).mono (fun _ _ h => h) fun _ h => h.mono _).bind hrest

include hhex hfresh in
theorem moves_modify {change : ForkContext Archive → ForkContext Archive}
    (h : Tracks t.tools.digest used fork) (hreturned : (change fork).returned = fork.returned)
    (hstate : (change fork).stateRevision = ambient.state) :
    Moves t ambient used (Exec.modify change) fork :=
  ends_modify (h.advance hreturned hfresh hhex hstate)

include hfree hhex hfresh in
theorem CanonicalOp.moves (op : CanonicalOp Archive) (h : Tracks t.tools.digest used fork) :
    Moves t ambient used (op.run t ambient) fork := by
  cases op with
  | look => exact moves_sync hfree h fun _ _ h₁ => ends_pure (h₁.mono _)
  | write request =>
    have hwrite : Moves t ambient used
        (executeWriteTransaction t.tools (forkBackend t ambient) request) fork := by
      refine executeWriteTransaction_ends (fun _ h => h.mono _) (fun _ h => h.mono _) ?_ ?_ ?_ h
      · intro fork₁ h₁
        refine ((h₁.sync hfree).mono (fun _ _ h => h) fun _ h => h.mono _).bind fun _ _ h₂ => ?_
        exact ends_get_bind (ends_pure h₂)
      · intro fork₁ bytes opKinds h₁
        refine moves_expecting hfree h₁ fun before fork₂ h₂ => ?_
        refine moves_overwrite h₂ fun fork₃ h₃ => ?_
        exact Ends.bind (moves_modify hhex hfresh h₃ rfl rfl) fun _ _ h₄ => ends_pure h₄
      · intro _ fork₁ bundle label impact diff h₁
        refine moves_expecting hfree h₁ fun before fork₂ h₂ => ?_
        exact Ends.bind (moves_modify hhex hfresh h₂ rfl rfl) fun _ _ h₃ => ends_pure h₃
    exact Ends.bind hwrite fun _ _ h₁ => ends_pure h₁
  | finishRecalculation expected evaluated complete =>
    refine moves_expecting hfree h fun before fork₁ h₁ => ?_
    refine ends_guard_bind (fun _ => ?_) fun _ => h₁.mono _
    exact moves_overwrite h₁ fun fork₂ h₂ => moves_modify hhex hfresh h₂ rfl rfl
  | «export» expected =>
    refine Ends.bind (moves_expecting hfree h fun before fork₁ h₁ => ?_) fun _ _ h₁ => ends_pure h₁
    refine ends_guard_bind (fun _ => ?_) fun _ => h₁.mono _
    refine moves_race h₁ fun fork₂ h₂ => ?_
    refine ends_get_bind ?_
    dsimp only
    split
    · exact ends_modify_bind (ends_fail (h₂.found.mono _))
    · exact Ends.bind (moves_modify hhex hfresh h₂ rfl rfl) fun _ _ h₃ => ends_pure h₃
  | checkpointCreate expected label =>
    refine moves_expecting hfree h fun before fork₁ h₁ => ?_
    refine moves_race h₁ fun fork₂ h₂ => ?_
    exact ends_guard_bind (fun _ => moves_modify hhex hfresh h₂ rfl rfl) fun _ => h₂.mono _
  | checkpointDelete expected checkpointId =>
    refine moves_expecting hfree h fun before fork₁ h₁ => ?_
    refine ends_get_bind (ends_guard_bind (fun _ => ?_) fun _ => h₁.mono _)
    exact ends_guard_bind (fun _ => moves_modify hhex hfresh h₁ rfl rfl) fun _ => h₁.mono _
  | checkpointRestore expected checkpointId =>
    refine moves_expecting hfree h fun before fork₁ h₁ => ?_
    refine ends_get_bind (ends_lift_bind (fun target _ => ?_) fun _ _ => h₁.mono _)
    refine ends_guard_bind (fun _ => ?_) fun _ => h₁.mono _
    exact moves_overwrite h₁ fun fork₂ h₂ => moves_modify hhex hfresh h₂ rfl rfl
  | stagedApply expected changeId =>
    refine Ends.bind (moves_expecting hfree h fun before fork₁ h₁ => ?_) fun _ _ h₁ => ends_pure h₁
    refine ends_get_bind (ends_lift_bind (fun staged _ => ?_) fun _ _ => h₁.mono _)
    refine ends_lift_bind (fun bundle _ => ?_) fun _ _ => h₁.mono _
    refine ends_guard_bind (fun _ => ?_) fun _ => h₁.mono _
    refine ends_lift_bind (fun result _ => ?_) fun _ _ => h₁.mono _
    refine moves_overwrite h₁ fun fork₂ h₂ => ?_
    exact Ends.bind (moves_modify hhex hfresh h₂ rfl rfl) fun _ _ h₃ => ends_pure h₃
  | stagedDiscard expected changeId =>
    refine moves_expecting hfree h fun before fork₁ h₁ => ?_
    refine ends_get_bind (ends_guard_bind (fun _ => ?_) fun _ => h₁.mono _)
    exact moves_modify hhex hfresh h₁ rfl rfl

include hfree hhex hfresh in
theorem ToolOp.moves (op : ToolOp Archive) (h : Tracks t.tools.digest used fork) :
    Moves t ambient used (op.run t ambient) fork := by
  cases op with
  | writeFile bytes => exact ends_modify ((h.file bytes fork.recalcNeeded).mono _)
  | markRecalc => exact ends_modify ((h.file fork.workFile true).mono _)
  | addStagedChange label ops => exact moves_modify hhex hfresh h rfl rfl
  | takeStagedChange changeId =>
    refine ends_get_bind (ends_guard_bind (fun _ => ?_) fun _ => h.mono _)
    exact moves_modify hhex hfresh h rfl rfl
  | applyBundle bundle =>
    refine moves_sync hfree h fun _ fork₁ h₁ => ?_
    refine ends_get_bind (ends_lift_bind (fun result _ => ?_) fun _ _ => h₁.mono _)
    obtain ⟨bytes, applied⟩ := result
    dsimp only
    split
    · exact moves_modify hhex hfresh h₁ rfl rfl
    · exact ends_modify ((h₁.file bytes fork₁.recalcNeeded).mono _)
  | createCheckpoint label =>
    refine moves_sync hfree h fun _ fork₁ h₁ => ?_
    refine moves_race h₁ fun fork₂ h₂ => ?_
    exact ends_guard_bind (fun _ => moves_modify hhex hfresh h₂ rfl rfl) fun _ => h₂.mono _
  | deleteCheckpoint checkpointId =>
    refine ends_get_bind (ends_guard_bind (fun _ => ?_) fun _ => h.mono _)
    exact moves_modify hhex hfresh h rfl rfl
  | restoreCheckpoint checkpointId =>
    refine ends_get_bind (ends_lift_bind (fun target _ => ?_) fun _ _ => h.mono _)
    exact ends_guard_bind (fun _ => moves_modify hhex hfresh h rfl rfl) fun _ => h.mono _

end Operations

theorem Tracks.run {t : FileTools Archive} (hfree : Function.Injective t.tools.digest.archive)
    (hhex : ∀ bytes id, t.tools.digest.archive bytes ≠ "state:" ++ id) {used : List String}
    {fork : ForkContext Archive} (h : Tracks t.tools.digest used fork)
    {events : List (ForkEvent Archive)}
    (hids : (used ++ events.map (·.ambient.revisionId)).Nodup) :
    Tracks t.tools.digest (used ++ events.map (·.ambient.revisionId)) (fork.run t events) := by
  induction events generalizing used fork with
  | nil => simpa [ForkContext.run] using h
  | cons event rest ih =>
    have hfresh : event.ambient.revisionId ∉ used := by
      intro hmem
      exact (List.nodup_append'.mp hids).2.2 hmem (by simp)
    have hstep : Moves t event.ambient used (event.perform t) fork := by
      unfold ForkEvent.perform
      split
      · exact CanonicalOp.moves hfree hhex hfresh _ h
      · exact ToolOp.moves hfree hhex hfresh _ h
    have hsplit : used ++ (event :: rest).map (·.ambient.revisionId) =
        used ++ [event.ambient.revisionId] ++ rest.map (·.ambient.revisionId) := by simp
    rw [hsplit] at hids ⊢
    exact ih hstep.final hids

/-- A checkpoint of the base, and a tool that writes new content. -/
def sampleForkRun : List (ForkEvent Bool) :=
  [⟨.canonical .look, sampleAmbient 0⟩,
    ⟨.canonical (.checkpointCreate (String.ofList (List.replicate 64 '0')) none), sampleAmbient 1⟩,
    ⟨.tool (.writeFile true), sampleAmbient 2⟩, ⟨.canonical .look, sampleAmbient 3⟩]

/-- The same, until a tool writes the base's content back: the first revision is
answered again, now of a fork with a checkpoint. -/
def writtenBack : List (ForkEvent Bool) :=
  sampleForkRun ++ [⟨.tool (.writeFile false), sampleAmbient 4⟩,
    ⟨.canonical .look, sampleAmbient 5⟩]

end AgentSpreadsheet.Registry
