import AgentSpreadsheet.Fork.Checkpoints
import Mathlib.Algebra.Order.BigOperators.Group.List

/-! The limits of a fork, which no operation of either family exceeds. -/
namespace AgentSpreadsheet.Registry
open Library Library.Exec

/-- Room for what is staged and for the checkpoints, of which a single one may be
of any size; operations are numbered from one on. -/
structure Limits (size : Archive → Nat) (staged : List StagedChange)
    (checkpoints : List (Checkpoint Archive)) (operations : List CanonicalOperationRecord) :
    Prop where
  stagedRoom : staged.length ≤ maxStagedChangesPerFork
  room : checkpoints.length ≤ maxCheckpointsPerFork
  bytes : checkpoints.length ≤ 1 ∨
    (checkpoints.map fun checkpoint => size checkpoint.snapshot).sum ≤ maxCheckpointTotalBytes
  numbered : operations.map (·.sequence) = List.range' 1 operations.length

def Limited (t : FileTools Archive) (fork : ForkContext Archive) : Prop :=
  Limits t.size fork.stagedChanges fork.checkpoints fork.canonicalOperations

section Limits
variable {t : FileTools Archive} {ambient : Ambient Archive} {fork : ForkContext Archive}
  {staged staged' : List StagedChange} {checkpoints checkpoints' : List (Checkpoint Archive)}
  {operations operations' : List CanonicalOperationRecord} {size : Archive → Nat}

theorem Limits.trim (h : Limits size staged checkpoints operations)
    (hstaged : staged'.Sublist staged) (hcheckpoints : checkpoints'.Sublist checkpoints)
    (hoperations : operations' <+: operations) : Limits size staged' checkpoints' operations' where
  stagedRoom := Nat.le_trans hstaged.length_le h.stagedRoom
  room := Nat.le_trans hcheckpoints.length_le h.room
  bytes := by
    refine h.bytes.imp (Nat.le_trans hcheckpoints.length_le) fun hbytes => ?_
    exact Nat.le_trans ((hcheckpoints.map _).sum_le_sum fun _ _ => Nat.zero_le _) hbytes
  numbered := by
    have hnumbered := congrArg (List.take operations'.length) h.numbered
    rwa [← List.map_take, ← List.prefix_iff_eq_take.mp hoperations,
      List.take_range'_of_length_ge hoperations.length_le] at hnumbered

theorem evictBytes_within (size : Archive → Nat) (checkpoints : List (Checkpoint Archive)) :
    (evictBytes size checkpoints).length ≤ 1 ∨ ((evictBytes size checkpoints).map fun checkpoint =>
      size checkpoint.snapshot).sum ≤ maxCheckpointTotalBytes := by
  induction checkpoints with
  | nil => exact .inl (Nat.zero_le _)
  | cons oldest rest ih =>
    unfold evictBytes
    split
    · rename_i hroom
      rcases hroom with hbytes | hlast
      · exact .inr hbytes
      · rw [hlast]
        exact .inl (Nat.le_refl _)
    · exact ih

theorem Limited.checkpoint (h : Limited t fork) (label : Option String) :
    Limited t (fork.pushCheckpoint t.size label ambient) where
  stagedRoom := h.stagedRoom
  room := by
    refine Nat.le_trans (evictBytes_sublist _ _).length_le ?_
    rw [List.length_drop]
    omega
  bytes := evictBytes_within _ _
  numbered := h.numbered

theorem Limited.stage (h : Limited t fork) (change : StagedChange) :
    Limited t (fork.pushStagedChange change) where
  stagedRoom := by
    simp only [ForkContext.pushStagedChange, List.length_drop]
    omega
  room := h.room
  bytes := h.bytes
  numbered := h.numbered

theorem Limited.operation (h : Limited t fork) (kind : String) (opKinds : List String)
    (before after : String) :
    Limited t (fork.pushCanonicalOperation kind opKinds before after) where
  stagedRoom := h.stagedRoom
  room := h.room
  bytes := h.bytes
  numbered := by
    have hlast : fork.canonicalOperations.getLast?.map (·.sequence) =
        (List.range' 1 fork.canonicalOperations.length).getLast? := by
      rw [← h.numbered, List.getLast?_map]
    have hnext : (fork.canonicalOperations.getLast?.map (·.sequence + 1)).getD 1 =
        1 + fork.canonicalOperations.length := by
      cases hlength : fork.canonicalOperations.length with
      | zero => simp [List.eq_nil_of_length_eq_zero hlength]
      | succ n =>
        rw [hlength, List.range'_1_concat, List.getLast?_concat] at hlast
        obtain ⟨record, hrecord, hsequence⟩ := Option.map_eq_some_iff.mp hlast
        rw [hrecord, Option.map_some, Option.getD_some, hsequence]
        omega
    simp only [ForkContext.pushCanonicalOperation, List.map_append, List.length_append, h.numbered,
      List.map_singleton, hnext, List.length_singleton, List.range'_1_concat]

end Limits

section Operations
variable {t : FileTools Archive} {ambient : Ambient Archive}

theorem limited_sync : Keeps (Limited t) (syncRevisions t.tools.digest) := by
  intro fork h
  change Limited t (syncRevisions t.tools.digest fork).2
  unfold syncRevisions
  rw [act_apply]
  split <;> exact h

theorem limited_expecting (expected : String) :
    Keeps (Limited t) (expecting t.tools.digest expected) :=
  limited_sync.bind fun _ => (keeps_guard _ _).bind fun _ => keeps_pure _

theorem limited_race : Keeps (Limited t) (race ambient) := keeps_modify fun _ h => h

theorem limited_overwrite (bytes : Archive) (flag : Bool → Bool) :
    Keeps (Limited t) (overwrite ambient bytes flag) := by
  unfold overwrite
  exact Keeps.bind (keeps_modify fun _ h => h) fun _ => keeps_guard _ _

theorem CanonicalOp.limited (op : CanonicalOp Archive) : Keeps (Limited t) (op.run t ambient) := by
  cases op with
  | look => exact limited_sync.bind fun _ => keeps_pure _
  | write request =>
    refine Keeps.bind (fun fork h => ?_) fun _ => keeps_pure _
    refine executeWriteTransaction_ends (fun _ h => h) (fun _ h => h)
      (limited_sync.bind fun _ => keeps_get.bind fun _ => keeps_pure _) ?_ ?_ h
    · intro fork bytes opKinds h
      refine (limited_expecting _).bind (fun _ => (limited_overwrite _ _).bind fun _ =>
        Keeps.bind (keeps_modify fun fork h => ?_) fun _ => keeps_pure _) fork h
      have hfile : Limited t { fork.replaced t.tools.digest bytes ambient with
        recalcNeeded := true } := h
      exact hfile.operation _ _ _ _
    · intro _ fork bundle label impact diff h
      refine (limited_expecting _).bind (fun _ => Keeps.bind (keeps_modify fun fork h => ?_)
        fun _ => keeps_pure _) fork h
      exact h.stage ⟨ambient.freshId, ambient.now, label, [.canonicalWriteBundle bundle]⟩
  | finishRecalculation expected evaluated complete =>
    refine (limited_expecting _).bind fun _ => (keeps_guard _ _).bind fun _ =>
      (limited_overwrite _ _).bind fun _ => keeps_modify fun fork h => ?_
    have hfile : Limited t { fork.replaced t.tools.digest evaluated ambient with
      recalcNeeded := !complete } := h
    exact hfile.operation _ _ _ _
  | «export» expected =>
    refine Keeps.bind ((limited_expecting _).bind fun _ => (keeps_guard _ _).bind fun _ =>
      limited_race.bind fun _ => keeps_get.bind fun fork => ?_) fun _ => keeps_pure _
    dsimp only
    split
    · exact Keeps.bind (keeps_modify fun _ h => h) fun _ => keeps_fail _
    · exact Keeps.bind (keeps_modify fun _ h => h) fun _ => keeps_pure _
  | checkpointCreate expected label =>
    exact (limited_expecting _).bind fun _ => limited_race.bind fun _ =>
      (keeps_guard _ _).bind fun _ => keeps_modify fun _ h => h.checkpoint label
  | checkpointDelete expected checkpointId =>
    exact (limited_expecting _).bind fun _ => keeps_get.bind fun _ => (keeps_guard _ _).bind fun _ =>
      (keeps_guard _ _).bind fun _ => keeps_modify fun _ h => h.trim (.refl _) List.eraseP_sublist (List.prefix_refl _)
  | checkpointRestore expected checkpointId =>
    exact (limited_expecting _).bind fun _ => keeps_get.bind fun _ => (keeps_lift _).bind fun target =>
      (keeps_guard _ _).bind fun _ => (limited_overwrite _ _).bind fun _ => keeps_modify fun _ h =>
        h.trim List.filter_sublist List.filter_sublist (List.take_prefix _ _)
  | stagedApply expected changeId =>
    refine Keeps.bind ((limited_expecting _).bind fun _ => keeps_get.bind fun _ =>
      (keeps_lift _).bind fun _ => (keeps_lift _).bind fun bundle => (keeps_guard _ _).bind fun _ =>
        (keeps_lift _).bind fun result => (limited_overwrite _ _).bind fun _ =>
          Keeps.bind (keeps_modify fun fork h => ?_) fun _ => keeps_pure _) fun _ => keeps_pure _
    have hfile : Limited t (fork.replaced t.tools.digest result.1 ambient) := h
    exact Limits.trim (hfile.operation _ _ _ _) List.eraseP_sublist (.refl _) (List.prefix_refl _)
  | stagedDiscard expected changeId =>
    exact (limited_expecting _).bind fun _ => keeps_get.bind fun _ => (keeps_guard _ _).bind fun _ =>
      keeps_modify fun _ h => h.trim List.eraseP_sublist (.refl _) (List.prefix_refl _)

theorem ToolOp.limited (op : ToolOp Archive) : Keeps (Limited t) (op.run t ambient) := by
  cases op with
  | writeFile bytes => exact keeps_modify fun _ h => h
  | markRecalc => exact keeps_modify fun _ h => h
  | addStagedChange label ops => exact keeps_modify fun _ h => h.stage _
  | takeStagedChange changeId =>
    exact keeps_get.bind fun _ => (keeps_guard _ _).bind fun _ =>
      keeps_modify fun _ h => h.trim List.eraseP_sublist (.refl _) (List.prefix_refl _)
  | applyBundle bundle =>
    refine limited_sync.bind fun _ => keeps_get.bind fun _ => (keeps_lift _).bind fun result => ?_
    dsimp only
    split
    · exact keeps_modify fun _ h => h
    · exact keeps_modify fun _ h => h
  | createCheckpoint label =>
    exact limited_sync.bind fun _ => limited_race.bind fun _ => (keeps_guard _ _).bind fun _ =>
      keeps_modify fun _ h => h.checkpoint label
  | deleteCheckpoint checkpointId =>
    exact keeps_get.bind fun _ => (keeps_guard _ _).bind fun _ =>
      keeps_modify fun _ h => h.trim (.refl _) List.eraseP_sublist (List.prefix_refl _)
  | restoreCheckpoint checkpointId =>
    exact keeps_get.bind fun _ => (keeps_lift _).bind fun _ => (keeps_guard _ _).bind fun _ =>
      keeps_modify fun _ h => h.trim List.filter_sublist (.refl _) (List.prefix_refl _)

end Operations

/-- In every run of both families of tools, over whatever races and failures, a
fork stays within its limits and numbers its operations without a gap. -/
theorem fork_limits_kept (t : FileTools Archive) (forkId : String) (base : Archive)
    (events : List (ForkEvent Archive)) :
    Limited t ((ForkContext.new t.tools.digest forkId base).run t events) := by
  have hnew : Limited t (.new t.tools.digest forkId base) :=
    ⟨Nat.zero_le _, Nat.zero_le _, .inl (Nat.zero_le _), rfl⟩
  generalize ForkContext.new t.tools.digest forkId base = fork at hnew
  induction events generalizing fork with
  | nil => exact hnew
  | cons event rest ih =>
    refine ih _ (Ends.final ?_)
    unfold ForkEvent.perform
    split
    · exact CanonicalOp.limited _ fork hnew
    · exact ToolOp.limited _ fork hnew

end AgentSpreadsheet.Registry
