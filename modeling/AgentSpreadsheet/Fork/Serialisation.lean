import AgentSpreadsheet.Fork.SharedFile
import Mathlib.Data.List.Nodup

/-! When the calls on a fork are serialised. They are in the order of their writes when no
call writes the file while another is between its first and its last look at it. -/
namespace AgentSpreadsheet.SharedFile
open Library

section Serial
variable {Book : Type} {digest : Book → String} {start : WorkFork Book} {s t : ForkShare Book}
  {task : Nat}

namespace WorkFork
variable {fork : WorkFork Book}

theorem syncRevisions_of_synced (h : digest fork.workFile = fork.contentRevision) :
    fork.syncRevisions digest = fork := if_pos h

theorem syncRevisions_workFile : (fork.syncRevisions digest).workFile = fork.workFile := by
  unfold syncRevisions
  split <;> rfl

theorem syncRevisions_synced :
    digest (fork.syncRevisions digest).workFile = (fork.syncRevisions digest).contentRevision := by
  unfold syncRevisions
  split
  · assumption
  · rfl

theorem syncRevisions_twice :
    (fork.syncRevisions digest).syncRevisions digest = fork.syncRevisions digest :=
  syncRevisions_of_synced syncRevisions_synced

end WorkFork

theorem runSerially_concat (calls : Nat → Option (ForkCall Book)) (order : List Nat) (call : Nat) :
    runSerially digest calls start (order ++ [call]) =
      (runSerially digest calls start order).bind fun fork =>
        (calls call).bind fun call => call.runAlone digest fork := by
  unfold runSerially
  rw [List.foldl_append]
  rfl

theorem runSerially_congr {calls calls' : Nat → Option (ForkCall Book)} {order : List Nat}
    (h : ∀ call ∈ order, calls' call = calls call) :
    runSerially digest calls' start order = runSerially digest calls start order := by
  induction order using List.reverseRecOn with
  | nil => rfl
  | append_singleton order call ih =>
    rw [runSerially_concat, runSerially_concat, h call (by simp),
      ih fun other hother => h other (List.mem_append_left _ hother)]

/-- The fork as the serial run has left it, compared with the fork as it is: a publication
may have its content not recorded yet, and a revision may have been compared already. -/
def Matches (digest : Book → String) (s : ForkShare Book) (alone : WorkFork Book) : Prop :=
  match s.owed with
  | some fresh => alone = s.fork.recordContent digest fresh
  | none => alone = s.fork ∨
      (∃ task, s.stage task = .checked) ∧ s.fork = alone.syncRevisions digest

structure Consistent (digest : Book → String) (start : WorkFork Book) (s : ForkShare Book) :
    Prop where
  owner : s.owed ≠ none → ∃ task, s.lock = some task ∧
    ∀ other, s.stage other = .checked ↔ other = task
  synced : s.owed = none → ∀ task, s.stage task = .checked →
    digest s.fork.workFile = s.fork.contentRevision
  distinct : s.order.Nodup
  known : ∀ task ∈ s.order, s.calls task ≠ none
  serial : s.failed = false → ∃ alone,
    runSerially digest s.calls start s.order = some alone ∧ Matches digest s alone

/-- What the other calls do between two accesses of a call. -/
structure Undisturbing (task : Nat) (s t : ForkShare Book) : Prop where
  calls : t.calls task = s.calls task
  order : task ∈ t.order ↔ task ∈ s.order
  stage : t.stage task = s.stage task
  lock : t.lock = some task ↔ s.lock = some task
  owed : s.lock = some task → t.owed = s.owed
  file : s.stage task ≠ .outside → t.fork.workFile = s.fork.workFile
  fork : s.stage task = .checked → t.fork = s.fork
  failed : s.failed = true → t.failed = true

theorem Undisturbing.refl (s : ForkShare Book) : Undisturbing task s s :=
  ⟨rfl, Iff.rfl, rfl, Iff.rfl, fun _ => rfl, fun _ => rfl, fun _ => rfl, id⟩

theorem Undisturbing.trans {u : ForkShare Book} (h : Undisturbing task s t)
    (h' : Undisturbing task t u) : Undisturbing task s u where
  calls := h'.calls.trans h.calls
  order := h'.order.trans h.order
  stage := h'.stage.trans h.stage
  lock := h'.lock.trans h.lock
  owed hlock := (h'.owed (h.lock.mpr hlock)).trans (h.owed hlock)
  file hstage := (h'.file (h.stage ▸ hstage)).trans (h.file hstage)
  fork hstage := (h'.fork (h.stage.trans hstage)).trans (h.fork hstage)
  failed hfailed := h'.failed (h.failed hfailed)

/-- The call publishes what it has made of the workbook that is there. -/
def Publishes (task : Nat) (s : ForkShare Book) (expectedRevision : String)
    (change : Book → Result Book) (fresh : String) (book : Book) (owed : Option String) : Prop :=
  owed = some fresh ∧ s.stage task = .checked ∧ s.lock = some task ∧ s.owed = none ∧
    expectedRevision = s.fork.stateRevision ∧ change s.fork.workFile = .ok book

/-- The call writes what it has made of the workbook that is there. -/
def Writes (task : Nat) (s : ForkShare Book) (book : Book) (owed : Option String) :
    ForkCall Book → Prop
  | .tool edit => owed = none ∧ s.stage task = .reading ∧ edit s.fork.workFile = .ok book
  | .write expectedRevision apply fresh =>
    Publishes task s expectedRevision apply fresh book owed
  | .recalculate expectedRevision evaluate fresh =>
    Publishes task s expectedRevision evaluate fresh book owed

def Allowed (task : Nat) : ForkAct Book → ForkShare Book → Prop
  | .unlock, s => s.lock = some task ∧ s.owed = none
  | .syncRevisions, s => s.lock = some task ∧ s.owed = none
  | .replaceFile book owed, s => ∃ call, s.calls task = some call ∧ task ∉ s.order ∧
      Writes task s book owed call
  | .recordContent fresh, s => s.owed = some fresh ∧ s.lock = some task ∧ s.stage task = .checked
  | .report _, s => s.lock ≠ some task
  | _, _ => True

/-- A call that is not under way has written, if it was made and no error was reported. -/
structure Outside (task : Nat) (s : ForkShare Book) : Prop where
  stage : s.stage task = .outside
  lock : s.lock ≠ some task
  written : s.failed = true ∨ (s.calls task ≠ none → task ∈ s.order)

theorem Outside.later (h : Outside task s) (hrely : Undisturbing task s t) : Outside task t := by
  refine ⟨hrely.stage.trans h.stage, fun hlock => h.lock (hrely.lock.mp hlock), ?_⟩
  rcases h.written with hfailed | hwritten
  · exact Or.inl (hrely.failed hfailed)
  · refine Or.inr fun hmade => hrely.order.mpr (hwritten ?_)
    rw [← hrely.calls]
    exact hmade

def serialisation (digest : Book → String) (start : WorkFork Book) :
    Discipline Nat (ForkAct Book) (ForkShare Book) where
  inv := Consistent digest start
  rely := Undisturbing
  allowed := Allowed
  idle := Outside
  ended := Outside

/-! ### Accesses -/

theorem update_stage {stage : Stage} {other : Nat} (hother : other ≠ task) :
    (s.setStage task stage).stage other = s.stage other := Function.update_of_ne hother _ _

theorem update_stage_self {stage : Stage} : (s.setStage task stage).stage task = stage :=
  Function.update_self _ _ _

theorem getFork_consistent (h : Consistent digest start s) {call : ForkCall Book}
    (hnew : s.calls task = none) : Consistent digest start (s.getFork task call) ∧
      ∀ other, other ≠ task → Undisturbing other s (s.getFork task call) := by
  have hcalls : ∀ other ∈ s.order, (s.getFork task call).calls other = s.calls other := by
    intro other hother
    refine Function.update_of_ne (fun hsame => ?_) _ _
    rw [hsame] at hother
    exact h.known task hother hnew
  refine ⟨⟨h.owner, h.synced, h.distinct, fun other hother => ?_, fun hfailed => ?_⟩,
    fun other hother => ?_⟩
  · rw [hcalls other hother]
    exact h.known other hother
  · obtain ⟨alone, halone, hmatches⟩ := h.serial hfailed
    exact ⟨alone, (runSerially_congr hcalls).trans halone, hmatches⟩
  · exact { Undisturbing.refl s with calls := Function.update_of_ne hother _ _ }

theorem lock_consistent (h : Consistent digest start s) (hfree : s.lock = none) :
    Consistent digest start { s with lock := some task } ∧
      ∀ other, other ≠ task → Undisturbing other s { s with lock := some task } := by
  have howed : s.owed = none := by
    by_contra howed
    obtain ⟨holder, hlock, -⟩ := h.owner howed
    rw [hfree] at hlock
    contradiction
  refine ⟨⟨fun hsome => absurd howed hsome, h.synced, h.distinct, h.known, h.serial⟩,
    fun other hother => { Undisturbing.refl s with lock := ?_ }⟩
  rw [hfree]
  exact iff_of_false (fun hsame => hother (Option.some.inj hsame).symm) nofun

theorem unlock_consistent (h : Consistent digest start s) (hlock : s.lock = some task)
    (howed : s.owed = none) : Consistent digest start { s with lock := none } ∧
      ∀ other, other ≠ task → Undisturbing other s { s with lock := none } := by
  refine ⟨⟨fun hsome => absurd howed hsome, h.synced, h.distinct, h.known, h.serial⟩,
    fun other hother => { Undisturbing.refl s with lock := ?_ }⟩
  rw [hlock]
  exact iff_of_false nofun fun hsame => hother (Option.some.inj hsame).symm

theorem syncRevisions_consistent (h : Consistent digest start s) (hlock : s.lock = some task)
    (howed : s.owed = none) : Consistent digest start (s.syncRevisions digest task) ∧
      ∀ other, other ≠ task → Undisturbing other s (s.syncRevisions digest task) := by
  refine ⟨⟨fun hsome => absurd howed hsome, fun _ _ _ => WorkFork.syncRevisions_synced, h.distinct,
    h.known, fun hfailed => ?_⟩, fun other hother => ?_⟩
  · obtain ⟨alone, halone, hmatches⟩ := h.serial hfailed
    refine ⟨alone, halone, ?_⟩
    unfold Matches at hmatches ⊢
    rw [howed] at hmatches
    change match s.owed with
      | some fresh => _
      | none => _
    rw [howed]
    refine Or.inr ⟨⟨task, update_stage_self⟩, ?_⟩
    change s.fork.syncRevisions digest = _
    rcases hmatches with hsame | hsynced
    · rw [hsame]
    · rw [hsynced.2, WorkFork.syncRevisions_twice]
  · exact { Undisturbing.refl s with
      stage := update_stage hother
      file := fun _ => WorkFork.syncRevisions_workFile
      fork := fun hstage => WorkFork.syncRevisions_of_synced (h.synced howed other hstage) }

theorem readFile_stage {other : Nat} :
    (s.readFile task).stage other = .checked ↔ s.stage other = .checked := by
  unfold ForkShare.readFile
  by_cases hother : other = task
  · subst hother
    rw [update_stage_self]
    split
    · rename_i hchecked
      exact iff_of_true rfl hchecked
    · rename_i hchecked
      exact iff_of_false nofun hchecked
  · rw [update_stage hother]

theorem readFile_consistent (h : Consistent digest start s) :
    Consistent digest start (s.readFile task) ∧
      ∀ other, other ≠ task → Undisturbing other s (s.readFile task) := by
  refine ⟨⟨fun hsome => ?_, fun howed other hother => ?_, h.distinct, h.known, fun hfailed => ?_⟩,
    fun other hother => { Undisturbing.refl s with stage := update_stage hother }⟩
  · obtain ⟨holder, hlock, honly⟩ := h.owner hsome
    exact ⟨holder, hlock, fun other => readFile_stage.trans (honly other)⟩
  · exact h.synced howed other (readFile_stage.mp hother)
  · obtain ⟨alone, halone, hmatches⟩ := h.serial hfailed
    refine ⟨alone, halone, ?_⟩
    unfold Matches at hmatches ⊢
    change match s.owed with
      | some fresh => _
      | none => _
    cases howed : s.owed with
    | some fresh =>
      rw [howed] at hmatches
      exact hmatches
    | none =>
      rw [howed] at hmatches
      rcases hmatches with hsame | hsynced
      · exact Or.inl hsame
      · obtain ⟨⟨other, hother⟩, hsync⟩ := hsynced
        exact Or.inr ⟨⟨other, readFile_stage.mpr hother⟩, hsync⟩

/-- A publication makes of the fork what the call makes of it alone. -/
theorem publishAlone_publishes {expectedRevision fresh : String} {change : Book → Result Book}
    {book : Book} {owed : Option String} {alone : WorkFork Book} (h : Consistent digest start s)
    (hpublishes : Publishes task s expectedRevision change fresh book owed)
    (hmatches : Matches digest s alone) :
    publishAlone digest expectedRevision change fresh alone =
      some (({ s.fork with workFile := book } : WorkFork Book).recordContent digest fresh) := by
  obtain ⟨-, hstage, -, howed, hrevision, hchange⟩ := hpublishes
  have hsync : alone.syncRevisions digest = s.fork := by
    unfold Matches at hmatches
    rw [howed] at hmatches
    rcases hmatches with hsame | hsynced
    · rw [hsame]
      exact WorkFork.syncRevisions_of_synced (h.synced howed task hstage)
    · exact hsynced.2.symm
  unfold publishAlone
  rw [hsync]
  simp only
  rw [if_pos hrevision, hchange]
  rfl

theorem reading_alone (h : Consistent digest start s) (hundisturbed : Undisturbed task s)
    (hstage : s.stage task = .reading) :
    s.owed = none ∧ ∀ other, s.stage other ≠ .checked := by
  have hnone : ∀ other, s.stage other ≠ .checked := by
    intro other hother
    by_cases hsame : other = task
    · rw [hsame, hstage] at hother
      contradiction
    · rw [hundisturbed other hsame] at hother
      contradiction
  refine ⟨?_, hnone⟩
  by_contra howed
  obtain ⟨holder, -, honly⟩ := h.owner howed
  exact hnone holder ((honly holder).mpr rfl)

theorem writes_serial {call : ForkCall Book} {book : Book} {owed : Option String}
    (h : Consistent digest start s) (hundisturbed : Undisturbed task s)
    (hcall : s.calls task = some call) (hwrites : Writes task s book owed call)
    (hfailed : s.failed = false) : ∃ alone,
      runSerially digest s.calls start (s.order ++ [task]) = some alone ∧
        alone = match owed with
          | some fresh => ({ s.fork with workFile := book } : WorkFork Book).recordContent digest fresh
          | none => { s.fork with workFile := book } := by
  obtain ⟨alone, halone, hmatches⟩ := h.serial hfailed
  rw [runSerially_concat, halone]
  simp only [Option.bind_some, hcall]
  cases call with
  | tool edit =>
    obtain ⟨rfl, hstage, hedit⟩ := hwrites
    obtain ⟨howed, hnone⟩ := reading_alone h hundisturbed hstage
    have hsame : alone = s.fork := by
      unfold Matches at hmatches
      rw [howed] at hmatches
      rcases hmatches with hsame | hsynced
      · exact hsame
      · obtain ⟨other, hother⟩ := hsynced.1
        exact absurd hother (hnone other)
    subst hsame
    simp only [ForkCall.runAlone, hedit]
    exact ⟨_, rfl, rfl⟩
  | write expectedRevision apply fresh =>
    have hpublish := publishAlone_publishes h hwrites hmatches
    obtain ⟨rfl, -⟩ := hwrites
    exact ⟨_, hpublish, rfl⟩
  | recalculate expectedRevision evaluate fresh =>
    have hpublish := publishAlone_publishes h hwrites hmatches
    obtain ⟨rfl, -⟩ := hwrites
    exact ⟨_, hpublish, rfl⟩

theorem Writes.owed {call : ForkCall Book} {book : Book} {owed : Option String}
    (h : Consistent digest start s) (hundisturbed : Undisturbed task s)
    (hwrites : Writes task s book owed call) :
    s.owed = none ∧ ∀ fresh, owed = some fresh → s.lock = some task := by
  cases call with
  | tool edit =>
    obtain ⟨hnone, hstage, -⟩ := hwrites
    refine ⟨(reading_alone h hundisturbed hstage).1, fun fresh hsome => ?_⟩
    rw [hnone] at hsome
    contradiction
  | write expectedRevision apply fresh => exact ⟨hwrites.2.2.2.1, fun _ _ => hwrites.2.2.1⟩
  | recalculate expectedRevision evaluate fresh =>
    exact ⟨hwrites.2.2.2.1, fun _ _ => hwrites.2.2.1⟩

theorem replaceFile_stage {book : Book} {owed : Option String} {other : Nat}
    (hundisturbed : Undisturbed task s) :
    (s.replaceFile task book owed).stage other = .checked ↔ other = task ∧ owed ≠ none := by
  by_cases hother : other = task
  · subst hother
    change Function.update s.stage other (if owed.isSome then .checked else .outside) other = _ ↔ _
    rw [Function.update_self]
    cases owed with
    | none => exact iff_of_false nofun fun h => h.2 rfl
    | some fresh => exact iff_of_true rfl ⟨rfl, nofun⟩
  · have hsame : (s.replaceFile task book owed).stage other = s.stage other :=
      Function.update_of_ne hother _ _
    rw [hsame, hundisturbed other hother]
    exact iff_of_false nofun fun h => hother h.1

theorem replaceFile_consistent {call : ForkCall Book} {book : Book} {owed : Option String}
    (h : Consistent digest start s) (hundisturbed : Undisturbed task s)
    (hcall : s.calls task = some call) (hnew : task ∉ s.order)
    (hwrites : Writes task s book owed call) :
    Consistent digest start (s.replaceFile task book owed) ∧
      ∀ other, other ≠ task → Undisturbing other s (s.replaceFile task book owed) := by
  obtain ⟨howed, hlock⟩ := hwrites.owed h hundisturbed
  have howed' : (s.replaceFile task book owed).owed = owed := by
    change owed.or s.owed = owed
    rw [howed, Option.or_none]
  refine ⟨⟨fun hsome => ?_, fun hnone other hother => ?_, ?_, fun other hother => ?_,
    fun hfailed => ?_⟩, fun other hother => ?_⟩
  · rw [howed'] at hsome
    obtain ⟨fresh, hfresh⟩ := Option.ne_none_iff_exists'.mp hsome
    exact ⟨task, hlock fresh hfresh, fun other =>
      (replaceFile_stage hundisturbed).trans (and_iff_left hsome)⟩
  · rw [howed'] at hnone
    exact absurd hnone ((replaceFile_stage hundisturbed).mp hother).2
  · exact List.nodup_append.mpr ⟨h.distinct, List.pairwise_singleton _ task, fun a ha b hb hab => by
      rw [List.mem_singleton.mp hb] at hab
      exact hnew (hab ▸ ha)⟩
  · rcases List.mem_append.mp hother with hother | hother
    · exact h.known other hother
    · rw [List.mem_singleton.mp hother]
      change s.calls task ≠ none
      rw [hcall]
      exact nofun
  · obtain ⟨alone, halone, hsame⟩ := writes_serial h hundisturbed hcall hwrites hfailed
    refine ⟨alone, halone, ?_⟩
    unfold Matches
    rw [howed']
    cases owed with
    | none => exact Or.inl hsame
    | some fresh => exact hsame
  · have hstage := hundisturbed other hother
    exact {
      calls := rfl
      order := by
        change other ∈ s.order ++ [task] ↔ _
        simp [hother]
      stage := Function.update_of_ne hother _ _
      lock := Iff.rfl
      owed := fun hholds => by
        rw [howed', howed]
        cases owed with
        | none => rfl
        | some fresh =>
          rw [hlock fresh rfl] at hholds
          exact absurd (Option.some.inj hholds).symm hother
      file := fun hne => absurd hstage hne
      fork := fun hchecked => absurd (hstage.symm.trans hchecked) nofun
      failed := id }

theorem recordContent_consistent {fresh : String} (h : Consistent digest start s)
    (howed : s.owed = some fresh) (hlock : s.lock = some task) :
    Consistent digest start (s.recordContent digest task fresh) ∧
      ∀ other, other ≠ task → Undisturbing other s (s.recordContent digest task fresh) := by
  have honly : ∀ other, s.stage other = .checked → other = task := by
    intro other hother
    obtain ⟨holder, hholder, honly⟩ := h.owner (by rw [howed]; exact nofun)
    rw [hlock] at hholder
    rw [Option.some.inj hholder]
    exact (honly other).mp hother
  refine ⟨⟨fun hsome => absurd rfl hsome, fun _ other hother => ?_, h.distinct, h.known,
    fun hfailed => ?_⟩, fun other hother => ?_⟩
  · by_cases hsame : other = task
    · subst hsame
      rw [ForkShare.recordContent, update_stage_self] at hother
      contradiction
    · rw [ForkShare.recordContent, update_stage hsame] at hother
      exact absurd (honly other hother) hsame
  · obtain ⟨alone, halone, hmatches⟩ := h.serial hfailed
    refine ⟨alone, halone, Or.inl ?_⟩
    unfold Matches at hmatches
    rw [howed] at hmatches
    exact hmatches
  · exact { Undisturbing.refl s with
      stage := update_stage hother
      owed := fun hholds => by
        rw [hlock] at hholds
        exact absurd (Option.some.inj hholds).symm hother
      fork := fun hchecked => absurd (honly other hchecked) hother }

theorem report_consistent (h : Consistent digest start s) (hlock : s.lock ≠ some task) :
    Consistent digest start (s.report task) ∧
      ∀ other, other ≠ task → Undisturbing other s (s.report task) := by
  have hstage : ∀ other, (s.report task).stage other = .checked ↔
      other ≠ task ∧ s.stage other = .checked := by
    intro other
    unfold ForkShare.report
    by_cases hother : other = task
    · subst hother
      rw [update_stage_self]
      exact iff_of_false nofun fun h => h.1 rfl
    · rw [update_stage hother]
      exact (and_iff_right hother).symm
  refine ⟨⟨fun hsome => ?_, fun howed other hother => h.synced howed other ((hstage other).mp hother).2,
    h.distinct, h.known, fun hfailed => nomatch hfailed⟩,
    fun other hother => { Undisturbing.refl s with
      stage := update_stage hother
      failed := fun _ => rfl }⟩
  obtain ⟨holder, hholder, honly⟩ := h.owner hsome
  have hne : holder ≠ task := fun hsame => hlock (hsame ▸ hholder)
  refine ⟨holder, hholder, fun other => (hstage other).trans ?_⟩
  rw [honly other]
  exact and_iff_right_of_imp fun hsame => hsame ▸ hne

theorem serialisation_sound :
    (serialisation digest start).Sound (forkSharing digest start Undisturbed) where
  refl _ s := Undisturbing.refl s
  trans _ _ _ _ := Undisturbing.trans
  initial s h := by
    obtain rfl := h
    refine ⟨⟨fun hsome => absurd rfl hsome, fun _ _ hstage => (nomatch hstage), List.nodup_nil,
      fun _ hmem => absurd hmem List.not_mem_nil, fun _ => ⟨start, rfl, Or.inl rfl⟩⟩, fun task => ?_⟩
    exact ⟨rfl, nofun, Or.inr fun hmade => absurd rfl hmade⟩
  access task act s answer t h hallowed hperforms := by
    cases act with
    | getFork call =>
      obtain ⟨-, hnew, rfl⟩ := hperforms
      exact getFork_consistent h hnew
    | lock =>
      obtain ⟨hfree, rfl⟩ := hperforms
      exact lock_consistent h hfree
    | unlock =>
      obtain rfl := hperforms
      exact unlock_consistent h hallowed.1 hallowed.2
    | syncRevisions =>
      obtain ⟨-, rfl⟩ := hperforms
      exact syncRevisions_consistent h hallowed.1 hallowed.2
    | readFile =>
      obtain ⟨-, rfl⟩ := hperforms
      exact readFile_consistent h
    | replaceFile book owed =>
      obtain ⟨hundisturbed, rfl⟩ := hperforms
      obtain ⟨call, hcall, hnew, hwrites⟩ := hallowed
      exact replaceFile_consistent h hundisturbed hcall hnew hwrites
    | recordContent fresh =>
      obtain rfl := hperforms
      exact recordContent_consistent h hallowed.1 hallowed.2.1
    | report message =>
      obtain rfl := hperforms
      exact report_consistent h hallowed
  finish _ s h houtside := ⟨h, houtside, fun _ _ => Undisturbing.refl s⟩
  event _ _ _ hevent := hevent.elim
  idle _ _ _ := Outside.later
  ended _ _ _ := Outside.later

/-! ### Calls -/

structure Under (task : Nat) (call : ForkCall Book) (stage : Stage) (s : ForkShare Book) : Prop where
  made : s.calls task = some call
  unwritten : task ∉ s.order
  stage : s.stage task = stage

theorem Under.later {call : ForkCall Book} {stage : Stage} (h : Under task call stage s)
    (hrely : Undisturbing task s t) : Under task call stage t :=
  ⟨hrely.calls.trans h.made, fun hmem => h.unwritten (hrely.order.mp hmem),
    hrely.stage.trans h.stage⟩

theorem getFork_under {call : ForkCall Book} (h : Consistent digest start s)
    (hstage : s.stage task = .outside) (hnew : s.calls task = none) :
    Under task call .outside (s.getFork task call) :=
  ⟨Function.update_self _ _ _, fun hmem => h.known task hmem hnew, hstage⟩

/-- The continuations are proved against the same discipline. -/
abbrev Proceeds (digest : Book → String) (start : WorkFork Book) (task : Nat)
    (script : ForkScript Book) (s : ForkShare Book) : Prop :=
  script.Keeps (forkSharing digest start Undisturbed) (serialisation digest start) task
    (fun _ => Outside task) s

theorem reportError_proceeds {message : String} (h : s.lock ≠ some task) :
    Proceeds digest start task (reportError message) s := by
  intro t _ hrely
  have hlock : t.lock ≠ some task := fun hlock => h (hrely.lock.mp hlock)
  refine ⟨hlock, fun _ u hperforms _ => ?_⟩
  obtain rfl : u = t.report task := hperforms
  exact ⟨update_stage_self, hlock, Or.inl rfl⟩

theorem unlockError_proceeds {message : String} (hlock : s.lock = some task) (howed : s.owed = none) :
    Proceeds digest start task (unlockError message) s := by
  intro t _ hrely
  refine ⟨⟨hrely.lock.mpr hlock, (hrely.owed hlock).trans howed⟩, fun _ u hperforms _ => ?_⟩
  obtain rfl : u = { t with lock := none } := hperforms
  exact reportError_proceeds nofun

theorem written_proceeds {fresh : String} (hlock : s.lock = some task) (howed : s.owed = some fresh)
    (hstage : s.stage task = .checked) (hwritten : task ∈ s.order) :
    Proceeds digest start task (.call (.recordContent fresh) fun _ => .call .unlock fun _ =>
      .done (.ok ())) s := by
  intro t _ hrely
  have hlock' := hrely.lock.mpr hlock
  refine ⟨⟨(hrely.owed hlock).trans howed, hlock', hrely.stage.trans hstage⟩, ?_⟩
  intro _ u hperforms _
  obtain rfl : u = t.recordContent digest task fresh := hperforms
  intro t' _ hrely'
  have hstage' : t'.stage task = .outside := hrely'.stage.trans update_stage_self
  have hwritten' : task ∈ t'.order := hrely'.order.mpr (hrely.order.mpr hwritten)
  refine ⟨⟨hrely'.lock.mpr hlock', hrely'.owed hlock'⟩, ?_⟩
  intro _ u' hperforms _
  obtain rfl : u' = { t' with lock := none } := hperforms
  exact ⟨hstage', nofun, Or.inr fun _ => hwritten'⟩

theorem publish_proceeds {call : ForkCall Book} {expectedRevision fresh : String}
    {change : Book → Result Book} {book : Book}
    (hpublishes : ∀ s : ForkShare Book, Publishes task s expectedRevision change fresh book
      (some fresh) → Writes task s book (some fresh) call)
    (hunder : Under task call .checked s) (hlock : s.lock = some task) (howed : s.owed = none)
    (hchange : change s.fork.workFile = .ok book) :
    Proceeds digest start task (publish expectedRevision book fresh) s := by
  intro t _ hrely
  have hunder' := hunder.later hrely
  have hlock' := hrely.lock.mpr hlock
  have howed' := (hrely.owed hlock).trans howed
  have hchange' : change t.fork.workFile = .ok book := by
    rw [hrely.fork hunder.stage]
    exact hchange
  refine ⟨⟨hlock', howed'⟩, ?_⟩
  intro current u hperforms _
  obtain ⟨hcurrent, rfl⟩ := hperforms
  change Proceeds digest start task (if expectedRevision = current then _ else _) _
  by_cases hexpected : expectedRevision = current
  · rw [if_pos hexpected]
    have hchange'' : change (t.syncRevisions digest task).fork.workFile = .ok book := by
      change change (t.fork.syncRevisions digest).workFile = .ok book
      rw [WorkFork.syncRevisions_workFile]
      exact hchange'
    have hunder'' : Under task call .checked (t.syncRevisions digest task) :=
      ⟨hunder'.made, hunder'.unwritten, update_stage_self⟩
    intro v _ hrely'
    have hmine := hunder''.later hrely'
    have hlock'' := hrely'.lock.mpr hlock'
    have hfork := hrely'.fork hunder''.stage
    refine ⟨⟨call, hmine.made, hmine.unwritten, hpublishes v ⟨rfl, hmine.stage, hlock'',
      (hrely'.owed hlock').trans howed', ?_, ?_⟩⟩, ?_⟩
    · rw [hfork]
      exact hexpected.trans hcurrent
    · rw [hfork]
      exact hchange''
    · intro _ w hperforms _
      obtain ⟨-, rfl⟩ := hperforms
      exact written_proceeds hlock'' rfl update_stage_self (List.mem_append_right _ (by simp))
  · rw [if_neg hexpected]
    exact unlockError_proceeds hlock' howed'

theorem toolScript_proceeds {edit : Book → Result Book} (h : Outside task s) :
    Proceeds digest start task (toolScript edit) s := by
  intro t hconsistent hrely
  refine ⟨trivial, ?_⟩
  intro _ u hperforms _
  obtain ⟨-, hnew, rfl⟩ := hperforms
  have hunder := @getFork_under _ _ _ _ _ (.tool edit) hconsistent (hrely.stage.trans h.stage) hnew
  have hlock : t.lock ≠ some task := fun hlock => h.lock (hrely.lock.mp hlock)
  intro t' _ hrely'
  have hunder' := hunder.later hrely'
  have hlock' : t'.lock ≠ some task := fun hlock' => hlock (hrely'.lock.mp hlock')
  refine ⟨trivial, ?_⟩
  intro book u' hperforms _
  obtain ⟨hbook, rfl⟩ := hperforms
  have hreading : (t'.readFile task).stage task = .reading := by
    unfold ForkShare.readFile
    rw [update_stage_self, hunder'.stage]
    rfl
  cases hedit : edit book with
  | error e =>
    simp only [hedit]
    exact reportError_proceeds hlock'
  | ok book' =>
    simp only [hedit]
    have hunder'' : Under task (.tool edit) .reading (t'.readFile task) :=
      ⟨hunder'.made, hunder'.unwritten, hreading⟩
    intro v _ hrely''
    have hmine := hunder''.later hrely''
    have hfile : v.fork.workFile = book := by
      rw [hrely''.file (by rw [hreading]; exact nofun)]
      exact hbook.symm
    refine ⟨⟨.tool edit, hmine.made, hmine.unwritten, rfl, hmine.stage, by rw [hfile]; exact hedit⟩, ?_⟩
    intro _ w hperforms _
    obtain ⟨-, rfl⟩ := hperforms
    exact ⟨update_stage_self, fun hlock => hlock' (hrely''.lock.mp hlock),
      Or.inr fun _ => List.mem_append_right _ (by simp)⟩

theorem checked_proceeds {call : ForkCall Book} {expectedRevision : String}
    {next : ForkScript Book} (h : Outside task s)
    (hnext : ∀ t, Under task call .checked t → t.lock = some task → t.owed = none →
      Proceeds digest start task next t) :
    Proceeds digest start task (.call (.getFork call) fun _ => .call .lock fun _ =>
      .call .syncRevisions fun current =>
        if expectedRevision = current then next
        else unlockError (conflict expectedRevision current)) s := by
  intro t hconsistent hrely
  refine ⟨trivial, ?_⟩
  intro _ u hperforms _
  obtain ⟨-, hnew, rfl⟩ := hperforms
  have hunder := @getFork_under _ _ _ _ _ call hconsistent (hrely.stage.trans h.stage) hnew
  intro t' hconsistent' hrely'
  have hunder' := hunder.later hrely'
  refine ⟨trivial, ?_⟩
  intro _ u' hperforms _
  obtain ⟨hfree, rfl⟩ := hperforms
  have howed : t'.owed = none := by
    by_contra howed
    obtain ⟨holder, hlock, -⟩ := hconsistent'.owner howed
    rw [hfree] at hlock
    contradiction
  intro v _ hrely''
  have hlock : v.lock = some task := hrely''.lock.mpr rfl
  have howed' : v.owed = none := (hrely''.owed rfl).trans howed
  have hmine : Under task call .outside v :=
    ⟨hrely''.calls.trans hunder'.made, fun hmem => hunder'.unwritten (hrely''.order.mp hmem),
      hrely''.stage.trans hunder'.stage⟩
  refine ⟨⟨hlock, howed'⟩, ?_⟩
  intro current w hperforms _
  obtain ⟨-, rfl⟩ := hperforms
  change Proceeds digest start task (if expectedRevision = current then _ else _) _
  by_cases hexpected : expectedRevision = current
  · rw [if_pos hexpected]
    exact hnext _ ⟨hmine.made, hmine.unwritten, update_stage_self⟩ hlock howed'
  · rw [if_neg hexpected]
    exact unlockError_proceeds hlock howed'

theorem readFile_under {call : ForkCall Book} (h : Under task call .checked s) :
    Under task call .checked (s.readFile task) :=
  ⟨h.made, h.unwritten, readFile_stage.mpr h.stage⟩

theorem writeScript_proceeds {expectedRevision fresh : String} {apply : Book → Result Book}
    (h : Outside task s) :
    Proceeds digest start task (writeScript expectedRevision apply fresh) s := by
  refine checked_proceeds h fun t hunder hlock howed => ?_
  intro t' _ hrely
  refine ⟨trivial, ?_⟩
  intro book u hperforms _
  obtain ⟨hbook, rfl⟩ := hperforms
  have hlock' : (t'.readFile task).lock = some task := hrely.lock.mpr hlock
  have howed' : (t'.readFile task).owed = none := (hrely.owed hlock).trans howed
  cases happly : apply book with
  | error e =>
    simp only [happly]
    exact unlockError_proceeds hlock' howed'
  | ok book' =>
    simp only [happly]
    rw [hbook] at happly
    exact @publish_proceeds _ digest start _ task (.write expectedRevision apply fresh) _ _ apply _
      (fun _ hpublishes => hpublishes) (readFile_under (hunder.later hrely)) hlock' howed' happly

theorem recalculateScript_proceeds {expectedRevision fresh : String}
    {evaluate : Book → Result Book} (h : Outside task s) :
    Proceeds digest start task (recalculateScript expectedRevision evaluate fresh) s := by
  refine checked_proceeds h fun t hunder hlock howed => ?_
  intro t' _ hrely
  have hunder' := hunder.later hrely
  refine ⟨⟨hrely.lock.mpr hlock, (hrely.owed hlock).trans howed⟩, ?_⟩
  intro _ u hperforms _
  obtain rfl : u = { t' with lock := none } := hperforms
  intro t2 _ hrely2
  have hunder2 : Under task (.recalculate expectedRevision evaluate fresh) .checked t2 :=
    ⟨hrely2.calls.trans hunder'.made, fun hmem => hunder'.unwritten (hrely2.order.mp hmem),
      hrely2.stage.trans hunder'.stage⟩
  have hfree2 : t2.lock ≠ some task := fun hlock => nomatch hrely2.lock.mp hlock
  refine ⟨trivial, ?_⟩
  intro book u2 hperforms _
  obtain ⟨hbook, rfl⟩ := hperforms
  cases hevaluate : evaluate book with
  | error e =>
    simp only [hevaluate]
    exact reportError_proceeds hfree2
  | ok book' =>
    simp only [hevaluate]
    rw [hbook] at hevaluate
    intro t3 hconsistent3 hrely3
    have hunder3 := (readFile_under hunder2).later hrely3
    refine ⟨trivial, ?_⟩
    intro _ u3 hperforms _
    obtain ⟨hfree, rfl⟩ := hperforms
    have howed3 : t3.owed = none := by
      by_contra howed3
      obtain ⟨holder, hlock3, -⟩ := hconsistent3.owner howed3
      rw [hfree] at hlock3
      contradiction
    have hevaluate3 : evaluate t3.fork.workFile = .ok book' := by
      rw [hrely3.fork (readFile_under hunder2).stage]
      exact hevaluate
    exact @publish_proceeds _ digest start _ task (.recalculate expectedRevision evaluate fresh) _ _
      evaluate _ (fun _ hpublishes => hpublishes)
      ⟨hunder3.made, hunder3.unwritten, hunder3.stage⟩ rfl howed3 hevaluate3

theorem call_proceeds {script : ForkScript Book} (hcall : IsCall script) (h : Outside task s) :
    Proceeds digest start task script s := by
  obtain ⟨call, rfl⟩ := hcall
  cases call with
  | tool edit => exact toolScript_proceeds h
  | write expectedRevision apply fresh => exact writeScript_proceeds h
  | recalculate expectedRevision evaluate fresh => exact recalculateScript_proceeds h

variable {w : Library.World Nat (@ForkAnswer Book) String Unit (ForkShare Book)}

end Serial

/-! ### Two tools -/

def append (edit : Nat) : ForkCall (List Nat) := .tool fun book => .ok (book ++ [edit])

def emptyFork : WorkFork (List Nat) := ⟨[], "", ""⟩

def countEdits (book : List Nat) : String := toString book.length

section Tools
variable {admits : Nat → ForkShare (List Nat) → Prop} {s : ForkShare (List Nat)}
  {tasks : List (Option (ForkScript (List Nat)))}

def Runs (admits : Nat → ForkShare (List Nat) → Prop) (s : ForkShare (List Nat))
    (tasks : List (Option (ForkScript (List Nat)))) : Prop :=
  (Library.World.ofList s tasks).Reached (forkSharing countEdits emptyFork admits) IsCall

def emptyShare : ForkShare (List Nat) :=
  ⟨emptyFork, none, fun _ => .outside, none, fun _ => none, [], false⟩

/-- What a tool that has read the workbook goes on with. -/
def hasRead (edit : Nat) (book : List Nat) : ForkScript (List Nat) :=
  .call (.replaceFile (book ++ [edit]) none) fun _ => .done (.ok ())

theorem tool_reads (h : Runs admits s tasks) (i edit : Nat) (hidle : tasks[i]? = some none)
    (hfree : s.lock = none) (hnew : s.calls i = none) :
    Runs admits ((s.getFork i (append edit)).readFile i)
      (tasks.set i (some (hasRead edit s.fork.workFile))) := by
  obtain ⟨hi, -⟩ := List.getElem?_eq_some_iff.mp hidle
  have hbegun := Library.World.Reached.beginList h i hidle ⟨append edit, rfl⟩
  have hmade := Library.World.Reached.accessList hbegun i () (s.getFork i (append edit))
    (List.getElem?_set_self hi) ⟨hfree, hnew, rfl⟩
  rw [List.set_set] at hmade
  have hread := Library.World.Reached.accessList hmade i s.fork.workFile
    ((s.getFork i (append edit)).readFile i) (List.getElem?_set_self hi) ⟨rfl, rfl⟩
  rw [List.set_set] at hread
  exact hread

theorem tool_writes (h : Runs admits s tasks) (i edit : Nat) {book : List Nat}
    (htask : tasks[i]? = some (some (hasRead edit book))) (hadmits : admits i s) :
    Runs admits (s.replaceFile i (book ++ [edit]) none) (tasks.set i none) := by
  obtain ⟨hi, -⟩ := List.getElem?_eq_some_iff.mp htask
  have hwritten := Library.World.Reached.accessList h i () (s.replaceFile i (book ++ [edit]) none) htask
    ⟨hadmits, rfl⟩
  have hended := Library.World.Reached.finishList hwritten i (List.getElem?_set_self hi)
  rw [List.set_set] at hended
  exact hended

theorem ofList_none (s : ForkShare (List Nat)) (task : Nat) :
    (Library.World.ofList s [none, none] : Library.World Nat (@ForkAnswer (List Nat)) String Unit _).tasks task =
      none := by
  match task with
  | 0 => rfl
  | 1 => rfl
  | n + 2 => rfl

end Tools

end AgentSpreadsheet.SharedFile
