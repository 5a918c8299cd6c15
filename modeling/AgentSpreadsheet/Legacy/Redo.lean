import AgentSpreadsheet.Legacy.Integrity

/-! Undo and redo of the legacy store. Redo takes the first logged child of HEAD,
whichever branch it belongs to, so that it inverts an undo exactly when the
undone event is that child. -/
namespace AgentSpreadsheet.Legacy
open Library

def Files.currentTip (files : Files) : Option String :=
  (getBranch files.branches (trim files.currentBranch)).bind (·.tipOpId)

/-- The event is the current branch's tip or one of its ancestors. -/
def Files.OnPath (files : Files) (id : String) : Prop :=
  ∃ tip, files.currentTip = some tip ∧ Ancestor files.log id tip

/-- The events redo chooses from: the children of HEAD, and at the base all. -/
def RedoCandidate (head : Option String) (event : OpEvent) : Prop :=
  ∀ id, head = some id → event.parentId = some id

/-- The first event of a list that redo chooses from. -/
def FirstCandidate (events : List OpEvent) (head : Option String) (event : OpEvent) : Prop :=
  RedoCandidate head event ∧ ∃ above below, events = above ++ event :: below ∧
    ∀ other ∈ above, ¬ RedoCandidate head other

def UndoneAndRedone (tools : Tools Archive) (files : Files) (id : String) : Prop :=
  ∃ undone redone files₁ files₂, Call.undo.run tools files = (.ok undone, files₁) ∧
    Call.redo.run tools files₁ = (.ok redone, files₂) ∧ files₂.readHead = some id

/-- A redo that stays on the current branch's path. -/
def RedoOnPath (tools : Tools Archive) (files : Files) : Prop :=
  ∀ reply files', Call.redo.run tools files = (.ok reply, files') →
    ∃ target, files'.readHead = some target ∧ files.OnPath target

section Runs
variable {tools : Tools Archive} {files : Files} {events : List OpEvent} {event : OpEvent}

theorem redoChild_eq_some {head : Option String} :
    redoChild events head = some event ↔ FirstCandidate events head event := by
  unfold redoChild FirstCandidate RedoCandidate
  cases head with
  | some id =>
    simp only [List.find?_eq_some_iff_append, beq_iff_eq, Option.some.injEq, forall_eq',
      Bool.not_eq_true', beq_eq_false_iff_ne]
  | none =>
    simp only [reduceCtorEq, false_imp_iff, implies_true, not_true_eq_false, imp_false, true_and]
    constructor
    · intro hhead
      obtain ⟨below, rfl⟩ := List.head?_eq_some_iff.mp hhead
      exact ⟨[], below, rfl, by simp⟩
    · rintro ⟨above, below, rfl, hfirst⟩
      rw [List.eq_nil_iff_forall_not_mem.mpr hfirst]
      rfl

theorem undo_run {id : String} (hfrozen : files.frozen = false)
    (hhead : files.readHead = some id) (hevents : files.readEvents tools = .ok events)
    (hfound : findEvent events id = some event) :
    Call.undo.run tools files =
      (.ok (.moved event.parentId), { files with head := event.parentId.getD "" }) := by
  simp only [Call.run, Call.script, Legacy.undo, Script.exec_bind, Script.exec_pure,
    Exec.bind_ok_iff, Exec.pure_ok_iff, readHead_ok]
  refine ⟨event.parentId, _, ⟨some id, files, ⟨hhead, rfl⟩, ?_⟩, rfl, rfl⟩
  simp only [Script.exec_bind, Script.exec_lift, Script.exec_pure, Exec.bind_ok_iff,
    Exec.lift_ok_iff, Exec.pure_ok_iff, readEvents_exec_ok, required_eq_ok, moveHead_eq,
    writeHead_ok]
  exact ⟨events, files, ⟨hevents, rfl⟩, event, files, ⟨hfound, rfl⟩, (), _, ⟨hfrozen, rfl⟩,
    rfl, rfl⟩

theorem redo_run (hfrozen : files.frozen = false) (hevents : files.readEvents tools = .ok events)
    (hfound : redoChild events files.readHead = some event) :
    Call.redo.run tools files =
      (.ok (.moved (some event.opId)), { files with head := event.opId }) := by
  simp only [Call.run, Call.script, Legacy.redo, Script.exec_bind, Script.exec_lift,
    Script.exec_pure, Exec.bind_ok_iff, Exec.lift_ok_iff, Exec.pure_ok_iff, readHead_ok,
    readEvents_exec_ok, required_eq_ok, writeHead_ok]
  exact ⟨some event.opId, _, ⟨files.readHead, files, ⟨rfl, rfl⟩, events, files, ⟨hevents, rfl⟩,
    event, files, ⟨hfound, rfl⟩, (), _, ⟨hfrozen, rfl⟩, rfl, rfl⟩, rfl, rfl⟩

theorem committedIds_mem {log : List OpEvent} {tips : List String} {committed : Finset String}
    (h : committedIds log tips = .ok committed) {x : String} :
    x ∈ committed ↔ ∃ tip ∈ tips, Ancestor log x tip := by
  obtain ⟨hclosed, htips, hfrom⟩ := committedIds_ok h
  exact ⟨hfrom x, fun ⟨tip, htip, hx⟩ => hclosed.ancestor (htips tip htip) hx⟩

theorem findEvent_self {log : List OpEvent} (h : checkLog tools log = .ok ())
    (hmem : event ∈ log) {id : String} (hid : event.opId = id) :
    findEvent log id = some event := by
  obtain ⟨found, hfound⟩ := findEvent_of_mem (List.mem_map.mpr ⟨event, hmem, hid⟩)
  obtain ⟨hfoundMem, hfoundId⟩ := findEvent_some hfound
  rw [hfound, List.inj_on_of_nodup_map (checkLog_mem h).1 hfoundMem hmem (hfoundId.trans hid.symm)]

/-- HEAD reads back as the parent that was written to it. -/
theorem readHead_moved (h : checkLog tools files.log = .ok ()) (hmem : event ∈ files.log) :
    headOf (event.parentId.getD "") = event.parentId := by
  cases hparent : event.parentId with
  | none => exact headOf_empty
  | some p =>
    obtain ⟨found, hfound, rfl⟩ := List.mem_map.mp ((checkLog_mem h).2.2 event hmem p hparent)
    exact headOf_of_valid ((checkLog_mem h).2.1 found hfound)

/-- HEAD can move to the parent of an event of the current branch's path without
a change of what is read. -/
theorem readEvents_undo {id : String} (hhead : files.readHead = some id)
    (hpath : files.OnPath id) (hevents : files.readEvents tools = .ok events)
    (hfound : findEvent events id = some event) :
    { files with head := event.parentId.getD "" }.readEvents tools = .ok events := by
  have haccepted := Files.Accepted.of_readEvents hevents
  obtain ⟨hmem, hid⟩ := findEvent_some hfound
  have hlog : event ∈ files.log := (readEvents_mem hevents).1.subset hmem
  have hmoved := haccepted.moveHead event.parentId
    (fun p hp => (checkLog_mem haccepted.log).2.2 event hlog p hp) files.currentBranch
  obtain ⟨events', hevents'⟩ := hmoved.readEvents
  obtain ⟨_, committed, hcommitted, hfilter⟩ := readEvents_eq_ok.mp hevents
  obtain ⟨_, committed', hcommitted', hfilter'⟩ := readEvents_eq_ok.mp hevents'
  have hmem_iff := fun x => committedIds_mem hcommitted (x := x)
  have hmem_iff' := fun x => committedIds_mem hcommitted' (x := x)
  have hsame : ∀ x, x ∈ committed' ↔ x ∈ committed := by
    intro x
    rw [hmem_iff, hmem_iff']
    constructor
    · rintro ⟨tip, htip, hx⟩
      rcases Files.mem_tips.mp htip with hbranch | hparent
      · exact ⟨tip, Files.mem_tips.mpr (.inl hbranch), hx⟩
      · -- HEAD's parent is an ancestor of HEAD
        have hparent : event.parentId = some tip := by
          rw [← hparent]
          exact (readHead_moved haccepted.log hlog).symm
        exact ⟨id, Files.mem_tips.mpr (.inr hhead),
          .trans hx (.step (findEvent_self haccepted.log hlog hid) hparent .refl)⟩
    · rintro ⟨tip, htip, hx⟩
      rcases Files.mem_tips.mp htip with hbranch | hold
      · exact ⟨tip, Files.mem_tips.mpr (.inl hbranch), hx⟩
      · -- HEAD is an ancestor of the current branch's tip, which stays
        obtain ⟨current, hcurrent, hid⟩ := hpath
        obtain ⟨branch, hbranch, hbranchTip⟩ := Option.bind_eq_some_iff.mp hcurrent
        rw [hhead] at hold
        obtain rfl := Option.some.inj hold
        exact ⟨current, Files.mem_tips.mpr
          (.inl ⟨branch, List.mem_of_find?_eq_some hbranch, hbranchTip⟩), hx.trans hid⟩
  rw [hevents', hfilter, hfilter']
  simp only [hsame]

theorem undoneAndRedone_iff {id : String} (hfrozen : files.frozen = false)
    (hhead : files.readHead = some id) (hpath : files.OnPath id) :
    UndoneAndRedone tools files id ↔ ∃ events event, files.readEvents tools = .ok events ∧
      event.opId = id ∧ FirstCandidate events event.parentId event := by
  constructor
  · rintro ⟨_, _, files₁, files₂, hundo, hredo, hback⟩
    cases Call.run_does hundo with
    | undo id' events event head reads found =>
      rw [hhead] at head
      obtain rfl := Option.some.inj head
      have hreads := readEvents_undo hhead hpath reads found
      have haccepted := Files.Accepted.of_readEvents reads
      obtain ⟨hmem, hid⟩ := findEvent_some found
      have hlog : ∀ e ∈ events, e ∈ files.log := fun e he => (readEvents_mem reads).1.subset he
      cases Call.run_does hredo with
      | redo events' event' reads' found' =>
        rw [hreads] at reads'
        obtain rfl := Except.ok.inj reads'
        have hmem' : event' ∈ events := by
          obtain ⟨_, above, below, heq, _⟩ := redoChild_eq_some.mp found'
          simp [heq]
        change headOf event'.opId = some id at hback
        rw [headOf_of_valid ((checkLog_mem haccepted.log).2.1 event' (hlog event' hmem'))] at hback
        have hsame : event' = event := List.inj_on_of_nodup_map (checkLog_mem haccepted.log).1
          (hlog event' hmem') (hlog event hmem) ((Option.some.inj hback).trans hid.symm)
        subst hsame
        change redoChild events (headOf (event'.parentId.getD "")) = some event' at found'
        rw [readHead_moved haccepted.log (hlog event' hmem)] at found'
        exact ⟨events, event', reads, hid, redoChild_eq_some.mp found'⟩
  · rintro ⟨events, event, reads, hid, hfirst⟩
    have haccepted := Files.Accepted.of_readEvents reads
    have hmem : event ∈ events := by
      obtain ⟨_, above, below, heq, _⟩ := hfirst
      simp [heq]
    have hlog : event ∈ files.log := (readEvents_mem reads).1.subset hmem
    have hfound : findEvent events id = some event := by
      obtain ⟨found, hfound⟩ := findEvent_of_mem (List.mem_map.mpr ⟨event, hmem, hid⟩)
      obtain ⟨hfoundMem, hfoundId⟩ := findEvent_some hfound
      rw [hfound, List.inj_on_of_nodup_map (checkLog_mem haccepted.log).1
        ((readEvents_mem reads).1.subset hfoundMem) hlog (hfoundId.trans hid.symm)]
    have hreads := readEvents_undo hhead hpath reads hfound
    have hchild : redoChild events (headOf (event.parentId.getD "")) = some event := by
      rw [readHead_moved haccepted.log hlog]
      exact redoChild_eq_some.mpr hfirst
    refine ⟨_, _, _, _, undo_run hfrozen hhead reads hfound, redo_run hfrozen hreads hchild, ?_⟩
    change headOf event.opId = some id
    rw [headOf_of_valid ((checkLog_mem haccepted.log).2.1 event hlog), hid]

theorem redoOnPath_iff (hfrozen : files.frozen = false) :
    RedoOnPath tools files ↔ ∀ events event, files.readEvents tools = .ok events →
      FirstCandidate events files.readHead event → files.OnPath event.opId := by
  have hvalid {events : List OpEvent} (reads : files.readEvents tools = .ok events)
      {event : OpEvent} (hfirst : FirstCandidate events files.readHead event) :
      headOf event.opId = some event.opId := by
    obtain ⟨_, above, below, heq, _⟩ := hfirst
    refine headOf_of_valid ((checkLog_mem (Files.Accepted.of_readEvents reads).log).2.1 event ?_)
    exact (readEvents_mem reads).1.subset (by simp [heq])
  constructor
  · intro h events event reads hfirst
    obtain ⟨target, htarget, hpath⟩ :=
      h _ _ (redo_run hfrozen reads (redoChild_eq_some.mpr hfirst))
    change headOf event.opId = some target at htarget
    rw [hvalid reads hfirst] at htarget
    exact Option.some.inj htarget ▸ hpath
  · intro h reply files' hrun
    cases Call.run_does hrun with
    | redo events event reads found =>
      have hfirst := redoChild_eq_some.mp found
      exact ⟨event.opId, hvalid reads hfirst, h events event reads hfirst⟩

end Runs

theorem Reaches.frozen {tools : Tools Archive} {P : Files → Call → Prop} {calls : List Call}
    {files : Files} (h : Reaches tools P calls files) : files.frozen = false := by
  induction h with
  | create => rfl
  | call _ _ hrun ih =>
    cases Call.run_does hrun <;> exact ih

/-- In every state reached by accepted calls: an undo of an event `id` on the
current branch's path is taken back by a redo exactly when the log is read and
`id` is the first event in it that redo can choose from; and redo stays on the
path exactly when the first event it can choose from HEAD is there. -/
theorem legacy_redo_inverts_undo_iff {tools : Tools Archive} {calls : List Call} {files : Files}
    (h : Reaches tools (fun _ _ => True) calls files) :
    (∀ id, files.readHead = some id → files.OnPath id →
      (UndoneAndRedone tools files id ↔ ∃ events event, files.readEvents tools = .ok events ∧
        event.opId = id ∧ FirstCandidate events event.parentId event)) ∧
    (RedoOnPath tools files ↔ ∀ events event, files.readEvents tools = .ok events →
      FirstCandidate events files.readHead event → files.OnPath event.opId) :=
  ⟨fun _ hhead hpath => undoneAndRedone_iff h.frozen hhead hpath, redoOnPath_iff h.frozen⟩

def linearCalls : List Call :=
  [.append (sampleEvent "a" none), .append (sampleEvent "b" (some "a"))]

theorem linearCalls_redo_inverts_undo :
    Reaches sampleTools (fun _ _ => True) linearCalls
      (filesAfter sampleTools Files.create linearCalls) ∧
    UndoneAndRedone sampleTools (filesAfter sampleTools Files.create linearCalls) "b" := by
  have hreaches : Reaches sampleTools (fun _ _ => True) linearCalls
      (filesAfter sampleTools Files.create linearCalls) :=
    Reaches.create.extend (by decide +kernel)
  refine ⟨hreaches, ((legacy_redo_inverts_undo_iff hreaches).1 "b" (by decide +kernel)
    ⟨"b", by decide +kernel, .refl⟩).mpr ?_⟩
  have hevents : (filesAfter sampleTools Files.create linearCalls).readEvents sampleTools =
      .ok (filesAfter sampleTools Files.create linearCalls).log := by decide +kernel
  refine ⟨_, { sampleEvent "b" (some "a") with
    prevEventHash := some "a", eventHash := some "ba" }, hevents, rfl, redoChild_eq_some.mp ?_⟩
  decide +kernel

/-- Two branches at one event: the second child is undone, the first redone. -/
def forkedCalls : List Call :=
  linearCalls ++ [.createBranch "alt" (some "a") none, .switchBranch "alt",
    .append (sampleEvent "c" (some "a"))]

theorem redo_leaves_branch : ∃ calls files id,
    Reaches sampleTools (fun _ _ => True) calls files ∧ files.readHead = some id ∧
      files.OnPath id ∧ ¬ UndoneAndRedone sampleTools files id := by
  refine ⟨forkedCalls, filesAfter sampleTools Files.create forkedCalls, "c",
    Reaches.create.extend (by decide +kernel), by decide +kernel, ⟨"c", by decide +kernel, .refl⟩,
    ?_⟩
  rintro ⟨_, _, files₁, files₂, hundo, hredo, hback⟩
  have hmoved : (filesAfter sampleTools Files.create (forkedCalls ++ [.undo, .redo])).readHead =
      some "b" := by decide +kernel
  have hfiles₁ := congrArg Prod.snd hundo
  have hfiles₂ := congrArg Prod.snd hredo
  subst hfiles₁ hfiles₂
  unfold filesAfter at hmoved hback
  rw [List.foldl_append] at hmoved
  exact absurd (hback.symm.trans hmoved) (by decide)

end AgentSpreadsheet.Legacy
