import AgentSpreadsheet.Legacy.Store
import Mathlib.Data.Finset.Card
import Mathlib.Data.List.Sublists

/-! What the legacy log holds after any accepted calls. An accepted call is
inverted once; a log is accepted when its own check passes and every tip and
HEAD is one of its events. -/
namespace AgentSpreadsheet.Legacy
open Library

/-- `a` is `b` or one of its ancestors in the log. -/
inductive Ancestor (log : List OpEvent) (a : String) : String → Prop
  | refl : Ancestor log a a
  | step {b p : String} {event : OpEvent} (found : findEvent log b = some event)
      (parent : event.parentId = some p) (above : Ancestor log a p) : Ancestor log a b

def Files.ids (files : Files) : List String := files.log.map (·.opId)

def Files.tips (files : Files) : List String := projectionTips files.branches files.readHead

/-- `read_events` with nothing in between. -/
def Files.readEvents (tools : Tools Archive) (files : Files) : Result (List OpEvent) :=
  ((Legacy.readEvents tools).exec FileAct.perform files).1

section Events
variable {tools : Tools Archive} {files : Files} {log : List OpEvent}

theorem findEvent_some {id : String} {event : OpEvent} (h : findEvent log id = some event) :
    event ∈ log ∧ event.opId = id := by
  unfold findEvent at h
  have hid := List.find?_some h
  exact ⟨List.mem_of_find?_eq_some h, beq_iff_eq.mp hid⟩

theorem findEvent_of_mem {id : String} (h : id ∈ log.map (·.opId)) :
    ∃ event, findEvent log id = some event := by
  obtain ⟨event, hevent, rfl⟩ := List.mem_map.mp h
  cases hfind : findEvent log event.opId with
  | some found => exact ⟨found, rfl⟩
  | none => exact absurd (beq_self_eq_true _) (List.find?_eq_none.mp hfind event hevent)

theorem Ancestor.trans {a b c : String} (hab : Ancestor log a b) (hbc : Ancestor log b c) :
    Ancestor log a c := by
  induction hbc with
  | refl => exact hab
  | step found parent _ ih => exact .step found parent ih

/-- A set of events that holds the parent of each of its members, save perhaps
where a walk stands. -/
def ClosedBut (log : List OpEvent) (cursor : Option String) (committed : Finset String) : Prop :=
  ∀ id ∈ committed, ∀ event, findEvent log id = some event →
    ∀ p, event.parentId = some p → p ∈ committed ∨ cursor = some p

theorem commitTip_ok {fuel : Nat} {cursor : Option String} {committed committed' : Finset String}
    (hclosed : ClosedBut log cursor committed)
    (h : commitTip log fuel cursor committed = .ok committed') :
    ClosedBut log none committed' ∧ committed ⊆ committed' ∧
      (∀ c, cursor = some c → c ∈ committed') ∧
      ∀ x ∈ committed', x ∈ committed ∨ ∃ c, cursor = some c ∧ Ancestor log x c := by
  induction fuel generalizing cursor committed with
  | zero =>
    cases cursor with
    | none =>
      obtain rfl := Except.ok.inj h
      exact ⟨hclosed, Finset.Subset.refl _, by simp, fun x hx => .inl hx⟩
    | some id => cases h
  | succ fuel ih =>
    cases cursor with
    | none =>
      obtain rfl := Except.ok.inj h
      exact ⟨hclosed, Finset.Subset.refl _, by simp, fun x hx => .inl hx⟩
    | some id =>
      unfold commitTip at h
      split at h
      · rename_i hmem
        obtain rfl := Except.ok.inj h
        refine ⟨fun x hx event hevent p hp => ?_, Finset.Subset.refl _, ?_, fun x hx => .inl hx⟩
        · rcases hclosed x hx event hevent p hp with hp' | hp'
          · exact .inl hp'
          · exact .inl (Option.some.inj hp' ▸ hmem)
        · exact fun c hc => Option.some.inj hc ▸ hmem
      · split at h
        · cases h
        · rename_i event hevent
          have hclosed' : ClosedBut log event.parentId (insert id committed) := by
            intro x hx found hfound p hp
            rcases Finset.mem_insert.mp hx with rfl | hx
            · rw [hevent] at hfound
              obtain rfl := Option.some.inj hfound
              exact .inr hp
            · rcases hclosed x hx found hfound p hp with hp' | hp'
              · exact .inl (Finset.mem_insert_of_mem hp')
              · exact .inl (Finset.mem_insert.mpr (.inl (Option.some.inj hp').symm))
          obtain ⟨hdone, hsub, _, hfrom⟩ := ih hclosed' h
          refine ⟨hdone, (Finset.subset_insert _ _).trans hsub, ?_, fun x hx => ?_⟩
          · exact fun c hc => Option.some.inj hc ▸ hsub (Finset.mem_insert_self _ _)
          · rcases hfrom x hx with hx | ⟨c, hc, hx⟩
            · rcases Finset.mem_insert.mp hx with rfl | hx
              · exact .inr ⟨x, rfl, .refl⟩
              · exact .inl hx
            · exact .inr ⟨id, rfl, .step hevent hc hx⟩

/-- A walk succeeds when every event it can meet is in the log: a step commits an
event that was not committed, so that the fuel lasts. -/
theorem commitTip_succeeds (hparents : ∀ event ∈ log, ∀ p, event.parentId = some p →
      p ∈ log.map (·.opId)) {fuel : Nat} {cursor : Option String} {committed : Finset String}
    (hcursor : ∀ c, cursor = some c → c ∈ log.map (·.opId))
    (hfuel : ((log.map (·.opId)).toFinset \ committed).card < fuel) :
    ∃ committed', commitTip log fuel cursor committed = .ok committed' := by
  induction fuel generalizing cursor committed with
  | zero => omega
  | succ fuel ih =>
    cases cursor with
    | none => exact ⟨committed, rfl⟩
    | some id =>
      unfold commitTip
      split
      · exact ⟨committed, rfl⟩
      · rename_i hnew
        obtain ⟨event, hevent⟩ := findEvent_of_mem (hcursor id rfl)
        rw [hevent]
        refine ih (fun c hc => hparents event (findEvent_some hevent).1 c hc) ?_
        have hmem : id ∈ (log.map (·.opId)).toFinset \ committed :=
          Finset.mem_sdiff.mpr ⟨List.mem_toFinset.mpr (hcursor id rfl), hnew⟩
        have hless : ((log.map (·.opId)).toFinset \ insert id committed).card <
            ((log.map (·.opId)).toFinset \ committed).card := by
          apply Finset.card_lt_card
          refine Finset.ssubset_iff_of_subset ?_ |>.mpr ⟨id, hmem, by simp⟩
          exact Finset.sdiff_subset_sdiff (Finset.Subset.refl _) (Finset.subset_insert _ _)
        omega

theorem ClosedBut.ancestor {committed : Finset String} (h : ClosedBut log none committed)
    {a b : String} (hb : b ∈ committed) (hab : Ancestor log a b) : a ∈ committed := by
  induction hab with
  | refl => exact hb
  | step found parent _ ih =>
    rcases h _ hb _ found _ parent with hp | hp
    · exact ih hp
    · cases hp

theorem committedIds_ok {tips : List String} {committed : Finset String}
    (h : committedIds log tips = .ok committed) :
    ClosedBut log none committed ∧ (∀ tip ∈ tips, tip ∈ committed) ∧
      ∀ x ∈ committed, ∃ tip ∈ tips, Ancestor log x tip := by
  refine foldlM_invariant (motive := fun tips committed => ClosedBut log none committed ∧
    (∀ tip ∈ tips, tip ∈ committed) ∧ ∀ x ∈ committed, ∃ tip ∈ tips, Ancestor log x tip)
    ?_ ?_ h
  · exact ⟨by simp [ClosedBut], by simp, by simp⟩
  · rintro tips tip committed committed' ⟨hclosed, htips, hfrom⟩ hwalk
    have hclosed' : ClosedBut log (some tip) committed := by
      intro id hid event hevent p hp
      rcases hclosed id hid event hevent p hp with hp' | hp'
      · exact .inl hp'
      · cases hp'
    obtain ⟨hdone, hsub, hcursor, hnew⟩ := commitTip_ok hclosed' hwalk
    refine ⟨hdone, fun t ht => ?_, fun x hx => ?_⟩
    · rcases List.mem_append.mp ht with ht | ht
      · exact hsub (htips t ht)
      · exact hcursor t (congrArg some (List.mem_singleton.mp ht).symm)
    · rcases hnew x hx with hx | ⟨c, hc, hx⟩
      · obtain ⟨t, ht, hx⟩ := hfrom x hx
        exact ⟨t, List.mem_append_left _ ht, hx⟩
      · exact ⟨tip, by simp, Option.some.inj hc ▸ hx⟩

theorem committedIds_succeeds (hparents : ∀ event ∈ log, ∀ p, event.parentId = some p →
      p ∈ log.map (·.opId)) {tips : List String} (htips : ∀ tip ∈ tips, tip ∈ log.map (·.opId)) :
    ∃ committed, committedIds log tips = .ok committed := by
  unfold committedIds
  generalize (∅ : Finset String) = committed
  induction tips generalizing committed with
  | nil => exact ⟨committed, rfl⟩
  | cons tip rest ih =>
    have hfuel : ((log.map (·.opId)).toFinset \ committed).card < log.length + 1 := by
      have hle := Finset.card_le_card (Finset.sdiff_subset (s := (log.map (·.opId)).toFinset)
        (t := committed))
      have hlength := List.toFinset_card_le (log.map (·.opId))
      rw [List.length_map] at hlength
      omega
    obtain ⟨committed', hwalk⟩ := commitTip_succeeds hparents
      (fun c hc => htips c (Option.some.inj hc ▸ List.mem_cons_self)) hfuel
    rw [List.foldlM_cons, hwalk]
    exact ih (fun t ht => htips t (List.mem_cons_of_mem _ ht)) committed'

theorem checkParents_eq_ok : checkParents log = .ok () ↔
    ∀ event ∈ log, ∀ p, event.parentId = some p → p ∈ log.map (·.opId) := by
  unfold checkParents
  generalize log.map (·.opId) = ids
  induction log with
  | nil => simp
  | cons event rest ih =>
    change (ensure _ _ >>= fun _ => rest.forM _) = _ ↔ _
    rw [check_bind_eq_ok, ensure_eq_ok, ih, List.forall_mem_cons]

theorem readEvents_eq (tools : Tools Archive) (files : Files) :
    files.readEvents tools = (do
      checkLog tools files.log
      let committed ← committedIds files.log files.tips
      pure (files.log.filter fun event => event.opId ∈ committed)) := by
  unfold Files.readEvents Legacy.readEvents
  simp only [access, readHead, Script.exec_bind, Script.exec_access, Script.exec_lift,
    Script.exec_pure, Exec.bind_apply, Exec.pure_apply, Exec.lift_apply, Exec.act_apply,
    FileAct.perform]
  cases checkLog tools files.log with
  | error e => rfl
  | ok _ =>
    dsimp only
    unfold Files.tips Files.readHead
    cases committedIds files.log (projectionTips files.branches (headOf files.head)) with
    | error e => rfl
    | ok committed => rfl

theorem readEvents_eq_ok {events : List OpEvent} :
    files.readEvents tools = .ok events ↔ checkLog tools files.log = .ok () ∧
      ∃ committed, committedIds files.log files.tips = .ok committed ∧
        events = files.log.filter fun event => event.opId ∈ committed := by
  rw [readEvents_eq, check_bind_eq_ok]
  simp only [bind_eq_ok, pure_eq_ok, eq_comm (a := events)]

end Events

section Runs
variable {tools : Tools Archive} {files files' : Files}

theorem ensureLegacyWritable_ok {u : Unit} :
    ensureLegacyWritable.exec FileAct.perform files = (.ok u, files') ↔
      files.frozen = false ∧ files = files' := by
  simp only [ensureLegacyWritable, access, Script.exec_bind, Script.exec_access,
    Script.exec_guard, Exec.bind_ok_iff, Exec.act_ok_iff, Exec.guard_ok_iff, FileAct.perform,
    Prod.mk.injEq]
  constructor
  · rintro ⟨_, _, ⟨rfl, rfl⟩, hfrozen, rfl⟩
    exact ⟨hfrozen, rfl⟩
  · rintro ⟨hfrozen, rfl⟩
    exact ⟨_, _, ⟨rfl, rfl⟩, hfrozen, rfl⟩

theorem writeHead_ok {opId : String} {u : Unit} :
    (writeHead opId).exec FileAct.perform files = (.ok u, files') ↔
      files.frozen = false ∧ files' = { files with head := opId } := by
  simp only [writeHead, access, Script.exec_bind, Script.exec_access, Exec.bind_ok_iff,
    ensureLegacyWritable_ok, Exec.act_ok_iff, FileAct.perform, Prod.mk.injEq]
  constructor
  · rintro ⟨_, _, ⟨hfrozen, rfl⟩, _, rfl⟩
    exact ⟨hfrozen, rfl⟩
  · rintro ⟨hfrozen, rfl⟩
    exact ⟨(), _, ⟨hfrozen, rfl⟩, trivial, rfl⟩

theorem moveHead_eq (target : Option String) : moveHead target = writeHead (target.getD "") := by
  cases target <;> rfl

theorem readHead_ok {head : Option String} :
    readHead.exec FileAct.perform files = (.ok head, files') ↔
      files.readHead = head ∧ files = files' := by
  simp only [readHead, access, Script.exec_bind, Script.exec_access, Script.exec_pure,
    Exec.bind_ok_iff, Exec.act_ok_iff, Exec.pure_ok_iff, FileAct.perform, Prod.mk.injEq]
  constructor
  · rintro ⟨_, _, ⟨rfl, rfl⟩, rfl, rfl⟩
    exact ⟨rfl, rfl⟩
  · rintro ⟨rfl, rfl⟩
    exact ⟨_, _, ⟨rfl, rfl⟩, rfl, rfl⟩

theorem readEvents_exec_ok {events : List OpEvent} :
    (Legacy.readEvents tools).exec FileAct.perform files = (.ok events, files') ↔
      files.readEvents tools = .ok events ∧ files = files' := by
  have hsame : ((Legacy.readEvents tools).exec FileAct.perform files).2 = files := by
    simp only [Legacy.readEvents, access, readHead, Script.exec_bind, Script.exec_access,
      Script.exec_lift, Script.exec_pure, Exec.bind_apply, Exec.pure_apply, Exec.lift_apply,
      Exec.act_apply, FileAct.perform]
    cases checkLog tools files.log with
    | error e => rfl
    | ok _ =>
      dsimp only
      cases committedIds files.log (projectionTips files.branches (headOf files.head)) with
      | error e => rfl
      | ok committed => rfl
  rw [Prod.ext_iff, hsame]
  rfl

theorem checkPreconditions_ok {event : OpEvent} {u : Unit}
    (h : (checkPreconditions tools event).exec FileAct.perform files = (.ok u, files')) :
    files = files' := by
  unfold checkPreconditions at h
  split at h
  · exact (Exec.pure_ok_iff.mp h).2
  split at h
  · exact (Exec.pure_ok_iff.mp h).2
  have hmaterialize : ∀ bytes t, (materialize tools).exec FileAct.perform files = (.ok bytes, t) →
      files = t := by
    intro bytes t hbytes
    simp only [materialize, Script.exec_bind, Exec.bind_ok_iff, readHead_ok] at hbytes
    obtain ⟨head, _, ⟨_, rfl⟩, hbytes⟩ := hbytes
    cases head with
    | none => exact (Exec.pure_ok_iff.mp hbytes).2
    | some id =>
      simp only [materializeAt, Script.exec_bind, Script.exec_lift, Exec.bind_ok_iff,
        readEvents_exec_ok, Exec.lift_ok_iff] at hbytes
      obtain ⟨_, _, ⟨_, rfl⟩, _, _, ⟨_, rfl⟩, _, rfl⟩ := hbytes
      rfl
  simp only [Script.exec_bind, Script.exec_guard, Exec.bind_ok_iff, Exec.guard_ok_iff] at h
  obtain ⟨bytes, t, hbytes, _, _, ⟨_, rfl⟩, h⟩ := h
  obtain rfl := hmaterialize bytes t hbytes
  split at h
  · exact (Exec.pure_ok_iff.mp h).2
  · simp only [Script.exec_bind, Script.exec_lift, Script.exec_guard, Exec.bind_ok_iff,
      Exec.lift_ok_iff, Exec.guard_ok_iff] at h
    obtain ⟨_, _, ⟨_, rfl⟩, _, rfl⟩ := h
    rfl

theorem unlocking_exec (script : FileScript α) :
    (unlocking script).exec FileAct.perform = script.exec FileAct.perform := by
  funext files
  induction script generalizing files with
  | done result => rfl
  | call act next ih => exact ih _ _

def Files.sealed (tools : Tools Archive) (files : Files) (event : OpEvent) : OpEvent :=
  { event with prevEventHash :=
      files.readHead.bind fun _ => files.log.getLast?.bind (·.eventHash) }.seal tools

inductive Does (tools : Tools Archive) (files : Files) : Call → Files → Prop
  | append (event : OpEvent) (valid : validSessionId event.opId = true)
      (session : event.sessionId = tools.sessionId) (cas : event.parentId = files.readHead) :
      Does tools files (.append event) { files with
        log := files.log ++ [files.sealed tools event]
        head := event.opId
        branches := setTip (trim files.currentBranch) event.opId files.branches }
  | createBranch (name : String) (forkPoint label : Option String)
      (fresh : getBranch files.branches name = none) :
      Does tools files (.createBranch name forkPoint label)
        { files with branches := files.branches ++ [⟨name, forkPoint, forkPoint, label⟩] }
  | switchBranch (name : String) (branch : BranchInfo)
      (known : getBranch files.branches name = some branch) :
      Does tools files (.switchBranch name)
        { files with currentBranch := name, head := branch.tipOpId.getD "" }
  | undo (id : String) (events : List OpEvent) (event : OpEvent)
      (head : files.readHead = some id) (reads : files.readEvents tools = .ok events)
      (found : findEvent events id = some event) :
      Does tools files .undo { files with head := event.parentId.getD "" }
  | redo (events : List OpEvent) (event : OpEvent) (reads : files.readEvents tools = .ok events)
      (found : redoChild events files.readHead = some event) :
      Does tools files .redo { files with head := event.opId }
  | checkout (opId : String) (events : List OpEvent) (reads : files.readEvents tools = .ok events)
      (known : opId ∈ events.map (·.opId)) :
      Does tools files (.checkout opId) { files with head := opId }

theorem previousHash_ok {head previous : Option String} :
    (previousHash head).exec FileAct.perform files = (.ok previous, files') ↔
      (head.bind fun _ => files.log.getLast?.bind (·.eventHash)) = previous ∧ files = files' := by
  cases head with
  | none => exact Exec.pure_ok_iff
  | some id =>
    simp only [previousHash, access, Script.exec_bind, Script.exec_access, Script.exec_pure,
      Exec.bind_ok_iff, Exec.act_ok_iff, Exec.pure_ok_iff, FileAct.perform, Prod.mk.injEq]
    constructor
    · rintro ⟨_, _, ⟨rfl, rfl⟩, rfl, rfl⟩
      exact ⟨rfl, rfl⟩
    · rintro ⟨rfl, rfl⟩
      exact ⟨_, _, ⟨rfl, rfl⟩, rfl, rfl⟩

/-- An accepted append, with the branch it has moved. -/
theorem appendEvent_ok {event : OpEvent} {branch : String}
    (h : (appendEvent tools event).exec FileAct.perform files = (.ok branch, files')) :
    branch = trim files.currentBranch ∧ Does tools files (.append event) files' := by
  simp only [appendEvent, appendLocked, currentBranch, access, unlocking_exec, Script.exec_bind,
    Script.exec_lift, Script.exec_guard, Script.exec_access, Script.exec_pure, Exec.bind_ok_iff,
    Exec.lift_ok_iff, Exec.guard_ok_iff, Exec.act_ok_iff, Exec.pure_ok_iff,
    ensureLegacyWritable_ok, readHead_ok, writeHead_ok, previousHash_ok, FileAct.perform,
    Prod.mk.injEq] at h
  obtain ⟨_, _, ⟨hvalid, rfl⟩, _, _, ⟨hsession, rfl⟩, _, _, ⟨_, rfl⟩, _, _, ⟨_, rfl⟩, _, _,
    ⟨_, rfl⟩, head, _, ⟨hhead, rfl⟩, _, _, ⟨hcas, rfl⟩, _, _, hpre, previous, _, ⟨hprevious, rfl⟩,
    _, _, ⟨_, rfl⟩, _, _, ⟨_, rfl⟩, _, _, ⟨_, _, ⟨rfl, rfl⟩, rfl, rfl⟩, _, _, ⟨rfl, rfl⟩, _, _,
    ⟨_, rfl⟩, rfl, rfl⟩ := h
  obtain rfl := checkPreconditions_ok hpre
  subst hhead hprevious
  simp only [validateSessionId, ensure_eq_ok] at hvalid
  exact ⟨rfl, .append event hvalid hsession hcas⟩

theorem Call.run_does {call : Call} {reply : Reply}
    (h : call.run tools files = (.ok reply, files')) : Does tools files call files' := by
  unfold Call.run at h
  cases call with
  | append event =>
    simp only [Call.script, Script.exec_bind, Script.exec_pure, Exec.bind_ok_iff,
      Exec.pure_ok_iff] at h
    obtain ⟨branch, _, happend, _, rfl⟩ := h
    exact (appendEvent_ok happend).2
  | createBranch name forkPoint label =>
    simp only [Call.script, Legacy.createBranch, access, Script.exec_bind, Script.exec_access,
      Script.exec_guard, Script.exec_pure, Exec.bind_ok_iff, Exec.act_ok_iff, Exec.guard_ok_iff,
      Exec.pure_ok_iff, ensureLegacyWritable_ok, FileAct.perform, Prod.mk.injEq] at h
    obtain ⟨_, _, ⟨_, _, ⟨_, rfl⟩, _, _, ⟨rfl, rfl⟩, _, _, ⟨hfresh, rfl⟩, _, rfl⟩, _, rfl⟩ := h
    exact .createBranch name forkPoint label hfresh
  | switchBranch name =>
    simp only [Call.script, Legacy.switchBranch, access, Script.exec_bind, Script.exec_access,
      Script.exec_lift, Script.exec_pure, Exec.bind_ok_iff, Exec.act_ok_iff, Exec.lift_ok_iff,
      Exec.pure_ok_iff, ensureLegacyWritable_ok, required_eq_ok, FileAct.perform,
      Prod.mk.injEq] at h
    obtain ⟨_, _, ⟨_, _, ⟨_, rfl⟩, _, _, ⟨rfl, rfl⟩, branch, _, ⟨hknown, rfl⟩, _, _, ⟨_, rfl⟩,
      hhead⟩, _, rfl⟩ := h
    change (moveHead branch.tipOpId).exec FileAct.perform _ = _ at hhead
    rw [moveHead_eq, writeHead_ok] at hhead
    obtain ⟨_, rfl⟩ := hhead
    exact .switchBranch name branch hknown
  | undo =>
    simp only [Call.script, Legacy.undo, Script.exec_bind, Script.exec_pure, Exec.bind_ok_iff,
      Exec.pure_ok_iff, readHead_ok] at h
    obtain ⟨_, _, ⟨head, _, ⟨hhead, rfl⟩, hmoved⟩, _, rfl⟩ := h
    cases head with
    | none => cases hmoved
    | some id =>
      simp only [Script.exec_bind, Script.exec_lift, Script.exec_pure, Exec.bind_ok_iff,
        Exec.lift_ok_iff, Exec.pure_ok_iff, readEvents_exec_ok, required_eq_ok, moveHead_eq,
        writeHead_ok] at hmoved
      obtain ⟨events, _, ⟨hevents, rfl⟩, event, _, ⟨hfound, rfl⟩, _, _, ⟨_, rfl⟩, _, rfl⟩ := hmoved
      exact .undo id events event hhead hevents hfound
  | redo =>
    simp only [Call.script, Legacy.redo, Script.exec_bind, Script.exec_lift, Script.exec_pure,
      Exec.bind_ok_iff, Exec.lift_ok_iff, Exec.pure_ok_iff, readHead_ok, readEvents_exec_ok,
      required_eq_ok, writeHead_ok] at h
    obtain ⟨_, _, ⟨head, _, ⟨rfl, rfl⟩, events, _, ⟨hevents, rfl⟩, event, _, ⟨hfound, rfl⟩, _, _,
      ⟨_, rfl⟩, _, rfl⟩, _, rfl⟩ := h
    exact .redo events event hevents hfound
  | checkout opId =>
    simp only [Call.script, Legacy.checkout, Script.exec_bind, Script.exec_guard, Script.exec_pure,
      Exec.bind_ok_iff, Exec.guard_ok_iff, Exec.pure_ok_iff, readEvents_exec_ok,
      writeHead_ok] at h
    obtain ⟨_, _, ⟨events, _, ⟨hevents, rfl⟩, _, _, ⟨hknown, rfl⟩, _, rfl⟩, _, rfl⟩ := h
    exact .checkout opId events hevents hknown

end Runs

end AgentSpreadsheet.Legacy
