import AgentSpreadsheet.Legacy.Log
import AgentSpreadsheet.Library.Chars

/-! The legacy log stays one that the store accepts, as long as no event is
appended at the base of a log that has events. -/
namespace AgentSpreadsheet.Legacy
open Library

section Identity

theorem not_isWhitespace_of_valid {c : Char}
    (h : (c.isAlphanum || c == '_' || c == '-') = true) : isWhitespace c = false := by
  have hrange : 48 ≤ c.toNat ∧ c.toNat ≤ 122 ∨ c.toNat = 45 := by
    simp only [Char.isAlphanum, Bool.or_eq_true, beq_iff_eq, isAlpha_iff, isUpper_iff, isLower_iff,
      isDigit_iff] at h
    rcases h with (((h | h) | h) | rfl) | rfl
    · omega
    · omega
    · omega
    · left; decide
    · right; decide
  simp only [isWhitespace, Bool.or_eq_false_iff, Bool.and_eq_false_iff, decide_eq_false_iff_not,
    beq_eq_false_iff_ne]
  omega

theorem dropWhile_of_not {l : List Char} (h : ∀ c ∈ l, isWhitespace c = false) :
    l.dropWhile isWhitespace = l := by
  cases l with
  | nil => rfl
  | cons c rest => rw [List.dropWhile_cons_of_neg (by simp [h c List.mem_cons_self])]

theorem trim_of_valid {id : String} (h : validSessionId id = true) : trim id = id := by
  have hall : ∀ c ∈ id.toList, isWhitespace c = false := by
    intro c hc
    apply not_isWhitespace_of_valid
    unfold validSessionId at h
    rw [Bool.and_eq_true] at h
    exact List.all_eq_true.mp h.2 c hc
  unfold trim
  rw [dropWhile_of_not hall, dropWhile_of_not (fun c hc => hall c (List.mem_reverse.mp hc)),
    List.reverse_reverse, String.ofList_toList]

theorem headOf_of_valid {id : String} (h : validSessionId id = true) : headOf id = some id := by
  have hne : id ≠ "" := by
    unfold validSessionId at h
    rw [Bool.and_eq_true] at h
    simpa using h.1
  unfold headOf
  rw [trim_of_valid h, if_neg hne]

theorem headOf_empty : headOf "" = none := by decide

end Identity

section Scan
variable {tools : Tools Archive} {log : List OpEvent}

theorem scan_eq {scan : LogScan} (h : log.foldlM (LogScan.step tools) ⟨none, []⟩ = .ok scan) :
    scan = ⟨log.getLast?.bind (·.eventHash), log.map (·.opId)⟩ := by
  refine foldlM_invariant (motive := fun log scan =>
    scan = ⟨log.getLast?.bind (·.eventHash), log.map (·.opId)⟩) rfl ?_ h
  intro xs event u t hu hstep
  simp only [LogScan.step, bind_eq_ok, pure_eq_ok] at hstep
  obtain ⟨_, _, _, _, _, _, _, _, rfl⟩ := hstep
  simp [hu]

theorem checkLog_concat {event : OpEvent} (h : checkLog tools log = .ok ())
    (hvalid : validSessionId event.opId = true) (hsession : event.sessionId = tools.sessionId)
    (hintegrity : event.verifyIntegrity tools = true)
    (hprevious : event.prevEventHash = log.getLast?.bind (·.eventHash))
    (hfresh : event.opId ∉ log.map (·.opId))
    (hparent : ∀ p, event.parentId = some p → p ∈ log.map (·.opId)) :
    checkLog tools (log ++ [event]) = .ok () := by
  simp only [checkLog, bind_eq_ok, checkParents_eq_ok] at h ⊢
  obtain ⟨scan, hscan, hparents⟩ := h
  refine ⟨⟨event.eventHash, log.map (·.opId) ++ [event.opId]⟩, ?_, ?_⟩
  · rw [foldlM_concat_eq_ok]
    refine ⟨scan, hscan, ?_⟩
    rw [scan_eq hscan]
    simp only [LogScan.step, validateSessionId, bind_eq_ok, ensure_eq_ok, pure_eq_ok]
    exact ⟨(), hvalid, (), ⟨hsession, hintegrity⟩, (), hprevious, (), hfresh, trivial⟩
  · intro found hfound p hp
    rw [List.map_append]
    rcases List.mem_append.mp hfound with hfound | hfound
    · exact List.mem_append_left _ (hparents found hfound p hp)
    · rw [List.mem_singleton.mp hfound] at hp
      exact List.mem_append_left _ (hparent p hp)

theorem checkLog_mem (h : checkLog tools log = .ok ()) :
    (log.map (·.opId)).Nodup ∧ (∀ event ∈ log, validSessionId event.opId = true) ∧
      ∀ event ∈ log, ∀ p, event.parentId = some p → p ∈ log.map (·.opId) := by
  simp only [checkLog, bind_eq_ok, checkParents_eq_ok] at h
  obtain ⟨scan, hscan, hparents⟩ := h
  have hids : (log.map (·.opId)).Nodup ∧ scan.ids = log.map (·.opId) ∧
      ∀ event ∈ log, validSessionId event.opId = true := by
    refine foldlM_invariant (motive := fun log scan => (log.map (·.opId)).Nodup ∧
      scan.ids = log.map (·.opId) ∧ ∀ event ∈ log, validSessionId event.opId = true)
      ⟨List.nodup_nil, rfl, by simp⟩ ?_ hscan
    rintro xs event u t ⟨hnodup, hu, hvalid⟩ hstep
    simp only [LogScan.step, validateSessionId, bind_eq_ok, ensure_eq_ok, pure_eq_ok] at hstep
    obtain ⟨_, hid, _, _, _, _, _, hfresh, rfl⟩ := hstep
    rw [hu] at hfresh
    refine ⟨?_, by simp [hu], fun found hfound => ?_⟩
    · rw [List.map_append]
      exact List.nodup_append'.mpr ⟨hnodup, List.nodup_singleton _, by simpa using hfresh⟩
    · rcases List.mem_append.mp hfound with hfound | hfound
      · exact hvalid found hfound
      · exact List.mem_singleton.mp hfound ▸ hid
  exact ⟨hids.1, hids.2.2, hparents⟩

end Scan

/-- The log passes its check, and every tip and HEAD is one of its events. -/
structure Files.Accepted (tools : Tools Archive) (files : Files) : Prop where
  log : checkLog tools files.log = .ok ()
  tips : ∀ tip ∈ files.tips, tip ∈ files.ids

section Reading
variable {tools : Tools Archive} {files : Files}

theorem Files.Accepted.readEvents (h : files.Accepted tools) :
    ∃ events, files.readEvents tools = .ok events := by
  obtain ⟨committed, hcommitted⟩ := committedIds_succeeds (checkLog_mem h.log).2.2 h.tips
  exact ⟨_, readEvents_eq_ok.mpr ⟨h.log, committed, hcommitted, rfl⟩⟩

theorem commitTip_known {log : List OpEvent} {fuel : Nat} {cursor : Option String}
    {committed committed' : Finset String} (hknown : ∀ id ∈ committed, id ∈ log.map (·.opId))
    (h : commitTip log fuel cursor committed = .ok committed') :
    ∀ id ∈ committed', id ∈ log.map (·.opId) := by
  induction fuel generalizing cursor committed with
  | zero =>
    cases cursor with
    | none => exact Except.ok.inj h ▸ hknown
    | some id => cases h
  | succ fuel ih =>
    cases cursor with
    | none => exact Except.ok.inj h ▸ hknown
    | some id =>
      unfold commitTip at h
      split at h
      · exact Except.ok.inj h ▸ hknown
      · split at h
        · cases h
        · rename_i found hfound
          refine ih (fun x hx => ?_) h
          rcases Finset.mem_insert.mp hx with rfl | hx
          · exact List.mem_map.mpr ⟨found, findEvent_some hfound⟩
          · exact hknown x hx

theorem Files.Accepted.of_readEvents {events : List OpEvent}
    (h : files.readEvents tools = .ok events) : files.Accepted tools := by
  obtain ⟨hlog, committed, hcommitted, _⟩ := readEvents_eq_ok.mp h
  refine ⟨hlog, fun tip htip => ?_⟩
  have hknown : ∀ id ∈ committed, id ∈ files.log.map (·.opId) :=
    foldlM_invariant (motive := fun _ committed => ∀ id ∈ committed, id ∈ files.log.map (·.opId))
      (by simp) (fun _ _ _ _ hu hstep => commitTip_known hu hstep) hcommitted
  exact hknown tip ((committedIds_ok hcommitted).2.1 tip htip)

theorem readEvents_mem {events : List OpEvent} (h : files.readEvents tools = .ok events) :
    events.Sublist files.log ∧ ∀ event ∈ files.log,
      (event ∈ events ↔ ∃ tip ∈ files.tips, Ancestor files.log event.opId tip) := by
  obtain ⟨_, committed, hcommitted, rfl⟩ := readEvents_eq_ok.mp h
  obtain ⟨hclosed, htips, hfrom⟩ := committedIds_ok hcommitted
  refine ⟨List.filter_sublist, fun event hevent => ?_⟩
  rw [List.mem_filter, decide_eq_true_eq]
  constructor
  · exact fun hmem => hfrom _ hmem.2
  · rintro ⟨tip, htip, hancestor⟩
    exact ⟨hevent, hclosed.ancestor (htips tip htip) hancestor⟩

theorem Files.mem_tips {tip : String} : tip ∈ files.tips ↔
    (∃ branch ∈ files.branches, branch.tipOpId = some tip) ∨ files.readHead = some tip := by
  simp [Files.tips, projectionTips, List.mem_filterMap]

theorem setTip_tip {name opId : String} {branches : List BranchInfo} {branch : BranchInfo}
    {tip : String} (hmem : branch ∈ setTip name opId branches) (htip : branch.tipOpId = some tip) :
    tip = opId ∨ ∃ old ∈ branches, old.tipOpId = some tip := by
  induction branches with
  | nil => simp [setTip] at hmem
  | cons first rest ih =>
    unfold setTip at hmem
    split at hmem
    · rcases List.mem_cons.mp hmem with rfl | hmem
      · exact .inl (Option.some.inj htip).symm
      · exact .inr ⟨branch, List.mem_cons_of_mem _ hmem, htip⟩
    · rcases List.mem_cons.mp hmem with rfl | hmem
      · exact .inr ⟨branch, List.mem_cons_self, htip⟩
      · rcases ih hmem with hnew | ⟨old, hold, htip⟩
        · exact .inl hnew
        · exact .inr ⟨old, List.mem_cons_of_mem _ hold, htip⟩

end Reading

/-- The calls that keep the log accepted: an event is not appended at the base of
a log that has events, it is new, and it comes as `OpEvent::new` makes it; a
branch forks from an event of the log. -/
def KeepsChain (tools : Tools Archive) (files : Files) : Call → Prop
  | .append event => (files.readHead = none → files.log = []) ∧ event.opId ∉ files.ids ∧
      event.canonicalPayloadHash = tools.payloadHash event.payload ∧ event.eventHash = none
  | .createBranch _ forkPoint _ => ∀ id, forkPoint = some id → id ∈ files.ids
  | _ => True

/-- The states after accepted calls on a new session, each of them a call `P`
allows. -/
inductive Reaches (tools : Tools Archive) (P : Files → Call → Prop) : List Call → Files → Prop
  | create : Reaches tools P [] Files.create
  | call {calls : List Call} {files files' : Files} {call : Call} {reply : Reply} :
      Reaches tools P calls files → P files call → call.run tools files = (.ok reply, files') →
      Reaches tools P (calls ++ [call]) files'

instance (tools : Tools Archive) (files : Files) (call : Call) :
    Decidable (KeepsChain tools files call) := by
  unfold KeepsChain
  split <;> infer_instance

def Allowed (tools : Tools Archive) (P : Files → Call → Prop) [∀ files call, Decidable (P files call)]
    (files : Files) : List Call → Bool
  | [] => true
  | call :: rest => decide (P files call) && (call.run tools files).1.isOk &&
      Allowed tools P (call.run tools files).2 rest

def filesAfter (tools : Tools Archive) (files : Files) (calls : List Call) : Files :=
  calls.foldl (fun files call => (call.run tools files).2) files

theorem Reaches.extend {tools : Tools Archive} {P : Files → Call → Prop}
    [∀ files call, Decidable (P files call)] {calls m : List Call} {files : Files}
    (h : Reaches tools P calls files) (hallowed : Allowed tools P files m = true) :
    Reaches tools P (calls ++ m) (filesAfter tools files m) := by
  induction m generalizing calls files with
  | nil =>
    rw [List.append_nil]
    exact h
  | cons call rest ih =>
    simp only [Allowed, Bool.and_eq_true, decide_eq_true_eq] at hallowed
    obtain ⟨⟨hP, hok⟩, hrest⟩ := hallowed
    rw [List.append_cons]
    refine ih ?_ hrest
    cases hresult : (call.run tools files).1 with
    | ok reply => exact .call h hP (Prod.ext hresult rfl)
    | error e => simp [hresult, Except.isOk, Except.toBool] at hok

def OpEvent.unsealed (event : OpEvent) : OpEvent :=
  { event with prevEventHash := none, eventHash := none }

def appendedEvents (calls : List Call) : List OpEvent :=
  calls.filterMap fun
    | .append event => some event
    | _ => none

section Step
variable {tools : Tools Archive} {files files' : Files} {call : Call} {calls : List Call}

theorem Files.Accepted.create : Files.create.Accepted tools := by
  refine ⟨rfl, fun tip htip => ?_⟩
  simp [Files.mem_tips, Files.create, Files.readHead, headOf_empty] at htip

/-- HEAD moved to an event of the log, or to the base. -/
theorem Files.Accepted.moveHead (h : files.Accepted tools) (target : Option String)
    (htarget : ∀ id, target = some id → id ∈ files.ids) (branch : String) :
    { files with head := target.getD "", currentBranch := branch }.Accepted tools := by
  refine ⟨h.log, fun tip htip => ?_⟩
  rcases Files.mem_tips.mp htip with hbranch | hhead
  · exact h.tips tip (Files.mem_tips.mpr (.inl hbranch))
  · apply htarget
    cases target with
    | none =>
      change headOf "" = some tip at hhead
      rw [headOf_empty] at hhead
      cases hhead
    | some id =>
      obtain ⟨event, hevent, rfl⟩ := List.mem_map.mp (htarget id rfl)
      change headOf event.opId = some tip at hhead
      rw [headOf_of_valid ((checkLog_mem h.log).2.1 event hevent)] at hhead
      exact hhead

theorem Files.Accepted.append (h : files.Accepted tools) {event : OpEvent}
    (hkeeps : KeepsChain tools files (.append event)) (hvalid : validSessionId event.opId = true)
    (hsession : event.sessionId = tools.sessionId) (hcas : event.parentId = files.readHead) :
    { files with
      log := files.log ++ [files.sealed tools event]
      head := event.opId
      branches := setTip (trim files.currentBranch) event.opId files.branches }.Accepted tools := by
  obtain ⟨hbase, hfresh, hpayload, hunsealed⟩ := hkeeps
  have hparent : ∀ p, event.parentId = some p → p ∈ files.ids := fun p hp =>
    h.tips p (Files.mem_tips.mpr (.inr (hcas ▸ hp)))
  refine ⟨checkLog_concat h.log hvalid hsession ?_ ?_ hfresh hparent, fun tip htip => ?_⟩
  · simp [OpEvent.verifyIntegrity, Files.sealed, OpEvent.seal, hpayload, hunsealed]
  · change (files.readHead.bind fun _ => _) = _
    cases hhead : files.readHead with
    | some id => rfl
    | none =>
      rw [hbase hhead]
      rfl
  · have hids : ∀ id ∈ files.ids,
        id ∈ (files.log ++ [files.sealed tools event]).map (·.opId) := by
      intro id hid
      rw [List.map_append]
      exact List.mem_append_left _ hid
    have hself : event.opId ∈ (files.log ++ [files.sealed tools event]).map (·.opId) := by
      rw [List.map_append]
      exact List.mem_append_right _ (List.mem_singleton.mpr rfl)
    rcases Files.mem_tips.mp htip with ⟨branch, hbranch, hbranchTip⟩ | hhead
    · rcases setTip_tip hbranch hbranchTip with rfl | ⟨old, hold, holdTip⟩
      · exact hself
      · exact hids tip (h.tips tip (Files.mem_tips.mpr (.inl ⟨old, hold, holdTip⟩)))
    · change headOf event.opId = some tip at hhead
      rw [headOf_of_valid hvalid] at hhead
      exact Option.some.inj hhead ▸ hself

theorem Files.Accepted.step (h : files.Accepted tools) (hkeeps : KeepsChain tools files call)
    (hdoes : Does tools files call files') : files'.Accepted tools := by
  have hknown {events : List OpEvent} (hevents : files.readEvents tools = .ok events)
      {event : OpEvent} (hevent : event ∈ events) : event ∈ files.log :=
    (readEvents_mem hevents).1.subset hevent
  cases hdoes with
  | append event valid session cas => exact h.append hkeeps valid session cas
  | createBranch name forkPoint label fresh =>
    refine ⟨h.log, fun tip htip => ?_⟩
    rcases Files.mem_tips.mp htip with ⟨branch, hbranch, hbranchTip⟩ | hhead
    · rcases List.mem_append.mp hbranch with hbranch | hbranch
      · exact h.tips tip (Files.mem_tips.mpr (.inl ⟨branch, hbranch, hbranchTip⟩))
      · rw [List.mem_singleton.mp hbranch] at hbranchTip
        exact hkeeps tip hbranchTip
    · exact h.tips tip (Files.mem_tips.mpr (.inr hhead))
  | switchBranch name branch known =>
    refine h.moveHead branch.tipOpId (fun id hid => ?_) name
    exact h.tips id (Files.mem_tips.mpr (.inl ⟨branch, List.mem_of_find?_eq_some known, hid⟩))
  | undo id events event head reads found =>
    refine h.moveHead event.parentId (fun p hp => ?_) files.currentBranch
    exact (checkLog_mem h.log).2.2 event (hknown reads (findEvent_some found).1) p hp
  | redo events event reads found =>
    refine h.moveHead (some event.opId) (fun p hp => ?_) files.currentBranch
    obtain rfl := Option.some.inj hp
    refine List.mem_map.mpr ⟨event, hknown reads ?_, rfl⟩
    unfold redoChild at found
    split at found
    · exact List.mem_of_find?_eq_some found
    · exact List.mem_of_head? found
  | checkout opId events reads known =>
    refine h.moveHead (some opId) (fun p hp => ?_) files.currentBranch
    obtain rfl := Option.some.inj hp
    obtain ⟨event, hevent, rfl⟩ := List.mem_map.mp known
    exact List.mem_map.mpr ⟨event, hknown reads hevent, rfl⟩

theorem Does.log (hdoes : Does tools files call files')
    (h : files.log.map OpEvent.unsealed = (appendedEvents calls).map OpEvent.unsealed) :
    files'.log.map OpEvent.unsealed =
      (appendedEvents (calls ++ [call])).map OpEvent.unsealed := by
  unfold appendedEvents at h ⊢
  rw [List.filterMap_append, List.map_append, ← h]
  cases hdoes with
  | append event => simp [Files.sealed, OpEvent.seal, OpEvent.unsealed]
  | _ => simp

end Step

def sampleTools : Tools Unit where
  sessionId := "s"
  base := ()
  payloadHash := id
  recordHash := fun event => event.opId ++ event.prevEventHash.getD "" ++ event.eventHash.getD ""
  workbookHash := fun _ => ""
  replay := fun _ _ => .ok ()
  evaluateCellMatches := fun _ _ => .ok []

def sampleEvent (opId : String) (parentId : Option String) : OpEvent where
  opId := opId
  parentId := parentId
  sessionId := "s"
  kind := "edit.batch"
  payload := "p"
  canonicalPayloadHash := "p"
  preconditions := none
  details := ""
  prevEventHash := none
  eventHash := none

def sampleCalls : List Call :=
  [.append (sampleEvent "a" none), .append (sampleEvent "b" (some "a")),
    .createBranch "alt" (some "a") none, .undo, .append (sampleEvent "c" (some "a")),
    .switchBranch "alt", .undo, .redo, .checkout "c"]

end AgentSpreadsheet.Legacy
