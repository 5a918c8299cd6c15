import AgentSpreadsheet.Native.Publication

/-! Repeating a stopped export. A plan that was committed is carried out from its
capture; without one the request is admitted again. -/
namespace AgentSpreadsheet
namespace NativeExport
open Library

section Pending
variable {H : Digest Bytes} {sink : Sink} {intent : FileExportIntent} {plan : FileExportPlan}
  {bytes : Bytes} {s t : ExportState} {owner : ExportOwner} {uuid : String}

/-- A plan of the intent is durable, has no result, and can be published. -/
structure Pending (H : Digest Bytes) (sink : Sink) (intent : FileExportIntent)
    (plan : FileExportPlan) (bytes : Bytes) (s : ExportState) : Prop where
  planned : s.log.plan? intent.requestId = some plan
  intended : plan.intent = intent
  unfinished : s.log.result? intent.requestId = none
  kept : s.log.discarded = false
  recorded : planId H intent.requestId ∈ s.log.requestIds
  unused : intent.requestId ∉ s.log.requestIds
  publishable : Publishable H sink plan s bytes

structure Completed (H : Digest Bytes) (sink : Sink) (intent : FileExportIntent)
    (plan : FileExportPlan) (bytes : Bytes) (s : ExportState) : Prop where
  planned : s.log.plan? intent.requestId = some plan
  intended : plan.intent = intent
  finished : s.log.result? intent.requestId = some plan.result
  target : plan.destination = sink.target intent
  destination : s.node plan.destination = some (.file bytes)
  capture : s.node (sink.capturePath plan.artifact.sha256) = some (.file bytes)
  sized : bytes.length = plan.artifact.bytes
  hashed : H.archive bytes = plan.artifact.sha256

theorem load_ok {log : ReceiptLog} :
    run H load s = (.ok log, t) ↔ s.log = log ∧ s = t := by
  change ((.ok s.log : Result ReceiptLog), s) = _ ↔ _
  rw [Prod.mk.injEq, Except.ok.injEq]

theorem within_load : load.Within Reads := Script.within_access trivial

theorem committed_states {x : Step (Result Unit)} {r : Result ReceiptLog}
    (hrun : run H x s = (.ok (s.committed r).1, (s.committed r).2))
    (hstop : ∀ t, StopsAt H x s t → t = s ∨ t = (s.committed r).2) :
    (∀ u t, run H (x >>= fun committed => Script.lift committed) s = (.ok u, t) ↔
      ∃ log, r = .ok log ∧ t = { s with log }) ∧
    ∀ t, StopsAt H (x >>= fun committed => Script.lift committed) s t → t = s ∨
      ∃ log, r = .ok log ∧ t = { s with log } := by
  have hstates : ∀ t, t = s ∨ t = (s.committed r).2 → t = s ∨
      ∃ log, r = .ok log ∧ t = { s with log } := by
    rintro t (rfl | rfl)
    · exact .inl rfl
    · cases r with
      | ok log => exact .inr ⟨log, rfl, rfl⟩
      | error e => exact .inl rfl
  constructor
  · intro u t
    simp only [bind_ok, lift_ok]
    constructor
    · rintro ⟨committed, _, hcommitted, hok, rfl⟩
      cases hrun.symm.trans hcommitted
      cases r with
      | ok log => exact ⟨log, rfl, rfl⟩
      | error e => cases hok
    · rintro ⟨log, rfl, rfl⟩
      exact ⟨.ok (), _, hrun, rfl, rfl⟩
  · intro t ht
    apply hstates
    rcases ht.split with ht | ⟨committed, _, hcommitted, ht⟩
    · exact hstop t ht
    · cases hrun.symm.trans hcommitted
      exact .inr ht.done_eq

theorem commitResult_states (result : FileExportResult) :
    (∀ u t, run H (commitResult result) s = (.ok u, t) ↔
      ∃ log, s.log.commitResult result = .ok log ∧ t = { s with log }) ∧
    ∀ t, StopsAt H (commitResult result) s t → t = s ∨
      ∃ log, s.log.commitResult result = .ok log ∧ t = { s with log } :=
  committed_states rfl fun _ => Script.Stops.access_eq

theorem commitPlan_states (plan : FileExportPlan) :
    (∀ u t, run H (commitPlan plan) s = (.ok u, t) ↔
      ∃ log, s.log.commitPlan H plan = .ok log ∧ t = { s with log }) ∧
    ∀ t, StopsAt H (commitPlan plan) s t → t = s ∨
      ∃ log, s.log.commitPlan H plan = .ok log ∧ t = { s with log } :=
  committed_states rfl fun _ => Script.Stops.access_eq

theorem Pending.of_published {temporary : String} (h : Pending H sink intent plan bytes s)
    (hfresh : FreshFile sink plan.destination temporary s)
    (ht : Published plan temporary bytes s t) : Pending H sink intent plan bytes t where
  planned := by rw [ht.frame.1]; exact h.planned
  intended := h.intended
  unfinished := by rw [ht.frame.1]; exact h.unfinished
  kept := by rw [ht.frame.1]; exact h.kept
  recorded := by rw [ht.frame.1]; exact h.recorded
  unused := by rw [ht.frame.1]; exact h.unused
  publishable := ht.publishable h.publishable hfresh

theorem Pending.complete (h : Pending H sink intent plan bytes s)
    (hdestination : s.node plan.destination = some (.file bytes)) :
    ∃ log, s.log.commitResult plan.result = .ok log ∧
      Completed H sink intent plan bytes { s with log } := by
  have hid : plan.result.requestId = intent.requestId := by
    rw [← h.intended]
    rfl
  refine ⟨{ s.log with
    requestIds := plan.result.requestId :: s.log.requestIds
    results := plan.result :: s.log.results }, ?_, ?_⟩
  · simp only [ReceiptLog.commitResult, hid, bind_eq_ok, ensure_eq_ok, required_eq_ok, pure_eq_ok]
    exact ⟨(), h.kept, (), h.unused, plan, h.planned, (), ⟨rfl, h.unfinished⟩, trivial⟩
  · exact {
      planned := h.planned
      intended := h.intended
      finished := by simp [ReceiptLog.result?, hid]
      target := by
        rw [← h.intended]
        exact h.publishable.ready.target
      destination := hdestination
      capture := h.publishable.ready.capture
      sized := h.publishable.ready.sized
      hashed := h.publishable.ready.hashed }

/-- From a pending plan on, the export completes; stopped before, it is pending, with
its destination as it was or published. -/
theorem finishExport_states {log : ReceiptLog} (h : Pending H sink intent plan bytes s)
    (hkept : log.discarded = false) (hpoisoned : owner.poisoned = false)
    (hfresh : FreshFile sink plan.destination (temporaryPath plan.destination uuid) s) :
    (∃ t, run H (finishExport H sink owner uuid log plan) s = (.ok plan.result, t) ∧
      Completed H sink intent plan bytes t) ∧
    ∀ t, StopsAt H (finishExport H sink owner uuid log plan) s t →
      (Pending H sink intent plan bytes t ∧
        Published plan (temporaryPath plan.destination uuid) bytes s t) ∨
      Completed H sink intent plan bytes t := by
  have hrecorded : planId H plan.intent.requestId ∈ s.log.requestIds := by
    rw [h.intended]
    exact h.recorded
  obtain ⟨⟨published, hrun, hpublished, hnode⟩, hstates⟩ := publish_states h.publishable hfresh
  have hpending : Pending H sink intent plan bytes published := h.of_published hfresh hpublished
  obtain ⟨receipts, hcommit, hcompleted⟩ := hpending.complete hnode
  have hstart : Pending H sink intent plan bytes s ∧
      Published plan (temporaryPath plan.destination uuid) bytes s s := ⟨h, Published.refl _⟩
  unfold finishExport
  constructor
  · refine ⟨{ published with log := receipts }, ?_, hcompleted⟩
    simp only [bind_ok, guard_ok, load_ok, pure_ok]
    exact ⟨(), s, ⟨hkept, rfl⟩, (), s, ⟨hpoisoned, rfl⟩, _, s, ⟨rfl, rfl⟩, (), s, ⟨hrecorded, rfl⟩, (),
      published, hrun, (), _, ((commitResult_states _).1 _ _).mpr ⟨receipts, hcommit, rfl⟩, trivial, rfl⟩
  · intro t ht
    rcases stops_after_reads (Script.within_guard _ _) ht with rfl | ⟨_, _, ht⟩
    · exact .inl hstart
    rcases stops_after_reads (Script.within_guard _ _) ht with rfl | ⟨_, _, ht⟩
    · exact .inl hstart
    rcases stops_after_reads within_load ht with rfl | ⟨_, hloaded, ht⟩
    · exact .inl hstart
    obtain ⟨rfl, _⟩ := load_ok.mp hloaded
    rcases stops_after_reads (Script.within_guard _ _) ht with rfl | ⟨_, _, ht⟩
    · exact .inl hstart
    rcases ht.split with ht | ⟨_, _, hdone, ht⟩
    · have hstopped := hstates t ht
      exact .inl ⟨h.of_published hfresh hstopped, hstopped⟩
    cases hrun.symm.trans hdone
    rcases ht.split with ht | ⟨_, _, hdone, ht⟩
    · rcases (commitResult_states _).2 t ht with rfl | ⟨log', hlog, rfl⟩
      · exact .inl ⟨hpending, hpublished⟩
      · cases hcommit.symm.trans hlog
        exact .inr hcompleted
    · obtain ⟨log', hlog, rfl⟩ := ((commitResult_states _).1 _ _).mp hdone
      cases hcommit.symm.trans hlog
      rw [ht.done_eq]
      exact .inr hcompleted

end Pending

/-! ### Admission -/

section Admission
variable {H : Digest Bytes} {sink : Sink} {intent : FileExportIntent} {s t : ExportState}
  {owner : ExportOwner} {sessionId g : String}

/-- What a plan's own check asks of the intent and the binding. -/
structure PlanFits (sink : Sink) (intent : FileExportIntent) (sessionId : String) : Prop where
  resource : intent.resourceId = "fork:" ++ sessionId ∨ intent.resourceId = "session:" ++ sessionId
  request : intent.requestId ≠ "" ∧ intent.requestId.utf8ByteSize ≤ 256
  destination : sink.target intent ≠ "" ∧ (sink.target intent).utf8ByteSize ≤ 4096
  source : isSha256Hex sink.sourceSha256 = true

theorem generation_valid (hhex : ∀ bytes, isSha256Hex (H.archive bytes) = true)
    {node : Option FileNode} (h : generation H node = .ok g) :
    (g == "missing" || ("sha256:".toList.isPrefixOf g.toList &&
      isSha256Hex (String.ofList (g.toList.drop 7)))) = true := by
  cases node with
  | none =>
    simp only [generation, Except.ok.injEq] at h
    subst h
    rfl
  | some node =>
    simp only [generation, bind_eq_ok, pure_eq_ok] at h
    obtain ⟨bytes, _, rfl⟩ := h
    have hdrop : ("sha256:" ++ H.archive bytes).toList.drop 7 = (H.archive bytes).toList := by
      rw [String.toList_append]
      rfl
    have hprefix : "sha256:".toList.isPrefixOf ("sha256:" ++ H.archive bytes).toList = true := by
      rw [String.toList_append]
      simp
    rw [hdrop, hprefix, String.ofList_toList, hhex bytes]
    simp

theorem validate_ok (hhex : ∀ bytes, isSha256Hex (H.archive bytes) = true)
    {node : Option FileNode} (hg : generation H node = .ok g) {log : ReceiptLog} {u : Unit} :
    (exportPlan sink owner log intent (artifactOf H owner.bytes) g).validate sessionId = .ok u ↔
      PlanFits sink intent sessionId ∧
        (intent.expectedRevision.all (· == owner.revision)) = true ∧
        owner.bytes.length ≤ maxSourceBytes := by
  have hgeneration := generation_valid hhex hg
  have hexplicit : (intent.destination.all (· == sink.target intent)) = true := by
    unfold Sink.target
    cases intent.destination <;> simp
  unfold FileExportPlan.validate
  simp only [check_bind_eq_ok, ensure_eq_ok]
  simp only [exportPlan, artifactOf, Option.all_some, hgeneration, hexplicit, hhex owner.bytes,
    true_and, and_true]
  constructor
  · rintro ⟨hresource, hrequest, hrevision, hdestination, hbytes, hsource⟩
    exact ⟨⟨hresource, hrequest, hdestination, hsource⟩, hrevision, hbytes⟩
  · rintro ⟨h, hrevision, hbytes⟩
    exact ⟨h.resource, h.request, hrevision, h.destination, hbytes, h.source⟩

structure Admissible (H : Digest Bytes) (sink : Sink) (intent : FileExportIntent)
    (log : ReceiptLog) : Prop where
  session : ∃ sessionId, sessionOf intent.resourceId = some sessionId ∧
    PlanFits sink intent sessionId
  bound : PlanFits sink intent log.sessionId
  kept : log.discarded = false
  unused : intent.requestId ∉ log.requestIds
  unprepared : planId H intent.requestId ∉ log.requestIds
  distinct : intent.requestId ≠ planId H intent.requestId
  apart : log.plan? (planId H intent.requestId) = none
  room : log.plans.length < maxFileExportPlans
  unplanned : log.plan? intent.requestId = none

/-- The owner is at the revision the intent names, and its workbook can be captured. -/
structure OwnerReady (H : Digest Bytes) (sink : Sink) (intent : FileExportIntent)
    (owner : ExportOwner) (s : ExportState) : Prop where
  revision : (intent.expectedRevision.all (· == owner.revision)) = true
  bounded : owner.bytes.length ≤ maxSourceBytes
  capturable : Capturable H sink s owner.bytes

def captured (H : Digest Bytes) (sink : Sink) (bytes : Bytes) (s : ExportState) : ExportState :=
  if s.node (sink.capturePath (H.archive bytes)) = none
  then s.put (sink.capturePath (H.archive bytes)) (.file bytes) else s

theorem sameBut_captured (bytes : Bytes) :
    SameBut [sink.capturePath (H.archive bytes)] s (captured H sink bytes s) := by
  unfold captured
  split
  · exact sameBut_put _
  · exact SameBut.refl _ _

theorem node_captured {bytes : Bytes} (h : Capturable H sink s bytes) :
    (captured H sink bytes s).node (sink.capturePath (H.archive bytes)) = some (.file bytes) := by
  unfold captured
  rcases h with hcapture | ⟨hnone, _⟩
  · rw [if_neg (by simp [hcapture])]
    exact hcapture
  · rw [if_pos hnone]
    exact ExportState.node_put _

def ReceiptLog.withPlan (H : Digest Bytes) (log : ReceiptLog) (plan : FileExportPlan) :
    ReceiptLog :=
  { log with
    requestIds := planId H plan.intent.requestId :: log.requestIds
    plans := plan :: log.plans }

def firstPlan (H : Digest Bytes) (sink : Sink) (owner : ExportOwner) (log : ReceiptLog)
    (intent : FileExportIntent) (g : String) : FileExportPlan :=
  exportPlan sink owner log intent (artifactOf H owner.bytes) g

def admitted (H : Digest Bytes) (sink : Sink) (owner : ExportOwner) (intent : FileExportIntent)
    (g : String) (s : ExportState) : ExportState :=
  { captured H sink owner.bytes s with
    log := s.log.withPlan H (firstPlan H sink owner s.log intent g) }

theorem commitPlan_eq_ok (hhex : ∀ bytes, isSha256Hex (H.archive bytes) = true)
    {node : Option FileNode} (hg : generation H node = .ok g) {log after : ReceiptLog} :
    log.commitPlan H (firstPlan H sink owner log intent g) = .ok after ↔
      (log.discarded = false ∧ planId H intent.requestId ∉ log.requestIds ∧
        (PlanFits sink intent log.sessionId ∧
          (intent.expectedRevision.all (· == owner.revision)) = true ∧
          owner.bytes.length ≤ maxSourceBytes) ∧
        intent.requestId ≠ planId H intent.requestId ∧ intent.requestId ∉ log.requestIds ∧
        log.plans.length < maxFileExportPlans ∧ log.plan? intent.requestId = none) ∧
      log.withPlan H (firstPlan H sink owner log intent g) = after := by
  unfold ReceiptLog.commitPlan firstPlan
  simp only [check_bind_eq_ok, ensure_eq_ok, validate_ok hhex hg, pure_eq_ok]
  simp only [exportPlan, List.mem_cons, not_or, true_and]
  constructor
  · rintro ⟨hkept, hprepared, hfits, ⟨⟨hdistinct, hunused⟩, hroom, hunplanned⟩, hafter⟩
    exact ⟨⟨hkept, hprepared, hfits, hdistinct, hunused, hroom, hunplanned⟩, hafter⟩
  · rintro ⟨⟨hkept, hprepared, hfits, hdistinct, hunused, hroom, hunplanned⟩, hafter⟩
    exact ⟨hkept, hprepared, hfits, ⟨⟨hdistinct, hunused⟩, hroom, hunplanned⟩, hafter⟩

/-- A plan is prepared exactly where journal, authority and owner allow it. -/
theorem prepareExport_ok (hhex : ∀ bytes, isSha256Hex (H.archive bytes) = true)
    {plan : FileExportPlan} {log : ReceiptLog} :
    run H (prepareExport H sink owner log sessionId intent) s = (.ok plan, t) ↔
      ∃ g, ((intent.requestId ∉ log.requestIds ∧ planId H intent.requestId ∉ log.requestIds ∧
          log.plan? (planId H intent.requestId) = none) ∧ log.plans.length < maxFileExportPlans ∧
        owner.poisoned = false ∧ Authorized H sink intent s g ∧ PlanFits sink intent sessionId ∧
        OwnerReady H sink intent owner s) ∧
        plan = firstPlan H sink owner log intent g ∧ t = captured H sink owner.bytes s := by
  unfold prepareExport
  simp only [bind_ok, guard_ok, authorize_ok, retain_ok, lift_ok, pure_ok]
  constructor
  · rintro ⟨_, _, ⟨hidentity, rfl⟩, _, _, ⟨hroom, rfl⟩, _, _, ⟨hpoisoned, rfl⟩, _, _, ⟨hrevision, rfl⟩, g, _,
      ⟨hauthorized, rfl⟩, _, _, ⟨hbounded, rfl, hcapturable, rfl⟩, _, _, ⟨_, rfl⟩, _, _, ⟨hvalid, rfl⟩, rfl,
      rfl⟩
    have hfits := ((validate_ok hhex hauthorized.current).mp hvalid).1
    exact ⟨g, ⟨hidentity, hroom, hpoisoned, hauthorized, hfits, ⟨hrevision, hbounded, hcapturable⟩⟩,
      rfl, rfl⟩
  · rintro ⟨g, ⟨hidentity, hroom, hpoisoned, hauthorized, hfits, hready⟩, rfl, rfl⟩
    have hvalid : (firstPlan H sink owner log intent g).validate sessionId = .ok () :=
      (validate_ok hhex hauthorized.current).mpr ⟨hfits, hready.revision, hready.bounded⟩
    exact ⟨(), s, ⟨hidentity, rfl⟩, (), s, ⟨hroom, rfl⟩, (), s, ⟨hpoisoned, rfl⟩, (), s,
      ⟨hready.revision, rfl⟩, g, s, ⟨hauthorized, rfl⟩, _, _,
      ⟨hready.bounded, rfl, hready.capturable, rfl⟩, (), _, ⟨⟨rfl, rfl⟩, rfl⟩, (), _, ⟨hvalid, rfl⟩, rfl, rfl⟩

theorem admitExport_ok (hhex : ∀ bytes, isSha256Hex (H.archive bytes) = true)
    (hsession : sessionOf intent.resourceId = some sessionId) {plan : FileExportPlan} :
    run H (admitExport H sink owner s.log sessionId intent) s = (.ok plan, t) ↔
      ∃ g, (Admissible H sink intent s.log ∧ Authorized H sink intent s g ∧
        owner.poisoned = false ∧ OwnerReady H sink intent owner s) ∧
        plan = firstPlan H sink owner s.log intent g ∧ t = admitted H sink owner intent g s := by
  have hlog : (captured H sink owner.bytes s).log = s.log := (sameBut_captured _).1
  unfold admitExport
  simp only [bind_ok, prepareExport_ok hhex, (commitPlan_states _).1, pure_ok]
  constructor
  · rintro ⟨_, _, ⟨g, ⟨⟨hunused, hunprepared, hapart⟩, hroom, hpoisoned, hauthorized, hfits, hready⟩, rfl,
      rfl⟩, _, _, ⟨after, hcommit, rfl⟩, rfl, rfl⟩
    rw [hlog, commitPlan_eq_ok hhex hauthorized.current] at hcommit
    obtain ⟨⟨hkept, _, ⟨hbound, _⟩, hdistinct, _, _, hunplanned⟩, rfl⟩ := hcommit
    exact ⟨g, ⟨⟨⟨sessionId, hsession, hfits⟩, hbound, hkept, hunused, hunprepared, hdistinct, hapart,
      hroom, hunplanned⟩, hauthorized, hpoisoned, hready⟩, rfl, rfl⟩
  · rintro ⟨g, ⟨hadmissible, hauthorized, hpoisoned, hready⟩, rfl, rfl⟩
    obtain ⟨_, hsession', hfits⟩ := hadmissible.session
    cases hsession.symm.trans hsession'
    have hcommit : (captured H sink owner.bytes s).log.commitPlan H
        (firstPlan H sink owner s.log intent g) =
          .ok (s.log.withPlan H (firstPlan H sink owner s.log intent g)) := by
      rw [hlog, commitPlan_eq_ok hhex hauthorized.current]
      exact ⟨⟨hadmissible.kept, hadmissible.unprepared,
        ⟨hadmissible.bound, hready.revision, hready.bounded⟩, hadmissible.distinct,
        hadmissible.unused, hadmissible.room, hadmissible.unplanned⟩, rfl⟩
    exact ⟨_, _, ⟨g, ⟨⟨hadmissible.unused, hadmissible.unprepared, hadmissible.apart⟩,
      hadmissible.room, hpoisoned, hauthorized, hfits, hready⟩, rfl, rfl⟩, (), _, ⟨_, hcommit, rfl⟩, rfl,
      rfl⟩

theorem within_prepareExport (log : ReceiptLog) :
    (prepareExport H sink owner log sessionId intent).Within
      (Touches (sink.capturePath (H.archive owner.bytes))) := by
  have hauthorize : (authorize H sink intent).Within
      (Touches (sink.capturePath (H.archive owner.bytes))) :=
    (within_authorize intent).mono fun _ => reads_touches
  exact (Script.within_guard _ _).bind fun _ => (Script.within_guard _ _).bind fun _ =>
    (Script.within_guard _ _).bind fun _ => (Script.within_guard _ _).bind fun _ =>
      hauthorize.bind fun _ => (within_retain _).bind fun _ => (Script.within_guard _ _).bind fun _ =>
        (Script.within_lift _).bind fun _ => Script.within_pure _

theorem admitExport_stops {log : ReceiptLog}
    (ht : StopsAt H (admitExport H sink owner log sessionId intent) s t) :
    SameBut [sink.capturePath (H.archive owner.bytes)] s t ∨
      ∃ plan, run H (admitExport H sink owner log sessionId intent) s = (.ok plan, t) := by
  unfold admitExport at ht ⊢
  rcases ht.split with ht | ⟨plan, u, hprepared, ht⟩
  · exact .inl (stops_touches (within_prepareExport _) ht)
  have hu : SameBut [sink.capturePath (H.archive owner.bytes)] s u :=
    stops_touches (within_prepareExport _) (stops_of_run hprepared)
  have hcommitted : ∀ v, run H (commitPlan plan) u = (.ok (), v) →
      run H (prepareExport H sink owner log sessionId intent >>= fun plan =>
        commitPlan plan >>= fun _ => pure plan) s = (.ok plan, v) := by
    intro v hv
    rw [bind_ok]
    refine ⟨plan, u, hprepared, ?_⟩
    rw [bind_ok]
    exact ⟨(), v, hv, pure_ok.mpr ⟨rfl, rfl⟩⟩
  rcases ht.split with ht | ⟨_, v, hdone, ht⟩
  · rcases (commitPlan_states plan).2 t ht with rfl | ⟨after, hcommit, rfl⟩
    · exact .inl hu
    · exact .inr ⟨plan, hcommitted _ (((commitPlan_states plan).1 _ _).mpr ⟨after, hcommit, rfl⟩)⟩
  · rw [ht.done_eq]
    exact .inr ⟨plan, hcommitted v hdone⟩

/-- An admitted plan can be published: its destination is as it was when the plan was
made, or is the capture itself. -/
theorem pending_admitted (hopen : s.log.result? intent.requestId = none)
    (hadmissible : Admissible H sink intent s.log)
    (hauthorized : Authorized H sink intent s g) (hready : OwnerReady H sink intent owner s) :
    Pending H sink intent (firstPlan H sink owner s.log intent g) owner.bytes
      (admitted H sink owner intent g s) := by
  have hcapture := node_captured hready.capturable
  have hframe : SameBut [sink.capturePath (H.archive owner.bytes)] s
      (captured H sink owner.bytes s) := sameBut_captured _
  have hcurrent : (captured H sink owner.bytes s).node (sink.target intent) =
      some (.file owner.bytes) ∨
      Authorized H sink intent (captured H sink owner.bytes s) g := by
    by_cases htarget : sink.target intent = sink.capturePath (H.archive owner.bytes)
    · rw [htarget]
      exact .inl hcapture
    · apply Or.inr
      apply hauthorized.congr
      apply hframe.2
      simpa using htarget
  have hplan : PlanReady H sink (firstPlan H sink owner s.log intent g)
      (admitted H sink owner intent g s) owner.bytes := {
    binding := rfl
    capture := hcapture
    bounded := hready.bounded
    sized := rfl
    hashed := rfl
    trusted := hauthorized.trusted
    regular := by
      change (captured H sink owner.bytes s).node (sink.target intent) ≠ some .other
      rcases hcurrent with hfile | hafter
      · simp [hfile]
      · exact hafter.regular
    target := rfl
    explicit := by
      change intent.destination = none ∨ sink.target intent ≠ sink.source
      cases hdestination : intent.destination with
      | none => exact .inl rfl
      | some path =>
        have htarget : sink.target intent = path := by simp [Sink.target, hdestination]
        rw [htarget]
        exact .inr (hauthorized.explicit path hdestination).1 }
  exact {
    planned := by simp [admitted, ReceiptLog.withPlan, ReceiptLog.plan?, firstPlan, exportPlan]
    intended := rfl
    unfinished := hopen
    kept := hadmissible.kept
    recorded := by simp [admitted, ReceiptLog.withPlan, firstPlan, exportPlan]
    unused := by
      simp [admitted, ReceiptLog.withPlan, firstPlan, exportPlan, hadmissible.distinct,
        hadmissible.unused]
    publishable := ⟨hplan, hcurrent.imp_right fun hafter => ⟨g, hafter.congr rfl, rfl⟩⟩ }

end Admission

/-! ### The request -/

section Request
variable {H : Digest Bytes} {sink : Sink} {intent : FileExportIntent} {s t : ExportState}
  {owner owner' : ExportOwner} {sessionId uuid uuid' : String} {plan : FileExportPlan}
  {bytes : Bytes} {result : FileExportResult}

structure Named (intent : FileExportIntent) (sessionId : String) : Prop where
  session : sessionOf intent.resourceId = some sessionId
  request : intent.requestId ≠ "" ∧ intent.requestId.utf8ByteSize ≤ 256

theorem exportFile_ok :
    run H (exportFile H sink owner uuid intent) s = (.ok result, t) ↔
      ∃ sessionId, Named intent sessionId ∧
        run H (continueExport H sink owner uuid sessionId intent s.log) s = (.ok result, t) := by
  unfold exportFile
  simp only [bind_ok, lift_ok, required_eq_ok, guard_ok, load_ok]
  constructor
  · rintro ⟨sessionId, _, ⟨hsession, rfl⟩, _, _, ⟨hrequest, rfl⟩, _, _, ⟨rfl, rfl⟩, hrun⟩
    exact ⟨sessionId, ⟨hsession, hrequest⟩, hrun⟩
  · rintro ⟨sessionId, hnamed, hrun⟩
    exact ⟨sessionId, s, ⟨hnamed.session, rfl⟩, (), s, ⟨hnamed.request, rfl⟩, _, s, ⟨rfl, rfl⟩, hrun⟩

theorem exportFile_stops (hnamed : Named intent sessionId)
    (ht : StopsAt H (exportFile H sink owner uuid intent) s t) :
    t = s ∨ StopsAt H (continueExport H sink owner uuid sessionId intent s.log) s t := by
  unfold exportFile at ht
  rcases stops_after_reads (Script.within_lift _) ht with rfl | ⟨_, hsession, ht⟩
  · exact .inl rfl
  rcases stops_after_reads (Script.within_guard _ _) ht with rfl | ⟨_, _, ht⟩
  · exact .inl rfl
  rcases stops_after_reads within_load ht with rfl | ⟨_, hloaded, ht⟩
  · exact .inl rfl
  obtain ⟨rfl, _⟩ := load_ok.mp hloaded
  have hsession' := required_eq_ok.mp (lift_ok.mp hsession).1
  rw [hnamed.session, Option.some.injEq] at hsession'
  subst hsession'
  exact .inr ht

section Continue
variable {log : ReceiptLog} (hplan : log.plan? intent.requestId = some plan)

include hplan

theorem intended_of_continue (h : run H (continueExport H sink owner uuid sessionId intent log) s =
    (.ok result, t)) : plan.intent = intent := by
  unfold continueExport at h
  simp only [hplan, bind_ok, guard_ok] at h
  obtain ⟨_, _, ⟨hintended, _⟩, _⟩ := h
  exact hintended

theorem continueExport_finished (hintended : plan.intent = intent)
    (hresult : log.result? intent.requestId = some result) :
    continueExport H sink owner uuid sessionId intent log = pure result := by
  unfold continueExport
  simp only [hplan, hresult, Script.guard, hintended, if_true]
  rfl

theorem continueExport_planned (hintended : plan.intent = intent)
    (hopen : log.result? intent.requestId = none) :
    continueExport H sink owner uuid sessionId intent log =
      finishExport H sink owner uuid log plan := by
  unfold continueExport
  simp only [hplan, hopen, Script.guard, hintended, if_true]
  rfl

end Continue

theorem continueExport_unplanned {log : ReceiptLog} (hplan : log.plan? intent.requestId = none) :
    continueExport H sink owner uuid sessionId intent log =
      (admitExport H sink owner log sessionId intent >>= fun plan =>
        finishExport H sink owner uuid log plan) := by
  unfold continueExport
  simp only [hplan]

theorem pending_of_finish (hplan : s.log.plan? intent.requestId = some plan)
    (hintended : plan.intent = intent) (hopen : s.log.result? intent.requestId = none)
    (hfresh : FreshFile sink (sink.target intent) (temporaryPath (sink.target intent) uuid) s)
    (hrun : run H (finishExport H sink owner uuid s.log plan) s = (.ok result, t)) :
    ∃ bytes, Pending H sink intent plan bytes s ∧ owner.poisoned = false := by
  unfold finishExport at hrun
  simp only [bind_ok, guard_ok, load_ok, (commitResult_states _).1] at hrun
  obtain ⟨_, _, ⟨hkept, rfl⟩, _, _, ⟨hpoisoned, rfl⟩, _, _, ⟨rfl, rfl⟩, _, _, ⟨hrecorded, rfl⟩, _, published,
    hpublish, _, _, ⟨log, hcommit, rfl⟩, _⟩ := hrun
  obtain ⟨bytes, hpublishable⟩ := publishable_of_publish hpublish
  have htarget : plan.destination = sink.target intent := by
    rw [← hintended]
    exact hpublishable.ready.target
  rw [← htarget] at hfresh
  have hframe := ((publish_states hpublishable hfresh).2 _ (stops_of_run hpublish)).frame
  simp only [ReceiptLog.commitResult, check_bind_eq_ok, ensure_eq_ok] at hcommit
  have hunused := hcommit.2.1
  rw [hframe.1] at hunused
  subst hintended
  exact ⟨bytes, ⟨hplan, rfl, hopen, hkept, hrecorded, hunused, hpublishable⟩, hpoisoned⟩

end Request

end NativeExport
end AgentSpreadsheet
