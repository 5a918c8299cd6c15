import AgentSpreadsheet.Native.Resumption

/-! A stopped export and its repetition. The plan is durable only once its capture is
complete, but the capture is written in place: a process stopped in that writing
leaves a file which the repeated request takes for a collision. -/
namespace AgentSpreadsheet
namespace NativeExport
open Library

section Watch
variable {H : Digest Bytes} {sink : Sink} {plan : FileExportPlan} {uuid : String}

/-- What the destination was when it was last looked at. -/
def watch (path : String) : (act : Access) → Answer act → Option (Option FileNode) →
    Option (Option FileNode)
  | .read target, node, seen => if target = path then some node else seen
  | _, _, seen => seen

/-- The destination is not written to; it is replaced only when it was last seen at the
generation the plan recorded. -/
def LeavesOthers (H : Digest Bytes) (plan : FileExportPlan) :
    Access → Option (Option FileNode) → Prop
  | .createNew path, _ => path ≠ plan.destination
  | .append path _, _ => path ≠ plan.destination
  | .removeFile path, _ => path ≠ plan.destination
  | .rename source target, seen => source ≠ plan.destination ∧
      (target = plan.destination → ∃ node g, seen = some node ∧
        plan.destinationGeneration = some g ∧ generation H node = .ok g)
  | .hardLink _ target, seen => target = plan.destination → ∃ node g, seen = some node ∧
      plan.destinationGeneration = some g ∧ generation H node = .ok g
  | _, _ => True

/-- The script never replaces a destination other than the plan's. -/
abbrev Watched (H : Digest Bytes) (plan : FileExportPlan) (x : Step α)
    (seen : Option (Option FileNode)) : Prop :=
  x.Monitored (watch plan.destination) (LeavesOthers H plan) seen

theorem watched_reads {x : Step α} (hx : x.Within Reads) (seen : Option (Option FileNode)) :
    Watched H plan x seen := by
  apply hx.monitored
  intro act seen hact
  cases act <;> trivial

theorem watched_touches {x : Step α} {temporary : String} (hx : x.Within (Touches temporary))
    (hne : temporary ≠ plan.destination) (seen : Option (Option FileNode)) :
    Watched H plan x seen := by
  apply hx.monitored
  intro act seen hact
  cases act with
  | createNew path | append path byte | removeFile path =>
    obtain rfl : path = temporary := hact
    exact hne
  | read | readDirectory | load => trivial
  | rename | hardLink | commitPlan | commitResult => exact hact.elim

theorem watched_replace {intent : FileExportIntent} {temporary g : String}
    {node : Option FileNode} (hne : temporary ≠ plan.destination)
    (hrecorded : plan.destinationGeneration = some g) (hseen : generation H node = .ok g) :
    Watched H plan (replace intent temporary plan.destination) (some node) := by
  have hsame : plan.destination = plan.destination → ∃ node' g', some node = some node' ∧
      plan.destinationGeneration = some g' ∧ generation H node' = .ok g' :=
    fun _ => ⟨node, g, rfl, hrecorded, hseen⟩
  unfold replace
  split
  · exact ⟨⟨hne, hsame⟩, fun _ => trivial⟩
  · refine ⟨hsame, fun linked => ?_⟩
    exact (watched_reads (Script.within_guard _ _) _).bind fun _ _ => ⟨hne, fun _ => trivial⟩

/-- The destination is looked at right before it is replaced. -/
theorem watched_publishFile {intent : FileExportIntent} {temporary g : String} {bytes : Bytes}
    (hne : temporary ≠ plan.destination) (hrecorded : plan.destinationGeneration = some g)
    (seen : Option (Option FileNode)) :
    Watched H plan (publishFile H sink intent plan.destination temporary g bytes) seen := by
  unfold publishFile
  refine (watched_touches (within_createFile bytes) hne seen).bind fun _ seen => ?_
  refine (watched_reads (within_checkSource intent) seen).bind fun _ seen => ?_
  refine ⟨trivial, fun node => ?_⟩
  have hwatch : watch plan.destination (.read plan.destination) node seen = some node :=
    if_pos rfl
  rw [hwatch]
  change Watched H plan (Script.lift (generation H node) >>= fun current =>
    Script.guard (current = g) _ >>= fun _ => replace intent temporary plan.destination) (some node)
  cases hcurrent : generation H node with
  | error e => trivial
  | ok current =>
    change Watched H plan (Script.guard (current = g) _ >>= fun _ =>
      replace intent temporary plan.destination) (some node)
    unfold Script.guard
    split
    next hsame =>
      rw [hsame] at hcurrent
      exact watched_replace hne hrecorded hcurrent
    next => trivial

theorem watched_replaceDestination {temporary : String} {bytes : Bytes}
    (hne : temporary ≠ plan.destination) (seen : Option (Option FileNode)) :
    Watched H plan (replaceDestination H sink plan temporary bytes) seen := by
  unfold replaceDestination checkGeneration
  cases hrecorded : plan.destinationGeneration with
  | none =>
    rw [Script.bind_assoc]
    exact (watched_reads (within_authorize _) seen).bind fun _ _ => trivial
  | some g =>
    rw [Script.bind_assoc]
    refine (watched_reads (within_authorize _) seen).bind fun _ seen => ?_
    change Watched H plan ((destinationGeneration H plan.destination >>= fun current =>
      Script.guard (current = g) _ >>= fun _ => pure g) >>= _) seen
    rw [Script.bind_assoc]
    refine (watched_reads within_destinationGeneration seen).bind fun current seen => ?_
    rw [Script.bind_assoc]
    refine (watched_reads (Script.within_guard _ _) seen).bind fun _ seen => ?_
    refine (watched_publishFile hne hrecorded seen).attempt.bind fun _ seen => ?_
    exact ⟨hne, fun _ => trivial⟩

theorem watched_publish (hne : temporaryPath plan.destination uuid ≠ plan.destination)
    (seen : Option (Option FileNode)) : Watched H plan (publish H sink uuid plan) seen := by
  unfold publish
  refine (watched_reads (within_checkPlan plan) seen).bind fun checked seen => ?_
  split
  split
  · trivial
  · exact watched_replaceDestination hne seen

end Watch

section Resume
variable {H : Digest Bytes} {sink : Sink} {intent : FileExportIntent} {s t final : ExportState}
  {owner retrying : ExportOwner} {sessionId uuid uuid' g : String} {plan : FileExportPlan}
  {bytes : Bytes} {result : FileExportResult}

/-- The request succeeds; its destination has the artifact of its plan, which is the
durable plan if there was one. -/
def Resumes (H : Digest Bytes) (sink : Sink) (owner : ExportOwner) (uuid : String)
    (intent : FileExportIntent) (t : ExportState) : Prop :=
  ∃ plan bytes final, run H (exportFile H sink owner uuid intent) t = (.ok plan.result, final) ∧
    Completed H sink intent plan bytes final ∧
    ∀ planned, t.log.plan? intent.requestId = some planned → plan = planned

theorem resumes_pending (hnamed : Named intent sessionId) (h : Pending H sink intent plan bytes t)
    (husable : retrying.poisoned = false)
    (hfresh : FreshFile sink (sink.target intent) (temporaryPath (sink.target intent) uuid) t) :
    Resumes H sink retrying uuid intent t := by
  have htarget : plan.destination = sink.target intent := by
    rw [← h.intended]
    exact h.publishable.ready.target
  rw [← htarget] at hfresh
  obtain ⟨final, hrun, hcompleted⟩ := (finishExport_states h h.kept husable hfresh).1
  refine ⟨plan, bytes, final, ?_, hcompleted, ?_⟩
  · rw [exportFile_ok]
    refine ⟨sessionId, hnamed, ?_⟩
    rw [continueExport_planned h.planned h.intended h.unfinished]
    exact hrun
  · intro planned hplanned
    rw [h.planned, Option.some.injEq] at hplanned
    exact hplanned

theorem resumes_completed (hnamed : Named intent sessionId)
    (h : Completed H sink intent plan bytes t) : Resumes H sink retrying uuid intent t := by
  refine ⟨plan, bytes, t, ?_, h, ?_⟩
  · rw [exportFile_ok]
    refine ⟨sessionId, hnamed, ?_⟩
    rw [continueExport_finished h.planned h.intended h.finished]
    exact pure_ok.mpr ⟨rfl, rfl⟩
  · intro planned hplanned
    rw [h.planned, Option.some.injEq] at hplanned
    exact hplanned

theorem freshFile_admitted {path : String}
    (h : FreshFile sink path (temporaryPath path uuid) t) :
    FreshFile sink path (temporaryPath path uuid) (admitted H sink owner intent g t) where
  missing := by
    change (captured H sink owner.bytes t).node _ = none
    rw [(sameBut_captured _).2 _ (by simpa using h.capture _)]
    exact h.missing
  destination := h.destination
  capture := h.capture

/-- Without a plan, the request succeeds exactly where it is admitted. -/
theorem resumes_unplanned (hhex : ∀ bytes, isSha256Hex (H.archive bytes) = true)
    (hnamed : Named intent sessionId) (hadmissible : Admissible H sink intent t.log)
    (hopen : t.log.result? intent.requestId = none) (husable : retrying.poisoned = false)
    (hfresh : FreshFile sink (sink.target intent) (temporaryPath (sink.target intent) uuid) t) :
    Resumes H sink retrying uuid intent t ↔
      (∃ g, Authorized H sink intent t g) ∧ OwnerReady H sink intent retrying t := by
  constructor
  · rintro ⟨plan, bytes, final, hrun, _⟩
    obtain ⟨sessionId, hnamed, hrun⟩ := exportFile_ok.mp hrun
    rw [continueExport_unplanned hadmissible.unplanned, bind_ok] at hrun
    obtain ⟨_, _, hadmit, _⟩ := hrun
    obtain ⟨g, ⟨_, hauthorized, _, hready⟩, _⟩ := (admitExport_ok hhex hnamed.session).mp hadmit
    exact ⟨⟨g, hauthorized⟩, hready⟩
  · rintro ⟨⟨g, hauthorized⟩, hready⟩
    have hpending := pending_admitted hopen hadmissible hauthorized hready
    have hadmit : run H (admitExport H sink retrying t.log sessionId intent) t =
        (.ok (firstPlan H sink retrying t.log intent g), admitted H sink retrying intent g t) :=
      (admitExport_ok hhex hnamed.session).mpr
        ⟨g, ⟨hadmissible, hauthorized, husable, hready⟩, rfl, rfl⟩
    obtain ⟨final, hrun, hcompleted⟩ :=
      (finishExport_states hpending hadmissible.kept husable (freshFile_admitted hfresh)).1
    refine ⟨_, _, final, ?_, hcompleted, ?_⟩
    · rw [exportFile_ok]
      refine ⟨sessionId, hnamed, ?_⟩
      rw [continueExport_unplanned hadmissible.unplanned, bind_ok]
      exact ⟨_, _, hadmit, hrun⟩
    · intro planned hplanned
      rw [hadmissible.unplanned] at hplanned
      contradiction

/-! ### Stops -/

/-- The destination is as it was, or as it is when the export is done. -/
def Whole (path : String) (s final t : ExportState) : Prop :=
  t.node path = s.node path ∨ t.node path = final.node path

def Underway (H : Digest Bytes) (sink : Sink) (intent : FileExportIntent) (t : ExportState) :
    Prop :=
  ∃ plan bytes, Pending H sink intent plan bytes t ∨ Completed H sink intent plan bytes t

theorem underway_planned (h : Underway H sink intent t) :
    (t.log.plan? intent.requestId).isSome = true := by
  obtain ⟨plan, bytes, hpending | hcompleted⟩ := h
  · rw [hpending.planned]
    rfl
  · rw [hcompleted.planned]
    rfl

/-- A durable plan stopped while it is carried out. -/
theorem stopped_pending {log : ReceiptLog} (h : Pending H sink intent plan bytes s)
    (hkept : log.discarded = false) (husable : owner.poisoned = false)
    (hfresh : FreshFile sink (sink.target intent) (temporaryPath (sink.target intent) uuid) s)
    (hrun : run H (finishExport H sink owner uuid log plan) s = (.ok result, final))
    (ht : StopsAt H (finishExport H sink owner uuid log plan) s t) :
    Underway H sink intent t ∧ Whole (sink.target intent) s final t := by
  have htarget : plan.destination = sink.target intent := by
    rw [← h.intended]
    exact h.publishable.ready.target
  rw [← htarget] at hfresh ⊢
  obtain ⟨⟨end', hdone, hend⟩, hstops⟩ := finishExport_states h hkept husable hfresh
  cases hdone.symm.trans hrun
  unfold Whole
  rcases hstops t ht with ⟨hpending, hpublished⟩ | hcompleted
  · refine ⟨⟨plan, bytes, .inl hpending⟩, ?_⟩
    rw [hend.destination]
    exact hpublished.destination
  · refine ⟨⟨plan, bytes, .inr hcompleted⟩, ?_⟩
    rw [hend.destination]
    exact .inr hcompleted.destination

/-- What a first request that succeeds has found and leaves. -/
structure FirstRun (H : Digest Bytes) (sink : Sink) (intent : FileExportIntent)
    (owner : ExportOwner) (s final : ExportState) (g : String) : Prop where
  admissible : Admissible H sink intent s.log
  authorized : Authorized H sink intent s g
  ready : OwnerReady H sink intent owner s
  capture : final.node (sink.capturePath (H.archive owner.bytes)) = some (.file owner.bytes)
  target : final.node (sink.target intent) = some (.file owner.bytes)

section First
variable (hhex : ∀ bytes, isSha256Hex (H.archive bytes) = true) (hnamed : Named intent sessionId)
  (hplan : s.log.plan? intent.requestId = none) (hopen : s.log.result? intent.requestId = none)
  (hfresh : FreshFile sink (sink.target intent) (temporaryPath (sink.target intent) uuid) s)
  (hrun : run H (continueExport H sink owner uuid sessionId intent s.log) s = (.ok result, final))

include hhex hnamed hplan hopen hfresh hrun

/-- Stopped, a first request has changed its capture at most, or its plan is durable. -/
theorem stopped_first (ht : StopsAt H (continueExport H sink owner uuid sessionId intent s.log) s t) :
    (∃ g, FirstRun H sink intent owner s final g) ∧
      (SameBut [sink.capturePath (H.archive owner.bytes)] s t ∨
        Underway H sink intent t ∧ Whole (sink.target intent) s final t) := by
  rw [continueExport_unplanned hplan, bind_ok] at hrun
  rw [continueExport_unplanned hplan] at ht
  obtain ⟨_, _, hadmit, hfinish⟩ := hrun
  obtain ⟨g, ⟨hadmissible, hauthorized, husable, hready⟩, rfl, rfl⟩ :=
    (admitExport_ok hhex hnamed.session).mp hadmit
  have hpending := pending_admitted hopen hadmissible hauthorized hready
  have hfresh' : FreshFile sink (sink.target intent) (temporaryPath (sink.target intent) uuid)
      (admitted H sink owner intent g s) := freshFile_admitted hfresh
  obtain ⟨end', hdone, hend⟩ := (finishExport_states hpending hadmissible.kept husable hfresh').1
  cases hdone.symm.trans hfinish
  refine ⟨⟨g, hadmissible, hauthorized, hready, hend.capture, hend.destination⟩, ?_⟩
  -- the capture is the only file an admission may have made the destination
  have hwhole : ∀ t, Whole (sink.target intent) (admitted H sink owner intent g s) final t →
      Whole (sink.target intent) s final t := by
    rintro t (hsame | hfinal)
    · by_cases htarget : sink.target intent = sink.capturePath (H.archive owner.bytes)
      · apply Or.inr
        rw [hsame, htarget]
        exact (node_captured hready.capturable).trans hend.capture.symm
      · apply Or.inl
        rw [hsame]
        exact (sameBut_captured _).2 _ (by simpa using htarget)
    · exact .inr hfinal
  have hstopped : ∀ t, StopsAt H (finishExport H sink owner uuid s.log
      (firstPlan H sink owner s.log intent g)) (admitted H sink owner intent g s) t →
      Underway H sink intent t ∧ Whole (sink.target intent) s final t := by
    intro t ht
    have hunderway := stopped_pending hpending hadmissible.kept husable hfresh' hfinish ht
    exact ⟨hunderway.1, hwhole t hunderway.2⟩
  rcases ht.split with ht | ⟨_, _, hdone, ht⟩
  · rcases admitExport_stops ht with hsame | ⟨_, hadmit'⟩
    · exact .inl hsame
    · cases hadmit.symm.trans hadmit'
      exact .inr (hstopped _ .here)
  · cases hadmit.symm.trans hdone
    exact .inr (hstopped t ht)

end First

/-! ### Crash safety -/

/-- The stop left the destination whole, and the request can be repeated; a publication
replaces only what the plan recorded. -/
structure CrashSafe (H : Digest Bytes) (sink : Sink) (intent : FileExportIntent)
    (retrying : ExportOwner) (uuid : String) (s final t : ExportState) : Prop where
  whole : Whole (sink.target intent) s final t
  resumes : Resumes H sink retrying uuid intent t
  watched : ∀ plan uuid seen, temporaryPath plan.destination uuid ≠ plan.destination →
    Watched H plan (publish H sink uuid plan) seen

/-- The plan is durable; or the workbook is still at the named revision and its capture
is complete or absent. A destination that is the capture itself is as it was, or complete
and may be replaced. -/
def Recoverable (H : Digest Bytes) (sink : Sink) (intent : FileExportIntent)
    (owner retrying : ExportOwner) (s t : ExportState) : Prop :=
  (t.log.plan? intent.requestId).isSome = true ∨
    (OwnerReady H sink intent retrying t ∧
      (sink.target intent = sink.capturePath (H.archive owner.bytes) →
        t.node (sink.target intent) = s.node (sink.target intent) ∨
          (t.node (sink.target intent) = some (.file owner.bytes) ∧ intent.force = true)))

theorem Underway.crashSafe (h : Underway H sink intent t)
    (hwhole : Whole (sink.target intent) s final t) (hnamed : Named intent sessionId)
    (husable : retrying.poisoned = false)
    (hfresh : FreshFile sink (sink.target intent) (temporaryPath (sink.target intent) uuid) t) :
    CrashSafe H sink intent retrying uuid s final t where
  whole := hwhole
  resumes := by
    obtain ⟨plan, bytes, hpending | hcompleted⟩ := h
    · exact resumes_pending hnamed hpending husable hfresh
    · exact resumes_completed hnamed hcompleted
  watched := fun _ _ seen hne => watched_publish hne seen

/-- Stopped before its plan is durable, the sink still takes the intent where the
destination is not a partial capture. -/
theorem FirstRun.authorized_iff (h : FirstRun H sink intent owner s final g)
    (ht : SameBut [sink.capturePath (H.archive owner.bytes)] s t) :
    (Whole (sink.target intent) s final t ∧ ∃ g, Authorized H sink intent t g) ↔
      (sink.target intent = sink.capturePath (H.archive owner.bytes) →
        t.node (sink.target intent) = s.node (sink.target intent) ∨
          (t.node (sink.target intent) = some (.file owner.bytes) ∧ intent.force = true)) := by
  constructor
  · rintro ⟨hsame | hfinal, g', hauthorized⟩ htarget
    · exact .inl hsame
    rw [h.target] at hfinal
    cases hforce : intent.force with
    | true => exact .inr ⟨hfinal, rfl⟩
    | false =>
      apply Or.inl
      rw [hfinal]
      cases hdestination : intent.destination with
      | some path =>
        have hpath : sink.target intent = path := by simp [Sink.target, hdestination]
        rcases (hauthorized.explicit path hdestination).2 with hforce' | hnone
        · rw [hforce] at hforce'
          contradiction
        · rw [← hpath, hfinal] at hnone
          contradiction
      | none =>
        -- an unchanged source is a file, so its capture was there before
        have hsource : sink.target intent = sink.source := by simp [Sink.target, hdestination]
        obtain ⟨content, hread, _⟩ := h.authorized.source hdestination hforce
        rw [← hsource, readRegular_file] at hread
        rcases h.ready.capturable with hcomplete | ⟨hnone, _⟩
        · rw [htarget]
          exact hcomplete.symm
        · rw [← htarget, hread.1] at hnone
          contradiction
  · intro hcase
    by_cases htarget : sink.target intent = sink.capturePath (H.archive owner.bytes)
    · rcases hcase htarget with hsame | ⟨hfile, hforce⟩
      · exact ⟨.inl hsame, g, h.authorized.congr hsame⟩
      · refine ⟨.inr (hfile.trans h.target.symm), "sha256:" ++ H.archive owner.bytes, ?_⟩
        exact {
          trusted := h.authorized.trusted
          regular := by simp [hfile]
          explicit := fun path hpath => ⟨(h.authorized.explicit path hpath).1, .inl hforce⟩
          source := by simp [hforce]
          current := by
            rw [hfile]
            simp [generation, readRegular, h.ready.bounded] }
    · have hsame := ht.2 (sink.target intent) (by simpa using htarget)
      exact ⟨.inl hsame, g, h.authorized.congr hsame⟩

/-- An export stopped at any point is safe exactly where it left no partial capture
that stands in the way. -/
theorem export_crashSafe_iff (hhex : ∀ bytes, isSha256Hex (H.archive bytes) = true)
    (hrun : run H (exportFile H sink owner uuid intent) s = (.ok result, final))
    (hopen : s.log.result? intent.requestId = none)
    (hfresh : FreshFile sink (sink.target intent) (temporaryPath (sink.target intent) uuid) s)
    (hstop : StopsAt H (exportFile H sink owner uuid intent) s t)
    (hfresh' : FreshFile sink (sink.target intent) (temporaryPath (sink.target intent) uuid') t)
    (husable : retrying.poisoned = false) :
    CrashSafe H sink intent retrying uuid' s final t ↔
      Recoverable H sink intent owner retrying s t := by
  obtain ⟨sessionId, hnamed, hrun⟩ := exportFile_ok.mp hrun
  have hstop' : StopsAt H (continueExport H sink owner uuid sessionId intent s.log) s t := by
    rcases exportFile_stops hnamed hstop with rfl | ht
    · exact .here
    · exact ht
  have hsafe : Underway H sink intent t → Whole (sink.target intent) s final t →
      (CrashSafe H sink intent retrying uuid' s final t ↔
        Recoverable H sink intent owner retrying s t) := fun hunderway hwhole =>
    ⟨fun _ => .inl (underway_planned hunderway),
      fun _ => hunderway.crashSafe hwhole hnamed husable hfresh'⟩
  cases hplan : s.log.plan? intent.requestId with
  | some plan =>
    have hintended := intended_of_continue hplan hrun
    rw [continueExport_planned hplan hintended hopen] at hrun hstop'
    obtain ⟨bytes, hpending, husable'⟩ := pending_of_finish hplan hintended hopen hfresh hrun
    have hstopped := stopped_pending hpending hpending.kept husable' hfresh hrun hstop'
    exact hsafe hstopped.1 hstopped.2
  | none =>
    obtain ⟨⟨g, hfirst⟩, hsame | ⟨hunderway, hwhole⟩⟩ :=
      stopped_first hhex hnamed hplan hopen hfresh hrun hstop'
    · have hlog : t.log = s.log := hsame.1
      have hadmissible : Admissible H sink intent t.log := by
        rw [hlog]
        exact hfirst.admissible
      have hunplanned : ¬(t.log.plan? intent.requestId).isSome = true := by
        rw [hlog, hplan]
        simp
      have hresumes := resumes_unplanned hhex hnamed hadmissible (by rw [hlog]; exact hopen)
        husable hfresh'
      constructor
      · intro h
        obtain ⟨hauthorized, hready⟩ := hresumes.mp h.resumes
        exact .inr ⟨hready, (hfirst.authorized_iff hsame).mp ⟨h.whole, hauthorized⟩⟩
      · rintro (hplanned | ⟨hready, hcase⟩)
        · exact absurd hplanned hunplanned
        · obtain ⟨hwhole, hauthorized⟩ := (hfirst.authorized_iff hsame).mpr hcase
          exact ⟨hwhole, hresumes.mpr ⟨hauthorized, hready⟩, fun _ _ seen hne => watched_publish hne seen⟩
    · exact hsafe hunderway hwhole

end Resume

/-! ### A stopped capture -/

def sampleExportDigest : Digest Bytes where
  archive bytes := if bytes = [80, 75, 3, 4]
    then "8dcc7e601606217f3b754766511182a916b17e9a26a94c9d887104eba92e9bb2"
    else "e3b0c44298fc1c149afbf4c8996fb92427ae41e4649b934ca495991b7852b855"
  text _ := "9acc8ca248e323796e512400113af1fe73224becae76c6a471221fa33e43541d"
  control _ _ _ _ _ _ := ""
  write _ _ _ := ""
  calculate _ _ _ _ := ""
  createFork _ := ""
  discardFork _ := ""
  exportFork _ := ""

def sampleSink : Sink where
  source := "/in/book.xlsx"
  sourceSha256 := "e3b0c44298fc1c149afbf4c8996fb92427ae41e4649b934ca495991b7852b855"
  directory := "/host/s1"
  trusted _ := true

def sampleExportOwner : ExportOwner where
  poisoned := false
  revision := "resident:1:1:1"
  bytes := [80, 75, 3, 4]

def sampleExportIntent : FileExportIntent where
  resourceId := "session:s1"
  requestId := "export-1"
  expectedRevision := none
  destination := some "/out/book.xlsx"
  force := false

def sampleExportStart : ExportState where
  files := ∅
  log := {
    sessionId := "s1"
    head := none
    eventsReplayed := 0
    discarded := false
    requestIds := []
    plans := []
    results := [] }

def sampleExport : Step FileExportResult :=
  exportFile sampleExportDigest sampleSink sampleExportOwner "1" sampleExportIntent

def sampleStopped (n : Nat) : ExportState :=
  Script.execFor (perform sampleExportDigest) n sampleExport sampleExportStart

theorem sampleExportDigest_hex (bytes : Bytes) :
    isSha256Hex (sampleExportDigest.archive bytes) = true := by
  change isSha256Hex (if bytes = [80, 75, 3, 4] then _ else _) = true
  split <;> decide +kernel

theorem sampleExport_done : ∃ result,
    run sampleExportDigest sampleExport sampleExportStart =
      (.ok result, (run sampleExportDigest sampleExport sampleExportStart).2) := by
  have hdone : ((run sampleExportDigest sampleExport sampleExportStart).1.toOption.any
      fun _ => true) = true := by decide +kernel
  obtain ⟨result, hresult, _⟩ := exists_ok_of_any hdone
  exact ⟨result, Prod.ext hresult rfl⟩

theorem sampleTemporary_fresh {uuid : String} {s : ExportState}
    (hmissing : s.node (temporaryPath "/out/book.xlsx" uuid) = none)
    (hne : temporaryPath "/out/book.xlsx" uuid ≠ "/out/book.xlsx") :
    FreshFile sampleSink (sampleSink.target sampleExportIntent)
      (temporaryPath (sampleSink.target sampleExportIntent) uuid) s where
  missing := hmissing
  destination := hne
  capture := by
    intro sha256 hsame
    -- one path is under `/out`, the other under `/host`
    have hsecond := congrArg (fun path : String => path.toList.drop 1 |>.head?) hsame
    have hparent : (parentOf (sampleSink.target sampleExportIntent)).toList =
        ['/', 'o', 'u', 't'] := by decide +kernel
    have hroot : sampleSink.captureRoot = "/host/s1/captures" := by decide +kernel
    simp [temporaryPath, hparent, Sink.capturePath, hroot] at hsecond

/-- A process stopped with its capture partly written: the same request, repeated by the
same owner, fails. -/
theorem partial_capture_not_crashSafe :
    ¬ ∀ (H : Digest Bytes) (sink : Sink) (intent : FileExportIntent) (owner : ExportOwner)
      (uuid uuid' : String) (s t final : ExportState) (result : FileExportResult),
      (∀ bytes, isSha256Hex (H.archive bytes) = true) →
      run H (exportFile H sink owner uuid intent) s = (.ok result, final) →
      s.log.result? intent.requestId = none →
      FreshFile sink (sink.target intent) (temporaryPath (sink.target intent) uuid) s →
      StopsAt H (exportFile H sink owner uuid intent) s t →
      FreshFile sink (sink.target intent) (temporaryPath (sink.target intent) uuid') t →
      owner.poisoned = false → CrashSafe H sink intent owner uuid' s final t := by
  intro hsafe
  obtain ⟨result, hrun⟩ := sampleExport_done
  have hstopped := hsafe sampleExportDigest sampleSink sampleExportIntent sampleExportOwner "1" "2"
    sampleExportStart (sampleStopped 8) _ result sampleExportDigest_hex hrun rfl
    (sampleTemporary_fresh (by decide +kernel) (by decide +kernel)) (Script.stops_execFor 8 _ _)
    (sampleTemporary_fresh (by decide +kernel) (by decide +kernel)) rfl
  obtain ⟨plan, bytes, final, hretried, _⟩ := hstopped.resumes
  have hfailed : (run sampleExportDigest (exportFile sampleExportDigest sampleSink
      sampleExportOwner "2" sampleExportIntent) (sampleStopped 8)).1 =
        .error "capture hash collision or incomplete preparation" := by
    decide +kernel
  rw [hretried] at hfailed
  contradiction

/-- Stopped while the temporary file of the publication is written, the export is safe. -/
theorem sample_publication_crashSafe :
    CrashSafe sampleExportDigest sampleSink sampleExportIntent sampleExportOwner "2"
      sampleExportStart (run sampleExportDigest sampleExport sampleExportStart).2
      (sampleStopped 24) := by
  obtain ⟨result, hrun⟩ := sampleExport_done
  have hstop : StopsAt sampleExportDigest (exportFile sampleExportDigest sampleSink
      sampleExportOwner "1" sampleExportIntent) sampleExportStart (sampleStopped 24) :=
    Script.stops_execFor 24 _ _
  rw [export_crashSafe_iff sampleExportDigest_hex hrun rfl
    (sampleTemporary_fresh (by decide +kernel) (by decide +kernel)) hstop
    (sampleTemporary_fresh (by decide +kernel) (by decide +kernel)) rfl]
  exact .inl (by decide +kernel)

end NativeExport
end AgentSpreadsheet
