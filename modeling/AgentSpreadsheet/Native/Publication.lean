import AgentSpreadsheet.Native.Export

/-! What a stopped export leaves, and what its repetition does. -/
namespace AgentSpreadsheet
namespace NativeExport
open Library

section Publish
variable {H : Digest Bytes} {sink : Sink} {plan : FileExportPlan} {bytes : Bytes}
  {s t : ExportState} {uuid : String}

/-- The plan's artifact is retained and its destination is an allowed one. -/
structure PlanReady (H : Digest Bytes) (sink : Sink) (plan : FileExportPlan) (s : ExportState)
    (bytes : Bytes) : Prop where
  binding : plan.sourceSha256 = sink.sourceSha256
  capture : s.node (sink.capturePath plan.artifact.sha256) = some (.file bytes)
  bounded : bytes.length ≤ maxSourceBytes
  sized : bytes.length = plan.artifact.bytes
  hashed : H.archive bytes = plan.artifact.sha256
  trusted : sink.trusted plan.destination = true
  regular : s.node plan.destination ≠ some .other
  target : plan.destination = sink.target plan.intent
  explicit : plan.intent.destination = none ∨ plan.destination ≠ sink.source

/-- What the destination has, as a publication reads it. -/
def Existing (node : Option FileNode) (existing : Option Bytes) : Prop :=
  (node = none ∧ existing = none) ∨
    ∃ content, node = some (.file content) ∧ content.length ≤ maxSourceBytes ∧
      existing = some content

theorem readExisting_ok {path : String} {existing : Option Bytes} :
    run H (readExisting path) s = (.ok existing, t) ↔ Existing (s.node path) existing ∧ s = t := by
  unfold readExisting Existing
  simp only [bind_ok, read_ok]
  constructor
  · rintro ⟨_, _, ⟨rfl, rfl⟩, h⟩
    split at h
    next hnone =>
      obtain ⟨rfl, rfl⟩ := pure_ok.mp h
      exact ⟨.inl ⟨hnone, rfl⟩, rfl⟩
    next hsome =>
      simp only [bind_ok, regularBytes_ok, readRegular_file, pure_ok] at h
      obtain ⟨content, _, ⟨⟨hfile, hlimit⟩, rfl⟩, rfl, rfl⟩ := h
      exact ⟨.inr ⟨content, hfile, hlimit, rfl⟩, rfl⟩
  · rintro ⟨⟨hnone, rfl⟩ | ⟨content, hfile, hlimit, rfl⟩, rfl⟩
    · refine ⟨_, s, ⟨rfl, rfl⟩, ?_⟩
      rw [if_pos hnone]
      exact pure_ok.mpr ⟨rfl, rfl⟩
    · refine ⟨_, s, ⟨rfl, rfl⟩, ?_⟩
      rw [if_neg (by simp [hfile])]
      simp only [bind_ok, regularBytes_ok, readRegular_file, pure_ok]
      exact ⟨content, s, ⟨⟨hfile, hlimit⟩, rfl⟩, rfl, rfl⟩

theorem checkPlan_ok {existing : Option Bytes} :
    run H (checkPlan H sink plan) s = (.ok (bytes, existing), t) ↔
      (PlanReady H sink plan s bytes ∧ Existing (s.node plan.destination) existing) ∧ s = t := by
  unfold checkPlan
  simp only [bind_ok, guard_ok, regularBytes_ok, readRegular_file, destination_ok, readExisting_ok,
    pure_ok]
  constructor
  · rintro ⟨_, _, ⟨hbinding, rfl⟩, content, _, ⟨⟨hcapture, hbounded⟩, rfl⟩, _, _, ⟨⟨hsized, hhashed⟩, rfl⟩,
      _, _, ⟨⟨htrusted, hregular⟩, rfl⟩, _, _, ⟨htarget, rfl⟩, _, _, ⟨hexplicit, rfl⟩, found, _,
      ⟨hexisting, rfl⟩, hpair, rfl⟩
    rw [Prod.mk.injEq] at hpair
    obtain ⟨rfl, rfl⟩ := hpair
    exact ⟨⟨⟨hbinding, hcapture, hbounded, hsized, hhashed, htrusted, hregular, htarget, hexplicit⟩,
      hexisting⟩, rfl⟩
  · rintro ⟨⟨h, hexisting⟩, rfl⟩
    exact ⟨(), s, ⟨h.binding, rfl⟩, bytes, s, ⟨⟨h.capture, h.bounded⟩, rfl⟩, (), s,
      ⟨⟨h.sized, h.hashed⟩, rfl⟩, (), s, ⟨⟨h.trusted, h.regular⟩, rfl⟩, (), s, ⟨h.target, rfl⟩, (), s,
      ⟨h.explicit, rfl⟩, existing, s, ⟨hexisting, rfl⟩, rfl, rfl⟩

theorem checkGeneration_ok {expected : String} :
    run H (checkGeneration H sink plan) s = (.ok expected, t) ↔
      ((∃ g, Authorized H sink plan.intent s g) ∧ plan.destinationGeneration = some expected ∧
        generation H (s.node plan.destination) = .ok expected) ∧ s = t := by
  unfold checkGeneration
  simp only [bind_ok, authorize_ok, lift_ok, required_eq_ok, destinationGeneration_ok, guard_ok,
    pure_ok]
  constructor
  · rintro ⟨g, _, ⟨hauthorized, rfl⟩, _, _, ⟨hrecorded, rfl⟩, _, _, ⟨hcurrent, rfl⟩, _, _, ⟨rfl, rfl⟩,
      rfl, rfl⟩
    exact ⟨⟨⟨g, hauthorized⟩, hrecorded, hcurrent⟩, rfl⟩
  · rintro ⟨⟨⟨g, hauthorized⟩, hrecorded, hcurrent⟩, rfl⟩
    exact ⟨g, s, ⟨hauthorized, rfl⟩, expected, s, ⟨hrecorded, rfl⟩, expected, s, ⟨hcurrent, rfl⟩, (), s,
      ⟨rfl, rfl⟩, rfl, rfl⟩

/-- A plan can be published: the destination has the artifact, or is as recorded. -/
structure Publishable (H : Digest Bytes) (sink : Sink) (plan : FileExportPlan) (s : ExportState)
    (bytes : Bytes) : Prop where
  ready : PlanReady H sink plan s bytes
  current : s.node plan.destination = some (.file bytes) ∨
    ∃ g, Authorized H sink plan.intent s g ∧ plan.destinationGeneration = some g

theorem publishable_of_publish {u : Unit} (h : run H (publish H sink uuid plan) s = (.ok u, t)) :
    ∃ bytes, Publishable H sink plan s bytes := by
  unfold publish at h
  rw [bind_ok] at h
  obtain ⟨⟨bytes, existing⟩, _, hchecked, h⟩ := h
  obtain ⟨⟨hready, hexisting⟩, rfl⟩ := checkPlan_ok.mp hchecked
  refine ⟨bytes, hready, ?_⟩
  dsimp only at h
  split at h
  next hsame =>
    rcases hexisting with ⟨_, hnone⟩ | ⟨content, hfile, _, hcontent⟩
    · simp [hnone] at hsame
    · rw [hcontent, Option.some.injEq] at hsame
      rw [hsame] at hfile
      exact .inl hfile
  next =>
    unfold replaceDestination at h
    rw [bind_ok] at h
    obtain ⟨expected, _, hgeneration, _⟩ := h
    obtain ⟨⟨⟨g, hauthorized⟩, hrecorded, hcurrent⟩, _⟩ := checkGeneration_ok.mp hgeneration
    have hg : g = expected := by
      have hagain := hauthorized.current
      rw [← hready.target, hcurrent, Except.ok.injEq] at hagain
      exact hagain.symm
    rw [hg] at hauthorized
    exact .inr ⟨expected, hauthorized, hrecorded⟩

/-- The temporary file is a new one, of no other use. -/
structure FreshFile (sink : Sink) (destination temporary : String) (s : ExportState) : Prop where
  missing : s.node temporary = none
  destination : temporary ≠ destination
  capture : ∀ sha256, temporary ≠ sink.capturePath sha256

/-- The states a replacement goes through, the temporary file in place. -/
theorem replace_states {intent : FileExportIntent} {temporary path : String} {node : FileNode}
    (htemporary : s.node temporary = some node)
    (hfree : intent.force = true ∨ intent.destination = none ∨ s.node path = none) :
    run H (replace intent temporary path) s = (.ok (), (s.put path node).remove temporary) ∧
      ∀ t, StopsAt H (replace intent temporary path) s t →
        t = s ∨ t = s.put path node ∨ t = (s.put path node).remove temporary := by
  unfold replace
  split
  next hover =>
    have hperform : perform H (.rename temporary path) s =
        ((), (s.put path node).remove temporary) := by
      simp [perform, htemporary]
    constructor
    · change (Except.ok (perform H (.rename temporary path) s).1,
        (perform H (.rename temporary path) s).2) = _
      rw [hperform]
    · intro t ht
      rcases Script.Stops.access_eq ht with rfl | ht
      · exact .inl rfl
      · rw [hperform] at ht
        exact .inr (.inr ht)
  next hlink =>
    have hnone : s.node path = none := by
      rcases hfree with hforce | hsource | hnone
      · exact absurd (.inl hforce) hlink
      · exact absurd (.inr hsource) hlink
      · exact hnone
    have hperform : perform H (.hardLink temporary path) s = (true, s.put path node) := by
      simp [perform, htemporary, hnone]
    have hlinked : run H (hardLink temporary path) s = (.ok true, s.put path node) := by
      change (Except.ok (perform H (.hardLink temporary path) s).1,
        (perform H (.hardLink temporary path) s).2) = _
      rw [hperform]
    constructor
    · rw [bind_ok]
      refine ⟨true, s.put path node, hlinked, ?_⟩
      rw [bind_ok]
      exact ⟨(), _, guard_ok.mpr ⟨rfl, rfl⟩, rfl⟩
    · intro t ht
      rcases ht.split with ht | ⟨_, _, hrun, ht⟩
      · rcases Script.Stops.access_eq ht with rfl | ht
        · exact .inl rfl
        · rw [hperform] at ht
          exact .inr (.inl ht)
      cases hlinked.symm.trans hrun
      rcases stops_after_reads (Script.within_guard _ _) ht with rfl | ⟨_, _, ht⟩
      · exact .inr (.inl rfl)
      rcases Script.Stops.access_eq ht with rfl | rfl
      · exact .inr (.inl rfl)
      · exact .inr (.inr rfl)

theorem checkSource_ok {intent : FileExportIntent} {u : Unit} :
    run H (checkSource H sink intent) s = (.ok u, t) ↔
      (intent.destination = none → intent.force = false → SourceIntact H sink s) ∧ s = t := by
  unfold checkSource
  split
  next h =>
    rw [verifySource_ok]
    simp [h]
  next h =>
    rw [pure_ok]
    constructor
    · rintro ⟨_, rfl⟩
      exact ⟨fun hnone hforce => absurd ⟨hnone, hforce⟩ h, rfl⟩
    · rintro ⟨_, rfl⟩
      exact ⟨rfl, rfl⟩

section Replace
variable {g temporary : String} (hready : PlanReady H sink plan s bytes)
  (hauthorized : Authorized H sink plan.intent s g)
  (hfresh : FreshFile sink plan.destination temporary s)

include hready hauthorized hfresh

theorem authorized_put : Authorized H sink plan.intent (s.put temporary (.file bytes)) g := by
  apply hauthorized.congr
  apply ExportState.node_put_ne
  rw [← hready.target]
  exact hfresh.destination.symm

theorem replace_free : plan.intent.force = true ∨ plan.intent.destination = none ∨
    (s.put temporary (.file bytes)).node plan.destination = none := by
  have hafter := authorized_put hready hauthorized hfresh
  cases hdestination : plan.intent.destination with
  | none => exact .inr (.inl rfl)
  | some path =>
    have hpath : plan.destination = path := by
      rw [hready.target]
      simp [Sink.target, hdestination]
    rcases (hafter.explicit path hdestination).2 with hforce | hnone
    · exact .inl hforce
    · rw [hpath]
      exact .inr (.inr hnone)

/-- The temporary file is written, the checks pass, and it takes the destination's
place; nothing else changes, and the destination changes at once. -/
theorem publishFile_states :
    run H (publishFile H sink plan.intent plan.destination temporary g bytes) s =
      (.ok (), ((s.put temporary (.file bytes)).put plan.destination (.file bytes)).remove
        temporary) ∧
    ∀ t, StopsAt H (publishFile H sink plan.intent plan.destination temporary g bytes) s t →
      SameBut [temporary] s t ∨
        t = (s.put temporary (.file bytes)).put plan.destination (.file bytes) ∨
        t = ((s.put temporary (.file bytes)).put plan.destination (.file bytes)).remove
          temporary := by
  have hafter := authorized_put hready hauthorized hfresh
  have hcurrent : generation H ((s.put temporary (.file bytes)).node plan.destination) = .ok g := by
    rw [hready.target]
    exact hafter.current
  have hcreated : run H (createFile temporary bytes) s =
      (.ok (), s.put temporary (.file bytes)) :=
    createFile_ok.mpr ⟨hfresh.missing, rfl⟩
  obtain ⟨hrun, hstates⟩ := replace_states (H := H) (ExportState.node_put (s := s) (.file bytes))
    (replace_free hready hauthorized hfresh)
  unfold publishFile
  constructor
  · simp only [bind_ok, checkSource_ok, destinationGeneration_ok, guard_ok]
    exact ⟨(), _, hcreated, (), _, ⟨hafter.source, rfl⟩, g, _, ⟨hcurrent, rfl⟩, (), _, ⟨rfl, rfl⟩, hrun⟩
  · intro t ht
    rcases ht.split with ht | ⟨_, _, hdone, ht⟩
    · exact .inl (stops_touches (within_createFile bytes) ht)
    cases hcreated.symm.trans hdone
    rcases stops_after_reads (within_checkSource _) ht with rfl | ⟨_, _, ht⟩
    · exact .inl (sameBut_put _)
    rcases stops_after_reads within_destinationGeneration ht with rfl | ⟨_, _, ht⟩
    · exact .inl (sameBut_put _)
    rcases stops_after_reads (Script.within_guard _ _) ht with rfl | ⟨_, _, ht⟩
    · exact .inl (sameBut_put _)
    rcases hstates t ht with rfl | h
    · exact .inl (sameBut_put _)
    · exact .inr h

end Replace

theorem existing_of_generation {node : Option FileNode} {g : String}
    (h : generation H node = .ok g) : ∃ existing, Existing node existing := by
  cases node with
  | none => exact ⟨none, .inl ⟨rfl, rfl⟩⟩
  | some node =>
    simp only [generation, bind_eq_ok, readRegular_file] at h
    obtain ⟨content, ⟨hfile, hlimit⟩, _⟩ := h
    exact ⟨some content, .inr ⟨content, hfile, hlimit, rfl⟩⟩

theorem Publishable.existing (h : Publishable H sink plan s bytes) :
    ∃ existing, Existing (s.node plan.destination) existing ∧
      (existing = some bytes ∨ ∃ g, Authorized H sink plan.intent s g ∧
        plan.destinationGeneration = some g) := by
  rcases h.current with hsame | ⟨g, hauthorized, hrecorded⟩
  · exact ⟨some bytes, .inr ⟨bytes, hsame, h.ready.bounded, rfl⟩, .inl rfl⟩
  · have hcurrent := hauthorized.current
    rw [← h.ready.target] at hcurrent
    obtain ⟨existing, hexisting⟩ := existing_of_generation hcurrent
    exact ⟨existing, hexisting, .inr ⟨g, hauthorized, hrecorded⟩⟩

theorem node_of_existing {node : Option FileNode} (h : Existing node (some bytes)) :
    node = some (.file bytes) := by
  rcases h with ⟨_, h⟩ | ⟨content, hfile, _, h⟩
  · contradiction
  · rw [Option.some.injEq] at h
    rw [h]
    exact hfile

/-- The destination has its old content or the artifact at every moment, and the
artifact in the end. -/
structure Published (plan : FileExportPlan) (temporary : String) (bytes : Bytes)
    (s t : ExportState) : Prop where
  frame : SameBut [plan.destination, temporary] s t
  destination : t.node plan.destination = s.node plan.destination ∨
    t.node plan.destination = some (.file bytes)

theorem Published.refl (temporary : String) : Published plan temporary bytes s s :=
  ⟨SameBut.refl _ _, .inl rfl⟩

theorem published_of_sameBut {temporary : String} (hfresh : temporary ≠ plan.destination)
    (h : SameBut [temporary] s t) : Published plan temporary bytes s t where
  frame := h.mono (by simp)
  destination := .inl (h.2 _ (by simpa using hfresh.symm))

theorem published_put {temporary : String} : Published plan temporary bytes s
    ((s.put temporary (.file bytes)).put plan.destination (.file bytes)) where
  frame := by
    have htemporary : SameBut [temporary] s (s.put temporary (.file bytes)) := sameBut_put _
    exact (htemporary.mono (by simp)).trans ((sameBut_put _).mono (by simp))
  destination := .inr (ExportState.node_put _)

theorem Published.remove {temporary : String} (h : Published plan temporary bytes s t)
    (hfresh : temporary ≠ plan.destination) :
    Published plan temporary bytes s (t.remove temporary) where
  frame := h.frame.trans (sameBut_remove.mono (by simp))
  destination := by
    rw [ExportState.node_remove_ne hfresh.symm]
    exact h.destination

theorem replaceDestination_states {g temporary : String} (hready : PlanReady H sink plan s bytes)
    (hauthorized : Authorized H sink plan.intent s g)
    (hrecorded : plan.destinationGeneration = some g)
    (hfresh : FreshFile sink plan.destination temporary s) :
    (∃ t, run H (replaceDestination H sink plan temporary bytes) s = (.ok (), t) ∧
      Published plan temporary bytes s t ∧ t.node plan.destination = some (.file bytes)) ∧
    ∀ t, StopsAt H (replaceDestination H sink plan temporary bytes) s t →
      Published plan temporary bytes s t := by
  have hne := hfresh.destination
  have hchecked : run H (checkGeneration H sink plan) s = (.ok g, s) := by
    rw [checkGeneration_ok]
    refine ⟨⟨⟨g, hauthorized⟩, hrecorded, ?_⟩, rfl⟩
    rw [hready.target]
    exact hauthorized.current
  obtain ⟨hfile, hstates⟩ := publishFile_states hready hauthorized hfresh
  have hattempt : run H (publishFile H sink plan.intent plan.destination temporary g bytes).attempt
      s = (.ok (.ok ()), ((s.put temporary (.file bytes)).put plan.destination
        (.file bytes)).remove temporary) := by
    unfold run at hfile ⊢
    rw [Script.exec_attempt, hfile]
  unfold replaceDestination
  constructor
  · refine ⟨(((s.put temporary (.file bytes)).put plan.destination (.file bytes)).remove
      temporary).remove temporary, ?_, (published_put.remove hne).remove hne, ?_⟩
    · simp only [bind_ok, lift_ok]
      exact ⟨g, s, hchecked, .ok (), _, hattempt, (), _, rfl, rfl, rfl⟩
    · rw [ExportState.node_remove_ne hne.symm, ExportState.node_remove_ne hne.symm]
      exact ExportState.node_put _
  · intro t ht
    rcases stops_after_reads (within_checkGeneration plan) ht with rfl | ⟨_, hdone, ht⟩
    · exact Published.refl _
    cases hchecked.symm.trans hdone
    rcases ht.split with ht | ⟨_, _, hdone, ht⟩
    · rcases hstates t ht.attempt with h | rfl | rfl
      · exact published_of_sameBut hne h
      · exact published_put
      · exact published_put.remove hne
    cases hattempt.symm.trans hdone
    rcases ht.split with ht | ⟨_, _, hdone, ht⟩
    · rcases Script.Stops.access_eq ht with rfl | rfl
      · exact published_put.remove hne
      · exact (published_put.remove hne).remove hne
    · cases hdone
      rw [ht.done_eq]
      exact (published_put.remove hne).remove hne

/-- A publishable plan is published, wherever it stops on the way. -/
theorem publish_states (h : Publishable H sink plan s bytes)
    (hfresh : FreshFile sink plan.destination (temporaryPath plan.destination uuid) s) :
    (∃ t, run H (publish H sink uuid plan) s = (.ok (), t) ∧
      Published plan (temporaryPath plan.destination uuid) bytes s t ∧
      t.node plan.destination = some (.file bytes)) ∧
    ∀ t, StopsAt H (publish H sink uuid plan) s t →
      Published plan (temporaryPath plan.destination uuid) bytes s t := by
  obtain ⟨existing, hexisting, hcurrent⟩ := h.existing
  have hchecked : run H (checkPlan H sink plan) s = (.ok (bytes, existing), s) :=
    checkPlan_ok.mpr ⟨⟨h.ready, hexisting⟩, rfl⟩
  by_cases hsame : existing = some bytes
  · -- the destination has the artifact already
    have hskip : (if existing = some bytes then (pure () : Step Unit) else replaceDestination H sink
        plan (temporaryPath plan.destination uuid) bytes) = pure () := if_pos hsame
    rw [hsame] at hexisting
    unfold publish
    constructor
    · refine ⟨s, ?_, Published.refl _, node_of_existing hexisting⟩
      rw [bind_ok]
      refine ⟨_, s, hchecked, ?_⟩
      dsimp only
      rw [hskip]
      exact pure_ok.mpr ⟨rfl, rfl⟩
    · intro t ht
      rcases stops_after_reads (within_checkPlan plan) ht with rfl | ⟨_, hdone, ht⟩
      · exact Published.refl _
      cases hchecked.symm.trans hdone
      dsimp only at ht
      rw [hskip] at ht
      rw [ht.done_eq]
      exact Published.refl _
  · obtain ⟨g, hauthorized, hrecorded⟩ := hcurrent.resolve_left hsame
    have hreplace : (if existing = some bytes then (pure () : Step Unit) else replaceDestination H
        sink plan (temporaryPath plan.destination uuid) bytes) = replaceDestination H sink plan
          (temporaryPath plan.destination uuid) bytes := if_neg hsame
    obtain ⟨⟨final, hrun, hpublished, hnode⟩, hstates⟩ :=
      replaceDestination_states h.ready hauthorized hrecorded hfresh
    unfold publish
    constructor
    · refine ⟨final, ?_, hpublished, hnode⟩
      rw [bind_ok]
      refine ⟨_, s, hchecked, ?_⟩
      dsimp only
      rw [hreplace]
      exact hrun
    · intro t ht
      rcases stops_after_reads (within_checkPlan plan) ht with rfl | ⟨_, hdone, ht⟩
      · exact Published.refl _
      cases hchecked.symm.trans hdone
      dsimp only at ht
      rw [hreplace] at ht
      exact hstates t ht

theorem Published.capture {temporary : String} (h : Publishable H sink plan s bytes)
    (hfresh : FreshFile sink plan.destination temporary s)
    (ht : Published plan temporary bytes s t) :
    t.node (sink.capturePath plan.artifact.sha256) = some (.file bytes) := by
  by_cases hcapture : sink.capturePath plan.artifact.sha256 = plan.destination
  · rcases ht.destination with hsame | hpublished
    · rw [hcapture, hsame, ← hcapture]
      exact h.ready.capture
    · rw [hcapture]
      exact hpublished
  · rw [ht.frame.2 _ (by simp [hcapture, (hfresh.capture _).symm])]
    exact h.ready.capture

theorem Published.publishable {temporary : String} (h : Publishable H sink plan s bytes)
    (hfresh : FreshFile sink plan.destination temporary s)
    (ht : Published plan temporary bytes s t) : Publishable H sink plan t bytes := by
  have hready : PlanReady H sink plan t bytes := { h.ready with
    capture := Published.capture h hfresh ht
    regular := by
      rcases ht.destination with hsame | hpublished
      · rw [hsame]
        exact h.ready.regular
      · simp [hpublished] }
  refine ⟨hready, ?_⟩
  rcases ht.destination with hsame | hpublished
  · rcases h.current with hfile | ⟨g, hauthorized, hrecorded⟩
    · exact .inl (hsame.trans hfile)
    · refine .inr ⟨g, hauthorized.congr ?_, hrecorded⟩
      rw [← h.ready.target]
      exact hsame
  · exact .inl hpublished

end Publish

end NativeExport
end AgentSpreadsheet
