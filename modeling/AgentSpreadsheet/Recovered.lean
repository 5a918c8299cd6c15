import AgentSpreadsheet.Agreement

/-! A recovered owner. The document is rebuilt along the active ancestry, the
catalog along the stream, and the restart boundary makes the two revisions meet. -/
namespace AgentSpreadsheet
open Library Library.Exec

/-- Records picked from a stream by identity come in the order of the identities
when these are in stream order. -/
theorem filter_eq_filterMap_recordOf {records : List (PreparedResidentCommit Archive)}
    {nodes : List String} (hnodup : (records.map (·.commitId)).Nodup)
    (hsub : nodes.Sublist (records.map (·.commitId))) :
    records.filter (fun record => record.commitId ∈ nodes) =
      nodes.filterMap (recordOf records) := by
  induction records generalizing nodes with
  | nil =>
    obtain rfl := List.sublist_nil.mp hsub
    rfl
  | cons record rest ih =>
    rw [List.map_cons, List.nodup_cons] at hnodup
    obtain ⟨hfresh, hrest⟩ := hnodup
    -- the first record is not found under an identity of the others
    have hskip : ∀ c ∈ rest.map (·.commitId),
        recordOf (record :: rest) c = recordOf rest c := by
      intro c hc
      unfold recordOf
      rw [List.find?_cons_of_neg]
      simp only [beq_iff_eq]
      rintro rfl
      exact hfresh hc
    rw [List.map_cons] at hsub
    cases hsub with
    | cons _ hsub =>
      have habsent : record.commitId ∉ nodes := fun hmem => hfresh (hsub.subset hmem)
      rw [List.filter_cons_of_neg (by simpa using habsent), ih hrest hsub]
      exact (List.filterMap_congr fun c hc => hskip c (hsub.subset hc)).symm
    | @cons_cons below _ _ hsub =>
      have hself : recordOf (record :: rest) record.commitId = some record := by simp [recordOf]
      rw [List.filter_cons_of_pos (by simp), List.filterMap_cons, hself]
      dsimp only
      rw [List.filterMap_congr fun c hc => hskip c (hsub.subset hc), ← ih hrest hsub]
      congr 1
      refine List.filter_congr fun other hother => ?_
      have hne : other.commitId ≠ record.commitId := fun heq =>
        hfresh (List.mem_map.mpr ⟨other, hother, heq⟩)
      simp [hne]

section Catalog
variable {H : Digest Archive} {records : List (PreparedResidentCommit Archive)}
  {record : PreparedResidentCommit Archive} {s s' : ResidentWriteSession Archive}

theorem preparedTransaction_eq_ok {prepared : PreparedResidentTransaction Archive} :
    record.preparedTransaction = .ok (some prepared) ↔
      findMember Effect.preparedTransaction record.effects = .value prepared := by
  unfold PreparedResidentCommit.preparedTransaction
  cases findMember Effect.preparedTransaction record.effects <;> simp [Member.decode]

theorem recoverCatalog_stages {ids : Finset String} (h : recoverCatalog s record = .ok s')
    (hstages : Stages record s.staged.keys ids) :
    s' = { s with staged := s'.staged, catalogGeneration := s'.catalogGeneration } ∧
      s'.staged.keys = ids := by
  unfold recoverCatalog at h
  split at h
  · rename_i hk
    simp only [bind_eq_ok, pure_eq_ok, required_eq_ok] at h
    obtain ⟨_, hfound, prepared, rfl, ⟨changeId, bundle⟩, hentry, _, _, rfl⟩ := h
    have hvalue := preparedTransaction_eq_ok.mp hfound
    refine ⟨rfl, ?_⟩
    cases hstages with
    | kept kind => exact absurd hk kind.1
    | stage found id _ _ value staged fresh =>
      rw [hvalue] at value
      cases value
      rw [hentry] at staged
      cases staged
      ext id
      simp [insertStaged, Finmap.mem_keys]
    | apply _ _ kind => simp [hk] at kind
    | discard _ kind => simp [hk] at kind
  · rename_i hk
    simp only [bind_eq_ok, pure_eq_ok, required_eq_ok] at h
    obtain ⟨changeId, hchange, _, _, rfl⟩ := h
    refine ⟨rfl, ?_⟩
    cases hstages with
    | kept kind => exact absurd hk kind.2.1
    | stage _ _ _ kind => simp [hk] at kind
    | apply _ _ kind => simp [hk] at kind
    | discard id _ named known =>
      rw [hchange] at named
      cases named
      ext id
      simp [removeStaged, Finmap.mem_keys]
  · rename_i hk
    simp only [bind_eq_ok, pure_eq_ok, required_eq_ok] at h
    obtain ⟨_, hfound, prepared, rfl, changeId, hentry, _, _, rfl⟩ := h
    have hvalue := preparedTransaction_eq_ok.mp hfound
    refine ⟨rfl, ?_⟩
    cases hstages with
    | kept kind => exact absurd hk kind.2.2
    | stage _ _ _ kind => simp [hk] at kind
    | apply found id _ value consumed known =>
      rw [hvalue] at value
      cases value
      rw [hentry] at consumed
      cases consumed
      ext id
      simp [removeStaged, Finmap.mem_keys]
    | discard _ kind => simp [hk] at kind
  · rename_i hk
    obtain rfl := Except.ok.inj h
    exact ⟨rfl, (hstages.kept_of (by simp [hk])).symm⟩
  · rename_i hk
    obtain rfl := Except.ok.inj h
    exact ⟨rfl, (hstages.kept_of (by simp [hk])).symm⟩
  · rename_i hstage hdiscard happly _ _
    obtain rfl := Except.ok.inj h
    exact ⟨rfl, (hstages.kept_of ⟨hstage, hdiscard, happly⟩).symm⟩

theorem recoverCatalog_replay {r : Replay} {sessionId baseSha256 : String}
    (hreplay : replayFrom H sessionId baseSha256 records = .ok r) (hempty : s.staged = ∅)
    (h : records.foldlM recoverCatalog s = .ok s') :
    s' = { s with staged := s'.staged, catalogGeneration := s'.catalogGeneration } ∧
      s'.staged.keys = r.state.catalogIds := by
  refine foldlM_invariant (motive := fun records r => ∀ s', records.foldlM recoverCatalog s =
    .ok s' → s' = { s with staged := s'.staged, catalogGeneration := s'.catalogGeneration } ∧
      s'.staged.keys = r.state.catalogIds) ?_ ?_ hreplay s' h
  · intro s' h
    simp only [List.foldlM_nil, pure_eq_ok] at h
    subst h
    exact ⟨rfl, by rw [hempty]; rfl⟩
  · intro xs x u t hu hstep s' h
    obtain ⟨s₁, hs₁, hs'⟩ := foldlM_concat_eq_ok.mp h
    obtain ⟨howner, hids⟩ := hu s₁ hs₁
    obtain ⟨state, haccepted, rfl⟩ := (Replay.step_eq_ok H x).mp hstep
    have hstages := (applyTransition_settles haccepted.applied).staged
    rw [← hids] at hstages
    obtain ⟨howner', hids'⟩ := recoverCatalog_stages hs' hstages
    refine ⟨?_, hids'⟩
    rw [howner', howner]

end Catalog

/-- A recovered owner before its restart boundary is journaled. -/
structure Recovered (tools : Tools Archive) (resourceId : ResourceId) (base : Archive)
    (records : List (PreparedResidentCommit Archive)) (history : PortableHistoryState)
    (s : ResidentWriteSession Archive) : Prop where
  resourceId : s.resourceId = resourceId
  baseBytes : s.baseBytes = base
  baseSha256 : s.baseSha256 = tools.digest.archive base
  usable : s.poisoned = none
  catalogGeneration : s.catalogGeneration = history.catalogGeneration
  catalogIds : s.staged.keys = history.catalogIds
  calculation : ResidentWorkbook.isCurrent s.workbook.calculation = false
  document : DocumentAt tools.xlsx base records history.timeline.parent history.head
    s.workbook.document

section Recovery
variable {tools : Tools Archive} {resourceId : ResourceId} {base : Archive}
  {records : List (PreparedResidentCommit Archive)} {history : PortableHistoryState}
  {s s' : ResidentWriteSession Archive} {epoch : String} {ingested : Bool}

/-- Recovery that publishes nothing is recovery of nothing. -/
theorem restoreFirst_calculation {message : String}
    {first : Option (PreparedResidentTransaction Archive)}
    (h : restoreFirst message first s = .ok s')
    (hcurrent : ResidentWorkbook.isCurrent s.workbook.calculation = false) :
    ResidentWorkbook.isCurrent s'.workbook.calculation = false := by
  cases first with
  | none =>
    obtain rfl := Except.ok.inj h
    exact hcurrent
  | some first =>
    simp only [restoreFirst, bind_eq_ok, pure_eq_ok] at h
    obtain ⟨revision, _, rfl⟩ := h
    rfl

theorem recoverFromRecords_recovered
    (h : recoverFromRecords tools epoch ingested resourceId base records = .ok s) :
    ∃ history, PortableHistoryState.replayBound tools.digest records resourceId.toWorkbookId
        (tools.digest.archive base) = .ok history ∧
      Recovered tools resourceId base records history s := by
  simp only [recoverFromRecords, bind_eq_ok, ensure_eq_ok] at h
  obtain ⟨history, hreplay, s₀, hs₀, first, hfirst, _, _, s₁, hs₁, active, hactive, s₂, hs₂, _, _,
    s₃, hs₃, _, hgeneration, hend⟩ := h
  refine ⟨history, hreplay, ?_⟩
  obtain ⟨hread, _, hresource, _, hstaged, _, hpoisoned, hbytes, hsha, hcalculation⟩ :=
    fromBytes_ok hs₀
  obtain ⟨hframe₁, hdocument₁, _⟩ := restoreFirst_ok hs₁
  have hcalculation₁ := restoreFirst_calculation hs₁ hcalculation
  obtain ⟨_, hrecover⟩ := runOwner_eq_ok.mp hs₂
  have hrecovers := recoverRecords_ends.ok hrecover
  obtain ⟨_, r, hr, rfl⟩ := PortableHistoryState.replayBound_eq_ok.mp hreplay
  obtain ⟨hnodup, hwell⟩ := replayBound_wellFormed hreplay
  obtain ⟨nodes, hnodes, hlineage, hsub⟩ := hwell.activeAncestry_ok
  rw [PortableHistoryState.activeAncestry_eq, hnodes] at hactive
  obtain rfl := Except.ok.inj hactive
  have hempty : s₂.staged = ∅ := by
    rw [hrecovers.owner, hframe₁]
    exact hstaged
  obtain ⟨hframe₃, hids⟩ := recoverCatalog_replay hr hempty hs₃
  have hworkbook : s₃.workbook = s₂.workbook := by rw [hframe₃]
  have hdocument : DocumentAt tools.xlsx base records r.state.timeline.parent r.state.head
      s₃.workbook.document := by
    refine ⟨s₀.workbook.document, nodes, hread, hlineage, fun c hc => hsub.subset hc, ?_⟩
    rw [hworkbook, hrecovers.document, hdocument₁, filter_eq_filterMap_recordOf hnodup hsub]
    exact .refl _
  have hrecovered : ∀ workbook : ResidentWorkbook Archive,
      ResidentWorkbook.isCurrent workbook.calculation = false →
      workbook.document = s₃.workbook.document →
      Recovered tools resourceId base records r.state { s₃ with workbook } := by
    intro workbook hcurrent hsame
    refine ⟨?_, ?_, ?_, ?_, hgeneration, hids, hcurrent, ?_⟩
    · rw [hframe₃, hrecovers.owner, hframe₁]
      exact hresource
    · rw [hframe₃, hrecovers.owner, hframe₁]
      exact hbytes
    · rw [hframe₃, hrecovers.owner, hframe₁]
      exact hsha
    · rw [hframe₃, hrecovers.owner, hframe₁]
      exact hpoisoned
    · dsimp only
      rw [hsame]
      exact hdocument
  cases hrevision : r.state.stateRevision with
  | none =>
    rw [hrevision] at hend
    obtain rfl := Except.ok.inj hend
    -- a stream without a revision has no records, so nothing was published
    have hnone : records = [] := by
      by_contra hne
      obtain ⟨revision, hsome⟩ := replayBound_revision hreplay hne
      rw [hrevision] at hsome
      cases hsome
    subst hnone
    refine hrecovered s₃.workbook ?_ rfl
    have hsame : s₂ = s₁ := (pure_ok_iff.mp hrecover).2.symm
    rw [hworkbook, hsame]
    exact hcalculation₁
  | some revision =>
    rw [hrevision] at hend
    simp only [bind_eq_ok, pure_eq_ok] at hend
    obtain ⟨parts, _, rfl⟩ := hend
    exact hrecovered _ rfl rfl

theorem Recovered.agrees (h : Recovered tools resourceId base records history s)
    (hempty : history.stateRevision = none) (hcalculation : history.calculationCurrent = false) :
    Agrees tools s records history where
  revision := by simp [hempty]
  catalogGeneration := h.catalogGeneration
  catalogIds := h.catalogIds
  calculation := h.calculation.trans hcalculation.symm
  document := h.baseBytes ▸ h.document

theorem Recovered.restart {history' : PortableHistoryState} {last requestId commitId : String}
    (h : Recovered tools resourceId base records history s)
    (hextends : Extends tools.digest (restartRecord tools s history last requestId commitId)
      history history') :
    Agrees tools s (records ++ [restartRecord tools s history last requestId commitId])
      history' := by
  have hquiet := hextends.quiet (by simp [restartRecord])
  refine .of_extends hextends rfl rfl ?_ h.calculation ?_
  · rw [hextends.stages.kept_of (by simp [restartRecord])]
    exact h.catalogIds
  · have hhead : history'.head = history.head := hextends.head
    rw [hhead, h.baseBytes]
    exact h.document.concat (hextends.parent hquiet) (.refl _)

end Recovery

end AgentSpreadsheet
