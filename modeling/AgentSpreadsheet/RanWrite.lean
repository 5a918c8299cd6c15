import AgentSpreadsheet.Ran

/-! The remaining operations: staged discards, calculations and prepared
transactions. -/
namespace AgentSpreadsheet
open Library Library.Exec

section Preparation
variable {tools : Tools Archive} {s s' : ResidentWriteSession Archive}

structure ResidentWorkbook.Kept (w w' : ResidentWorkbook Archive) : Prop where
  document : w'.document = w.document
  revisions : w'.revisions = w.revisions
  calculation : w'.calculation = w.calculation

theorem ResidentWorkbook.Captures.kept {xlsx : Xlsx Archive} {w w' : ResidentWorkbook Archive}
    (h : ResidentWorkbook.Captures xlsx w w') : w.Kept w' :=
  ⟨h.document, h.revisions, h.calculation⟩

theorem ResidentWorkbook.Kept.idle {w : ResidentWorkbook Archive} (h : s.workbook.Kept w) :
    Idle s { s with workbook := w } := ⟨rfl, h.document, h.revisions, h.calculation⟩

theorem ResidentWorkbook.prepareCalculation_kept (xlsx : Xlsx Archive)
    (w : ResidentWorkbook Archive) (engine : ResidentWorkbook.EngineRun) :
    w.Kept (w.prepareCalculation xlsx engine).2 := by
  obtain ⟨w', evaluator, hcaptures, heq⟩ := ResidentWorkbook.ensureEvaluator_cases xlsx w engine
  have hkept : w.Kept (w.ensureEvaluator xlsx engine).2 := by
    rw [heq]
    exact ⟨hcaptures.document, hcaptures.revisions, hcaptures.calculation⟩
  unfold ResidentWorkbook.prepareCalculation
  split
  · rename_i e w'' hensured
    rwa [hensured] at hkept
  · rename_i w'' hensured
    rw [hensured] at hkept
    split
    · exact ⟨hkept.document, hkept.revisions, hkept.calculation⟩
    · exact hkept

theorem ResidentWorkbook.prepareExternalCalculation_kept (xlsx : Xlsx Archive)
    (w : ResidentWorkbook Archive) (engine : ResidentWorkbook.EngineRun) :
    w.Kept (w.prepareExternalCalculation xlsx engine).2 := by
  have hkept := (ResidentWorkbook.snapshotBytes_captures xlsx w).kept
  unfold ResidentWorkbook.prepareExternalCalculation
  split
  · rename_i e w' heq
    rwa [heq] at hkept
  · rename_i bytes w' heq
    rw [heq] at hkept
    split
    · exact hkept
    · exact ⟨hkept.document, hkept.revisions, hkept.calculation⟩

theorem Calculation.prepare_kept (calculation : Calculation) (w : ResidentWorkbook Archive) :
    w.Kept (calculation.prepare tools w).2 := by
  unfold Calculation.prepare
  split
  · exact w.prepareExternalCalculation_kept tools.xlsx calculation.engine
  · exact w.prepareCalculation_kept tools.xlsx calculation.engine

structure Prepared (s : ResidentWriteSession Archive) (request : WriteRequest)
    (prepared : PreparedResidentTransaction Archive) : Prop where
  resource : request.resourceId = s.resourceId
  base : prepared.baseSha256 = s.baseSha256
  before : prepared.response.revisionBefore = s.revision

theorem canonicalResponseFromPrepared_before {request : WriteRequest} {before after : String}
    {results : List WriteOpResult} {diff : WriteDiff} {impact : WriteImpact}
    {failure : Option Nat} {applied : Nat} {stageChangeId : Option String} :
    (canonicalResponseFromPrepared tools request before after results diff impact failure applied
      stageChangeId).revisionBefore = before := by
  unfold canonicalResponseFromPrepared
  split
  · split
    · rfl
    split <;> rfl
  · dsimp only
    split <;> rfl

theorem prepareSnapshotTransaction_ends {request : WriteRequest} {stageChangeId : Option String} :
    Ends (prepareSnapshotTransaction tools request stageChangeId) s
      (fun prepared s' => Idle s s' ∧ prepared.baseSha256 = s.baseSha256 ∧
        prepared.response.revisionBefore = s.revision) (Idle s) := by
  have hkept := (ResidentWorkbook.snapshotBytes_captures tools.xlsx s.workbook).kept
  have hbytes : EndsIn (onWorkbook (ResidentWorkbook.snapshotBytes tools.xlsx)) s
      (Idle s) := by
    unfold EndsIn Ends onWorkbook
    cases (s.workbook.snapshotBytes tools.xlsx).1 <;> exact hkept.idle
  refine hbytes.bind fun bytes s' hidle => ?_
  have hbase : s'.baseSha256 = s.baseSha256 := hidle.sameJournal.baseSha256
  refine ends_lift_bind (fun sha _ => ends_get_bind ?_) fun _ _ => hidle
  split
  · refine ends_lift (fun prepared h => ?_) fun _ _ => hidle
    simp only [prepareSnapshotStage, bind_eq_ok] at h
    obtain ⟨preview, _, h⟩ := h
    split at h <;> (rw [← Except.ok.inj h]; exact ⟨hidle, hbase, hidle.revision⟩)
  · refine ends_lift (fun prepared h => ?_) fun _ _ => hidle
    simp only [prepareSnapshotApply, bind_eq_ok] at h
    obtain ⟨written, _, h⟩ := h
    rw [← Except.ok.inj h]
    exact ⟨hidle, hbase, hidle.revision⟩

theorem prepareResidentTransaction_ends {request : WriteRequest} {stageChangeId : Option String} :
    Ends (prepareResidentTransaction tools request stageChangeId) s
      (fun prepared s' => Idle s s' ∧ Prepared s request prepared) (Idle s) := by
  refine ends_lift_bind (fun _ _ => ends_get_bind ?_) fun _ _ => .refl s
  refine ends_guard_bind (fun hresource => ?_) fun _ => .refl s
  refine ends_guard_bind (fun _ => ?_) fun _ => .refl s
  split
  · exact ends_pure ⟨.refl s, hresource, rfl, canonicalResponseFromPrepared_before⟩
  · exact prepareSnapshotTransaction_ends.mono
      (fun prepared s' h => ⟨h.1, hresource, h.2.1, h.2.2⟩) fun _ h => h

end Preparation

section Discard
variable {tools : Tools Archive} {storage : Storage Archive} {supply : Supply}
  {requestId : String} {history : PortableHistoryState} {w : World Archive}

theorem discardStagedDurable_ran (hhistory : w.Replays tools history) (changeId : String) :
    EndsIn (discardStagedDurable tools storage supply requestId changeId) w
      (Ran tools storage supply requestId history (.discardStaged changeId) w) := by
  refine ensureUsable_ran fun husable => ?_
  refine ends_guard_bind (fun hnamed => ?_) fun _ => .of_quiet (.refl _)
  refine reconciledRecordByRequestId_ran hhistory (fun _ _ => answer_quiet)
    fun w' hquiet hhistory hfresh => ?_
  rw [← hquiet.session] at husable
  clear hquiet
  refine ends_get_bind ?_
  dsimp only
  split
  · rename_i habsent
    refine (commitControlReceipt_ran hhistory hfresh (.discardNothing changeId habsent)).bind ?_
    exact fun _ _ h => ends_pure h
  · rename_i hstaged
    have hstaged := not_not.mp hstaged
    refine loadHistory_ran hhistory hfresh fun w'' hquiet hhistory hfresh => ?_
    rw [← hquiet.session] at husable hstaged
    dsimp only
    rw [← hquiet.session]
    clear hquiet
    have hproposes : Proposes tools supply w''.session w''.records history requestId
        (.discardStaged changeId) _ _ := .discard changeId hnamed hstaged
    split
    · exact ends_modify_bind (ends_fail (.fenced ((SameJournal.refl _).poison _) (.refl _)))
    refine ((commitReconciled_ends hfresh).mono (fun _ _ h => h) fun w₁ =>
      .of_failed husable hfresh (.refl _) hproposes).bind ?_
    rintro outcome ⟨session, host⟩ ⟨_, hsession, record, hstored⟩
    dsimp only at hsession hstored
    subst hsession
    have hremoved : Ends (onSession (discardStaged changeId)) ⟨w''.session, host⟩
        (fun removed w₁ => removed = true ∧
          w₁ = ⟨removeStaged changeId w''.session, host⟩) fun _ => False := by
      simp [Ends, onSession, discardStaged, ensureUsable, Exec.get, Exec.modify, bind,
        Exec.bind, husable, hstaged, pure, Exec.pure]
    refine (hremoved.mono (fun _ _ h => h) fun _ h => h.elim).bind ?_
    rintro _ _ ⟨rfl, rfl⟩
    refine ends_pure (.published w''.session _ none _ record _ husable hfresh (.refl _)
      hproposes hstored rfl ?_ ?_)
    · rw [hstored.outfits.frame]
      rfl
    · unfold removeStaged
      rw [husable]

end Discard

section Calculation
variable {tools : Tools Archive} {storage : Storage Archive} {supply : Supply}
  {requestId : String} {history : PortableHistoryState} {w w' : World Archive}
  {calculation : Calculation} {evaluation : EvaluatorEvaluation}

theorem ResidentWorkbook.publishPreparedCalculation_revisions {xlsx : Xlsx Archive}
    {w w' : ResidentWorkbook Archive} {coverage : EvaluationCoverage} {revision : String}
    (h : w.publishPreparedCalculation xlsx evaluation coverage = (.ok revision, w')) :
    w'.revisions = w.advanceMetadataState.revisions := by
  unfold ResidentWorkbook.publishPreparedCalculation at h
  split at h
  · cases h
  · rename_i w₁ heq
    obtain ⟨_, hw₁⟩ := ResidentWorkbook.publishFormulaCaches_ok heq
    rw [← (Prod.mk.inj h).2, hw₁]
    rfl

theorem onWorkbook_eq_ok {call : ResidentWorkbook Archive → Result α × ResidentWorkbook Archive}
    {s s' : ResidentWriteSession Archive} {a : α} :
    onWorkbook call s = (.ok a, s') ↔
      call s.workbook = (.ok a, (call s.workbook).2) ∧
        s' = { s with workbook := (call s.workbook).2 } := by
  unfold onWorkbook
  constructor
  · intro h
    obtain ⟨hresult, rfl⟩ := Prod.mk.inj h
    exact ⟨Prod.ext hresult rfl, rfl⟩
  · rintro ⟨hcall, rfl⟩
    have hresult : (call s.workbook).1 = .ok a := congrArg Prod.fst hcall
    rw [hresult]

theorem ignore_onWorkbook {call : ResidentWorkbook Archive → Result α × ResidentWorkbook Archive}
    {s s' : ResidentWriteSession Archive} {a : α} (h : onWorkbook call s = (.ok a, s')) :
    (do let _ ← onWorkbook call : Owner Archive Unit) s = (.ok (), s') := by
  change Exec.bind (onWorkbook call) (fun _ => pure ()) s = _
  unfold Exec.bind
  rw [h]
  rfl

theorem commitCalculation_ran {before : ResidentWorkbook Archive} (hhistory : w.Replays tools history)
    (hfresh : requestId ∉ w.records.map (·.requestId)) (husable : w.session.poisoned = none)
    (hnamed : requestId ≠ "")
    (hprepare : calculation.prepare tools before = (.ok evaluation, w.session.workbook)) :
    EndsIn (commitCalculation tools storage supply requestId calculation evaluation) w
      (Ran tools storage supply requestId history (.recalculate calculation) w) := by
  refine loadHistory_ran hhistory hfresh fun w' hquiet hhistory hfresh => ends_get_bind ?_
  rw [← hquiet.session] at husable hprepare
  clear hquiet
  split
  · exact ends_modify_bind (ends_fail (.fenced ((SameJournal.refl _).poison _) (.refl _)))
  have hproposes : Proposes tools supply w'.session w'.records history requestId
      (.recalculate calculation) _ _ := .calculation hnamed hprepare
  dsimp only
  refine ((commitReconciled_ends hfresh).mono (fun _ _ h => h) fun w'' =>
    .of_failed husable hfresh (.refl _) hproposes).bind ?_
  rintro outcome ⟨session, host⟩ ⟨hcommit, hsession, record, hstored⟩
  dsimp only at hsession hstored
  subst hsession
  refine ends_modify_bind ?_
  rw [if_neg (not_not_intro hcommit)]
  refine (onSession_ends (ends_self _ _)).attempt.bind ?_
  rintro (error | revision) ⟨session, host⟩ ⟨rfl, hpublish⟩
  · obtain ⟨e, hpublish⟩ := hpublish
    exact ends_modify_bind (ends_fail (.of_unpublished husable hfresh (.refl _) hproposes hstored
      (onWorkbook_ends.error hpublish) _))
  · have hpublished := ignore_onWorkbook hpublish
    refine ends_modify_bind (ends_pure (.published w'.session session _ _ record _ husable
      hfresh (.refl _) hproposes hstored hpublished ?_ rfl))
    obtain ⟨hworkbook, hsession⟩ := onWorkbook_eq_ok.mp hpublish
    have hrevisions := ResidentWorkbook.publishPreparedCalculation_revisions hworkbook
    dsimp only at hsession
    rw [hstored.outfits.frame, hsession]
    exact congrArg ResidentRevision.stateRevisionId hrevisions

theorem recalculateDurableWithBackend_ran (hhistory : w.Replays tools history)
    (calculation : Calculation) :
    EndsIn (recalculateDurableWithBackend tools storage supply requestId calculation) w
      (Ran tools storage supply requestId history (.recalculate calculation) w) := by
  refine ensureUsable_ran fun husable => ?_
  refine ends_guard_bind (fun hnamed => ?_) fun _ => .of_quiet (.refl _)
  refine reconciledRecordByRequestId_ran hhistory ?_ ?_
  · intro record w' hquiet
    refine ends_guard_bind (fun _ => ?_) fun _ => hquiet
    refine ends_lift_bind (fun proof _ => ?_) fun _ _ => hquiet
    refine ends_guard_bind (fun _ => ?_) fun _ => hquiet
    exact ends_lift (fun _ _ => hquiet) fun _ _ => hquiet
  · intro w' hquiet hhistory hfresh
    rw [← hquiet.session] at husable
    clear hquiet
    refine (onSession_ends (ends_self _ _)).attempt.bind ?_
    rintro (error | evaluation) ⟨session, host⟩ ⟨rfl, hprepare⟩
    · obtain ⟨e, hprepare⟩ := hprepare
      exact ends_modify_bind (ends_fail (.fenced ((onWorkbook_ends.error hprepare).poison _)
        (.refl _)))
    · obtain ⟨hworkbook, rfl⟩ := onWorkbook_eq_ok.mp hprepare
      have hidle : Idle w'.session
          { w'.session with workbook := (calculation.prepare tools w'.session.workbook).2 } :=
        (calculation.prepare_kept w'.session.workbook).idle
      refine (commitCalculation_ran (w := ⟨{ w'.session with
        workbook := (calculation.prepare tools w'.session.workbook).2 }, w'.host⟩) hhistory hfresh
        husable hnamed hworkbook).mono ?_ ?_
      · exact fun _ _ => .after_idle hidle (.refl _)
      · exact fun _ => .after_idle hidle (.refl _)

end Calculation

section Transaction
variable {tools : Tools Archive} {storage : Storage Archive} {supply : Supply}
  {requestId : String} {history : PortableHistoryState} {op : DurableOp} {w w' : World Archive}
  {s : ResidentWriteSession Archive} {H : Digest Archive}
  {record : PreparedResidentCommit Archive} {prepared : PreparedResidentTransaction Archive}

/-- A record that publishes a document has another revision than its transaction
started from. -/
theorem Accepted.revision_ne {r : Replay} {state : PortableHistoryState}
    (h : Accepted H record r state)
    (hprepared : findMember Effect.preparedTransaction record.effects = .value prepared)
    (hpublishes : prepared.publication.publishesDocument = true) :
    record.stateRevision ≠ prepared.response.revisionBefore := by
  intro heq
  have hvalid := h.prepared
  have hprogress := h.progression
  have hpublishesDocument : record.publishesDocument = true := by
    unfold PreparedResidentCommit.publishesDocument
    rw [hprepared]
    exact hpublishes
  have hprevious : previousRevision record r.state.stateRevision =
      some prepared.response.revisionBefore := by
    unfold previousRevision
    rw [hprepared]
    obtain ⟨_, hbefore, _⟩ := (validatePortablePreparedRecord_value hprepared).mp hvalid
    cases hstate : r.state.stateRevision with
    | none => rfl
    | some previous =>
      rw [hstate] at hbefore
      exact congrArg some (beq_iff_eq.mp hbefore)
  unfold checkProgression at hprogress
  rw [hprevious] at hprogress
  obtain ⟨next, hnext, hprogress⟩ := bind_eq_ok.mp hprogress
  obtain ⟨previous, hparsed, hprogress⟩ := bind_eq_ok.mp hprogress
  rw [heq, hparsed] at hnext
  obtain rfl := Except.ok.inj hnext
  obtain ⟨_, hdocument, _⟩ := ensure_eq_ok.mp hprogress
  have hchange : documentChange record r.state.head = true := by
    unfold documentChange
    rw [hpublishesDocument]
    rfl
  rw [hchange, if_pos rfl] at hdocument
  have := congrArg UInt64.toNat hdocument
  rw [UInt64.toNat_add] at this
  have hlt := previous.document.toNat_lt
  have hone : (1 : UInt64).toNat = 1 := rfl
  omega

theorem publishSnapshot_sameJournal {mismatch expected sha256 : String} {bytes : Archive}
    {effect : ResidentCalculationEffect} :
    EndsIn (publishSnapshot tools mismatch expected bytes sha256 effect) s
      (SameJournal s) := by
  refine onWorkbook_ends.bind fun current s' hsame => ?_
  refine ends_lift_bind (fun logical _ => ?_) fun _ _ => hsame
  refine ends_guard_bind (fun _ => ?_) fun _ => hsame
  refine ends_guard_bind (fun _ => ?_) fun _ => hsame
  exact (onWorkbook_ends.mono (fun _ _ => hsame.trans) fun _ => hsame.trans).bind
    fun _ _ h => ends_pure h

theorem publishPublication_sameJournal (synchronized : Bool)
    (publication : PreparedResidentPublication Archive) :
    EndsIn (publishPublication tools synchronized publication) s
      (SameJournal s) := by
  cases publication with
  | none => exact ends_pure (.refl s)
  | cells effects => exact onWorkbook_ends.bind fun _ _ h => ends_pure h
  | snapshot expected bytes sha256 effect => exact publishSnapshot_sameJournal

theorem publishStaged_sameJournal (staged : Option (String × CanonicalStagedBundle)) :
    EndsIn (publishStaged staged) s (SameJournal s) := by
  cases staged with
  | none => exact ends_pure (.refl s)
  | some entry =>
    exact ends_get_bind (ends_guard_bind (fun _ => ends_modify ⟨rfl, rfl, rfl⟩) fun _ => .refl s)

theorem publishConsumed_sameJournal (consumed : Option String) :
    EndsIn (publishConsumed consumed) s (SameJournal s) := by
  cases consumed with
  | none => exact ends_pure (.refl s)
  | some changeId =>
    exact ends_get_bind (ends_guard_bind (fun _ => ends_modify ⟨rfl, rfl, rfl⟩) fun _ => .refl s)

theorem publishResidentTransaction_sameJournal (synchronized : Bool) :
    EndsIn (publishResidentTransaction tools synchronized prepared) s
      (SameJournal s) := by
  refine ends_get_bind (ends_guard_bind (fun _ => ?_) fun _ => .refl s)
  refine (publishPublication_sameJournal synchronized prepared.publication).bind
    fun _ s₁ h₁ => ?_
  refine ((publishStaged_sameJournal prepared.staged).mono (fun _ _ => h₁.trans)
    fun _ => h₁.trans).bind fun _ s₂ h₂ => ?_
  refine ((publishConsumed_sameJournal prepared.consumeStaged).mono (fun _ _ => h₂.trans)
    fun _ => h₂.trans).bind fun _ s₃ h₃ => ?_
  exact ends_get_bind (ends_guard (fun _ => h₃) fun _ => h₃)

theorem publishResidentTransaction_empty {synchronized : Bool}
    (hbase : prepared.baseSha256 = s.baseSha256)
    (hpublication : prepared.publication.publishesDocument = false)
    (hstaged : prepared.staged = none) (hconsumed : prepared.consumeStaged = none)
    (hrevision : s.revision = prepared.response.revisionAfter) :
    publishResidentTransaction tools synchronized prepared s = (.ok (), s) := by
  have hnone : prepared.publication = .none := by
    cases hkind : prepared.publication with
    | none => rfl
    | cells effects => simp [hkind, PreparedResidentPublication.publishesDocument] at hpublication
    | snapshot expected bytes sha256 effect =>
      simp [hkind, PreparedResidentPublication.publishesDocument] at hpublication
  simp [publishResidentTransaction, Exec.get, Exec.guard, bind, Exec.bind, pure, Exec.pure, hbase,
    hnone, hstaged, hconsumed, hrevision, publishPublication, publishStaged, publishConsumed]

/-- An owner that is already in the state of a stored transaction has nothing to
publish. -/
theorem stored_empty {sessionId fingerprint commitId : String}
    {host host' : HostStorage Archive}
    (hstored : Stored tools.digest storage
      (prepared.record s history sessionId requestId fingerprint commitId) host host' record)
    (hhistory : PortableHistoryState.replayBound tools.digest (host.store.stream sessionId)
      sessionId s.baseSha256 = .ok history)
    (hstate : inStateOf s (prepared.record s history sessionId requestId fingerprint commitId)
      = true)
    (hbefore : prepared.response.revisionBefore = s.revision) :
    prepared.publication.publishesDocument = false ∧ prepared.staged = none ∧
      prepared.consumeStaged = none := by
  unfold inStateOf at hstate
  obtain ⟨hrevision, hcatalog⟩ := Bool.and_eq_true_iff.mp hstate
  have hrevision := beq_iff_eq.mp hrevision
  have hcatalog : s.catalogGeneration = s.catalogGeneration +
      (if prepared.staged.isSome ∨ prepared.consumeStaged.isSome then 1 else 0) :=
    beq_iff_eq.mp hcatalog
  have hneither : ¬ (prepared.staged.isSome ∨ prepared.consumeStaged.isSome) := by
    intro h
    rw [if_pos h] at hcatalog
    omega
  refine ⟨?_, by simpa using fun h => hneither (.inl h), by
    simpa using fun h => hneither (.inr h)⟩
  by_contra hpublishes
  have hframe := hstored.outfits.frame
  obtain ⟨next, hreplays⟩ := hstored.replays
  rw [hframe] at hreplays
  obtain ⟨r, state, _, _, haccepted, _⟩ :=
    PortableHistoryState.replayBound_concat hhistory hreplays
  rw [← hframe] at haccepted
  have hprepared : findMember Effect.preparedTransaction record.effects = .value prepared :=
    hstored.outfits.findMember_eq fun _ => rfl
  apply haccepted.revision_ne hprepared (by simpa using hpublishes)
  rw [hframe, hbefore]
  exact hrevision.symm

theorem commitTransaction_ran {request : WriteRequest} {consume : Option String}
    {before : ResidentWriteSession Archive} (hhistory : w.Replays tools history)
    (hfresh : requestId ∉ w.records.map (·.requestId)) (husable : w.session.poisoned = none)
    (hnamed : requestId ≠ "") (hrequests : Requests w.session op request consume)
    (hprepares : prepareResidentTransaction tools request
      (if request.mode = .stage then some supply.changeId else none) before =
        (.ok prepared, w.session))
    (hkept : request.mode ≠ .preview ∧ prepared.response.status ≠ .failed ∧
      prepared.response.status ≠ .rolledBack) :
    EndsIn (commitTransaction tools storage supply history w.session.sessionId requestId
        (tools.digest.write w.session.baseSha256 consume request)
        { prepared with consumeStaged := consume }) w
      (Ran tools storage supply requestId history op w) := by
  have hproposes : Proposes tools supply w.session w.records history requestId op _ _ :=
    .transaction hrequests hnamed hprepares hkept
  obtain ⟨hidle, hprepared⟩ := prepareResidentTransaction_ends.ok hprepares
  refine ends_get_bind ?_
  dsimp only
  refine ((commitReconciled_ends hfresh).mono (fun _ _ h => h) fun w'' =>
    .of_failed husable hfresh (.refl _) hproposes).bind ?_
  rintro outcome ⟨session, host⟩ ⟨hcommit, hsession, record, hstored⟩
  dsimp only at hsession hstored
  subst hsession
  refine ends_modify_bind ?_
  rw [if_pos hcommit]
  refine ends_lift_bind (fun persisted hpersisted => ends_get_bind ?_) (fun _ h => by cases h)
  obtain rfl := Except.ok.inj hpersisted
  split
  · rename_i hstate
    obtain ⟨hpublication, hstaged, hconsumed⟩ :=
      stored_empty hstored hhistory hstate (hprepared.before.trans hidle.revision.symm)
    obtain ⟨hrevision, _⟩ := Bool.and_eq_true_iff.mp hstate
    have hrevision := beq_iff_eq.mp hrevision
    have hbase := hprepared.base.trans hidle.sameJournal.baseSha256.symm
    refine ends_modify_bind (ends_pure (.published w.session _ _ _ record _ husable hfresh
      (.refl _) hproposes hstored (publishResidentTransaction_empty hbase hpublication hstaged
        hconsumed hrevision) ?_ rfl))
    rw [hstored.outfits.frame]
    exact hrevision
  · refine (onSession_ends (ends_self _ _)).attempt.bind ?_
    rintro (error | _) ⟨session, host⟩ ⟨rfl, hpublish⟩
    · obtain ⟨e, hpublish⟩ := hpublish
      exact ends_modify_bind (ends_fail (.of_unpublished husable hfresh (.refl _) hproposes hstored
        ((publishResidentTransaction_sameJournal supply.synchronized).error hpublish) _))
    · refine ends_get_bind ?_
      split
      · rename_i hstate
        obtain ⟨hrevision, _⟩ := Bool.and_eq_true_iff.mp hstate
        refine ends_modify_bind (ends_pure (.published w.session session _ _ record _ husable
          hfresh (.refl _) hproposes hstored hpublish ?_ rfl))
        rw [hstored.outfits.frame]
        exact beq_iff_eq.mp hrevision
      · exact ends_modify_bind (ends_fail (.of_unpublished husable hfresh (.refl _) hproposes
          hstored ((publishResidentTransaction_sameJournal supply.synchronized).ok hpublish) _))

theorem Requests.of_idle {request : WriteRequest} {consume : Option String}
    {s s' : ResidentWriteSession Archive} (h : Requests s op request consume) (hidle : Idle s s') :
    Requests s' op request consume := by
  cases h with
  | write request => exact .write request
  | applyStaged changeId expectedRevision bundle staged base current =>
    rw [← hidle.sameJournal.resourceId]
    refine .applyStaged changeId expectedRevision bundle ?_ ?_ ?_
    · rw [hidle.owner]
      exact staged
    · rw [hidle.revision]
      exact base
    · rw [hidle.revision]
      exact current

theorem executeDurablePreparedOnResident_ran {request : WriteRequest} {consume : Option String}
    (hhistory : w.Replays tools history) (hrequests : Requests w.session op request consume) :
    EndsIn (executeDurablePreparedOnResident tools storage supply requestId request consume) w
      (Ran tools storage supply requestId history op w) := by
  refine ends_guard_bind (fun hnamed => ?_) fun _ => .of_quiet (.refl _)
  refine ensureUsable_ran fun husable => ends_get_bind ?_
  dsimp only
  refine (load_ends.mono (fun _ _ h => h) fun _ => .of_quiet).bind ?_
  rintro _ w₁ ⟨rfl, hquiet⟩
  refine ends_lift_bind (fun replayed hreplayed => ?_) fun _ _ => .of_quiet hquiet
  split
  · refine ends_modify_bind (ends_fail (.fenced ?_ hquiet.host))
    rw [hquiet.session]
    exact (SameJournal.refl _).poison _
  refine ((onHost_ends Storage.reconcile_ends).mono (fun _ _ h => h)
    fun _ h => .of_quiet (hquiet.trans ⟨h.1, h.2⟩)).bind ?_
  rintro outcome w₂ ⟨hsession, hreconciles, hsame⟩
  have hquiet₂ : w.Quiet w₂ := hquiet.trans ⟨hsession, hsame⟩
  cases outcome with
  | committed outcome =>
    refine ends_lift_bind (fun committed _ => ?_) fun _ _ => .of_quiet hquiet₂
    exact ends_lift_bind (fun persisted _ => ends_pure (.of_quiet hquiet₂))
      fun _ _ => .of_quiet hquiet₂
  | notFound =>
    dsimp only
    refine Ran.ends_after hquiet₂ ?_
    refine ((onSession_ends (ends_self _ _)).mono (fun _ _ h => h) ?_).bind ?_
    · rintro ⟨session, host⟩ ⟨rfl, e, hprepare⟩
      exact .idle (prepareResidentTransaction_ends.error hprepare) (.refl _)
    · rintro prepared ⟨session, host⟩ ⟨rfl, hprepare⟩
      obtain ⟨hidle, hprepared⟩ := prepareResidentTransaction_ends.ok hprepare
      dsimp only at hidle
      split
      · exact ends_pure (.idle hidle (.refl _))
      · rename_i hkept
        have hid : request.resourceId.toWorkbookId = session.sessionId := by
          rw [hprepared.resource, ← hidle.sameJournal.resourceId]
          rfl
        have hbase : session.baseSha256 = w.session.baseSha256 := by
          rw [hidle.sameJournal.baseSha256, hquiet₂.session]
        have hid₂ : session.sessionId = w.session.sessionId := by
          unfold ResidentWriteSession.sessionId
          rw [hidle.sameJournal.resourceId, hquiet₂.session]
        rw [hid, hid₂] at hreplayed hreconciles
        have hhistory' := hhistory
        rw [World.Replays, World.records] at hhistory'
        rw [hhistory'] at hreplayed
        obtain rfl := Except.ok.inj hreplayed
        have hw : (World.mk session w₂.host).records = w.records := by
          unfold World.records
          rw [hid₂, hquiet₂.host.store]
        rw [hid, ← hbase]
        refine (commitTransaction_ran (w := ⟨session, w₂.host⟩) ?_ ?_ ?_ hnamed ?_ hprepare
          ?_).mono (fun _ _ => .after_idle hidle (.refl _)) fun _ => .after_idle hidle (.refl _)
        · unfold World.Replays
          rw [hw]
          dsimp only
          rw [hid₂, hbase]
          exact hhistory
        · rw [hw]
          rw [hquiet.host.store] at hreconciles
          exact hreconciles
        · rw [hidle.owner, ← husable, hquiet₂.session]
        · exact hrequests.of_idle (hquiet₂.session ▸ hidle)
        · push Not at hkept
          exact hkept

theorem applyStagedDurable_ran (hhistory : w.Replays tools history)
    (changeId expectedRevision : String) :
    EndsIn (applyStagedDurable tools storage supply requestId changeId expectedRevision) w
      (Ran tools storage supply requestId history (.applyStaged changeId expectedRevision) w) := by
  refine ensureUsable_ran fun _ => ?_
  refine ends_guard_bind (fun _ => ?_) fun _ => .of_quiet (.refl _)
  refine reconciledRecordByRequestId_ran hhistory ?_ ?_
  · intro record w' hquiet
    refine ends_lift_bind (fun persisted _ => ?_) fun _ _ => hquiet
    exact ends_guard_bind (fun _ => ends_pure hquiet) fun _ => hquiet
  · intro w' _ hhistory _
    refine ends_get_bind (ends_lift_bind (fun bundle hstaged => ?_) fun _ _ => .of_quiet (.refl _))
    refine ends_guard_bind (fun hcurrent => ?_) fun _ => .of_quiet (.refl _)
    exact executeDurablePreparedOnResident_ran hhistory (.applyStaged changeId expectedRevision
      bundle (required_eq_ok.mp hstaged) hcurrent.1 hcurrent.2)

theorem ignore_ran {call : Durable Archive α}
    (h : EndsIn call w (Ran tools storage supply requestId history op w)) :
    Ran tools storage supply requestId history op w (ignore call w).2 := by
  have hend : EndsIn (ignore call) w (Ran tools storage supply requestId history op w) :=
    h.bind fun _ _ hran => ends_pure hran
  exact hend.final

/-- What one durable operation does, from an owner whose journal replays. Receipts
are submitted under a request that was looked up before. -/
theorem DurableOp.run_ran (hhistory : w.Replays tools history) (op : DurableOp)
    (hfresh : ∀ receipt, op = .receipt receipt → requestId ∉ w.records.map (·.requestId)) :
    Ran tools storage supply requestId history op w
      (op.run tools storage supply requestId w).2 := by
  cases op with
  | write request =>
    exact ignore_ran (executeDurablePreparedOnResident_ran hhistory (.write request))
  | applyStaged changeId expectedRevision =>
    exact ignore_ran (applyStagedDurable_ran hhistory changeId expectedRevision)
  | discardStaged changeId => exact ignore_ran (discardStagedDurable_ran hhistory changeId)
  | recalculate calculation =>
    exact ignore_ran (recalculateDurableWithBackend_ran hhistory calculation)
  | checkpoint label => exact ignore_ran (checkpointDurable_ran hhistory label)
  | deleteCheckpoint id => exact ignore_ran (deleteCheckpointDurable_ran hhistory id)
  | restoreCheckpoint id => exact ignore_ran (restoreCheckpointDurable_ran hhistory id)
  | createBranch name target label =>
    exact ignore_ran (createBranchAtDurable_ran hhistory name target label)
  | switchBranch name sameBase =>
    exact ignore_ran (switchBranchDurable_ran hhistory name sameBase)
  | undo sameBase => exact ignore_ran (undoDurable_ran hhistory sameBase)
  | redo sameBase => exact ignore_ran (redoDurable_ran hhistory sameBase)
  | checkout target sameBase => exact ignore_ran (checkoutDurable_ran hhistory target sameBase)
  | revokeCalculation => exact ignore_ran (revokeCalculationDurable_ran hhistory)
  | receipt receipt =>
    have hnew := hfresh receipt rfl
    cases receipt with
    | creation request => exact ignore_ran (commitCreationReceipt_ran hhistory hnew request)
    | discard request => exact ignore_ran (commitDiscardReceipt_ran hhistory hnew request)
    | resourceExport request artifact =>
      exact ignore_ran (commitExportReceipt_ran hhistory hnew request artifact)
    | fileExportPlan plan =>
      exact ignore_ran (commitFileExportReceipt_ran hhistory hnew (by simp))
    | fileExportResult result =>
      exact ignore_ran (commitFileExportReceipt_ran hhistory hnew (by simp))

end Transaction

end AgentSpreadsheet
