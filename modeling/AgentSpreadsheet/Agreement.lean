import AgentSpreadsheet.Catalog

/-! The owner stands where its journal does. `Agrees` compares the two, and every
published record carries the comparison to the longer journal. -/
namespace AgentSpreadsheet
open Library Library.Exec

/-- What one more accepted record does to a replayed history. -/
structure Extends (H : Digest Archive) (record : PreparedResidentCommit Archive)
    (history history' : PortableHistoryState) : Prop where
  moves : Moves record history.timeline history'.timeline
  stages : Stages record history.catalogIds history'.catalogIds
  revision : history'.stateRevision = some record.stateRevision
  catalogGeneration : history'.catalogGeneration = record.catalogGeneration
  head : history'.head = record.resultingHead
  calculation : history'.calculationCurrent =
    calculationAfter record history.calculationCurrent history.head
  discarded : history'.discarded = (history.discarded || record.discards)
  prepared : validatePortablePreparedRecord H record history.stateRevision = .ok ()

section Extension
variable {H : Digest Archive} {records : List (PreparedResidentCommit Archive)}
  {record : PreparedResidentCommit Archive} {sessionId baseSha256 : String}
  {history history' : PortableHistoryState}

theorem replayBound_extends
    (h : PortableHistoryState.replayBound H records sessionId baseSha256 = .ok history)
    (h' : PortableHistoryState.replayBound H (records ++ [record]) sessionId baseSha256 =
      .ok history') : Extends H record history history' := by
  obtain ⟨r, state, _, rfl, haccepted, rfl⟩ := PortableHistoryState.replayBound_concat h h'
  have hsettles := applyTransition_settles haccepted.applied
  have hmoves : Moves record r.state.timeline state.timeline :=
    applyTransition_moves haccepted.applied
  obtain ⟨hhead, _, _, hgeneration⟩ := ensure_eq_ok.mp haccepted.result
  refine ⟨hmoves, hsettles.staged, rfl, hgeneration.symm,
    hhead.symm, ?_, hsettles.discarded, haccepted.prepared⟩
  change calculationAfter record state.calculationCurrent r.state.head = _
  rw [hsettles.calculation]

theorem replayBound_revision
    (h : PortableHistoryState.replayBound H records sessionId baseSha256 = .ok history)
    (hne : records ≠ []) : ∃ revision, history.stateRevision = some revision := by
  obtain ⟨_, r, hr, rfl⟩ := PortableHistoryState.replayBound_eq_ok.mp h
  cases records using List.reverseRecOn with
  | nil => exact absurd rfl hne
  | append_singleton xs x =>
    obtain ⟨u, _, hstep⟩ := foldlM_concat_eq_ok.mp hr
    obtain ⟨state, _, rfl⟩ := (Replay.step_eq_ok H x).mp hstep
    exact ⟨x.stateRevision, rfl⟩

theorem Extends.parent (h : Extends H record history history')
    (hquiet : record.publishesDocument = false) :
    history'.timeline.parent = history.timeline.parent := by
  rcases h.moves.historyParents with hsame | ⟨_, hpublishes, _⟩
  · unfold Timeline.parent
    rw [hsame]
  · rw [hpublishes] at hquiet
    cases hquiet

end Extension

/-- The document at a head: the fold of the publications on its lineage. -/
def DocumentAt (xlsx : Xlsx Archive) (base : Archive)
    (records : List (PreparedResidentCommit Archive))
    (parent : String → Option (Option String)) (head : Option String) (document : Workbook) : Prop :=
  ∃ start nodes, xlsx.readReader base = .ok start ∧ Lineage parent head nodes ∧
    (∀ c ∈ nodes, c ∈ records.map (·.commitId)) ∧
    document.SameContent (documentAlong xlsx records start nodes)

/-- The owner and the history its journal replays to. -/
structure Agrees (tools : Tools Archive) (s : ResidentWriteSession Archive)
    (records : List (PreparedResidentCommit Archive)) (history : PortableHistoryState) : Prop where
  revision : ∀ revision, history.stateRevision = some revision → s.revision = revision
  catalogGeneration : s.catalogGeneration = history.catalogGeneration
  catalogIds : s.staged.keys = history.catalogIds
  calculation : ResidentWorkbook.isCurrent s.workbook.calculation = history.calculationCurrent
  document : DocumentAt tools.xlsx s.baseBytes records history.timeline.parent history.head
    s.workbook.document

section Documents
variable {xlsx : Xlsx Archive} {base : Archive} {records : List (PreparedResidentCommit Archive)}
  {record : PreparedResidentCommit Archive} {parent parent' : String → Option (Option String)}
  {head : Option String} {document document' : Workbook} {nodes : List String}

theorem documentAlong_concat (record : PreparedResidentCommit Archive) (start : Workbook)
    (h : ∀ c ∈ nodes, c ∈ records.map (·.commitId)) :
    documentAlong xlsx (records ++ [record]) start nodes = documentAlong xlsx records start nodes := by
  have hsame : nodes.filterMap (recordOf (records ++ [record])) =
      nodes.filterMap (recordOf records) :=
    List.filterMap_congr fun c hc => recordOf_concat_of_mem (h c hc)
  unfold documentAlong
  rw [hsame]

/-- A record that publishes nothing leaves the document of a head. -/
theorem DocumentAt.concat (h : DocumentAt xlsx base records parent head document)
    (hparent : parent' = parent) (hdocument : document'.SameContent document) :
    DocumentAt xlsx base (records ++ [record]) parent' head document' := by
  obtain ⟨start, nodes, hstart, hlineage, hmem, hcontent⟩ := h
  refine ⟨start, nodes, hstart, hparent ▸ hlineage, fun c hc => ?_, ?_⟩
  · rw [List.map_append]
    exact List.mem_append_left _ (hmem c hc)
  · rw [documentAlong_concat record start hmem]
    exact hdocument.trans hcontent

theorem DocumentAt.publish {t : Timeline}
    (h : DocumentAt xlsx base records t.parent t.head document)
    (hfresh : record.commitId ∉ records.map (·.commitId))
    (hdocument : document' = record.apply xlsx document) :
    DocumentAt xlsx base (records ++ [record]) (t.publish record.commitId).parent
      (some record.commitId) document' := by
  obtain ⟨start, nodes, hstart, hlineage, hmem, hcontent⟩ := h
  have hparent : (t.publish record.commitId).parent record.commitId = some t.head := by
    rw [Timeline.parent_publish, if_pos rfl]
  have hkept : Lineage (t.publish record.commitId).parent t.head nodes := by
    refine hlineage.congr fun c hc => ?_
    rw [Timeline.parent_publish, if_neg]
    rintro rfl
    exact hfresh (hmem _ hc)
  refine ⟨start, nodes ++ [record.commitId], hstart, .child hparent hkept, fun c hc => ?_, ?_⟩
  · rw [List.map_append]
    rcases List.mem_append.mp hc with hc | hc
    · exact List.mem_append_left _ (hmem c hc)
    · rw [List.mem_singleton.mp hc]
      simp
  · have hfold : documentAlong xlsx (records ++ [record]) start (nodes ++ [record.commitId]) =
        record.apply xlsx (documentAlong xlsx records start nodes) := by
      rw [← documentAlong_concat record start hmem]
      unfold documentAlong
      rw [List.filterMap_append, List.foldl_append]
      simp [recordOf_concat_self hfresh]
    rw [hfold, hdocument]
    unfold PreparedResidentCommit.apply
    split
    · exact PreparedResidentPublication.apply_sameContent hcontent _
    · exact hcontent

end Documents

section Control
variable {tools : Tools Archive} {supply : Supply} {s s' : ResidentWriteSession Archive}
  {records : List (PreparedResidentCommit Archive)} {history : PortableHistoryState}
  {op : DurableOp} {plan : ControlPlan Archive}

/-- A control transition moves to a document, or it stays at its head. -/
theorem Plans.target (h : Plans tools supply s records history op plan) :
    (∃ bytes, plan.targetBytes = some bytes ∧
      Materializes tools supply s records plan.resultingHead bytes ∧
      (plan.transition = .undo ∨ plan.transition = .redo ∨ plan.transition = .checkout ∨
        plan.transition = .branchSwitch ∧ plan.resultingHead ≠ history.head)) ∨
    (plan.targetBytes = none ∧ plan.resultingHead = history.head ∧
      (plan.transition = .checkpoint ∨ plan.transition = .checkpointDelete ∨
        plan.transition = .receipt ∨ plan.transition = .branchCreate ∨
        plan.transition = .branchSwitch ∨ plan.transition = .calculationInvalidate)) := by
  cases h with
  | checkpointRestore id checkpoint bytes known target =>
    exact .inl ⟨bytes, rfl, target, by simp [ControlPlan.move, ControlPlan.stay]⟩
  | switchAway name sameBase target bytes known away materializes =>
    exact .inl ⟨bytes, rfl, materializes, by simp [ControlPlan.move, ControlPlan.stay, away]⟩
  | undo sameBase head target bytes current parent materializes =>
    exact .inl ⟨bytes, rfl, materializes, by simp [ControlPlan.move, ControlPlan.stay]⟩
  | redo sameBase target bytes next materializes =>
    exact .inl ⟨bytes, rfl, materializes, by simp [ControlPlan.move, ControlPlan.stay]⟩
  | checkout target sameBase bytes materializes =>
    exact .inl ⟨bytes, rfl, materializes, by simp [ControlPlan.move, ControlPlan.stay]⟩
  | _ => exact .inr ⟨rfl, rfl, by simp [ControlPlan.stay]⟩

/-- The owner after a published control transition. -/
inductive ControlPublished (tools : Tools Archive) (plan : ControlPlan Archive)
    (s : ResidentWriteSession Archive) : ResidentWriteSession Archive → Prop
  | catalog (kind : plan.transition = .checkpoint ∨ plan.transition = .checkpointDelete) :
      ControlPublished tools plan s { s with catalogGeneration := s.catalogGeneration + 1 }
  | receipt (kind : plan.transition = .receipt) : ControlPublished tools plan s s
  | moved (bytes : Archive) (revision : String) (workbook : ResidentWorkbook Archive)
      (kind : plan.transition ≠ .checkpoint ∧ plan.transition ≠ .checkpointDelete ∧
        plan.transition ≠ .receipt) (target : plan.targetBytes = some bytes)
      (replaced : s.workbook.replaceFromBytes tools.xlsx bytes .invalidate =
        (.ok revision, workbook)) : ControlPublished tools plan s { s with workbook }
  | revoked (kind : plan.transition = .calculationInvalidate) (target : plan.targetBytes = none) :
      ControlPublished tools plan s { s with workbook := s.workbook.revokeCalculationProof }
  | metadata (kind : plan.transition ≠ .checkpoint ∧ plan.transition ≠ .checkpointDelete ∧
        plan.transition ≠ .receipt ∧ plan.transition ≠ .calculationInvalidate)
      (target : plan.targetBytes = none) :
      ControlPublished tools plan s { s with workbook := s.workbook.advanceMetadataState }

theorem ControlPlan.publish_ok (h : plan.publish tools s = (.ok (), s')) :
    ControlPublished tools plan s s' := by
  unfold ControlPlan.publish at h
  split at h
  · rename_i hkind
    obtain rfl := (Prod.mk.inj h).2
    exact .catalog hkind
  rename_i hcatalog
  push Not at hcatalog
  split at h
  · rename_i hkind
    obtain rfl := (Prod.mk.inj h).2
    exact .receipt hkind
  rename_i hreceipt
  cases htarget : plan.targetBytes with
  | some bytes =>
    rw [htarget] at h
    obtain ⟨revision, s₁, hreplace, hpure⟩ := bind_ok_iff.mp h
    obtain ⟨_, rfl⟩ := pure_ok_iff.mp hpure
    obtain ⟨hcall, rfl⟩ := onWorkbook_eq_ok.mp hreplace
    exact .moved bytes revision _ ⟨hcatalog.1, hcatalog.2, hreceipt⟩ htarget hcall
  | none =>
    rw [htarget] at h
    dsimp only at h
    split at h
    · rename_i hkind
      obtain rfl := (onWorkbook_eq_ok.mp h).2
      exact .revoked hkind htarget
    · rename_i hkind
      obtain rfl := (onWorkbook_eq_ok.mp h).2
      exact .metadata ⟨hcatalog.1, hcatalog.2, hreceipt, hkind⟩ htarget

end Control

/-- Whether a calculation is current after a publication. -/
def PreparedResidentPublication.keepsCurrent (current : Bool) :
    PreparedResidentPublication Archive → Bool
  | .none => current
  | .cells _ => false
  | .snapshot _ _ _ effect => if effect = .preserve then current else false

def stagedAfter : Option (String × CanonicalStagedBundle) → ResidentWriteSession Archive →
    ResidentWriteSession Archive
  | none => id
  | some (changeId, bundle) => insertStaged changeId bundle

def consumedAfter : Option String → ResidentWriteSession Archive → ResidentWriteSession Archive
  | none => id
  | some changeId => removeStaged changeId

def PreparedResidentTransaction.catalogAfter (prepared : PreparedResidentTransaction Archive)
    (s : ResidentWriteSession Archive) : ResidentWriteSession Archive :=
  consumedAfter prepared.consumeStaged (stagedAfter prepared.staged s)

section Transaction
variable {tools : Tools Archive} {s s' : ResidentWriteSession Archive}
  {prepared : PreparedResidentTransaction Archive} {synchronized : Bool}

theorem publishPublication_ok {publication : PreparedResidentPublication Archive}
    (hvalid : validatePublication tools.digest publication = .ok ())
    (h : publishPublication tools synchronized publication s = (.ok (), s')) :
    s' = { s with workbook := s'.workbook } ∧
      s'.workbook.document = publication.apply tools.xlsx s.workbook.document ∧
      ResidentWorkbook.isCurrent s'.workbook.calculation =
        publication.keepsCurrent (ResidentWorkbook.isCurrent s.workbook.calculation) := by
  cases publication with
  | none =>
    obtain ⟨_, rfl⟩ := pure_ok_iff.mp h
    exact ⟨rfl, rfl, rfl⟩
  | cells effects =>
    obtain ⟨revision, s₁, hpublish, hpure⟩ := bind_ok_iff.mp h
    obtain ⟨_, rfl⟩ := pure_ok_iff.mp hpure
    obtain ⟨hcall, rfl⟩ := onWorkbook_eq_ok.mp hpublish
    obtain ⟨_, hdocument, _, hcases⟩ := ResidentWorkbook.publishPreparedCellsInner_ok hcall
    simp only [validatePublication, bind_eq_ok, ensure_eq_ok] at hvalid
    obtain ⟨_, hne, _⟩ := hvalid
    rcases hcases with ⟨hempty, _⟩ | ⟨_, _, hdirty⟩
    · exact absurd hempty hne
    · refine ⟨rfl, hdocument, ?_⟩
      dsimp only
      rw [hdirty]
      rfl
  | snapshot expected bytes sha256 effect =>
    obtain ⟨howner, w, revision, hcaptures, hreplace⟩ := publishSnapshot_ends.ok h
    obtain ⟨hread, _, _, hcalculation⟩ := ResidentWorkbook.replaceFromBytes_ok hreplace
    refine ⟨howner, ?_, ?_⟩
    · simp [PreparedResidentPublication.apply, hread]
    · rw [hcalculation, hcaptures.calculation]
      cases effect <;> simp [PreparedResidentPublication.keepsCurrent]

theorem publishStaged_ok {staged : Option (String × CanonicalStagedBundle)}
    (h : publishStaged staged s = (.ok (), s')) :
    s' = stagedAfter staged s := by
  cases staged with
  | none =>
    obtain ⟨_, rfl⟩ := pure_ok_iff.mp h
    rfl
  | some entry =>
    obtain ⟨_, _, hget, hrest⟩ := bind_ok_iff.mp h
    obtain ⟨rfl, rfl⟩ := get_ok_iff.mp hget
    obtain ⟨_, _, hguard, hmodify⟩ := bind_ok_iff.mp hrest
    obtain ⟨_, rfl⟩ := guard_ok_iff.mp hguard
    exact modify_ok_iff.mp hmodify

theorem publishConsumed_ok {consumed : Option String}
    (h : publishConsumed consumed s = (.ok (), s')) :
    s' = consumedAfter consumed s := by
  cases consumed with
  | none =>
    obtain ⟨_, rfl⟩ := pure_ok_iff.mp h
    rfl
  | some changeId =>
    obtain ⟨_, _, hget, hrest⟩ := bind_ok_iff.mp h
    obtain ⟨rfl, rfl⟩ := get_ok_iff.mp hget
    obtain ⟨_, _, hguard, hmodify⟩ := bind_ok_iff.mp hrest
    obtain ⟨_, rfl⟩ := guard_ok_iff.mp hguard
    exact modify_ok_iff.mp hmodify

/-- A published transaction: its publication, then its catalog. -/
theorem publishResidentTransaction_ok
    (hvalid : validatePublication tools.digest prepared.publication = .ok ())
    (h : publishResidentTransaction tools synchronized prepared s = (.ok (), s')) :
    ∃ w : ResidentWorkbook Archive, s' = prepared.catalogAfter { s with workbook := w } ∧
      w.document = prepared.publication.apply tools.xlsx s.workbook.document ∧
      ResidentWorkbook.isCurrent w.calculation =
        prepared.publication.keepsCurrent (ResidentWorkbook.isCurrent s.workbook.calculation) := by
  obtain ⟨_, _, hget, h₁⟩ := bind_ok_iff.mp h
  obtain ⟨rfl, rfl⟩ := get_ok_iff.mp hget
  obtain ⟨_, _, hguard, h₂⟩ := bind_ok_iff.mp h₁
  obtain ⟨_, rfl⟩ := guard_ok_iff.mp hguard
  obtain ⟨_, s₁, hpublication, h₃⟩ := bind_ok_iff.mp h₂
  obtain ⟨_, s₂, hstaged, h₄⟩ := bind_ok_iff.mp h₃
  obtain ⟨_, s₃, hconsumed, h₅⟩ := bind_ok_iff.mp h₄
  obtain ⟨_, _, hfinal, h₆⟩ := bind_ok_iff.mp h₅
  obtain ⟨rfl, rfl⟩ := get_ok_iff.mp hfinal
  obtain ⟨_, rfl⟩ := guard_ok_iff.mp h₆
  obtain ⟨howner, hdocument, hcalculation⟩ := publishPublication_ok hvalid hpublication
  have hcatalog := publishConsumed_ok hconsumed
  rw [publishStaged_ok hstaged] at hcatalog
  refine ⟨s₁.workbook, ?_, hdocument, hcalculation⟩
  rw [← howner]
  exact hcatalog

end Transaction

/-- The journal of an owner, with what its replay says about it. -/
structure Journaled (tools : Tools Archive) (s : ResidentWriteSession Archive)
    (records : List (PreparedResidentCommit Archive)) (history : PortableHistoryState) : Prop where
  replays : PortableHistoryState.replayBound tools.digest records s.sessionId s.baseSha256 =
    .ok history
  length : records.length < 2 ^ 64

section Published
variable {tools : Tools Archive} {storage : Storage Archive} {supply : Supply}
  {s s' : ResidentWriteSession Archive} {records : List (PreparedResidentCommit Archive)}
  {record : PreparedResidentCommit Archive} {history history' : PortableHistoryState}
  {op : DurableOp} {requestId commitId : String} {reason : Option String}

theorem Journaled.holds (h : Journaled tools s records history) : HoldsRecords records history := by
  obtain ⟨_, r, hr, rfl⟩ := PortableHistoryState.replayBound_eq_ok.mp h.replays
  exact replayFrom_holdsRecords hr

/-- Only a mutation or a staged apply publishes a document. -/
theorem Extends.quiet (h : Extends tools.digest record history history')
    (hkind : record.transition ≠ .mutation ∧ record.transition ≠ .stageApply) :
    record.publishesDocument = false := by
  have hprepared := h.prepared
  unfold PreparedResidentCommit.publishesDocument
  cases hfind : findMember Effect.preparedTransaction record.effects with
  | value prepared =>
    obtain ⟨_, _, _, ⟨hpublishes, _⟩, _⟩ := (validatePortablePreparedRecord_value hfind).mp hprepared
    dsimp only
    by_contra htrue
    rcases hpublishes (Bool.eq_true_of_not_eq_false htrue) with hk | hk
    · exact hkind.1 hk
    · exact hkind.2 hk
  | _ => rfl

/-- What a journal's next record needs from an owner that has published it. -/
theorem Agrees.of_extends (h : Extends tools.digest record history history')
    (hrevision : s'.revision = record.stateRevision)
    (hgeneration : s'.catalogGeneration = record.catalogGeneration)
    (hids : s'.staged.keys = history'.catalogIds)
    (hcalculation : ResidentWorkbook.isCurrent s'.workbook.calculation =
      calculationAfter record history.calculationCurrent history.head)
    (hdocument : DocumentAt tools.xlsx s'.baseBytes (records ++ [record])
      history'.timeline.parent history'.head s'.workbook.document) :
    Agrees tools s' (records ++ [record]) history' where
  revision := by
    intro revision hstate
    rw [h.revision] at hstate
    rw [hrevision, Option.some.inj hstate]
  catalogGeneration := hgeneration.trans h.catalogGeneration.symm
  catalogIds := hids
  calculation := hcalculation.trans h.calculation.symm
  document := hdocument

theorem Stages.kept_of {ids ids' : Finset String} (h : Stages record ids ids')
    (hkind : record.transition ≠ .catalogStage ∧ record.transition ≠ .catalogDiscard ∧
      record.transition ≠ .stageApply) : ids' = ids := by
  cases h with
  | kept => rfl
  | stage _ _ _ kind => exact absurd kind hkind.1
  | apply _ _ kind => exact absurd kind hkind.2.2
  | discard _ kind => exact absurd kind hkind.2.1

theorem Journaled.documentAt (hxlsx : tools.xlsx.RoundTrips)
    (hjournal : Journaled tools s records history)
    (hjournal' : Journaled tools s (records ++ [record]) history')
    (hextends : Extends tools.digest record history history')
    (hquiet : record.publishesDocument = false) {bytes : Archive} {document : Workbook}
    (hbytes : Materializes tools supply s records history'.head bytes)
    (hread : tools.xlsx.readReader bytes = .ok document) :
    DocumentAt tools.xlsx s.baseBytes (records ++ [record]) history'.timeline.parent history'.head
      document := by
  obtain ⟨_, hwell⟩ := replayBound_wellFormed hjournal.replays
  obtain ⟨_, hwell'⟩ := replayBound_wellFormed hjournal'.replays
  obtain ⟨nodes, hlineage', _⟩ := hwell'.exists_lineage hwell'.head
  have hparent := hextends.parent hquiet
  have hlineage : Lineage history.timeline.parent history'.head nodes := hparent ▸ hlineage'
  have hsub : ∀ c ∈ nodes, c ∈ records.map (·.commitId) := by
    intro c hc
    obtain ⟨up, hup⟩ := hlineage.known hc
    obtain ⟨found, hfound, _⟩ := hjournal.holds c up hup
    have hmatch := List.find?_some hfound
    exact List.mem_map.mpr ⟨found, List.mem_of_find?_eq_some hfound, beq_iff_eq.mp hmatch⟩
  have hlength : nodes.length < 2 ^ 64 := by
    have hle : nodes.length ≤ (records.map (·.commitId)).length :=
      (List.subperm_of_subset hlineage.nodup hsub).length_le
    have := hjournal.length
    rw [List.length_map] at hle
    omega
  obtain ⟨start, parsed, hstart, hparsed, hcontent⟩ := materializePortableHead_content hxlsx
    hjournal.holds hlineage hlength hbytes
  rw [hread] at hparsed
  obtain rfl := Except.ok.inj hparsed
  refine ⟨start, nodes, hstart, hlineage', fun c hc => ?_, ?_⟩
  · rw [List.map_append]
    exact List.mem_append_left _ (hsub c hc)
  · rw [documentAlong_concat record start hsub]
    exact hcontent

theorem isCurrent_revokeCalculationProof (w : ResidentWorkbook Archive) :
    ResidentWorkbook.isCurrent w.revokeCalculationProof.calculation = false := by
  unfold ResidentWorkbook.revokeCalculationProof ResidentWorkbook.invalidateCalculationProof
  dsimp only
  split
  · rename_i hdirty
    rw [hdirty]
    rfl
  · rfl

theorem Agrees.control (hxlsx : tools.xlsx.RoundTrips) {plan : ControlPlan Archive}
    (hagrees : Agrees tools s records history) (hjournal : Journaled tools s records history)
    (hjournal' : Journaled tools s (records ++ [record]) history')
    (hplans : Plans tools supply s records history op plan)
    (houtfits : storage.Outfits (plan.record tools s history requestId commitId) record)
    (hpublish : plan.publish tools { s with poisoned := reason } = (.ok (), s'))
    (hrevision : s'.revision = record.stateRevision) :
    Agrees tools s' (records ++ [record]) history' := by
  have hextends := replayBound_extends hjournal.replays hjournal'.replays
  have hframe := houtfits.frame
  have hkind : record.transition = plan.transition := by rw [hframe]; rfl
  have hhead : record.resultingHead = plan.resultingHead := by rw [hframe]; rfl
  have hgeneration : record.catalogGeneration = s.catalogGeneration +
      (if plan.transition = .checkpoint ∨ plan.transition = .checkpointDelete then 1 else 0) := by
    rw [hframe]
    rfl
  have hquiet : record.publishesDocument = false := hextends.quiet (by
    rw [hkind]
    rcases hplans.target with ⟨_, _, _, h⟩ | ⟨_, _, h⟩
    · rcases h with h | h | h | ⟨h, _⟩ <;> simp [h]
    · rcases h with h | h | h | h | h | h <;> simp [h])
  have hids : history'.catalogIds = s.staged.keys := by
    rw [hagrees.catalogIds]
    refine hextends.stages.kept_of ?_
    rw [hkind]
    rcases hplans.target with ⟨_, _, _, h⟩ | ⟨_, _, h⟩
    · rcases h with h | h | h | ⟨h, _⟩ <;> simp [h]
    · rcases h with h | h | h | h | h | h <;> simp [h]
  -- the document of an owner that stays at its head
  have hstay (htarget : plan.targetBytes = none) :
      DocumentAt tools.xlsx s.baseBytes (records ++ [record]) history'.timeline.parent
        history'.head s.workbook.document := by
    rw [hextends.head, hhead]
    rcases hplans.target with ⟨_, hsome, _⟩ | ⟨_, hresult, _⟩
    · rw [htarget] at hsome
      cases hsome
    · rw [hresult]
      exact hagrees.document.concat (hextends.parent hquiet) (.refl _)
  have hnone (hk : plan.transition = .checkpoint ∨ plan.transition = .checkpointDelete ∨
      plan.transition = .receipt) : plan.targetBytes = none := by
    rcases hplans.target with ⟨_, _, _, h⟩ | ⟨h, _⟩
    · rcases hk with hk | hk | hk <;> simp [hk] at h
    · exact h
  rcases ControlPlan.publish_ok hpublish with hk | hk | ⟨bytes, revision, workbook, hk, htarget,
    hreplaced⟩ | ⟨hk, htarget⟩ | ⟨hk, htarget⟩
  · refine .of_extends hextends hrevision ?_ hids.symm ?_ (hstay (hnone (by tauto)))
    · rw [hgeneration, if_pos hk]
    · rw [hagrees.calculation, calculationAfter, hkind]
      rcases hk with hk | hk <;> rw [hk]
  · refine .of_extends hextends hrevision ?_ hids.symm ?_ (hstay (hnone (by tauto)))
    · rw [hgeneration, if_neg (by simp [hk])]
      rfl
    · rw [hagrees.calculation, calculationAfter, hkind, hk]
  · obtain ⟨hread, _, _, hcalculation⟩ := ResidentWorkbook.replaceFromBytes_ok hreplaced
    rcases hplans.target with ⟨bytes', hsome, hbytes, hmoves⟩ | ⟨hstays, _⟩
    swap
    · rw [htarget] at hstays
      cases hstays
    rw [htarget] at hsome
    obtain rfl := Option.some.inj hsome
    refine .of_extends hextends hrevision ?_ hids.symm ?_ ?_
    · rw [hgeneration, if_neg (by tauto)]
      rfl
    · rw [hcalculation, calculationAfter, hkind]
      rcases hmoves with hm | hm | hm | ⟨hm, haway⟩
      · rw [hm]; rfl
      · rw [hm]; rfl
      · rw [hm]; rfl
      · rw [hm, hhead]
        dsimp only
        rw [if_pos (Ne.symm haway)]
        rfl
    · rw [← hhead, ← hextends.head] at hbytes
      exact hjournal.documentAt hxlsx hjournal' hextends hquiet hbytes hread
  · refine .of_extends hextends hrevision ?_ hids.symm ?_ ?_
    · rw [hgeneration, if_neg (by simp [hk])]
      rfl
    · rw [calculationAfter, hkind, hk]
      exact isCurrent_revokeCalculationProof _
    · have hsame : s.workbook.revokeCalculationProof.document = s.workbook.document := by
        unfold ResidentWorkbook.revokeCalculationProof ResidentWorkbook.invalidateCalculationProof
        dsimp only
        split <;> rfl
      dsimp only
      rw [hsame]
      exact hstay htarget
  · refine .of_extends hextends hrevision ?_ hids.symm ?_ (hstay htarget)
    · rw [hgeneration, if_neg (by tauto)]
      rfl
    · rcases hplans.target with ⟨_, hsome, _⟩ | ⟨_, hresult, hstays⟩
      · rw [htarget] at hsome
        cases hsome
      change ResidentWorkbook.isCurrent s.workbook.calculation = _
      rw [hagrees.calculation, calculationAfter, hkind, hhead, hresult]
      rcases hstays with h | h | h | h | h | h
      · exact absurd h hk.1
      · exact absurd h hk.2.1
      · exact absurd h hk.2.2.1
      · rw [h]
      · rw [h]
        simp
      · exact absurd h hk.2.2.2

theorem PreparedResidentPublication.eq_none {publication : PreparedResidentPublication Archive}
    (h : publication.publishesDocument = false) : publication = .none := by
  cases publication with
  | none => rfl
  | cells effects => cases h
  | snapshot expected bytes sha256 effect => cases h

theorem Extends.published (h : Extends tools.digest record history history')
    (hkind : record.transition = .mutation ∨ record.transition = .stageApply)
    (hpublishes : record.publishesDocument = true) :
    history'.timeline = history.timeline.publish record.commitId := by
  have hmoves := h.moves
  generalize history'.timeline = t' at hmoves
  cases hmoves with
  | publish => rfl
  | unmoved _ quiet =>
    rw [quiet hkind.symm] at hpublishes
    cases hpublishes
  | _ => rcases hkind with hk | hk <;> simp_all

section Transaction
variable {prepared : PreparedResidentTransaction Archive} {sessionId fingerprint : String}

theorem Stages.catalogAfter {ids' : Finset String} (w : ResidentWorkbook Archive)
    (reason : Option String) (h : Stages record s.staged.keys ids')
    (hvalue : findMember Effect.preparedTransaction record.effects = .value prepared)
    (hstaged : prepared.staged.isSome = true ↔ record.transition = .catalogStage)
    (hconsumed : prepared.consumeStaged.isSome = true ↔ record.transition = .stageApply)
    (hdiscard : record.transition ≠ .catalogDiscard) :
    (prepared.catalogAfter { s with workbook := w, poisoned := reason }).staged.keys = ids' ∧
      (prepared.catalogAfter { s with workbook := w, poisoned := reason }).catalogGeneration =
        s.catalogGeneration +
          (if prepared.staged.isSome ∨ prepared.consumeStaged.isSome then 1 else 0) := by
  unfold PreparedResidentTransaction.catalogAfter
  cases h with
  | kept kind =>
    have hnone : prepared.staged = none := by
      rw [← Option.not_isSome_iff_eq_none, hstaged]
      exact kind.1
    have hkeep : prepared.consumeStaged = none := by
      rw [← Option.not_isSome_iff_eq_none, hconsumed]
      exact kind.2.2
    rw [hnone, hkeep]
    simp [stagedAfter, consumedAfter]
  | stage found changeId bundle kind value staged fresh =>
    rw [hvalue] at value
    cases value
    have hkeep : prepared.consumeStaged = none := by
      rw [← Option.not_isSome_iff_eq_none, hconsumed, kind]
      simp
    rw [staged, hkeep]
    refine ⟨?_, by simp [stagedAfter, consumedAfter, insertStaged]⟩
    ext id
    simp [stagedAfter, consumedAfter, insertStaged, Finmap.mem_keys]
  | apply found changeId kind value consumed known =>
    rw [hvalue] at value
    cases value
    have hnone : prepared.staged = none := by
      rw [← Option.not_isSome_iff_eq_none, hstaged, kind]
      simp
    rw [consumed, hnone]
    refine ⟨?_, by simp [stagedAfter, consumedAfter, removeStaged]⟩
    ext id
    simp [stagedAfter, consumedAfter, removeStaged, Finmap.mem_keys]
  | discard _ kind => exact absurd kind hdiscard

theorem calculationAfter_transaction {current : Bool} {head : Option String}
    (hkind : record.transition = .mutation ∨ record.transition = .stageApply)
    (hvalue : findMember Effect.preparedTransaction record.effects = .value prepared) :
    calculationAfter record current head = prepared.publication.keepsCurrent current := by
  unfold calculationAfter
  rcases hkind with hk | hk
  · rw [hk, hvalue]
    dsimp only
    cases prepared.publication <;> rfl
  · rw [hk, hvalue]
    dsimp only
    cases prepared.publication <;> rfl

theorem Agrees.transaction (hagrees : Agrees tools s records history)
    (hjournal : Journaled tools s records history)
    (hjournal' : Journaled tools s (records ++ [record]) history')
    (houtfits : storage.Outfits
      (prepared.record s history sessionId requestId fingerprint commitId) record)
    {synchronized : Bool} (hpublish : publishResidentTransaction tools synchronized prepared
      { s with poisoned := reason } = (.ok (), s'))
    (hrevision : s'.revision = record.stateRevision) :
    Agrees tools s' (records ++ [record]) history' := by
  have hextends := replayBound_extends hjournal.replays hjournal'.replays
  have hframe := houtfits.frame
  have hvalue : findMember Effect.preparedTransaction record.effects = .value prepared :=
    houtfits.findMember_eq fun _ => rfl
  obtain ⟨_, _, hpublication, ⟨hkind, hother, hstaged, hconsumed⟩, hkinds⟩ :=
    (validatePortablePreparedRecord_value hvalue).mp hextends.prepared
  obtain ⟨w, rfl, hdocument, hcalculation⟩ := publishResidentTransaction_ok hpublication hpublish
  have hpublishes : record.publishesDocument = prepared.publication.publishesDocument := by
    unfold PreparedResidentCommit.publishesDocument
    rw [hvalue]
  have hstages := hextends.stages
  rw [← hagrees.catalogIds] at hstages
  obtain ⟨hids, hgeneration⟩ := hstages.catalogAfter w reason hvalue hstaged
    hconsumed (by rcases hkinds with h | h | h | h <;> simp [h])
  have hbase : (prepared.catalogAfter { s with workbook := w, poisoned := reason }).baseBytes =
      s.baseBytes := by
    unfold PreparedResidentTransaction.catalogAfter
    cases prepared.staged <;> cases prepared.consumeStaged <;> rfl
  have hworkbook : (prepared.catalogAfter { s with workbook := w, poisoned := reason }).workbook =
      w := by
    unfold PreparedResidentTransaction.catalogAfter
    cases prepared.staged <;> cases prepared.consumeStaged <;> rfl
  refine .of_extends hextends hrevision ?_ hids ?_ ?_
  · rw [hframe]
    exact hgeneration
  · rw [hworkbook, hcalculation, ← hagrees.calculation]
    have hquiet (hk : record.transition = .catalogStage ∨ record.transition = .receipt) :
        prepared.publication = .none := by
      refine PreparedResidentPublication.eq_none (Bool.eq_false_iff.mpr fun hdoc => ?_)
      rcases hk with hk | hk <;> simp [hk, hdoc] at hkind
    rcases hkinds with hk | hk | hk | hk
    · rw [calculationAfter_transaction (.inl hk) hvalue]
    · rw [calculationAfter_transaction (.inr hk) hvalue]
    · rw [calculationAfter, hk, hquiet (.inl hk)]
      rfl
    · rw [calculationAfter, hk, hquiet (.inr hk)]
      rfl
  · rw [hbase, hworkbook]
    cases hdoc : prepared.publication.publishesDocument with
    | false =>
      have hhead : history'.head = history.head := by
        rw [hextends.head, hframe]
        change (if prepared.publication.publishesDocument then _ else _) = _
        rw [hdoc]
        rfl
      rw [hdoc] at hpublishes
      rw [hhead, hdocument, PreparedResidentPublication.eq_none hdoc]
      exact hagrees.document.concat (hextends.parent hpublishes) (.refl _)
    | true =>
      rw [hdoc] at hpublishes
      have htimeline := hextends.published (hkind hdoc) hpublishes
      have hhead : history'.head = some record.commitId := congrArg Timeline.head htimeline
      have hfresh : record.commitId ∉ records.map (·.commitId) := by
        have hnodup := (replayBound_wellFormed hjournal'.replays).1
        rw [List.map_append] at hnodup
        intro hmem
        exact (List.nodup_append.mp hnodup).2.2 _ hmem _ (List.mem_singleton_self _) rfl
      rw [htimeline, hhead]
      refine DocumentAt.publish hagrees.document hfresh ?_
      rw [hdocument]
      unfold PreparedResidentCommit.apply
      rw [hvalue]

end Transaction

theorem Agrees.discard (hagrees : Agrees tools s records history)
    (hjournal : Journaled tools s records history)
    (hjournal' : Journaled tools s (records ++ [record]) history') {changeId : String}
    (houtfits : storage.Outfits (discardRecord tools s history requestId changeId commitId) record)
    (hpublish : (Exec.modify (removeStaged changeId) : Owner Archive Unit)
      { s with poisoned := reason } = (.ok (), s'))
    (hrevision : s'.revision = record.stateRevision) :
    Agrees tools s' (records ++ [record]) history' := by
  have hextends := replayBound_extends hjournal.replays hjournal'.replays
  have hframe := houtfits.frame
  have hkind : record.transition = .catalogDiscard := by rw [hframe]; rfl
  have hquiet := hextends.quiet (by simp [hkind])
  have hnamed : findValue Effect.discardStagedChangeId record.effects = some (.text changeId) :=
    houtfits.findValue_eq fun _ => rfl
  obtain rfl := modify_ok_iff.mp hpublish
  refine .of_extends hextends hrevision ?_ ?_ ?_ ?_
  · rw [hframe]
    rfl
  · have hstages := hextends.stages
    generalize history'.catalogIds = ids' at hstages
    cases hstages with
    | kept kind => exact absurd hkind kind.2.1
    | stage _ _ _ kind => simp [hkind] at kind
    | apply _ _ kind => simp [hkind] at kind
    | discard id _ named known =>
      rw [hnamed] at named
      obtain rfl := Option.some.inj named
      rw [← hagrees.catalogIds]
      ext id
      simp [removeStaged, Finmap.mem_keys]
  · rw [calculationAfter, hkind]
    exact hagrees.calculation
  · have hhead : history'.head = history.head := by rw [hextends.head, hframe]; rfl
    rw [hhead]
    exact hagrees.document.concat (hextends.parent hquiet) (.refl _)

theorem publishPreparedCalculation_ok {w w' : ResidentWorkbook Archive}
    {evaluation : EvaluatorEvaluation} {coverage : EvaluationCoverage} {revision : String}
    (h : w.publishPreparedCalculation tools.xlsx evaluation coverage = (.ok revision, w')) :
    w'.document.SameContent w.document ∧ ResidentWorkbook.isCurrent w'.calculation = true := by
  unfold ResidentWorkbook.publishPreparedCalculation ResidentWorkbook.publishFormulaCaches at h
  cases hcaches : applyFormulaCacheUpdates tools.xlsx w.document evaluation.cacheUpdates with
  | error e =>
    rw [hcaches] at h
    cases h
  | ok document =>
    rw [hcaches] at h
    obtain rfl := (Prod.mk.inj h).2
    exact ⟨applyFormulaCacheUpdates_sameContent hcaches, rfl⟩

theorem Agrees.recalculated (hagrees : Agrees tools s records history)
    (hjournal : Journaled tools s records history)
    (hjournal' : Journaled tools s (records ++ [record]) history') {calculation : Calculation}
    {evaluation : EvaluatorEvaluation} {coverage : EvaluationCoverage}
    (houtfits : storage.Outfits
      (calculation.record tools s history requestId commitId evaluation) record)
    (hpublish : (do
      let _ ← onWorkbook fun w => w.publishPreparedCalculation tools.xlsx evaluation coverage :
        Owner Archive Unit) { s with poisoned := reason } = (.ok (), s'))
    (hrevision : s'.revision = record.stateRevision) :
    Agrees tools s' (records ++ [record]) history' := by
  have hextends := replayBound_extends hjournal.replays hjournal'.replays
  have hframe := houtfits.frame
  have hkind : record.transition = .calculationPublish := by rw [hframe]; rfl
  have hquiet := hextends.quiet (by simp [hkind])
  obtain ⟨_, s₁, hcall, hpure⟩ := bind_ok_iff.mp hpublish
  obtain ⟨_, rfl⟩ := pure_ok_iff.mp hpure
  obtain ⟨hpublished, rfl⟩ := onWorkbook_eq_ok.mp hcall
  obtain ⟨hdocument, hcurrent⟩ := publishPreparedCalculation_ok hpublished
  refine .of_extends hextends hrevision ?_ ?_ ?_ ?_
  · rw [hframe]
    exact hagrees.catalogGeneration
  · rw [hextends.stages.kept_of (by simp [hkind])]
    exact hagrees.catalogIds
  · rw [calculationAfter, hkind]
    exact hcurrent
  · have hhead : history'.head = history.head := by rw [hextends.head, hframe]; rfl
    rw [hhead]
    exact hagrees.document.concat (hextends.parent hquiet) hdocument

theorem Agrees.published (hxlsx : tools.xlsx.RoundTrips) {proposed : PreparedResidentCommit Archive}
    {publish : Owner Archive Unit} (hagrees : Agrees tools s records history)
    (hjournal : Journaled tools s records history)
    (hjournal' : Journaled tools s (records ++ [record]) history')
    (hproposes : Proposes tools supply s records history requestId op proposed publish)
    (houtfits : storage.Outfits proposed record)
    (hpublish : publish { s with poisoned := reason } = (.ok (), s'))
    (hrevision : s'.revision = record.stateRevision) :
    Agrees tools s' (records ++ [record]) history' := by
  cases hproposes with
  | control plans named =>
    exact hagrees.control hxlsx hjournal hjournal' plans houtfits hpublish hrevision
  | transaction requests named prepares kept =>
    exact hagrees.transaction hjournal hjournal' houtfits hpublish hrevision
  | discard changeId named staged =>
    exact hagrees.discard hjournal hjournal' houtfits hpublish hrevision
  | calculation named prepares =>
    exact hagrees.recalculated hjournal hjournal' houtfits hpublish hrevision

end Published

end AgentSpreadsheet
