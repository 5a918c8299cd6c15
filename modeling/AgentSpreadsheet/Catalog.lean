import AgentSpreadsheet.Materialize

/-! What an accepted record does to the replayed state besides its document
history: the staged catalog, the calculation status and the discard flag. -/
namespace AgentSpreadsheet
open Library

inductive Stages (record : PreparedResidentCommit Archive) (ids : Finset String) :
    Finset String → Prop
  | kept (kind : record.transition ≠ .catalogStage ∧ record.transition ≠ .catalogDiscard ∧
      record.transition ≠ .stageApply) : Stages record ids ids
  | stage (prepared : PreparedResidentTransaction Archive) (changeId : String)
      (bundle : CanonicalStagedBundle) (kind : record.transition = .catalogStage)
      (value : findMember Effect.preparedTransaction record.effects = .value prepared)
      (staged : prepared.staged = some (changeId, bundle)) (fresh : changeId ∉ ids) :
      Stages record ids (insert changeId ids)
  | apply (prepared : PreparedResidentTransaction Archive) (changeId : String)
      (kind : record.transition = .stageApply)
      (value : findMember Effect.preparedTransaction record.effects = .value prepared)
      (consumed : prepared.consumeStaged = some changeId) (known : changeId ∈ ids) :
      Stages record ids (ids.erase changeId)
  | discard (changeId : String) (kind : record.transition = .catalogDiscard)
      (named : (findValue Effect.discardStagedChangeId record.effects).bind Value.asStr =
        some changeId) (known : changeId ∈ ids) :
      Stages record ids (ids.erase changeId)

def PreparedResidentCommit.discards (record : PreparedResidentCommit Archive) : Bool :=
  decide (record.transition = .receipt) &&
    !(findMember Effect.receiptOperation record.effects).isPresent &&
    !(record.effects.any fun e => e.resourceCreation.isPresent) &&
    record.effects.any fun e => e.resourceDiscard.isPresent

/-- The transition of a record outside the document history. -/
structure Settles (record : PreparedResidentCommit Archive) (s s' : PortableHistoryState) : Prop where
  calculation : s'.calculationCurrent = s.calculationCurrent
  staged : Stages record s.catalogIds s'.catalogIds
  discarded : s'.discarded = (s.discarded || record.discards)

theorem Member.get_eq_ok {m : Member α} {message : String} {a : α} :
    m.get message = .ok a ↔ m = .value a := by
  cases m <;> simp [Member.get]

section Inversion
variable {H : Digest Archive} {record : PreparedResidentCommit Archive}
  {s s' : PortableHistoryState} {requestIds : Finset String}

/-- A transition that is no receipt and leaves the catalog. -/
theorem Settles.of_kept (kind : record.transition ≠ .catalogStage ∧
    record.transition ≠ .catalogDiscard ∧ record.transition ≠ .stageApply)
    (hreceipt : record.transition ≠ .receipt)
    (calculation : s'.calculationCurrent = s.calculationCurrent)
    (ids : s'.catalogIds = s.catalogIds) (discarded : s'.discarded = s.discarded) :
    Settles record s s' where
  calculation := calculation
  staged := by
    rw [ids]
    exact .kept kind
  discarded := by simp [discarded, PreparedResidentCommit.discards, hreceipt]

theorem applyReceipt_discarded (hk : record.transition = .receipt)
    (h : applyReceipt H record s requestIds = .ok s') :
    s'.discarded = (s.discarded || record.discards) := by
  unfold applyReceipt at h
  dsimp only at h
  unfold PreparedResidentCommit.discards
  split at h
  · rename_i hoperation
    simp only [bind_eq_ok, pure_eq_ok] at h
    obtain ⟨_, _, _, _, rfl⟩ := h
    simp [hoperation]
  rename_i hoperation
  split at h
  · rename_i hcreation
    simp only [bind_eq_ok, pure_eq_ok] at h
    obtain ⟨_, _, rfl⟩ := h
    simp [hcreation]
  rename_i hcreation
  split at h
  · rename_i hdiscard
    simp only [bind_eq_ok, pure_eq_ok] at h
    obtain ⟨_, _, rfl⟩ := h
    simp [hk, hdiscard, hoperation, Bool.eq_false_iff.mpr hcreation]
  rename_i hdiscard
  have hkept (hsame : s'.discarded = s.discarded) : s'.discarded = (s.discarded ||
      (decide (record.transition = .receipt) &&
        !(findMember Effect.receiptOperation record.effects).isPresent &&
        !(record.effects.any fun e => e.resourceCreation.isPresent) &&
        record.effects.any fun e => e.resourceDiscard.isPresent)) := by
    rw [hsame, Bool.eq_false_iff.mpr hdiscard, Bool.and_false, Bool.or_false]
  apply hkept
  split at h
  · simp only [bind_eq_ok, pure_eq_ok] at h
    obtain ⟨_, _, rfl⟩ := h
    rfl
  split at h
  · simp only [admitFileExportPlan, bind_eq_ok, pure_eq_ok] at h
    obtain ⟨_, _, _, _, _, _, _, _, rfl⟩ := h
    rfl
  split at h
  · simp only [admitFileExportResult, bind_eq_ok, pure_eq_ok] at h
    obtain ⟨_, _, _, _, _, _, rfl⟩ := h
    rfl
  · simp only [bind_eq_ok, pure_eq_ok] at h
    obtain ⟨_, _, rfl⟩ := h
    rfl

theorem applyMutation_frame (h : applyMutation record s = .ok s') :
    s'.calculationCurrent = s.calculationCurrent ∧ s'.catalogIds = s.catalogIds ∧
      s'.discarded = s.discarded := by
  unfold applyMutation at h
  simp only [bind_eq_ok] at h
  obtain ⟨_, _, h⟩ := h
  obtain ⟨_, _, rfl⟩ | ⟨_, _, rfl⟩ := applyPublication_cases h <;> exact ⟨rfl, rfl, rfl⟩

theorem applyTransition_settles (h : applyTransition H record s requestIds = .ok s') :
    Settles record s s' := by
  unfold applyTransition at h
  split at h
  case h_1 hk =>
    have hframe := applyReceipt_frame h
    refine ⟨?_, ?_, applyReceipt_discarded hk h⟩
    · rw [hframe]
    · rw [hframe]
      exact .kept (by simp [hk])
  case h_2 hk =>
    obtain ⟨hcalculation, hids, hdiscarded⟩ := applyMutation_frame h
    exact .of_kept (by simp [hk]) (by simp [hk]) hcalculation hids hdiscarded
  case h_3 hk =>
    simp only [applyStageApply, bind_eq_ok, pure_eq_ok, Member.get_eq_ok, required_eq_ok,
      ensure_eq_ok] at h
    obtain ⟨u, hu, prepared, hvalue, changeId, hconsumed, _, hknown, rfl⟩ := h
    obtain ⟨hcalculation, hids, hdiscarded⟩ := applyMutation_frame hu
    refine ⟨hcalculation, ?_, ?_⟩
    · dsimp only
      rw [hids] at hknown ⊢
      exact .apply prepared changeId hk hvalue hconsumed hknown
    · simp [PreparedResidentCommit.discards, hk, hdiscarded]
  case h_4 hk =>
    simp only [applyCatalogStage, bind_eq_ok, pure_eq_ok, Member.get_eq_ok, required_eq_ok,
      ensure_eq_ok] at h
    obtain ⟨_, _, prepared, hvalue, ⟨changeId, bundle⟩, hstaged, _, hfresh, rfl⟩ := h
    exact ⟨rfl, .stage prepared changeId bundle hk hvalue hstaged hfresh, by
      simp [PreparedResidentCommit.discards, hk]⟩
  case h_5 hk =>
    simp only [applyCatalogDiscard, bind_eq_ok, pure_eq_ok, required_eq_ok, ensure_eq_ok] at h
    obtain ⟨_, _, changeId, hnamed, _, hknown, rfl⟩ := h
    exact ⟨rfl, .discard changeId hk hnamed hknown, by
      simp [PreparedResidentCommit.discards, hk]⟩
  case h_6 hk =>
    simp only [bind_eq_ok, pure_eq_ok] at h
    obtain ⟨_, _, rfl⟩ := h
    exact .of_kept (by simp [hk]) (by simp [hk]) rfl rfl rfl
  case h_7 hk =>
    simp only [bind_eq_ok, pure_eq_ok] at h
    obtain ⟨_, _, rfl⟩ := h
    exact .of_kept (by simp [hk]) (by simp [hk]) rfl rfl rfl
  case h_8 hk =>
    cases h
    exact .of_kept (by simp [hk]) (by simp [hk]) rfl rfl rfl
  case h_9 hk =>
    simp only [applyCheckpointDelete, bind_eq_ok, pure_eq_ok] at h
    obtain ⟨id, _, _, _, rfl⟩ := h
    exact .of_kept (by simp [hk]) (by simp [hk]) rfl rfl rfl
  case h_10 hk =>
    simp only [bind_eq_ok, pure_eq_ok] at h
    obtain ⟨_, _, rfl⟩ := h
    exact .of_kept (by simp [hk]) (by simp [hk]) rfl rfl rfl
  case h_11 hk =>
    simp only [applyUndo, bind_eq_ok, pure_eq_ok] at h
    obtain ⟨_, _, rfl⟩ := h
    exact .of_kept (by simp [hk]) (by simp [hk]) rfl rfl rfl
  case h_12 hk =>
    simp only [applyRedo, bind_eq_ok, pure_eq_ok] at h
    obtain ⟨_, _, _, _, _, _, rfl⟩ := h
    exact .of_kept (by simp [hk]) (by simp [hk]) rfl rfl rfl
  case h_13 hk =>
    simp only [applyCheckout, bind_eq_ok, pure_eq_ok] at h
    obtain ⟨_, _, rfl⟩ := h
    exact .of_kept (by simp [hk]) (by simp [hk]) rfl rfl rfl
  case h_14 hk =>
    simp only [applyBranchCreate, bind_eq_ok, pure_eq_ok] at h
    obtain ⟨_, _, _, _, _, _, _, _, _, _, rfl⟩ := h
    exact .of_kept (by simp [hk]) (by simp [hk]) rfl rfl rfl
  case h_15 hk =>
    simp only [applyBranchSwitch, bind_eq_ok, pure_eq_ok] at h
    obtain ⟨_, _, _, _, rfl⟩ := h
    exact .of_kept (by simp [hk]) (by simp [hk]) rfl rfl rfl

end Inversion

end AgentSpreadsheet
