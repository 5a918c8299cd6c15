import AgentSpreadsheet.Ancestry
import Mathlib.Data.List.Chain

/-! Revision progression along an accepted stream. Every record that is not a
receipt advances the state counter or the catalog generation, so a pair of them
is never issued twice while no 64-bit counter passes its maximum. -/
namespace AgentSpreadsheet
open Library

def stateCounterOf (revision : String) : Nat :=
  match parseRevision revision with
  | .ok revision => revision.state.toNat
  | .error _ => 0

def PreparedResidentCommit.stateCounter (record : PreparedResidentCommit Archive) : Nat :=
  stateCounterOf record.stateRevision

def maxCounter : Nat := 2 ^ 64 - 1

/-- Transitions that change the staged catalog or the checkpoints. -/
def advancesCatalog (record : PreparedResidentCommit Archive) : Bool :=
  record.transition = .stageApply || record.transition = .catalogStage ||
  record.transition = .catalogDiscard || record.transition = .checkpoint ||
  record.transition = .checkpointDelete

section Step
variable {H : Digest Archive} {record : PreparedResidentCommit Archive}
  {s s' : PortableHistoryState} {requestIds : Finset String} {r r' : Replay}

theorem applyMutation_catalogGeneration (h : applyMutation record s = .ok s') :
    s'.catalogGeneration = s.catalogGeneration := by
  unfold applyMutation at h
  obtain ⟨_, _, h⟩ := bind_eq_ok.mp h
  obtain ⟨_, _, rfl⟩ | ⟨_, _, rfl⟩ := applyPublication_cases h <;> rfl

theorem applyTransition_catalogGeneration
    (h : applyTransition H record s requestIds = .ok s') :
    s'.catalogGeneration = s.catalogGeneration + (advancesCatalog record).toNat := by
  unfold applyTransition at h
  unfold advancesCatalog
  split at h
  case h_1 hk =>
    rw [applyReceipt_frame h]
    simp [hk]
  case h_2 hk =>
    rw [applyMutation_catalogGeneration h]
    simp [hk]
  case h_3 hk =>
    simp only [applyStageApply, bind_eq_ok, pure_eq_ok] at h
    obtain ⟨u, hu, _, _, _, _, _, _, rfl⟩ := h
    simp [hk, applyMutation_catalogGeneration hu]
  case h_4 hk =>
    simp only [applyCatalogStage, bind_eq_ok, pure_eq_ok] at h
    obtain ⟨_, _, _, _, _, _, _, _, rfl⟩ := h
    simp [hk]
  case h_5 hk =>
    simp only [applyCatalogDiscard, bind_eq_ok, pure_eq_ok] at h
    obtain ⟨_, _, _, _, _, _, rfl⟩ := h
    simp [hk]
  case h_6 hk =>
    simp only [bind_eq_ok, pure_eq_ok] at h
    obtain ⟨_, _, rfl⟩ := h
    simp [hk]
  case h_7 hk =>
    simp only [bind_eq_ok, pure_eq_ok] at h
    obtain ⟨_, _, rfl⟩ := h
    simp [hk]
  case h_8 hk =>
    cases h
    simp [hk, applyCheckpoint]
  case h_9 hk =>
    simp only [applyCheckpointDelete, bind_eq_ok, pure_eq_ok] at h
    obtain ⟨_, _, _, _, rfl⟩ := h
    simp [hk]
  case h_10 hk =>
    simp only [bind_eq_ok, pure_eq_ok] at h
    obtain ⟨_, _, rfl⟩ := h
    simp [hk]
  case h_11 hk =>
    simp only [applyUndo, bind_eq_ok, pure_eq_ok] at h
    obtain ⟨_, _, rfl⟩ := h
    simp [hk]
  case h_12 hk =>
    simp only [applyRedo, bind_eq_ok, pure_eq_ok] at h
    obtain ⟨_, _, _, _, _, _, rfl⟩ := h
    simp [hk]
  case h_13 hk =>
    simp only [applyCheckout, bind_eq_ok, pure_eq_ok] at h
    obtain ⟨_, _, rfl⟩ := h
    simp [hk]
  case h_14 hk =>
    simp only [applyBranchCreate, bind_eq_ok, pure_eq_ok] at h
    obtain ⟨_, _, _, _, _, _, _, _, _, _, rfl⟩ := h
    simp [hk]
  case h_15 hk =>
    simp only [applyBranchSwitch, bind_eq_ok, pure_eq_ok] at h
    obtain ⟨_, _, _, _, rfl⟩ := h
    simp [hk]

/-- A record that leaves the state counter alone and is no receipt advances the
catalog generation. -/
theorem advancesCatalog_of_catalogOnly (h : catalogOnly record = true)
    (hkind : record.transition ≠ .receipt) : advancesCatalog record = true := by
  unfold catalogOnly at h
  unfold advancesCatalog
  cases hk : record.transition <;> simp_all

theorem checkProgression_stateCounter {previous : String} {headBefore : Option String}
    (h : checkProgression record (some previous) headBefore = .ok ()) :
    record.stateCounter =
      (stateCounterOf previous + if catalogOnly record then 0 else 1) % 2 ^ 64 := by
  unfold checkProgression previousRevision at h
  obtain ⟨next, hnext, h⟩ := bind_eq_ok.mp h
  obtain ⟨before, hbefore, h⟩ := bind_eq_ok.mp h
  obtain ⟨_, _, hstate⟩ := ensure_eq_ok.mp h
  unfold PreparedResidentCommit.stateCounter stateCounterOf
  rw [hnext, hbefore]
  simp only [hstate]
  split
  · simp [Nat.mod_eq_of_lt before.state.toNat_lt]
  · rw [UInt64.toNat_add]
    rfl

theorem checkResult_catalogGeneration (h : checkResult record s = .ok ()) :
    record.catalogGeneration = s.catalogGeneration := by
  unfold checkResult at h
  exact (ensure_eq_ok.mp h).2.2.2

end Step

/-- What replay checks between two neighbours of a stream. -/
structure Continues (a b : PreparedResidentCommit Archive) : Prop where
  state : b.stateCounter = (a.stateCounter + if catalogOnly b then 0 else 1) % 2 ^ 64
  catalog : b.catalogGeneration = a.catalogGeneration + (advancesCatalog b).toNat

/-- The pair of counters never decreases across `b`, it grows unless `b` is a
receipt, and the state counter grows unless `b` only touches the catalog. -/
structure Advances (a b : PreparedResidentCommit Archive) : Prop where
  state : a.stateCounter ≤ b.stateCounter
  catalog : a.catalogGeneration ≤ b.catalogGeneration
  strict : b.transition ≠ .receipt →
    a.stateCounter < b.stateCounter ∨ a.catalogGeneration < b.catalogGeneration
  moved : catalogOnly b = false → a.stateCounter < b.stateCounter

theorem PreparedResidentCommit.stateCounter_le (record : PreparedResidentCommit Archive) :
    record.stateCounter ≤ maxCounter := by
  unfold PreparedResidentCommit.stateCounter stateCounterOf maxCounter
  split
  · rename_i revision _
    have := revision.state.toNat_lt
    omega
  · omega

section Pairs
variable {a b c : PreparedResidentCommit Archive}

theorem Continues.state_eq (h : Continues a b)
    (hbound : catalogOnly b = false → a.stateCounter ≠ maxCounter) :
    b.stateCounter = a.stateCounter + if catalogOnly b then 0 else 1 := by
  have hle := a.stateCounter_le
  unfold maxCounter at hle hbound
  rw [h.state]
  cases hb : catalogOnly b with
  | true =>
    simp only [if_true, Nat.add_zero]
    exact Nat.mod_eq_of_lt (by omega)
  | false =>
    have := hbound hb
    simp only [Bool.false_eq_true, if_false]
    exact Nat.mod_eq_of_lt (by omega)

theorem Continues.advances (h : Continues a b)
    (hbound : catalogOnly b = false → a.stateCounter ≠ maxCounter) : Advances a b := by
  have hstate := h.state_eq hbound
  have hcatalog := h.catalog
  have hmoved : catalogOnly b = false → a.stateCounter < b.stateCounter := by
    intro hb
    rw [hb] at hstate
    simp only [Bool.false_eq_true, if_false] at hstate
    omega
  refine ⟨by omega, by omega, fun hkind => ?_, hmoved⟩
  cases hb : catalogOnly b with
  | true =>
    rw [advancesCatalog_of_catalogOnly hb hkind, Bool.toNat_true] at hcatalog
    right
    omega
  | false => exact .inl (hmoved hb)

theorem Advances.bound (h : Advances a b) (hcontinues : Continues a b)
    (hb : catalogOnly b = false) : a.stateCounter ≠ maxCounter := by
  intro hmax
  have hle := h.state
  rw [hcontinues.state, hb, hmax] at hle
  revert hle
  decide

theorem Advances.trans (hab : Advances a b) (hbc : Advances b c) : Advances a c := by
  refine ⟨hab.state.trans hbc.state, hab.catalog.trans hbc.catalog, fun hkind => ?_,
    fun hkind => Nat.lt_of_le_of_lt hab.state (hbc.moved hkind)⟩
  rcases hbc.strict hkind with hlt | hlt
  · exact .inl (Nat.lt_of_le_of_lt hab.state hlt)
  · exact .inr (Nat.lt_of_le_of_lt hab.catalog hlt)

instance : Trans (@Advances Archive) (@Advances Archive) (@Advances Archive) :=
  ⟨Advances.trans⟩

end Pairs

/-- The loop variables the next record is compared with. -/
structure Replay.Tracks (records : List (PreparedResidentCommit Archive)) (r : Replay) :
    Prop where
  chain : records.IsChain Continues
  revision : r.state.stateRevision = records.getLast?.map (·.stateRevision)
  catalog : ∀ last, records.getLast? = some last →
    r.state.catalogGeneration = last.catalogGeneration
  visible : ∀ revision generation, (revision, generation) ∈ r.visibleStates →
    ∃ record ∈ records, record.stateRevision = revision ∧ record.catalogGeneration = generation

section Run
variable {H : Digest Archive} {records : List (PreparedResidentCommit Archive)}
  {record last : PreparedResidentCommit Archive} {r r' : Replay} {state : PortableHistoryState}
  {sessionId baseSha256 : String} {requestIds : Finset String}

/-- The checks up to the progression make the record continue the stream. -/
theorem Replay.Tracks.continues (h : r.Tracks records) (hlast : records.getLast? = some last)
    (happlied : applyTransition H record r.state requestIds = .ok state)
    (hresult : checkResult record state = .ok ())
    (hprogress : checkProgression record r.state.stateRevision r.state.head = .ok ()) :
    Continues last record := by
  rw [h.revision, hlast] at hprogress
  refine ⟨checkProgression_stateCounter hprogress, ?_⟩
  rw [checkResult_catalogGeneration hresult, applyTransition_catalogGeneration happlied,
    h.catalog last hlast]

theorem Replay.Tracks.step (h : r.Tracks records) (hstep : r.step H record = .ok r') :
    r'.Tracks (records ++ [record]) := by
  obtain ⟨state, haccepted, rfl⟩ := (Replay.step_eq_ok H record).mp hstep
  refine ⟨?_, ?_, ?_, ?_⟩
  · rw [List.isChain_append]
    refine ⟨h.chain, List.isChain_singleton _, ?_⟩
    intro last hlast next hnext
    obtain rfl : record = next := by simpa using hnext
    have hlast : records.getLast? = some last := hlast
    exact h.continues hlast haccepted.applied haccepted.result haccepted.progression
  · simp [Replay.extend]
  · intro last hlast
    obtain rfl : record = last := by simpa using hlast
    exact (checkResult_catalogGeneration haccepted.result).symm
  · intro revision generation hmem
    have hold : ∀ revision generation, (revision, generation) ∈ r.visibleStates →
        ∃ x ∈ records ++ [record], x.stateRevision = revision ∧
          x.catalogGeneration = generation := by
      intro revision generation hmem
      obtain ⟨x, hx, hfields⟩ := h.visible revision generation hmem
      exact ⟨x, List.mem_append_left _ hx, hfields⟩
    simp only [Replay.extend] at hmem
    split at hmem
    · exact hold revision generation hmem
    · rcases Finset.mem_insert.mp hmem with heq | hmem
      · obtain ⟨rfl, rfl⟩ := Prod.mk.inj heq
        exact ⟨record, by simp, rfl, rfl⟩
      · exact hold revision generation hmem

theorem replayFrom_tracks (h : replayFrom H sessionId baseSha256 records = .ok r) :
    r.Tracks records :=
  foldlM_invariant ⟨List.isChain_nil, rfl, by simp, by simp [Replay.start]⟩
    (fun _ _ _ _ hs hstep => hs.step hstep) h

end Run

/-- No record advances a state counter that stands at its maximum. -/
def NoCounterWrap (records : List (PreparedResidentCommit Archive)) : Prop :=
  records.IsChain fun a b => catalogOnly b = false → a.stateCounter ≠ maxCounter

structure RevisionsUnique (H : Digest Archive) (records : List (PreparedResidentCommit Archive))
    (r : Replay) : Prop where
  advances : records.IsChain Advances
  distinct : records.Pairwise fun a b => a.transition ≠ .receipt → b.transition ≠ .receipt →
    (a.stateCounter, a.catalogGeneration) ≠ (b.stateCounter, b.catalogGeneration)
  notReissued : records.Pairwise fun a b => b.transition = .undo ∨ b.transition = .redo ∨
    b.transition = .checkout ∨ b.transition = .branchSwitch → a.stateRevision ≠ b.stateRevision
  /-- A next record that passes the progression check is not caught by the ABA check. -/
  noAba : ∀ record state requestIds, NoCounterWrap (records ++ [record]) →
    applyTransition H record r.state requestIds = .ok state → checkResult record state = .ok () →
    checkProgression record r.state.stateRevision r.state.head = .ok () →
    record.transition ≠ .receipt →
    (record.stateRevision, record.catalogGeneration) ∉ r.visibleStates

section Unique
variable {H : Digest Archive} {records : List (PreparedResidentCommit Archive)} {r : Replay}

theorem isChain_advances (h : records.IsChain Continues) (hwrap : NoCounterWrap records) :
    records.IsChain Advances := by
  induction records with
  | nil => exact List.isChain_nil
  | cons a rest ih =>
    cases rest with
    | nil => exact List.isChain_singleton a
    | cons b rest =>
      rw [NoCounterWrap, List.isChain_cons_cons] at hwrap
      rw [List.isChain_cons_cons] at h ⊢
      exact ⟨h.1.advances hwrap.1, ih h.2 hwrap.2⟩

theorem noCounterWrap_of_advances (h : records.IsChain Continues)
    (hadvances : records.IsChain Advances) : NoCounterWrap records := by
  unfold NoCounterWrap
  induction records with
  | nil => exact List.isChain_nil
  | cons a rest ih =>
    cases rest with
    | nil => exact List.isChain_singleton a
    | cons b rest =>
      rw [List.isChain_cons_cons] at h hadvances ⊢
      exact ⟨hadvances.1.bound h.1, ih h.2 hadvances.2⟩

/-- The pair of a record that is no receipt differs from every earlier pair. -/
theorem Advances.pair_ne {a b : PreparedResidentCommit Archive} (h : Advances a b)
    (hkind : b.transition ≠ .receipt) :
    (a.stateCounter, a.catalogGeneration) ≠ (b.stateCounter, b.catalogGeneration) := by
  intro heq
  obtain ⟨hstate, hcatalog⟩ := Prod.mk.inj heq
  rcases h.strict hkind with hlt | hlt <;> omega

theorem Replay.Tracks.noAba (h : r.Tracks records) {record : PreparedResidentCommit Archive}
    {state : PortableHistoryState} {requestIds : Finset String}
    (hwrap : NoCounterWrap (records ++ [record]))
    (happlied : applyTransition H record r.state requestIds = .ok state)
    (hresult : checkResult record state = .ok ())
    (hprogress : checkProgression record r.state.stateRevision r.state.head = .ok ())
    (hkind : record.transition ≠ .receipt) :
    (record.stateRevision, record.catalogGeneration) ∉ r.visibleStates := by
  intro hmem
  obtain ⟨earlier, hearlier, hrevision, hcatalog⟩ := h.visible _ _ hmem
  have hchain : (records ++ [record]).IsChain Continues := by
    rw [List.isChain_append]
    refine ⟨h.chain, List.isChain_singleton _, ?_⟩
    intro last hlast next hnext
    obtain rfl : record = next := by simpa using hnext
    have hlast : records.getLast? = some last := hlast
    exact h.continues hlast happlied hresult hprogress
  have hpairs := (isChain_advances hchain hwrap).pairwise
  rw [List.pairwise_append] at hpairs
  apply (hpairs.2.2 earlier hearlier record (by simp)).pair_ne hkind
  rw [PreparedResidentCommit.stateCounter, PreparedResidentCommit.stateCounter, hrevision, hcatalog]

/-- The counters of an accepted stream are never reused exactly when none of its
records advances a state counter past the maximum. -/
theorem replay_revisions_unique_iff {sessionId baseSha256 : String}
    (h : replayFrom H sessionId baseSha256 records = .ok r) :
    RevisionsUnique H records r ↔ NoCounterWrap records := by
  have htracks := replayFrom_tracks h
  constructor
  · intro hunique
    exact noCounterWrap_of_advances htracks.chain hunique.advances
  · intro hwrap
    have hadvances := isChain_advances htracks.chain hwrap
    refine ⟨hadvances, ?_, ?_, ?_⟩
    · exact hadvances.pairwise.imp fun hab _ hb => hab.pair_ne hb
    · refine hadvances.pairwise.imp fun {a b} hab hkind heq => ?_
      have hmoved : catalogOnly b = false := by
        unfold catalogOnly
        rcases hkind with hk | hk | hk | hk <;> simp [hk]
      have hlt := hab.moved hmoved
      rw [PreparedResidentCommit.stateCounter, PreparedResidentCommit.stateCounter, heq] at hlt
      exact lt_irrefl _ hlt
    · intro record state requestIds hwrap' happlied hresult hprogress hkind
      exact htracks.noAba hwrap' happlied hresult hprogress hkind

end Unique

theorem sampleStream_revisions_unique :
    ∃ r, replayFrom sampleDigest "s" "base" sampleStream = .ok r ∧ NoCounterWrap sampleStream ∧
      RevisionsUnique sampleDigest sampleStream r := by
  have hrun : (replayFrom sampleDigest "s" "base" sampleStream).toOption.any
      (fun _ => true) = true := by decide +kernel
  obtain ⟨r, hr, _⟩ := exists_ok_of_any hrun
  have hwrap : NoCounterWrap sampleStream := by
    unfold NoCounterWrap
    decide +kernel
  exact ⟨r, hr, hwrap, (replay_revisions_unique_iff hr).mpr hwrap⟩

/-- Two checkouts of the base; the second takes the state counter from its
maximum to zero. -/
def wrappingStream : List (PreparedResidentCommit Unit) :=
  [{ sampleMove 0 .checkout none none with stateRevision := "resident:e:1:18446744073709551615" },
   { sampleMove 1 .checkout none none with stateRevision := "resident:e:2:0" }]

theorem wrappingStream_decreases :
    ∃ r, replayFrom sampleDigest "s" "base" wrappingStream = .ok r ∧
      (∀ record ∈ wrappingStream, record.transition ≠ .receipt ∧ record.catalogGeneration = 0) ∧
      wrappingStream.map (·.stateCounter) = [18446744073709551615, 0] ∧
      ¬ RevisionsUnique sampleDigest wrappingStream r := by
  have hrun : (replayFrom sampleDigest "s" "base" wrappingStream).toOption.any
      (fun _ => true) = true := by decide +kernel
  obtain ⟨r, hr, _⟩ := exists_ok_of_any hrun
  have hcounters : wrappingStream.map (·.stateCounter) = [18446744073709551615, 0] := by
    decide +kernel
  refine ⟨r, hr, by decide +kernel, hcounters, fun hunique => ?_⟩
  have hadvances := hunique.advances
  rw [wrappingStream, List.isChain_cons_cons] at hadvances
  have hle := hadvances.1.state
  simp only [wrappingStream, List.map_cons, List.map_nil, List.cons.injEq] at hcounters
  rw [hcounters.1, hcounters.2.1] at hle
  exact absurd hle (by decide)

end AgentSpreadsheet
