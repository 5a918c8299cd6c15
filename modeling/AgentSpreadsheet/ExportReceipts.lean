import AgentSpreadsheet.Catalog
import AgentSpreadsheet.Commit
import AgentSpreadsheet.Stream

/-! File exports in a record stream: a plan first, and later its result. -/
namespace AgentSpreadsheet
open Library

namespace PreparedResidentCommit

def exportPlan (record : PreparedResidentCommit Archive) : Member FileExportPlan :=
  findMember Effect.fileExportPlan record.effects

def exportResult (record : PreparedResidentCommit Archive) : Member FileExportResult :=
  findMember Effect.fileExportResult record.effects

end PreparedResidentCommit

section Receipt
variable {H : Digest Archive} {record : PreparedResidentCommit Archive}
  {s s' state : PortableHistoryState} {requestIds : Finset String} {r : Replay}

theorem absent_iff {m : Member α} : m = .absent ↔ m.isPresent = false := by
  cases m <;> simp [Member.isPresent]

theorem findMember_eq_absent {key : Effect Archive → Member α} {effects : List (Effect Archive)} :
    findMember key effects = .absent ↔ ∀ e ∈ effects, key e = .absent := by
  induction effects with
  | nil => simp [findMember]
  | cons e rest ih =>
    rw [findMember, List.forall_mem_cons]
    cases key e <;> simp [ih]

theorem applyMutation_exports (h : applyMutation record s = .ok s') :
    s'.fileExportPlans = s.fileExportPlans := by
  simp only [applyMutation, bind_eq_ok] at h
  obtain ⟨_, _, h⟩ := h
  obtain ⟨_, _, rfl⟩ | ⟨_, _, rfl⟩ := applyPublication_cases h <;> rfl

theorem applyTransition_exports (hk : record.transition ≠ .receipt)
    (h : applyTransition H record s requestIds = .ok s') :
    s'.fileExportPlans = s.fileExportPlans := by
  unfold applyTransition at h
  split at h
  case h_1 hreceipt => exact absurd hreceipt hk
  case h_2 => exact applyMutation_exports h
  case h_3 =>
    simp only [applyStageApply, bind_eq_ok, pure_eq_ok] at h
    obtain ⟨_, hmutation, _, _, _, _, _, _, rfl⟩ := h
    have hkept := applyMutation_exports hmutation
    exact hkept
  case h_8 => rw [← Except.ok.inj h, applyCheckpoint]
  all_goals
    simp only [applyCatalogStage, applyCatalogDiscard, applyCheckpointDelete, applyUndo, applyRedo,
      applyCheckout, applyBranchCreate, applyBranchSwitch, bind_eq_ok, pure_eq_ok] at h
    grind

theorem applyReceipt_plain (hplan : record.exportPlan = .absent)
    (hresult : record.exportResult = .absent)
    (h : applyReceipt H record s requestIds = .ok s') :
    s'.fileExportPlans = s.fileExportPlans := by
  unfold PreparedResidentCommit.exportPlan at hplan
  unfold PreparedResidentCommit.exportResult at hresult
  simp only [applyReceipt, hplan, hresult, Member.isPresent, Bool.false_eq_true, if_false] at h
  repeat' split at h
  all_goals
    simp only [bind_eq_ok, pure_eq_ok] at h
    grind

theorem applyReceipt_exports {e : Effect Archive} (heffects : record.effects = [e])
    (hsize : e.size = 1)
    (hpresent : (e.fileExportPlan.isPresent || e.fileExportResult.isPresent) = true)
    (h : applyReceipt H record s requestIds = .ok s') :
    (∃ plan, record.exportPlan = .value plan ∧ record.exportResult = .absent ∧
      admitFileExportPlan H record s requestIds plan = .ok s') ∨
    ∃ result, record.exportResult = .value result ∧ record.exportPlan = .absent ∧
      admitFileExportResult record s result = .ok s' := by
  have hzero (b : Bool) (hb : b.toNat = 0) : b = false := by
    cases b with
    | false => rfl
    | true => contradiction
  have hone (b : Bool) (hb : b = true) : b.toNat = 1 := congrArg Bool.toNat hb
  have hor := (Bool.or_eq_true _ _).mp hpresent
  have hcount := hor.imp (hone _) (hone _)
  unfold Effect.size at hsize
  have hoperation := hzero e.receiptOperation.isPresent (by omega)
  have hcreation := hzero e.resourceCreation.isPresent (by omega)
  have hdiscard := hzero e.resourceDiscard.isPresent (by omega)
  have hexport := hzero e.resourceExport.isPresent (by omega)
  have hfind {α : Type} (key : Effect Archive → Member α) : findMember key [e] = key e := by
    rw [findMember]
    cases key e <;> rfl
  unfold PreparedResidentCommit.exportPlan PreparedResidentCommit.exportResult
  simp only [applyReceipt, heffects, hfind, List.any_cons, List.any_nil, hoperation, hcreation,
    hdiscard, hexport, Bool.or_false, Bool.false_eq_true, if_false] at h ⊢
  cases hplan : e.fileExportPlan.isPresent with
  | true =>
    have hresult := hzero e.fileExportResult.isPresent (by have := hone _ hplan; omega)
    simp only [hplan, if_true, bind_eq_ok, Member.get_eq_ok] at h
    obtain ⟨plan, hvalue, hadmit⟩ := h
    exact .inl ⟨plan, hvalue, absent_iff.mpr hresult, hadmit⟩
  | false =>
    have hresult := hor.resolve_left (by simp [hplan])
    simp only [hplan, hresult, Bool.false_eq_true, if_true, if_false, bind_eq_ok,
      Member.get_eq_ok] at h
    obtain ⟨result, hvalue, hadmit⟩ := h
    exact .inr ⟨result, hvalue, absent_iff.mpr hplan, hadmit⟩

theorem checkControl_exports (h : checkControl H record s = .ok ()) :
    (record.requestId ∈ s.fileExportPlans →
      record.effects.any (fun e => e.fileExportResult.isPresent) = true) ∧
    (record.effects.any (fun e => e.fileExportPlan.isPresent || e.fileExportResult.isPresent) =
        true → record.transition = .receipt ∧ record.effects.length = 1 ∧
      record.effects.all (fun e => e.size == 1) = true) := by
  simp only [checkControl, bind_eq_ok] at h
  obtain ⟨_, _, h⟩ := h
  split at h
  · simp only [bind_eq_ok, ensure_eq_ok] at h
    obtain ⟨_, _, _, _, _, _, _, _, _, hreserved, h⟩ := h
    refine ⟨hreserved, fun hany => ?_⟩
    rw [if_pos hany, check_bind_eq_ok, ensure_eq_ok] at h
    exact h.1
  · simp only [bind_eq_ok, ensure_eq_ok] at h
    obtain ⟨_, _, _, hreserved, h⟩ := h
    refine ⟨hreserved, fun hany => ?_⟩
    rw [if_pos hany, check_bind_eq_ok, ensure_eq_ok] at h
    exact h.1

/-- The request id of a plan is for a record with a result. -/
theorem Accepted.reserved (h : Accepted H record r state)
    (hresult : record.exportResult = .absent) : record.requestId ∉ r.state.fileExportPlans := by
  intro hmem
  obtain ⟨e, he, hpresent⟩ := List.any_eq_true.mp ((checkControl_exports h.control).1 hmem)
  rw [findMember_eq_absent.mp hresult e he] at hpresent
  contradiction

/-- What an accepted record has to do with exports: nothing, a plan or a result. -/
theorem Accepted.exports (h : Accepted H record r state) :
    (record.exportPlan = .absent ∧ record.exportResult = .absent ∧
      state.fileExportPlans = r.state.fileExportPlans) ∨
    record.transition = .receipt ∧ ((∃ plan, record.exportPlan = .value plan ∧
        record.exportResult = .absent ∧ admitFileExportPlan H record r.state
          (insert record.requestId r.requestIds) plan = .ok state) ∨
      ∃ result, record.exportResult = .value result ∧ record.exportPlan = .absent ∧
        admitFileExportResult record r.state result = .ok state) := by
  have happlied := h.applied
  cases hany : record.effects.any fun e =>
      e.fileExportPlan.isPresent || e.fileExportResult.isPresent with
  | true =>
    obtain ⟨hkind, hlength, hsize⟩ := (checkControl_exports h.control).2 hany
    obtain ⟨e, heffects⟩ := List.length_eq_one_iff.mp hlength
    rw [heffects] at hany hsize
    simp only [applyTransition, hkind] at happlied
    exact .inr ⟨hkind,
      applyReceipt_exports heffects (by simpa using hsize) (by simpa using hany) happlied⟩
  | false =>
    have hnone : ∀ e ∈ record.effects,
        e.fileExportPlan = .absent ∧ e.fileExportResult = .absent := by
      intro e he
      have hboth := List.any_eq_false.mp hany e he
      rw [Bool.not_eq_true, Bool.or_eq_false_iff] at hboth
      exact ⟨absent_iff.mpr hboth.1, absent_iff.mpr hboth.2⟩
    have hplan : record.exportPlan = .absent := findMember_eq_absent.mpr fun e he => (hnone e he).1
    have hresult : record.exportResult = .absent :=
      findMember_eq_absent.mpr fun e he => (hnone e he).2
    refine .inl ⟨hplan, hresult, ?_⟩
    by_cases hkind : record.transition = .receipt
    · simp only [applyTransition, hkind] at happlied
      exact applyReceipt_plain hplan hresult happlied
    · exact applyTransition_exports hkind happlied

end Receipt

section Run
variable {H : Digest Archive} {record : PreparedResidentCommit Archive} {r r' : Replay}
  {records earlier later : List (PreparedResidentCommit Archive)} {sessionId baseSha256 : String}

/-- The table of the loop holds the plans of the stream. -/
def Replay.Plans (records : List (PreparedResidentCommit Archive)) (r : Replay) : Prop :=
  ∀ id plan, r.state.fileExportPlans.lookup id = some plan ↔
    plan.intent.requestId = id ∧ ∃ record ∈ records, record.exportPlan = .value plan

theorem Replay.Plans.mem (h : r.Plans records) {plan : FileExportPlan} (hrecord : record ∈ records)
    (hplan : record.exportPlan = .value plan) :
    plan.intent.requestId ∈ r.state.fileExportPlans := by
  rw [← Finmap.lookup_isSome, (h _ _).mpr ⟨rfl, record, hrecord, hplan⟩]
  rfl

theorem Replay.Plans.step (h : r.Plans records) (hstep : r.step H record = .ok r') :
    r'.Plans (records ++ [record]) := by
  obtain ⟨state, haccepted, rfl⟩ := (Replay.step_eq_ok H record).mp hstep
  intro id plan
  change state.fileExportPlans.lookup id = some plan ↔ _
  simp only [List.mem_append, List.mem_singleton, or_and_right, exists_or, exists_eq_left]
  obtain ⟨hplan, _, hkept⟩ | ⟨_, ⟨new, hplan, _, hadmit⟩ | ⟨_, _, hplan, hadmit⟩⟩ :=
    haccepted.exports
  · rw [hkept, h, hplan]
    simp
  · simp only [admitFileExportPlan, bind_eq_ok, ensure_eq_ok, pure_eq_ok] at hadmit
    obtain ⟨_, _, _, _, _, ⟨_, _, _, _, _, _, _, _, hnew⟩, rfl⟩ := hadmit
    rw [hplan, Member.value.injEq]
    by_cases hid : id = new.intent.requestId
    · rw [hid, Finmap.lookup_insert, Option.some.injEq]
      constructor
      · rintro rfl
        exact ⟨rfl, .inr rfl⟩
      · rintro ⟨hsame, ⟨other, hother, hvalue⟩ | rfl⟩
        · exact absurd (hsame ▸ h.mem hother hvalue) hnew
        · rfl
    · rw [Finmap.lookup_insert_of_ne _ hid, h]
      refine and_congr_right fun hsame => (or_iff_left ?_).symm
      rintro rfl
      exact hid hsame.symm
  · simp only [admitFileExportResult, bind_eq_ok, pure_eq_ok] at hadmit
    obtain ⟨_, _, _, _, rfl⟩ := hadmit
    rw [h, hplan]
    simp

theorem replayFrom_plans (h : replayFrom H sessionId baseSha256 records = .ok r) :
    r.Plans records :=
  foldlM_invariant (by simp [Replay.Plans, Replay.start, PortableHistoryState.empty])
    (fun _ _ _ _ hs hstep => hs.step hstep) h

/-- In every accepted stream a plan of a file export comes under a request id of its own,
before any other use of the id of the export; from then on that id is for one result, the
one of this plan, and no result comes without a plan. -/
theorem file_exports_planned_once {s : PortableHistoryState}
    (h : PortableHistoryState.replayBound H (earlier ++ record :: later) sessionId baseSha256 =
      .ok s) :
    (∀ plan, record.exportPlan = .value plan → record.transition = .receipt ∧
      record.requestId = planId H plan.intent.requestId ∧
      ∀ other ∈ earlier, other.requestId ≠ plan.intent.requestId ∧
        ∀ plan', other.exportPlan = .value plan' →
          plan'.intent.requestId ≠ plan.intent.requestId) ∧
    (∀ result, record.exportResult = .value result → record.transition = .receipt ∧
      record.requestId = result.requestId ∧
      (∀ other ∈ earlier, other.requestId ≠ result.requestId) ∧
      ∃ planned ∈ earlier, ∃ plan, planned.exportPlan = .value plan ∧ plan.result = result) ∧
    ∀ planned ∈ earlier, ∀ plan, planned.exportPlan = .value plan →
      record.requestId = plan.intent.requestId → record.exportResult = .value plan.result := by
  obtain ⟨_, end', hrun, _⟩ := PortableHistoryState.replayBound_eq_ok.mp h
  unfold replayFrom at hrun
  rw [List.foldlM_append, bind_eq_ok] at hrun
  obtain ⟨r, hr, hrest⟩ := hrun
  rw [List.foldlM_cons, bind_eq_ok] at hrest
  obtain ⟨_, hstep, _⟩ := hrest
  obtain ⟨state, haccepted, _⟩ := (Replay.step_eq_ok H record).mp hstep
  have hplans := replayFrom_plans hr
  have hindexes := replayFrom_indexes hr
  have hfree (hresult : record.exportResult = .absent) : ∀ planned ∈ earlier, ∀ plan,
      planned.exportPlan = .value plan → record.requestId = plan.intent.requestId →
        record.exportResult = .value plan.result := by
    intro planned hplanned plan hplan hid
    exact absurd (hid ▸ hplans.mem hplanned hplan) (haccepted.reserved hresult)
  obtain ⟨hplan, hresult, _⟩ | ⟨hkind, ⟨plan, hplan, hresult, hadmit⟩ | ⟨result, hresult, hplan,
    hadmit⟩⟩ := haccepted.exports
  · exact ⟨by simp [hplan], by simp [hresult], hfree hresult⟩
  · simp only [admitFileExportPlan, bind_eq_ok, ensure_eq_ok, pure_eq_ok] at hadmit
    obtain ⟨_, _, _, _, _, ⟨_, _, hid, hunused, _, _, _, _, hnew⟩, _⟩ := hadmit
    rw [Finset.mem_insert, hindexes.requestIds, List.mem_toFinset, not_or] at hunused
    refine ⟨?_, by simp [hresult], hfree hresult⟩
    intro plan' hplan'
    obtain rfl := Member.value.inj (hplan.symm.trans hplan')
    refine ⟨hkind, hid, fun other hother => ⟨fun hsame => ?_, fun plan' hearly hsame => ?_⟩⟩
    · exact hunused.2 (List.mem_map.mpr ⟨other, hother, hsame⟩)
    · exact hnew (hsame ▸ hplans.mem hother hearly)
  · simp only [admitFileExportResult, bind_eq_ok, ensure_eq_ok, pure_eq_ok, required_eq_ok]
      at hadmit
    obtain ⟨plan, hlookup, _, ⟨_, _, hid, hanswers, _⟩, _⟩ := hadmit
    refine ⟨by simp [hplan], ?_, ?_⟩
    · intro result' hresult'
      obtain rfl := Member.value.inj (hresult.symm.trans hresult')
      obtain ⟨_, planned, hplanned, hfrom⟩ := (hplans _ _).mp hlookup
      obtain ⟨_, _, _, _, ⟨_, hfresh⟩, _⟩ := admitRecord_eq_ok.mp haccepted.admitted
      rw [hindexes.requestIds, List.mem_toFinset, hid] at hfresh
      exact ⟨hkind, hid, fun other hother hsame => hfresh (List.mem_map.mpr ⟨other, hother, hsame⟩),
        planned, hplanned, plan, hfrom, hanswers⟩
    · intro planned hplanned other hother hsame
      have hstored := (hplans _ _).mpr ⟨rfl, planned, hplanned, hother⟩
      rw [← hsame, hid, hlookup, Option.some.injEq] at hstored
      rw [hresult, ← hstored, hanswers]

end Run

def samplePlan : FileExportPlan where
  head := some "c0"
  eventsReplayed := 1
  intent := ⟨"session:s", "e", none, none, false⟩
  revisionId := "resident:e:1:1"
  artifact := ⟨"artifact-" ++ String.ofList (List.replicate 64 '0'), xlsxMediaType, 4,
    String.ofList (List.replicate 64 '0')⟩
  sourceSha256 := String.ofList (List.replicate 64 '0')
  destination := "out.xlsx"
  destinationGeneration := none

/-- Record `n` is a receipt after the first write. -/
def sampleReceipt (n : Nat) (requestId : String) (effect : Effect Unit) :
    PreparedResidentCommit Unit :=
  { sampleRecord n .receipt [effect] none (some "c0") (some "c0") with
    requestId := requestId
    requestFingerprint := sampleDigest.text ""
    stateRevision := "resident:e:1:1" }

def samplePlanned : PreparedResidentCommit Unit :=
  sampleReceipt 1 (planId sampleDigest "e") { fileExportPlan := .value samplePlan }

theorem samplePlan_exported : ∃ s, PortableHistoryState.replayBound sampleDigest
    ([sampleWrite 0 none, samplePlanned] ++
      sampleReceipt 2 "e" { fileExportResult := .value samplePlan.result } :: []) "s" "base" =
      .ok s ∧ ∃ planned ∈ [sampleWrite 0 none, samplePlanned], ∃ plan,
        planned.exportPlan = .value plan ∧ plan.result = samplePlan.result := by
  have hrun : (PortableHistoryState.replayBound sampleDigest
      ([sampleWrite 0 none, samplePlanned] ++
        sampleReceipt 2 "e" { fileExportResult := .value samplePlan.result } :: []) "s"
        "base").toOption.any (fun _ => true) = true := by decide +kernel
  obtain ⟨s, hs, _⟩ := exists_ok_of_any hrun
  obtain ⟨_, _, _, hplanned⟩ := (file_exports_planned_once hs).2.1 _ rfl
  exact ⟨s, hs, hplanned⟩

end AgentSpreadsheet
