import AgentSpreadsheet.StreamFile

/-! The journal as an append-only log shared by any number of clients. A run is
the order in which their calls get the lock. -/
namespace AgentSpreadsheet
open Library

section Frame
variable {H : Digest Archive} {codec : LineCodec Archive} {journal : NativeResidentJournal}
  {sessionId other : String} {faults : Faults} {prepared : PreparedResidentCommit Archive}

theorem setLen_lookup_ne (hne : sessionId ≠ other) (length : Nat) :
    (journal.setLen other length).files.lookup sessionId = journal.files.lookup sessionId := by
  unfold NativeResidentJournal.setLen
  split
  · rfl
  · exact Finmap.lookup_insert_of_ne _ hne

theorem append_lookup_ne (hne : sessionId ≠ other) (bytes : List UInt8) :
    (journal.append other bytes).files.lookup sessionId = journal.files.lookup sessionId :=
  Finmap.lookup_insert_of_ne _ hne

theorem planCommit_append_record {envelope : JournalEnvelope Archive} {completeLen physicalLen : Nat}
    (h : journal.planCommit H codec prepared = .ok (.append envelope completeLen physicalLen)) :
    envelope.record = prepared := by
  unfold NativeResidentJournal.planCommit at h
  simp only [bind_eq_ok] at h
  obtain ⟨_, _, loaded, _, _, _, h⟩ := h
  split at h
  · simp [pure, Except.pure] at h
  · simp only [bind_eq_ok, pure_eq_ok, NativeResidentJournal.CommitPlan.append.injEq] at h
    obtain ⟨_, _, _, _, rfl, _⟩ := h
    rfl

theorem commit_lookup_ne (hne : sessionId ≠ prepared.sessionId) :
    (journal.commit H codec faults prepared).2.files.lookup sessionId =
      journal.files.lookup sessionId := by
  unfold NativeResidentJournal.commit
  cases hplan : journal.planCommit H codec prepared with
  | error e => rfl
  | ok plan =>
    cases plan with
    | retry outcome completeLen => exact setLen_lookup_ne hne completeLen
    | append envelope completeLen physicalLen =>
      have hrecord := planCommit_append_record hplan
      simp only
      split
      · rfl
      split
      · rfl
      unfold NativeResidentJournal.writeEnvelope
      rw [hrecord]
      split
      · exact setLen_lookup_ne hne completeLen
      · exact (append_lookup_ne hne _).trans (setLen_lookup_ne hne completeLen)

theorem reconcile_lookup_ne {requestId requestFingerprint : String} (hne : sessionId ≠ other) :
    (journal.reconcile H codec faults other requestId requestFingerprint).2.files.lookup sessionId =
      journal.files.lookup sessionId := by
  unfold NativeResidentJournal.reconcile
  cases journal.loadEnvelopes H codec other with
  | error e => rfl
  | ok loaded => exact setLen_lookup_ne hne loaded.2.1

end Frame

inductive Call (Archive : Type) where
  | commit (faults : Faults) (prepared : PreparedResidentCommit Archive)
  | reconcile (faults : Faults) (sessionId requestId requestFingerprint : String)

namespace Call

def sessionId : Call Archive → String
  | .commit _ prepared => prepared.sessionId
  | .reconcile _ sessionId _ _ => sessionId

def requestId : Call Archive → String
  | .commit _ prepared => prepared.requestId
  | .reconcile _ _ requestId _ => requestId

variable (H : Digest Archive) (codec : LineCodec Archive)

def run (journal : NativeResidentJournal) : Call Archive → NativeResidentJournal
  | .commit faults prepared => (journal.commit H codec faults prepared).2
  | .reconcile faults sessionId requestId requestFingerprint =>
    (journal.reconcile H codec faults sessionId requestId requestFingerprint).2

/-- The outcome the call acknowledges or reports, if any. -/
def reported (journal : NativeResidentJournal) : Call Archive → Option DurableCommitOutcome
  | .commit faults prepared => (journal.commit H codec faults prepared).1.toOption
  | .reconcile faults sessionId requestId requestFingerprint =>
    match (journal.reconcile H codec faults sessionId requestId requestFingerprint).1 with
    | .ok (.committed outcome) => some outcome
    | _ => none

end Call

/-- Any interleaving of calls, in the order they get the lock. -/
def runCalls (H : Digest Archive) (codec : LineCodec Archive) (journal : NativeResidentJournal)
    (calls : List (Call Archive)) : NativeResidentJournal :=
  calls.foldl (Call.run H codec) journal

section Runs
variable {H : Digest Archive} {codec : LineCodec Archive} {journal : NativeResidentJournal}
  {sessionId : String} {records : List (PreparedResidentCommit Archive)}

/-- One call keeps every stream and extends at most one. -/
theorem call_step (h : StreamFile H codec sessionId (journal.files.lookup sessionId) records)
    (hlaw : codec.Lawful) (call : Call Archive) :
    ∃ more, StreamFile H codec sessionId ((call.run H codec journal).files.lookup sessionId)
        (records ++ more) ∧
      ∀ outcome, call.sessionId = sessionId → call.reported H codec journal = some outcome →
        Names (records ++ more) call.requestId outcome := by
  cases call with
  | commit faults prepared =>
    by_cases hsession : sessionId = prepared.sessionId
    · subst hsession
      obtain ⟨records', hcases, hfile, hnames⟩ := commit_step faults h hlaw
      have hmore : ∃ more, records' = records ++ more := by
        rcases hcases with rfl | rfl
        · exact ⟨[], by simp⟩
        · exact ⟨[prepared], rfl⟩
      obtain ⟨more, rfl⟩ := hmore
      refine ⟨more, hfile, fun outcome _ hreported => hnames outcome ?_⟩
      simp only [Call.reported] at hreported
      cases hresult : (journal.commit H codec faults prepared).1 with
      | error e => simp [hresult, Except.toOption] at hreported
      | ok found =>
        simp only [hresult, Except.toOption, Option.some.injEq] at hreported
        rw [hreported]
    · refine ⟨[], ?_, fun _ heq => absurd heq.symm hsession⟩
      rw [List.append_nil]
      simp only [Call.run]
      rw [commit_lookup_ne hsession]
      exact h
  | reconcile faults other requestId fingerprint =>
    by_cases hsession : sessionId = other
    · subst hsession
      obtain ⟨hfile, hnames⟩ := reconcile_step faults requestId fingerprint h hlaw
      refine ⟨[], by rw [List.append_nil]; exact hfile, fun outcome _ hreported => ?_⟩
      rw [List.append_nil]
      apply hnames outcome
      simp only [Call.reported] at hreported
      split at hreported
      · rename_i found hresult
        rw [hresult, Option.some.inj hreported]
      · cases hreported
    · refine ⟨[], ?_, fun _ heq => absurd heq.symm hsession⟩
      rw [List.append_nil]
      simp only [Call.run]
      rw [reconcile_lookup_ne hsession]
      exact h

theorem runCalls_extends
    (h : StreamFile H codec sessionId (journal.files.lookup sessionId) records)
    (hlaw : codec.Lawful) (calls : List (Call Archive)) :
    ∃ more, StreamFile H codec sessionId
      ((runCalls H codec journal calls).files.lookup sessionId) (records ++ more) := by
  induction calls generalizing journal records with
  | nil => exact ⟨[], by simpa [runCalls] using h⟩
  | cons call rest ih =>
    obtain ⟨more, hfile, _⟩ := call_step h hlaw call
    obtain ⟨later, hlater⟩ := ih hfile
    exact ⟨more ++ later, by simpa [runCalls, List.append_assoc] using hlater⟩

end Runs

section ExactlyOnce
variable {H : Digest Archive} {codec : LineCodec Archive} {journal : NativeResidentJournal}
  {sessionId : String} {records : List (PreparedResidentCommit Archive)}

theorem StreamFile.same_base {file : Option (List UInt8)}
    (h : StreamFile H codec sessionId file records) {a b : PreparedResidentCommit Archive}
    (ha : a ∈ records) (hb : b ∈ records) : a.baseSha256 = b.baseSha256 := by
  obtain ⟨s, hs⟩ := h.replays (List.ne_nil_of_mem ha)
  unfold PortableHistoryState.replay at hs
  obtain ⟨first, _, hs⟩ := bind_eq_ok.mp hs
  obtain ⟨hids, _⟩ := PortableHistoryState.replayBound_eq_ok.mp hs
  exact (hids a ha).2.trans (hids b hb).2.symm

theorem commit_present (h : StreamFile H codec sessionId (journal.files.lookup sessionId) records)
    (hlaw : codec.Lawful) (faults : Faults) {prepared existing : PreparedResidentCommit Archive}
    (hsession : prepared.sessionId = sessionId) {i : Nat} (hi : records[i]? = some existing)
    (hid : existing.requestId = prepared.requestId) :
    StreamFile H codec sessionId
      ((journal.commit H codec faults prepared).2.files.lookup sessionId) records := by
  subst hsession
  unfold NativeResidentJournal.commit
  rw [planCommit_retry h hlaw hi hid]
  split
  · exact h
  · rename_i hplan
    simp only [bind_eq_ok, pure_eq_ok] at hplan
    obtain ⟨_, _, _, _, _, _, hplan⟩ := hplan
    obtain ⟨-, rfl⟩ := NativeResidentJournal.CommitPlan.retry.inj hplan
    exact h.setLen
  · rename_i hplan
    simp [bind_eq_ok] at hplan

theorem commit_retry (h : StreamFile H codec sessionId (journal.files.lookup sessionId) records)
    (hlaw : codec.Lawful) {faults : Faults} {prepared existing : PreparedResidentCommit Archive}
    (hsession : prepared.sessionId = sessionId) {i : Nat} (hi : records[i]? = some existing)
    (hid : existing.requestId = prepared.requestId)
    (hfingerprint : existing.requestFingerprint = prepared.requestFingerprint)
    (hschema : prepared.schemaVersion = residentCommitSchema)
    (hbase : existing.baseSha256 = prepared.baseSha256)
    (hfile : faults.fileSync = false) (hdirectory : faults.directorySync = false) :
    (journal.commit H codec faults prepared).1 = .ok ⟨existing.commitId, i + 1⟩ := by
  subst hsession
  have hbases : ∀ r ∈ records, r.baseSha256 = prepared.baseSha256 := by
    intro r hr
    rw [← hbase]
    exact h.same_base hr (List.mem_of_getElem? hi)
  have hplan : journal.planCommit H codec prepared = .ok (.retry ⟨existing.commitId, i + 1⟩
      (terminated newline (journalLines codec records)).length) := by
    rw [planCommit_retry h hlaw hi hid]
    simp only [bind_eq_ok, ensure_eq_ok, pure_eq_ok]
    exact ⟨(), hschema, (), hbases, (), hfingerprint, trivial⟩
  have hsynced := syncBarriers_ok hfile hdirectory
  unfold NativeResidentJournal.commit
  rw [hplan]
  simp only [bind_eq_ok, pure_eq_ok]
  exact ⟨(), hsynced, trivial⟩

theorem commit_reused (h : StreamFile H codec sessionId (journal.files.lookup sessionId) records)
    (hlaw : codec.Lawful) {faults : Faults} {prepared existing : PreparedResidentCommit Archive}
    (hsession : prepared.sessionId = sessionId) {i : Nat} (hi : records[i]? = some existing)
    (hid : existing.requestId = prepared.requestId)
    (hfingerprint : existing.requestFingerprint ≠ prepared.requestFingerprint) :
    ∃ e, (journal.commit H codec faults prepared).1 = .error e := by
  subst hsession
  unfold NativeResidentJournal.commit
  rw [planCommit_retry h hlaw hi hid]
  split
  · exact ⟨_, rfl⟩
  · rename_i hplan
    simp only [bind_eq_ok, ensure_eq_ok] at hplan
    obtain ⟨_, _, _, _, _, hsame, _⟩ := hplan
    exact absurd hsame hfingerprint
  · rename_i hplan
    simp [bind_eq_ok] at hplan

end ExactlyOnce

/-- A journal with room for the sample write alone. -/
noncomputable def sampleJournal : NativeResidentJournal :=
  ⟨∅, (terminated newline (journalLines numberedCodec [sampleWrite 0 none])).length⟩

theorem sampleJournal_commit :
    (sampleJournal.commit sampleDigest numberedCodec {} (sampleWrite 0 none)).1 =
      .ok ⟨"c0", 1⟩ ∧
    StreamFile sampleDigest numberedCodec "s" ((sampleJournal.commit sampleDigest numberedCodec {}
      (sampleWrite 0 none)).2.files.lookup "s") [sampleWrite 0 none] := by
  have hempty : StreamFile sampleDigest numberedCodec (sampleWrite 0 none).sessionId
      (sampleJournal.files.lookup (sampleWrite 0 none).sessionId) [] := by
    unfold sampleJournal
    rw [Finmap.lookup_empty]
    exact StreamFile.empty (by decide)
  have hrun : (PortableHistoryState.replayBound sampleDigest [sampleWrite 0 none] "s"
      "base").toOption.any (fun _ => true) = true := by decide +kernel
  obtain ⟨s, hs, _⟩ := exists_ok_of_any hrun
  exact commit_next hempty numberedCodec_lawful List.not_mem_nil rfl rfl ⟨s, hs⟩ (le_refl _)

/-- A line codec for a journal of one sample record. -/
def sampleCodec : LineCodec Unit where
  encode := fun _ => [openBrace, 0x7D]
  fromStr := fun _ => some ⟨1, sampleWrite 0 none, none, "sha256:0"⟩
  envelopeHash := fun _ _ _ => "sha256:0"

end AgentSpreadsheet
