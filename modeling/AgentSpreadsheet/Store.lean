import AgentSpreadsheet.ExactlyOnce

/-! Commit storage as a resident session sees it: record streams, and calls whose
outcome may be lost. The native journal refines it. -/
namespace AgentSpreadsheet
open Library

/-- How a storage call goes wrong: not at all, before anything is written, or
after a durable append. A read that goes wrong answers nothing. -/
inductive StorageFault where
  | none
  | refused
  | unacknowledged
  deriving DecidableEq, Repr

/-- `quota` is the journal's lifetime byte quota; a record takes at least a byte. -/
structure RecordStore (Archive : Type) where
  stream : String → List (PreparedResidentCommit Archive)
  quota : UInt64

/-- The record of a request and its place in the stream. -/
def findRequest (records : List (PreparedResidentCommit Archive)) (requestId : String) :
    Option (PreparedResidentCommit Archive × Nat) :=
  records.zipIdx.find? fun entry => entry.1.requestId == requestId

namespace RecordStore
variable (H : Digest Archive) (store : RecordStore Archive)

def append (prepared : PreparedResidentCommit Archive) : RecordStore Archive :=
  { store with
    stream := Function.update store.stream prepared.sessionId
      (store.stream prepared.sessionId ++ [prepared]) }

def load (fault : StorageFault) (sessionId : String) :
    Result (List (PreparedResidentCommit Archive)) := do
  ensure (validSessionId sessionId = true) "invalid session id for journal path"
  ensure (fault = .none) "journal is not readable"
  pure (store.stream sessionId)

/-- The outcome a retried request had; nothing for a record to append. -/
def planCommit (prepared : PreparedResidentCommit Archive) :
    Result (Option DurableCommitOutcome) := do
  ensure (prepared.schemaVersion = residentCommitSchema)
    ("unsupported resident commit schema '" ++ prepared.schemaVersion ++ "': prepare refused")
  ensure (validSessionId prepared.sessionId = true) "invalid session id for journal path"
  ensure (∀ r ∈ store.stream prepared.sessionId, r.baseSha256 = prepared.baseSha256)
    "journal expected base identity mismatch"
  match findRequest (store.stream prepared.sessionId) prepared.requestId with
  | some (existing, i) => do
    ensure (existing.requestFingerprint = prepared.requestFingerprint)
      "request identity reuse with a different fingerprint"
    pure (some ⟨existing.commitId, i + 1⟩)
  | none => do
    let parent := (store.stream prepared.sessionId).getLast?.map (·.commitId)
    ensure (prepared.parentCommitId = parent)
      ("journal CAS conflict: expected parent " ++ debugOption prepared.parentCommitId ++
        ", current " ++ debugOption parent)
    let _ ← PortableHistoryState.replayBound H (store.stream prepared.sessionId ++ [prepared])
      prepared.sessionId prepared.baseSha256
    pure none

def acknowledge (fault : StorageFault) (outcome : DurableCommitOutcome) :
    Result DurableCommitOutcome := do
  ensure (fault = .none) "commit outcome unknown after durable append; reconcile request identity"
  pure outcome

def commit (fault : StorageFault) (prepared : PreparedResidentCommit Archive) :
    Result DurableCommitOutcome × RecordStore Archive :=
  if fault = .refused then (.error "injected failure before journal write", store)
  else
    match store.planCommit H prepared with
    | .error e => (.error e, store)
    | .ok (some outcome) => (acknowledge fault outcome, store)
    | .ok none =>
      if store.quota.toNat ≤ (store.stream prepared.sessionId).length then
        (.error ("resident journal lifetime byte quota reached; no acknowledged history or " ++
          "outcomes expired"), store)
      else
        (acknowledge fault ⟨prepared.commitId, (store.stream prepared.sessionId).length + 1⟩,
          store.append prepared)

def reconcile (fault : StorageFault) (sessionId requestId requestFingerprint : String) :
    Result ReconcileOutcome := do
  ensure (validSessionId sessionId = true) "invalid session id for journal path"
  ensure (fault = .none) "journal is not readable"
  match findRequest (store.stream sessionId) requestId with
  | none => pure .notFound
  | some (existing, i) => do
    ensure (existing.requestFingerprint = requestFingerprint)
      "request identity fingerprint mismatch"
    pure (.committed ⟨existing.commitId, i + 1⟩)

end RecordStore

section Lookup
variable {records : List (PreparedResidentCommit Archive)} {requestId : String}

theorem findRequest_eq_none :
    findRequest records requestId = none ↔ requestId ∉ records.map (·.requestId) := by
  unfold findRequest
  rw [List.find?_eq_none]
  constructor
  · intro h hmem
    obtain ⟨record, hrecord, hid⟩ := List.mem_map.mp hmem
    obtain ⟨i, hi⟩ := List.getElem?_of_mem hrecord
    exact h (record, i) (List.mk_mem_zipIdx_iff_getElem?.mpr hi) (beq_iff_eq.mpr hid)
  · intro h entry hentry hmatch
    obtain ⟨record, i⟩ := entry
    have hi := List.mk_mem_zipIdx_iff_getElem?.mp hentry
    exact h (List.mem_map.mpr ⟨record, List.mem_of_getElem? hi, beq_iff_eq.mp hmatch⟩)

theorem findRequest_some {record : PreparedResidentCommit Archive} {i : Nat}
    (h : findRequest records requestId = some (record, i)) :
    records[i]? = some record ∧ record.requestId = requestId := by
  unfold findRequest at h
  have hmatch := List.find?_some h
  exact ⟨List.mk_mem_zipIdx_iff_getElem?.mp (List.mem_of_find?_eq_some h), beq_iff_eq.mp hmatch⟩

theorem findRequest_concat {record : PreparedResidentCommit Archive}
    (h : record.requestId ∉ records.map (·.requestId)) :
    findRequest (records ++ [record]) record.requestId = some (record, records.length) := by
  have hnone := findRequest_eq_none.mpr h
  unfold findRequest at hnone ⊢
  rw [List.zipIdx_append, List.find?_append, hnone]
  simp

end Lookup

section Spec
variable {H : Digest Archive} {store : RecordStore Archive} {fault : StorageFault}
  {prepared : PreparedResidentCommit Archive}

@[simp] theorem RecordStore.append_stream :
    (store.append prepared).stream prepared.sessionId =
      store.stream prepared.sessionId ++ [prepared] := Function.update_self ..

/-- What a commit of a new request can do: nothing, or append the accepted record
and acknowledge it or not. -/
theorem RecordStore.commit_fresh
    (hfresh : prepared.requestId ∉ (store.stream prepared.sessionId).map (·.requestId)) :
    (∃ e, store.commit H fault prepared = (.error e, store)) ∨
    ((∃ s, PortableHistoryState.replayBound H (store.stream prepared.sessionId ++ [prepared])
        prepared.sessionId prepared.baseSha256 = .ok s) ∧
      (store.stream prepared.sessionId).length < store.quota.toNat ∧
      (store.commit H fault prepared).2 = store.append prepared ∧
      ((store.commit H fault prepared).1 =
          .ok ⟨prepared.commitId, (store.stream prepared.sessionId).length + 1⟩ ∨
        ∃ e, (store.commit H fault prepared).1 = .error e)) := by
  unfold RecordStore.commit
  split
  · exact .inl ⟨_, rfl⟩
  cases hplan : store.planCommit H prepared with
  | error e => exact .inl ⟨e, rfl⟩
  | ok plan =>
    unfold RecordStore.planCommit at hplan
    rw [findRequest_eq_none.mpr hfresh] at hplan
    simp only [bind_eq_ok, ensure_eq_ok, pure_eq_ok] at hplan
    obtain ⟨_, _, _, _, _, _, _, _, s, hs, rfl⟩ := hplan
    simp only
    split
    · exact .inl ⟨_, rfl⟩
    · refine .inr ⟨⟨s, hs⟩, by omega, rfl, ?_⟩
      unfold RecordStore.acknowledge ensure
      split
      · exact .inl rfl
      · exact .inr ⟨_, rfl⟩

end Spec

section Refinement
variable {H : Digest Archive} {codec : LineCodec Archive} {journal : NativeResidentJournal}
  {store : RecordStore Archive} {prepared : PreparedResidentCommit Archive}

/-- Every file of the journal holds the stream of the store. -/
structure Refines (H : Digest Archive) (codec : LineCodec Archive)
    (journal : NativeResidentJournal) (store : RecordStore Archive) : Prop where
  quota : journal.maxBytes ≤ store.quota.toNat
  file : ∀ sessionId, validSessionId sessionId = true →
    StreamFile H codec sessionId (journal.files.lookup sessionId) (store.stream sessionId)

theorem setLen_maxBytes (journal : NativeResidentJournal) (sessionId : String) (length : Nat) :
    (journal.setLen sessionId length).maxBytes = journal.maxBytes := by
  unfold NativeResidentJournal.setLen
  split <;> rfl

theorem commit_maxBytes (faults : Faults) :
    (journal.commit H codec faults prepared).2.maxBytes = journal.maxBytes := by
  unfold NativeResidentJournal.commit
  split
  · rfl
  · exact setLen_maxBytes journal _ _
  · split
    · rfl
    split
    · rfl
    unfold NativeResidentJournal.writeEnvelope
    dsimp only
    split
    · exact setLen_maxBytes journal _ _
    · exact setLen_maxBytes journal _ _

theorem reconcile_maxBytes (faults : Faults) (sessionId requestId requestFingerprint : String) :
    (journal.reconcile H codec faults sessionId requestId requestFingerprint).2.maxBytes =
      journal.maxBytes := by
  unfold NativeResidentJournal.reconcile
  split
  · rfl
  · exact setLen_maxBytes journal sessionId _

/-- A commit moves one file, and the rest of the refinement with it. -/
theorem Refines.commit (h : Refines H codec journal store) (faults : Faults)
    {store' : RecordStore Archive} (hquota : store'.quota = store.quota)
    (hother : ∀ sessionId, sessionId ≠ prepared.sessionId →
      store'.stream sessionId = store.stream sessionId)
    (hown : validSessionId prepared.sessionId = true → StreamFile H codec prepared.sessionId
      ((journal.commit H codec faults prepared).2.files.lookup prepared.sessionId)
      (store'.stream prepared.sessionId)) :
    Refines H codec (journal.commit H codec faults prepared).2 store' := by
  refine ⟨?_, fun sessionId hvalid => ?_⟩
  · rw [commit_maxBytes, hquota]
    exact h.quota
  · by_cases hsession : sessionId = prepared.sessionId
    · subst hsession
      exact hown hvalid
    · rw [commit_lookup_ne hsession, hother sessionId hsession]
      exact h.file sessionId hvalid

/-- The two plans agree: both refuse, both answer a retry, or both append. -/
theorem planCommit_refines (h : Refines H codec journal store) (hlaw : codec.Lawful)
    (prepared : PreparedResidentCommit Archive) :
    (∃ e e', journal.planCommit H codec prepared = .error e ∧
      store.planCommit H prepared = .error e') ∨
    (∃ outcome, journal.planCommit H codec prepared = .ok (.retry outcome (terminated newline
        (journalLines codec (store.stream prepared.sessionId))).length) ∧
      store.planCommit H prepared = .ok (some outcome)) ∨
    (prepared.requestId ∉ (store.stream prepared.sessionId).map (·.requestId) ∧
      (∃ plan, journal.planCommit H codec prepared = .ok plan) ∧
      store.planCommit H prepared = .ok none) := by
  by_cases hvalid : validSessionId prepared.sessionId = true
  swap
  · refine .inl ?_
    unfold NativeResidentJournal.planCommit NativeResidentJournal.loadEnvelopes
      loadEnvelopesWithBoundary RecordStore.planCommit
    simp only [ensure, hvalid, bind, Except.bind]
    split <;> simp
  have hfile := h.file _ hvalid
  cases hfind : findRequest (store.stream prepared.sessionId) prepared.requestId with
  | some entry =>
    obtain ⟨hi, hid⟩ := findRequest_some hfind
    rw [planCommit_retry hfile hlaw hi hid]
    unfold RecordStore.planCommit
    rw [hfind, ensure_pos hvalid]
    by_cases hschema : prepared.schemaVersion = residentCommitSchema
    swap
    · exact .inl ⟨_, _, by rw [ensure_neg hschema]; rfl, by rw [ensure_neg hschema]; rfl⟩
    rw [ensure_pos hschema]
    by_cases hbases : ∀ r ∈ store.stream prepared.sessionId, r.baseSha256 = prepared.baseSha256
    swap
    · exact .inl ⟨_, _, by rw [ensure_neg hbases]; rfl, by rw [ensure_neg hbases]; rfl⟩
    rw [ensure_pos hbases]
    by_cases hfingerprint : entry.1.requestFingerprint = prepared.requestFingerprint
    swap
    · exact .inl ⟨_, _, by rw [ensure_neg hfingerprint]; rfl, by
        simp only [ensure_neg hfingerprint, bind, Except.bind]; rfl⟩
    exact .inr (.inl ⟨⟨entry.1.commitId, entry.2 + 1⟩, by rw [ensure_pos hfingerprint]; rfl, by
      simp only [ensure_pos hfingerprint, bind, Except.bind, pure, Except.pure]⟩)
  | none =>
    have hfresh := findRequest_eq_none.mp hfind
    have hlast := chain_getLast_commitId codec (store.stream prepared.sessionId)
    have hbases := forall_chain_record codec.envelopeHash (store.stream prepared.sessionId)
      (p := fun r => r.baseSha256 = prepared.baseSha256)
    unfold NativeResidentJournal.planCommit NativeResidentJournal.loadEnvelopes
      RecordStore.planCommit
    rw [hfile.loadEnvelopes_eq hlaw]
    simp only [hfind, hfresh, ensure, hvalid, chain_find?_eq_none codec hfresh, chain_map_record,
      hlast, hbases, if_true, bind, Except.bind, not_false_eq_true, true_and]
    split
    · simp
    split
    · simp
    split
    · simp
    cases PortableHistoryState.replayBound H (store.stream prepared.sessionId ++ [prepared])
      prepared.sessionId prepared.baseSha256 with
    | error e => simp
    | ok s => simp [pure, Except.pure]

/-- Whatever faults a native commit meets, the store has a fault that answers and
appends alike. -/
theorem commit_refines (h : Refines H codec journal store) (hlaw : codec.Lawful)
    (faults : Faults) :
    ∃ fault, (store.commit H fault prepared).1.toOption =
        (journal.commit H codec faults prepared).1.toOption ∧
      Refines H codec (journal.commit H codec faults prepared).2
        (store.commit H fault prepared).2 := by
  rcases planCommit_refines h hlaw prepared with
    ⟨e, e', hnative, hstore⟩ | ⟨outcome, hnative, hstore⟩ | ⟨hfresh, ⟨plan, hnative⟩, hstore⟩
  · refine ⟨.none, ?_, ?_⟩
    · simp [RecordStore.commit, NativeResidentJournal.commit, hnative, hstore, Except.toOption]
    · rw [show (store.commit H .none prepared).2 = store by simp [RecordStore.commit, hstore]]
      apply h.commit faults rfl (fun _ _ => rfl)
      simp only [NativeResidentJournal.commit, hnative]
      exact h.file prepared.sessionId
  · cases hsync : NativeResidentJournal.syncBarriers faults with
    | error e =>
      refine ⟨.unacknowledged, ?_, ?_⟩
      · simp [RecordStore.commit, NativeResidentJournal.commit, hnative, hstore, hsync,
          RecordStore.acknowledge, ensure, bind, Except.bind, Except.toOption]
      · rw [show (store.commit H .unacknowledged prepared).2 = store by
          simp [RecordStore.commit, hstore]]
        apply h.commit faults rfl (fun _ _ => rfl)
        simp only [NativeResidentJournal.commit, hnative]
        exact fun hvalid => (h.file _ hvalid).setLen
    | ok =>
      refine ⟨.none, ?_, ?_⟩
      · simp [RecordStore.commit, NativeResidentJournal.commit, hnative, hstore, hsync,
          RecordStore.acknowledge, ensure, bind, Except.bind, Except.toOption, pure, Except.pure]
      · rw [show (store.commit H .none prepared).2 = store by simp [RecordStore.commit, hstore]]
        apply h.commit faults rfl (fun _ _ => rfl)
        simp only [NativeResidentJournal.commit, hnative]
        exact fun hvalid => (h.file _ hvalid).setLen
  · have hvalid : validSessionId prepared.sessionId = true := by
      unfold RecordStore.planCommit at hstore
      simp only [bind_eq_ok, ensure_eq_ok] at hstore
      obtain ⟨_, _, _, hvalid, _⟩ := hstore
      exact hvalid
    have hfile := h.file _ hvalid
    rcases commit_append faults hfile hlaw hfresh hnative with
      ⟨e, hresult, hkept⟩ | ⟨hlength, happended, hresult⟩
    · refine ⟨.refused, by rw [hresult]; rfl, h.commit faults rfl (fun _ _ => rfl) fun _ => ?_⟩
      exact hkept
    · have hquota : ¬ store.quota.toNat ≤ (store.stream prepared.sessionId).length := by
        have := h.quota
        omega
      have hrefines (fault : StorageFault)
          (hstored : (store.commit H fault prepared).2 = store.append prepared) :
          Refines H codec (journal.commit H codec faults prepared).2
            (store.commit H fault prepared).2 := by
        rw [hstored]
        have hstream (sessionId : String) (hne : sessionId ≠ prepared.sessionId) :
            (store.append prepared).stream sessionId = store.stream sessionId :=
          Function.update_of_ne hne _ _
        refine h.commit faults (show (store.append prepared).quota = store.quota from rfl)
          hstream fun _ => ?_
        rw [RecordStore.append_stream]
        exact happended
      rcases hresult with hresult | ⟨e, hresult⟩
      · refine ⟨.none, ?_, hrefines .none ?_⟩
        · simp [RecordStore.commit, hstore, hquota, hresult, RecordStore.acknowledge, ensure, bind,
            Except.bind, pure, Except.pure]
        · simp [RecordStore.commit, hstore, hquota]
      · refine ⟨.unacknowledged, ?_, hrefines .unacknowledged ?_⟩
        · simp [RecordStore.commit, hstore, hquota, hresult, RecordStore.acknowledge, ensure, bind,
            Except.bind, Except.toOption]
        · simp [RecordStore.commit, hstore, hquota]

/-- A native reconciliation answers as the store does, or not at all. -/
theorem reconcile_refines (h : Refines H codec journal store) (hlaw : codec.Lawful)
    (faults : Faults) {sessionId : String} (hvalid : validSessionId sessionId = true)
    (requestId requestFingerprint : String) :
    ∃ fault, (store.reconcile fault sessionId requestId requestFingerprint).toOption =
        (journal.reconcile H codec faults sessionId requestId requestFingerprint).1.toOption ∧
      Refines H codec
        (journal.reconcile H codec faults sessionId requestId requestFingerprint).2 store := by
  have hfile := h.file sessionId hvalid
  have hrefines : Refines H codec
      (journal.reconcile H codec faults sessionId requestId requestFingerprint).2 store := by
    refine ⟨?_, fun other hother => ?_⟩
    · rw [reconcile_maxBytes]
      exact h.quota
    · by_cases hsession : other = sessionId
      · subst hsession
        exact (reconcile_step faults requestId requestFingerprint hfile hlaw).1
      · rw [reconcile_lookup_ne hsession]
        exact h.file other hother
  have hnative : (journal.reconcile H codec faults sessionId requestId requestFingerprint).1 = (do
      (if sessionId ∈ journal.files then NativeResidentJournal.syncBarriers faults else .ok ())
      match findRequest (store.stream sessionId) requestId with
      | none => pure .notFound
      | some (existing, i) => do
        ensure (existing.requestFingerprint = requestFingerprint)
          "request identity fingerprint mismatch"
        pure (.committed ⟨existing.commitId, i + 1⟩)) := by
    unfold NativeResidentJournal.reconcile NativeResidentJournal.loadEnvelopes
    rw [hfile.loadEnvelopes_eq hlaw]
    dsimp only
    cases hfind : findRequest (store.stream sessionId) requestId with
    | none => rw [chain_find?_eq_none codec (findRequest_eq_none.mp hfind)]
    | some entry =>
      obtain ⟨hi, hid⟩ := findRequest_some hfind
      obtain ⟨found, hfound, hrecord, hsequence⟩ := chain_find?_eq codec hfile.indexes.1 hi hid
      rw [hfound]
      simp only [hrecord, hsequence]
  cases hsync : (if sessionId ∈ journal.files then NativeResidentJournal.syncBarriers faults
      else .ok ()) with
  | error e =>
    refine ⟨.refused, ?_, hrefines⟩
    rw [hnative, hsync]
    unfold RecordStore.reconcile
    rw [ensure_pos hvalid]
    rfl
  | ok =>
    refine ⟨.none, ?_, hrefines⟩
    rw [hnative, hsync]
    unfold RecordStore.reconcile
    rw [ensure_pos hvalid, ensure_pos rfl]
    rfl

end Refinement

/-! ### Whole runs -/

section Runs
variable {H : Digest Archive} {codec : LineCodec Archive} {journal : NativeResidentJournal}

def ReconcileOutcome.outcome : ReconcileOutcome → Option DurableCommitOutcome
  | .committed outcome => some outcome
  | .notFound => none

variable (H) in
/-- The same call on a store, with what it reports. -/
def Call.onStore (store : RecordStore Archive) (fault : StorageFault) :
    Call Archive → Option DurableCommitOutcome × RecordStore Archive
  | .commit _ prepared => ((store.commit H fault prepared).1.toOption,
      (store.commit H fault prepared).2)
  | .reconcile _ sessionId requestId requestFingerprint =>
    ((store.reconcile fault sessionId requestId requestFingerprint).toOption.bind
      ReconcileOutcome.outcome, store)

variable (H codec) in
/-- Call by call the store can answer as the journal does and hold what it holds. -/
def Simulates (journal : NativeResidentJournal) (store : RecordStore Archive) :
    List (Call Archive) → Prop
  | [] => Refines H codec journal store
  | call :: rest => Refines H codec journal store ∧ ∃ fault,
      (call.onStore H store fault).1 = call.reported H codec journal ∧
        Simulates (call.run H codec journal) (call.onStore H store fault).2 rest

theorem call_refines {store : RecordStore Archive} (h : Refines H codec journal store)
    (hlaw : codec.Lawful) (call : Call Archive) :
    ∃ fault, (call.onStore H store fault).1 = call.reported H codec journal ∧
      Refines H codec (call.run H codec journal) (call.onStore H store fault).2 := by
  cases call with
  | commit faults prepared => exact commit_refines h hlaw faults
  | reconcile faults sessionId requestId requestFingerprint =>
    by_cases hvalid : validSessionId sessionId = true
    · obtain ⟨fault, hsame, hrefines⟩ :=
        reconcile_refines h hlaw faults hvalid requestId requestFingerprint
      refine ⟨fault, ?_, hrefines⟩
      unfold Call.onStore Call.reported
      dsimp only
      rw [hsame]
      cases (journal.reconcile H codec faults sessionId requestId requestFingerprint).1 with
      | error e => rfl
      | ok found => cases found <;> rfl
    · have hnative : journal.reconcile H codec faults sessionId requestId requestFingerprint =
          (.error "invalid session id for journal path", journal) := by
        simp [NativeResidentJournal.reconcile, NativeResidentJournal.loadEnvelopes,
          loadEnvelopesWithBoundary, ensure, hvalid, bind, Except.bind]
      refine ⟨.none, ?_, ?_⟩
      · simp [Call.onStore, Call.reported, hnative, RecordStore.reconcile, ensure, hvalid, bind,
          Except.bind, Except.toOption]
      · simpa [Call.onStore, Call.run, hnative] using h

theorem setLen_length (sessionId other : String) (length : Nat) :
    (((journal.setLen other length).files.lookup sessionId).getD []).length ≤
      ((journal.files.lookup sessionId).getD []).length := by
  unfold NativeResidentJournal.setLen
  cases hfile : journal.files.lookup other with
  | none => exact Nat.le_refl _
  | some raw =>
    by_cases hsession : sessionId = other
    · subst hsession
      simp [Finmap.lookup_insert, hfile]
    · simp [Finmap.lookup_insert_of_ne _ hsession]

theorem setLen_length_own (sessionId : String) (length : Nat) :
    (((journal.setLen sessionId length).files.lookup sessionId).getD []).length ≤ length := by
  unfold NativeResidentJournal.setLen
  cases hfile : journal.files.lookup sessionId with
  | none => simp [hfile]
  | some raw => simp [Finmap.lookup_insert]

theorem call_within {maxBytes : Nat} (hmax : journal.maxBytes = maxBytes)
    (hfiles : ∀ id, ((journal.files.lookup id).getD []).length ≤ maxBytes) (call : Call Archive)
    (id : String) :
    (((call.run H codec journal).files.lookup id).getD []).length ≤ maxBytes := by
  have hcut (other : String) (length : Nat) := (setLen_length id other length).trans (hfiles id)
  cases call with
  | reconcile faults sessionId requestId requestFingerprint =>
    unfold Call.run NativeResidentJournal.reconcile
    dsimp only
    split
    · exact hfiles id
    · exact hcut _ _
  | commit faults prepared =>
    unfold Call.run NativeResidentJournal.commit
    dsimp only
    split
    · exact hfiles id
    · exact hcut _ _
    · split
      · exact hfiles id
      split
      · exact hfiles id
      rename_i envelope completeLen physicalLen _ _ hquota
      unfold NativeResidentJournal.writeEnvelope
      dsimp only
      split
      · exact hcut _ _
      · by_cases hsession : id = envelope.record.sessionId
        · have hown := @setLen_length_own journal id completeLen
          subst hsession
          unfold NativeResidentJournal.append
          rw [Finmap.lookup_insert, Option.getD_some, List.length_append, List.length_append,
            List.length_singleton]
          omega
        · rw [append_lookup_ne hsession]
          exact hcut _ _

end Runs

end AgentSpreadsheet
