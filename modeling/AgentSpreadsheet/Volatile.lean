import AgentSpreadsheet.Store

/-! The journal of a browser session: its record stream in memory. Without storage
faults and below both byte limits it answers every call as the native journal does. -/
namespace AgentSpreadsheet
open Library

/-- `bytes` counts the stream as the text of one JSON list. -/
structure MemoryJournal (Archive : Type) where
  sessionId : String
  baseSha256 : String
  records : List (PreparedResidentCommit Archive)
  bytes : Nat

namespace MemoryJournal
variable (H : Digest Archive) (toVec : PreparedResidentCommit Archive → List UInt8)
  (journal : MemoryJournal Archive)

def maxBytes : Nat := 32 * 1024 * 1024

def new (sessionId baseSha256 : String) : MemoryJournal Archive :=
  ⟨sessionId, baseSha256, [], 2⟩

def bound (sessionId : String) : Result Unit :=
  ensure (sessionId = journal.sessionId) "journal resource binding mismatch"

def load (sessionId : String) : Result (List (PreparedResidentCommit Archive)) := do
  journal.bound sessionId
  pure journal.records

def reconcile (sessionId requestId fingerprint : String) : Result ReconcileOutcome := do
  journal.bound sessionId
  match findRequest journal.records requestId with
  | none => pure .notFound
  | some (record, index) => do
    ensure (record.requestFingerprint = fingerprint) "request identity reuse with different input"
    pure (.committed ⟨record.commitId, index + 1⟩)

def nextBytes (prepared : PreparedResidentCommit Archive) : Nat :=
  journal.bytes + ((toVec prepared).length + 1)

/-- The whole extended stream is replayed before the record is kept. -/
def commit (prepared : PreparedResidentCommit Archive) :
    Result (DurableCommitOutcome × MemoryJournal Archive) := do
  journal.bound prepared.sessionId
  match ← journal.reconcile prepared.sessionId prepared.requestId prepared.requestFingerprint with
  | .committed outcome => pure (outcome, journal)
  | .notFound => do
    let nextBytes := journal.nextBytes toVec prepared
    ensure (nextBytes ≤ maxBytes)
      "volatile journal exceeds its 32 MiB limit; record was not appended"
    let records := journal.records ++ [prepared]
    let _ ← PortableHistoryState.replayBound H records journal.sessionId journal.baseSha256
    pure (⟨prepared.commitId, records.length⟩, { journal with records, bytes := nextBytes })

end MemoryJournal

inductive StorageCall (Archive : Type) where
  | load
  | commit (prepared : PreparedResidentCommit Archive)
  | reconcile (requestId requestFingerprint : String)

inductive StorageAnswer (Archive : Type) where
  | loaded (records : List (PreparedResidentCommit Archive))
  | committed (outcome : DurableCommitOutcome)
  | reconciled (outcome : ReconcileOutcome)

/-- The identity a call is made under is the one the storage is bound to. -/
def StorageCall.Carries (sessionId baseSha256 : String) : StorageCall Archive → Prop
  | .commit prepared => prepared.sessionId = sessionId ∧ prepared.baseSha256 = baseSha256 ∧
      prepared.schemaVersion = residentCommitSchema
  | _ => True

section Calls
variable (H : Digest Archive) (codec : LineCodec Archive)
  (toVec : PreparedResidentCommit Archive → List UInt8)

/-- A rejected call answers nothing and leaves the journal as it was. -/
def MemoryJournal.answer (journal : MemoryJournal Archive) :
    StorageCall Archive → Option (StorageAnswer Archive) × MemoryJournal Archive
  | .load => ((journal.load journal.sessionId).toOption.map .loaded, journal)
  | .commit prepared =>
    match journal.commit H toVec prepared with
    | .ok (outcome, journal') => (some (.committed outcome), journal')
    | .error _ => (none, journal)
  | .reconcile requestId requestFingerprint =>
    ((journal.reconcile journal.sessionId requestId requestFingerprint).toOption.map .reconciled,
      journal)

def NativeResidentJournal.answer (journal : NativeResidentJournal) (sessionId : String) :
    StorageCall Archive → Option (StorageAnswer Archive) × NativeResidentJournal
  | .load => ((journal.load H codec sessionId).toOption.map .loaded, journal)
  | .commit prepared =>
    ((journal.commit H codec {} prepared).1.toOption.map .committed,
      (journal.commit H codec {} prepared).2)
  | .reconcile requestId requestFingerprint =>
    ((journal.reconcile H codec {} sessionId requestId requestFingerprint).1.toOption.map
        .reconciled,
      (journal.reconcile H codec {} sessionId requestId requestFingerprint).2)

def MemoryJournal.answers (journal : MemoryJournal Archive) :
    List (StorageCall Archive) → List (Option (StorageAnswer Archive))
  | [] => []
  | call :: rest => (journal.answer H toVec call).1 ::
      (journal.answer H toVec call).2.answers rest

def NativeResidentJournal.answers (journal : NativeResidentJournal) (sessionId : String) :
    List (StorageCall Archive) → List (Option (StorageAnswer Archive))
  | [] => []
  | call :: rest => (journal.answer H codec sessionId call).1 ::
      (journal.answer H codec sessionId call).2.answers sessionId rest

/-- Neither byte limit stops a record the call would append. -/
def StorageCall.Fits (memory : MemoryJournal Archive) (native : NativeResidentJournal) :
    StorageCall Archive → Prop
  | .commit prepared =>
    (memory.reconcile prepared.sessionId prepared.requestId prepared.requestFingerprint =
        .ok .notFound → memory.nextBytes toVec prepared ≤ MemoryJournal.maxBytes) ∧
    ∀ envelope completeLen physicalLen,
      native.planCommit H codec prepared = .ok (.append envelope completeLen physicalLen) →
        completeLen + (codec.encode envelope).length + 1 ≤ native.maxBytes
  | _ => True

/-- Every call of the run fits the journals it meets. -/
def BelowLimits (sessionId : String) (memory : MemoryJournal Archive)
    (native : NativeResidentJournal) : List (StorageCall Archive) → Prop
  | [] => True
  | call :: rest => call.Fits H codec toVec memory native ∧
      BelowLimits sessionId (memory.answer H toVec call).2
        (native.answer H codec sessionId call).2 rest

end Calls

section Agreement
variable {H : Digest Archive} {codec : LineCodec Archive}
  {toVec : PreparedResidentCommit Archive → List UInt8} {sessionId baseSha256 : String}
  {memory : MemoryJournal Archive} {native : NativeResidentJournal}
  {prepared : PreparedResidentCommit Archive}

/-- The session's file holds the records in memory. -/
structure Mirrors (H : Digest Archive) (codec : LineCodec Archive) (sessionId baseSha256 : String)
    (memory : MemoryJournal Archive) (native : NativeResidentJournal) : Prop where
  session : memory.sessionId = sessionId
  base : memory.baseSha256 = baseSha256
  file : StreamFile H codec sessionId (native.files.lookup sessionId) memory.records
  bases : ∀ r ∈ memory.records, r.baseSha256 = baseSha256

theorem Mirrors.start (hvalid : validSessionId sessionId = true)
    (hempty : native.files.lookup sessionId = none) :
    Mirrors H codec sessionId baseSha256 (.new sessionId baseSha256) native := by
  refine ⟨rfl, rfl, ?_, by simp [MemoryJournal.new]⟩
  rw [hempty]
  exact StreamFile.empty hvalid

/-- A stream that replays with one more record names its last commit as the
record's parent. -/
theorem replayBound_parent {records : List (PreparedResidentCommit Archive)}
    {s : PortableHistoryState}
    (h : PortableHistoryState.replayBound H (records ++ [prepared]) sessionId baseSha256 = .ok s) :
    prepared.parentCommitId = records.getLast?.map (·.commitId) := by
  obtain ⟨_, r, hr, _⟩ := PortableHistoryState.replayBound_eq_ok.mp h
  have hparents := (replayFrom_indexes hr).parents
  rw [List.map_append, List.map_append, ← List.cons_append, List.map_singleton,
    List.map_singleton, List.dropLast_concat] at hparents
  have hlast := congrArg List.getLast? hparents
  rw [List.getLast?_concat] at hlast
  rcases List.eq_nil_or_concat records with rfl | ⟨inner, last, rfl⟩
  · exact Option.some.inj hlast
  · rw [List.concat_eq_append, List.map_append, ← List.cons_append, List.map_singleton,
      List.getLast?_concat] at hlast
    rw [List.concat_eq_append, List.getLast?_concat]
    exact Option.some.inj hlast

theorem Mirrors.reconcile (h : Mirrors H codec sessionId baseSha256 memory native)
    (hlaw : codec.Lawful) (requestId requestFingerprint : String) :
    (native.reconcile H codec {} sessionId requestId requestFingerprint).1.toOption =
      (memory.reconcile sessionId requestId requestFingerprint).toOption := by
  have hsync : (if sessionId ∈ native.files then NativeResidentJournal.syncBarriers {} else .ok ()) =
      Except.ok () := by
    rw [syncBarriers_ok rfl rfl, ite_self]
  unfold NativeResidentJournal.reconcile NativeResidentJournal.loadEnvelopes
    MemoryJournal.reconcile MemoryJournal.bound
  rw [h.file.loadEnvelopes_eq hlaw, ensure_pos h.session.symm]
  simp only [hsync]
  cases hfind : findRequest memory.records requestId with
  | none =>
    rw [chain_find?_eq_none codec (findRequest_eq_none.mp hfind)]
  | some entry =>
    obtain ⟨hi, hid⟩ := findRequest_some hfind
    obtain ⟨found, hfound, hrecord, hsequence⟩ := chain_find?_eq codec h.file.indexes.1 hi hid
    rw [hfound]
    simp only [hrecord, hsequence, bind, Except.bind]
    by_cases hfingerprint : entry.1.requestFingerprint = requestFingerprint
    · rw [ensure_pos hfingerprint, ensure_pos hfingerprint]
    · rw [ensure_neg hfingerprint, ensure_neg hfingerprint]
      rfl

theorem MemoryJournal.answer_ok {outcome : DurableCommitOutcome} {memory' : MemoryJournal Archive}
    (h : memory.commit H toVec prepared = .ok (outcome, memory')) :
    memory.answer H toVec (.commit prepared) = (some (.committed outcome), memory') := by
  simp only [MemoryJournal.answer, h]

theorem MemoryJournal.answer_error {e : String} (h : memory.commit H toVec prepared = .error e) :
    memory.answer H toVec (.commit prepared) = (none, memory) := by
  simp only [MemoryJournal.answer, h]

theorem NativeResidentJournal.answer_error {e : String}
    (h : native.planCommit H codec prepared = .error e) :
    native.answer H codec sessionId (.commit prepared) = (none, native) := by
  simp only [NativeResidentJournal.answer, NativeResidentJournal.commit, h, Except.toOption,
    Option.map_none]

/-- Both journals give the call one answer and hold the same stream after it. -/
def Alike (H : Digest Archive) (codec : LineCodec Archive)
    (toVec : PreparedResidentCommit Archive → List UInt8) (sessionId baseSha256 : String)
    (memory : MemoryJournal Archive) (native : NativeResidentJournal)
    (call : StorageCall Archive) : Prop :=
  (memory.answer H toVec call).1 = (native.answer H codec sessionId call).1 ∧
  Mirrors H codec sessionId baseSha256 (memory.answer H toVec call).2
    (native.answer H codec sessionId call).2

/-- A request in the stream gets its own outcome from both, or a refusal. -/
theorem Mirrors.commit_retry (h : Mirrors H codec sessionId baseSha256 memory native)
    (hlaw : codec.Lawful)
    (hcarries : (StorageCall.commit prepared).Carries sessionId baseSha256)
    {record : PreparedResidentCommit Archive} {i : Nat}
    (hfind : findRequest memory.records prepared.requestId = some (record, i)) :
    Alike H codec toVec sessionId baseSha256 memory native (.commit prepared) := by
  obtain ⟨rfl, rfl, hschema⟩ := hcarries
  obtain ⟨hi, hid⟩ := findRequest_some hfind
  have hplan := planCommit_retry h.file hlaw hi hid
  have hmemory : memory.commit H toVec prepared = (do
      ensure (record.requestFingerprint = prepared.requestFingerprint)
        "request identity reuse with different input"
      pure (⟨record.commitId, i + 1⟩, memory)) := by
    unfold MemoryJournal.commit MemoryJournal.reconcile MemoryJournal.bound
    rw [hfind, ensure_pos h.session.symm]
    by_cases hfingerprint : record.requestFingerprint = prepared.requestFingerprint
    · simp only [ensure_pos hfingerprint, bind, Except.bind, pure, Except.pure]
    · simp only [ensure_neg hfingerprint, bind, Except.bind]
  unfold Alike
  rw [ensure_pos hschema, ensure_pos h.bases] at hplan
  by_cases hfingerprint : record.requestFingerprint = prepared.requestFingerprint
  · rw [ensure_pos hfingerprint] at hplan hmemory
    rw [MemoryJournal.answer_ok hmemory]
    simp only [NativeResidentJournal.answer, NativeResidentJournal.commit, hplan]
    exact ⟨rfl, h.session, h.base, h.file.setLen, h.bases⟩
  · rw [ensure_neg hfingerprint] at hplan hmemory
    rw [MemoryJournal.answer_error hmemory, NativeResidentJournal.answer_error hplan]
    exact ⟨rfl, h⟩

theorem Mirrors.commit_fresh (h : Mirrors H codec sessionId baseSha256 memory native)
    (hlaw : codec.Lawful)
    (hcarries : (StorageCall.commit prepared).Carries sessionId baseSha256)
    (hfits : (StorageCall.commit prepared).Fits H codec toVec memory native)
    (hfind : findRequest memory.records prepared.requestId = none) :
    Alike H codec toVec sessionId baseSha256 memory native (.commit prepared) := by
  obtain ⟨rfl, rfl, hschema⟩ := hcarries
  have hfresh := findRequest_eq_none.mp hfind
  have hreconcile : memory.reconcile prepared.sessionId prepared.requestId
      prepared.requestFingerprint = .ok .notFound := by
    unfold MemoryJournal.reconcile MemoryJournal.bound
    rw [hfind, ensure_pos h.session.symm]
    rfl
  have hmemory : memory.commit H toVec prepared = (do
      let _ ← PortableHistoryState.replayBound H (memory.records ++ [prepared])
        prepared.sessionId prepared.baseSha256
      pure (⟨prepared.commitId, memory.records.length + 1⟩, { memory with
        records := memory.records ++ [prepared], bytes := memory.nextBytes toVec prepared })) := by
    unfold MemoryJournal.commit MemoryJournal.bound
    rw [hreconcile, ensure_pos h.session.symm]
    simp only [bind, Except.bind, ensure_pos (hfits.1 hreconcile), h.session, h.base,
      List.length_append, List.length_singleton]
  unfold Alike
  cases hreplays : PortableHistoryState.replayBound H (memory.records ++ [prepared])
      prepared.sessionId prepared.baseSha256 with
  | error e =>
    rw [hreplays] at hmemory
    cases hplan : native.planCommit H codec prepared with
    | error e' =>
      rw [MemoryJournal.answer_error hmemory, NativeResidentJournal.answer_error hplan]
      exact ⟨rfl, h⟩
    | ok plan =>
      obtain ⟨_, _, ⟨s, hs⟩, _⟩ := planCommit_fresh h.file hlaw hfresh hplan
      rw [hreplays] at hs
      cases hs
  | ok s =>
    rw [hreplays] at hmemory
    have hparent := replayBound_parent hreplays
    have hquota : (terminated newline (journalLines codec (memory.records ++ [prepared]))).length ≤
        native.maxBytes := by
      have hfit := hfits.2 _ _ _ (planCommit_append h.file hlaw hfresh hparent hschema ⟨s, hreplays⟩)
      simp only [journalLines_concat, terminated_append, terminated_cons, terminated_nil,
        List.length_append, List.length_singleton]
      omega
    obtain ⟨hresult, hfile⟩ := commit_next h.file hlaw hfresh hparent hschema ⟨s, hreplays⟩ hquota
    rw [MemoryJournal.answer_ok hmemory]
    simp only [NativeResidentJournal.answer, hresult]
    refine ⟨rfl, h.session, h.base, hfile, ?_⟩
    intro r hr
    rcases List.mem_append.mp hr with hr | hr
    · exact h.bases r hr
    · rw [List.mem_singleton.mp hr]

theorem Mirrors.answer (h : Mirrors H codec sessionId baseSha256 memory native)
    (hlaw : codec.Lawful) {call : StorageCall Archive} (hcarries : call.Carries sessionId baseSha256)
    (hfits : call.Fits H codec toVec memory native) :
    Alike H codec toVec sessionId baseSha256 memory native call := by
  cases call with
  | load =>
    refine ⟨?_, h⟩
    simp only [MemoryJournal.answer, NativeResidentJournal.answer, h.file.load_eq hlaw,
      MemoryJournal.load, MemoryJournal.bound, ensure_pos]
    rfl
  | commit prepared =>
    cases hfind : findRequest memory.records prepared.requestId with
    | some entry => exact h.commit_retry hlaw hcarries hfind
    | none => exact h.commit_fresh hlaw hcarries hfits hfind
  | reconcile requestId requestFingerprint =>
    have hresult := h.reconcile hlaw requestId requestFingerprint
    have hfile := (reconcile_step {} requestId requestFingerprint h.file hlaw).1
    refine ⟨?_, h.session, h.base, hfile, h.bases⟩
    simp only [MemoryJournal.answer, NativeResidentJournal.answer, h.session, hresult]

theorem Mirrors.answers (h : Mirrors H codec sessionId baseSha256 memory native)
    (hlaw : codec.Lawful) {calls : List (StorageCall Archive)}
    (hcarries : ∀ call ∈ calls, call.Carries sessionId baseSha256)
    (hbelow : BelowLimits H codec toVec sessionId memory native calls) :
    memory.answers H toVec calls = native.answers H codec sessionId calls := by
  induction calls generalizing memory native with
  | nil => rfl
  | cons call rest ih =>
    obtain ⟨hanswer, hnext⟩ := h.answer hlaw (hcarries call List.mem_cons_self) hbelow.1
    have hrest := ih hnext (fun call hcall => hcarries call (List.mem_cons_of_mem _ hcall)) hbelow.2
    simp only [MemoryJournal.answers, NativeResidentJournal.answers, hanswer, hrest]

end Agreement

end AgentSpreadsheet
