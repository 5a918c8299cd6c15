import AgentSpreadsheet.Replay

/-! The identities of an accepted stream. Commit and request identities are
named once, and every record's predecessor is the record before it. -/
namespace AgentSpreadsheet
open Library

section Admission
variable {H : Digest Archive} {record : PreparedResidentCommit Archive} {r : Replay}

theorem admitRecord_eq_ok : r.admitRecord record = .ok () ↔
    r.state.discarded = false ∧ record.schemaVersion = residentCommitSchema ∧
    (record.sessionId = r.state.sessionId ∧ record.baseSha256 = r.state.baseSha256) ∧
    (record.commitId ≠ "" ∧ record.commitId ∉ r.commitIds) ∧
    (record.requestId ≠ "" ∧ record.requestId ∉ r.requestIds) ∧
    record.parentCommitId = r.state.streamTip := by
  simp only [Replay.admitRecord, bind_eq_ok, ensure_eq_ok, exists_and_left, exists_const]

end Admission

/-- The loop variables that identify an accepted stream. -/
structure Replay.Indexes (records : List (PreparedResidentCommit Archive)) (r : Replay) :
    Prop where
  commitIds : r.commitIds = (records.map (·.commitId)).toFinset
  commitsOnce : (records.map (·.commitId)).Nodup
  requestIds : r.requestIds = (records.map (·.requestId)).toFinset
  requestsOnce : (records.map (·.requestId)).Nodup
  streamTip : r.state.streamTip = records.getLast?.map (·.commitId)
  parents : records.map (·.parentCommitId) =
    (none :: records.map fun record => some record.commitId).dropLast
  schema : ∀ record ∈ records, record.schemaVersion = residentCommitSchema

section Run
variable {H : Digest Archive} {records : List (PreparedResidentCommit Archive)}
  {record : PreparedResidentCommit Archive} {r r' : Replay} {sessionId baseSha256 : String}

/-- The last predecessor seen is the last commit, or none at the start. -/
private theorem getLast_tips (records : List (PreparedResidentCommit Archive)) :
    (none :: records.map fun record => some record.commitId).getLast (List.cons_ne_nil _ _) =
      records.getLast?.map (·.commitId) := by
  rcases List.eq_nil_or_concat records with rfl | ⟨inner, last, rfl⟩
  · rfl
  · simp

private theorem insert_toFinset (ids : List String) (id : String) :
    insert id ids.toFinset = (ids ++ [id]).toFinset := by
  ext x
  simp only [Finset.mem_insert, List.mem_toFinset, List.mem_append, List.mem_singleton]
  exact or_comm

theorem Replay.Indexes.step (h : r.Indexes records) (hstep : r.step H record = .ok r') :
    r'.Indexes (records ++ [record]) := by
  obtain ⟨state, haccepted, rfl⟩ := (Replay.step_eq_ok H record).mp hstep
  obtain ⟨_, hschema, _, ⟨_, hcommit⟩, ⟨_, hrequest⟩, hparent⟩ :=
    admitRecord_eq_ok.mp haccepted.admitted
  rw [h.commitIds, List.mem_toFinset] at hcommit
  rw [h.requestIds, List.mem_toFinset] at hrequest
  refine ⟨?_, ?_, ?_, ?_, ?_, ?_, ?_⟩
  · rw [List.map_append, List.map_singleton, ← insert_toFinset, ← h.commitIds]
    rfl
  · rw [List.map_append]
    exact List.nodup_append'.mpr ⟨h.commitsOnce, List.nodup_singleton _, by simpa using hcommit⟩
  · rw [List.map_append, List.map_singleton, ← insert_toFinset, ← h.requestIds]
    rfl
  · rw [List.map_append]
    exact List.nodup_append'.mpr ⟨h.requestsOnce, List.nodup_singleton _, by simpa using hrequest⟩
  · simp [Replay.extend]
  · have hlast := List.dropLast_append_getLast
      (List.cons_ne_nil none (records.map fun record => some record.commitId))
    rw [getLast_tips, ← h.streamTip, ← hparent, ← h.parents] at hlast
    rw [List.map_append, List.map_singleton, hlast, List.map_append, List.map_singleton,
      ← List.cons_append, List.dropLast_concat]
  · intro x hx
    rcases List.mem_append.mp hx with hx | hx
    · exact h.schema x hx
    · exact List.mem_singleton.mp hx ▸ hschema

theorem Replay.Indexes.start (sessionId baseSha256 : String) :
    (Replay.start sessionId baseSha256).Indexes ([] : List (PreparedResidentCommit Archive)) :=
  ⟨rfl, List.nodup_nil, rfl, List.nodup_nil, rfl, rfl, by simp⟩

theorem replayFrom_indexes (h : replayFrom H sessionId baseSha256 records = .ok r) :
    r.Indexes records :=
  foldlM_invariant (Replay.Indexes.start sessionId baseSha256)
    (fun _ _ _ _ hs hstep => hs.step hstep) h

theorem Replay.Indexes.parentsOnce (h : r.Indexes records) :
    (records.map (·.parentCommitId)).Nodup := by
  rw [h.parents]
  refine List.Nodup.sublist (List.dropLast_sublist _) ?_
  refine List.nodup_cons.mpr ⟨by simp, ?_⟩
  have hcommits := h.commitsOnce.map (Option.some_injective String)
  rwa [List.map_map] at hcommits

theorem replay_of_replayBound {s : PortableHistoryState} (hne : records ≠ [])
    (h : PortableHistoryState.replayBound H records sessionId baseSha256 = .ok s) :
    PortableHistoryState.replay H records = .ok s := by
  obtain ⟨first, rest, rfl⟩ := List.exists_cons_of_ne_nil hne
  obtain ⟨hids, _⟩ := PortableHistoryState.replayBound_eq_ok.mp h
  obtain ⟨hsession, hbase⟩ := hids first List.mem_cons_self
  simp only [PortableHistoryState.replay, List.head?_cons, bind_eq_ok, required_eq_ok,
    Option.some.injEq, exists_eq_left']
  rw [hsession, hbase]
  exact h

end Run

/-- A digest with the shape of SHA-256 text. -/
def sampleDigest : Digest Unit where
  archive := fun _ => String.ofList (List.replicate 64 '0')
  text := fun _ => String.ofList (List.replicate 64 '0')
  control := fun _ _ _ _ _ _ => String.ofList (List.replicate 64 '0')
  write := fun _ _ _ => String.ofList (List.replicate 64 '0')
  calculate := fun _ _ _ _ => String.ofList (List.replicate 64 '0')
  createFork := fun _ => String.ofList (List.replicate 64 '0')
  discardFork := fun _ => String.ofList (List.replicate 64 '0')
  exportFork := fun _ => String.ofList (List.replicate 64 '0')

/-- Record `n` of a stream on `main` whose every record changes the document. -/
def sampleRecord (n : Nat) (transition : ResidentTransition) (effects : List (Effect Unit))
    (history head tip : Option String) : PreparedResidentCommit Unit where
  schemaVersion := residentCommitSchema
  sessionId := "s"
  commitId := "c" ++ toString n
  parentCommitId := if n = 0 then none else some ("c" ++ toString (n - 1))
  historyParentCommitId := history
  baseSha256 := "base"
  requestId := "r" ++ toString n
  requestFingerprint := "f"
  transition := transition
  effects := effects
  resultingHead := head
  resultingBranch := "main"
  resultingBranches := Finmap.singleton "main" tip
  catalogGeneration := 0
  stateRevision := "resident:e:" ++ toString (n + 1) ++ ":" ++ toString (n + 1)

/-- Record `n` writes A1. -/
def sampleWrite (n : Nat) (history : Option String) : PreparedResidentCommit Unit :=
  sampleRecord n .mutation [{ preparedTransaction := .value {
    baseSha256 := "base"
    response := {
      status := .applied, mode := .apply, atomic := true
      revisionBefore := "resident:e:" ++ toString n ++ ":" ++ toString n
      revisionAfter := "resident:e:" ++ toString (n + 1) ++ ":" ++ toString (n + 1)
      ops := 1, diff := ⟨1, true, "exact", [], []⟩, impact := ⟨["set_cells"], .moderate⟩
      results := [] }
    publication := .cells [⟨"Sheet1", 1, 1, [0], none, ⟨.number n, none⟩⟩]
    staged := none
    consumeStaged := none } }] history (some ("c" ++ toString n)) (some ("c" ++ toString n))

/-- Record `n` moves the head by `transition`. -/
def sampleMove (n : Nat) (transition : ResidentTransition) (head tip : Option String) :
    PreparedResidentCommit Unit :=
  sampleRecord n transition [{ targetHead := some (Value.ofOption head) }] none head tip

def sampleStream : List (PreparedResidentCommit Unit) :=
  [sampleWrite 0 none, sampleWrite 1 (some "c0"), sampleMove 2 .undo (some "c0") (some "c1")]

end AgentSpreadsheet
