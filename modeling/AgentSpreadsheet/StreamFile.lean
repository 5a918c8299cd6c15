import AgentSpreadsheet.Journal

/-! A session's journal file holds the chain of its records and perhaps a torn
tail. A call keeps this and adds at most the record it was given. -/
namespace AgentSpreadsheet
open Library

section Lines
variable {codec : LineCodec Archive}

namespace LineCodec.Lawful

theorem newline_notMem (h : codec.Lawful) (e : JournalEnvelope Archive) :
    newline ∉ codec.encode e := by
  intro hmem
  exact absurd (h.printable e newline hmem) (by decide)

theorem strip_encode (h : codec.Lawful) (e : JournalEnvelope Archive) :
    stripCarriageReturn (codec.encode e) = codec.encode e := by
  unfold stripCarriageReturn
  rw [if_neg]
  intro hlast
  exact absurd (h.printable e carriageReturn (List.mem_of_getLast? hlast)) (by decide)

theorem isBlank_encode (h : codec.Lawful) (e : JournalEnvelope Archive) :
    isBlank (codec.encode e) = false := by
  have hobject := h.object e
  cases hbytes : codec.encode e with
  | nil => simp [hbytes] at hobject
  | cons b rest =>
    rw [hbytes, List.head?_cons] at hobject
    obtain rfl := Option.some.inj hobject
    simp [isBlank, openBrace]

end LineCodec.Lawful

variable {sessionId : String} {records : List (PreparedResidentCommit Archive)}

def Belongs (sessionId : String) (record : PreparedResidentCommit Archive) : Prop :=
  record.schemaVersion = residentCommitSchema ∧ record.sessionId = sessionId

/-- The lines of a file that holds exactly these records. -/
def journalLines (codec : LineCodec Archive) (records : List (PreparedResidentCommit Archive)) :
    List (List UInt8) :=
  (chain codec.envelopeHash records).map codec.encode

theorem journalLines_concat (record : PreparedResidentCommit Archive) :
    journalLines codec (records ++ [record]) = journalLines codec records ++
      [codec.encode (nextEnvelope codec.envelopeHash (chain codec.envelopeHash records) record)] := by
  simp [journalLines, chain_concat]

theorem journalLines_take (k : Nat) :
    journalLines codec (records.take k) = (journalLines codec records).take k := by
  simp [journalLines, chain_take]

@[simp] theorem length_journalLines : (journalLines codec records).length = records.length := by
  simp [journalLines]

theorem newline_notMem_lines (hlaw : codec.Lawful)
    (records : List (PreparedResidentCommit Archive)) :
    ∀ line ∈ journalLines codec records, newline ∉ line := by
  intro line hline
  obtain ⟨e, _, rfl⟩ := List.mem_map.mp hline
  exact hlaw.newline_notMem e

/-- Reading back the lines of a chain gives the chain. -/
theorem readLines_journalLines (hlaw : codec.Lawful) (h : ∀ r ∈ records, Belongs sessionId r) :
    (journalLines codec records).foldlM (readLine codec sessionId) ⟨0, [], none⟩ =
      .ok ⟨records.length, chain codec.envelopeHash records,
        (chain codec.envelopeHash records).getLast?.map (·.hash)⟩ := by
  induction records using List.reverseRecOn with
  | nil => rfl
  | append_singleton records record ih =>
    have hrecords : ∀ r ∈ records, Belongs sessionId r := fun r hr =>
      h r (List.mem_append_left _ hr)
    obtain ⟨hschema, hsession⟩ := h record (by simp)
    rw [journalLines_concat, List.foldlM_append, ih hrecords, chain_concat]
    simp [readLine, hlaw.strip_encode, hlaw.isBlank_encode, hlaw.fromStr_encode, required,
      ensure, nextEnvelope, hschema, hsession]

end Lines

/-- The session's file holds exactly these records, and perhaps a torn tail. -/
structure StreamFile (H : Digest Archive) (codec : LineCodec Archive) (sessionId : String)
    (file : Option (List UInt8)) (records : List (PreparedResidentCommit Archive)) : Prop where
  valid : validSessionId sessionId = true
  bytes : file = none ∧ records = [] ∨ ∃ tail, newline ∉ tail ∧
    file = some (terminated newline (journalLines codec records) ++ tail)
  belong : ∀ r ∈ records, Belongs sessionId r
  replays : records ≠ [] → ∃ s, PortableHistoryState.replay H records = .ok s

namespace StreamFile
variable {H : Digest Archive} {codec : LineCodec Archive} {sessionId : String}
  {journal : NativeResidentJournal} {file : Option (List UInt8)}
  {records : List (PreparedResidentCommit Archive)}

theorem empty (hvalid : validSessionId sessionId = true) :
    StreamFile H codec sessionId none ([] : List (PreparedResidentCommit Archive)) :=
  ⟨hvalid, .inl ⟨rfl, rfl⟩, by simp, by simp⟩

/-- Loading a stream's file gives its chain and the end of its last line. -/
theorem loadEnvelopes_eq (h : StreamFile H codec sessionId file records) (hlaw : codec.Lawful) :
    loadEnvelopesWithBoundary H codec sessionId file = .ok (chain codec.envelopeHash records,
      (terminated newline (journalLines codec records)).length, (file.getD []).length) := by
  unfold loadEnvelopesWithBoundary
  rcases h.bytes with ⟨rfl, rfl⟩ | ⟨tail, htail, rfl⟩
  · simp [ensure, h.valid, journalLines, bind, Except.bind, pure, Except.pure]
  · have hread := readLines_journalLines hlaw h.belong
    simp only [ensure, h.valid, if_true, linesOf_append_tail newline
      (newline_notMem_lines hlaw records) htail, completeLength_append_tail newline _ htail, hread, bind, Except.bind]
    split
    · rename_i hne
      have hrecords : records ≠ [] := by
        rintro rfl
        exact hne rfl
      obtain ⟨s, hs⟩ := h.replays hrecords
      simp [hs, pure, Except.pure]
    · rfl

theorem load_eq (h : StreamFile H codec sessionId (journal.files.lookup sessionId) records)
    (hlaw : codec.Lawful) : journal.load H codec sessionId = .ok records := by
  unfold NativeResidentJournal.load NativeResidentJournal.loadEnvelopes
  rw [h.loadEnvelopes_eq hlaw]
  simp only [bind, Except.bind, chain_map_record]
  split
  · rename_i hne
    obtain ⟨s, hs⟩ := h.replays hne
    simp [hs, pure, Except.pure]
  · rfl

theorem setLen (h : StreamFile H codec sessionId (journal.files.lookup sessionId) records) :
    StreamFile H codec sessionId ((journal.setLen sessionId
      (terminated newline (journalLines codec records)).length).files.lookup sessionId)
      records := by
  refine ⟨h.valid, ?_, h.belong, h.replays⟩
  unfold NativeResidentJournal.setLen
  rcases h.bytes with ⟨hfile, hrecords⟩ | ⟨tail, htail, hfile⟩
  · rw [hfile]
    exact .inl ⟨hfile, hrecords⟩
  · rw [hfile]
    simp only [Finmap.lookup_insert, List.take_left]
    exact .inr ⟨[], by simp, by simp⟩

theorem append {record : PreparedResidentCommit Archive}
    (h : StreamFile H codec sessionId (journal.files.lookup sessionId) records)
    (hbelongs : Belongs sessionId record)
    (hreplays : ∃ s, PortableHistoryState.replay H (records ++ [record]) = .ok s) :
    StreamFile H codec sessionId (((journal.setLen sessionId
      (terminated newline (journalLines codec records)).length).append sessionId
      (codec.encode (nextEnvelope codec.envelopeHash (chain codec.envelopeHash records) record) ++
        [newline])).files.lookup sessionId) (records ++ [record]) := by
  refine ⟨h.valid, .inr ⟨[], by simp, ?_⟩, ?_, fun _ => hreplays⟩
  · have hcut : ((journal.setLen sessionId
        (terminated newline (journalLines codec records)).length).files.lookup sessionId).getD [] =
        terminated newline (journalLines codec records) := by
      unfold NativeResidentJournal.setLen
      rcases h.bytes with ⟨hfile, rfl⟩ | ⟨tail, _, hfile⟩
      · rw [hfile]
        simp [hfile, journalLines]
      · rw [hfile]
        simp
    simp only [NativeResidentJournal.append, Finmap.lookup_insert, hcut, journalLines_concat,
      terminated_append, terminated_cons, terminated_nil, List.append_nil]
  · intro r hr
    rcases List.mem_append.mp hr with hr | hr
    · exact h.belong r hr
    · exact List.mem_singleton.mp hr ▸ hbelongs

theorem indexes (h : StreamFile H codec sessionId file records) :
    (records.map (·.requestId)).Nodup ∧ (records.map (·.parentCommitId)).Nodup := by
  by_cases hne : records = []
  · simp [hne]
  · obtain ⟨s, hs⟩ := h.replays hne
    unfold PortableHistoryState.replay at hs
    obtain ⟨first, _, hs⟩ := bind_eq_ok.mp hs
    obtain ⟨_, r, hr, _⟩ := PortableHistoryState.replayBound_eq_ok.mp hs
    exact ⟨(replayFrom_indexes hr).requestsOnce, (replayFrom_indexes hr).parentsOnce⟩

end StreamFile

section Commit
variable {H : Digest Archive} {codec : LineCodec Archive} {journal : NativeResidentJournal}
  {sessionId : String} {records : List (PreparedResidentCommit Archive)}
  {prepared existing : PreparedResidentCommit Archive}

theorem chain_find?_eq (codec : LineCodec Archive) {requestId : String} {i : Nat}
    (honce : (records.map (·.requestId)).Nodup) (hi : records[i]? = some existing)
    (hid : existing.requestId = requestId) :
    ∃ entry, (chain codec.envelopeHash records).find?
        (fun entry => entry.record.requestId == requestId) = some entry ∧
      entry.record = existing ∧ entry.sequence = i + 1 := by
  have hlength : i < (chain codec.envelopeHash records).length := by
    rw [length_chain]
    exact (List.getElem?_eq_some_iff.mp hi).1
  have hentry := List.getElem?_eq_getElem hlength
  obtain ⟨hrecord, _⟩ := chain_getElem? _ hentry
  have hmatch : (chain codec.envelopeHash records)[i].record.requestId == requestId := by
    rw [hi] at hrecord
    rw [← Option.some.inj hrecord, hid]
    exact beq_self_eq_true _
  have hsome : ((chain codec.envelopeHash records).find?
      fun entry => entry.record.requestId == requestId).isSome := by
    rw [List.find?_isSome]
    exact ⟨_, List.getElem_mem hlength, hmatch⟩
  obtain ⟨entry, hfind⟩ := Option.isSome_iff_exists.mp hsome
  obtain ⟨hfound, j, hj, hentryj, _⟩ := List.find?_eq_some_iff_getElem.mp hfind
  obtain ⟨hrecordj, hsequence⟩ := chain_getElem? _ (List.getElem?_eq_some_iff.mpr ⟨hj, hentryj⟩)
  -- both places carry the request, and it is named once
  have hij : i = j := by
    have hkeyi : (records.map (·.requestId))[i]? = some requestId := by simp [hi, hid]
    have hkeyj : (records.map (·.requestId))[j]? = some requestId := by
      simp [hrecordj, beq_iff_eq.mp hfound]
    obtain ⟨hlti, hgeti⟩ := List.getElem?_eq_some_iff.mp hkeyi
    obtain ⟨hltj, hgetj⟩ := List.getElem?_eq_some_iff.mp hkeyj
    exact (List.Nodup.getElem_inj_iff honce).mp (hgeti.trans hgetj.symm)
  subst hij
  refine ⟨entry, hfind, ?_, hsequence⟩
  exact Option.some.inj (hrecordj.symm.trans hi)

theorem chain_find?_eq_none (codec : LineCodec Archive) {requestId : String} (h : requestId ∉ records.map (·.requestId)) :
    (chain codec.envelopeHash records).find?
      (fun entry => entry.record.requestId == requestId) = none := by
  rw [List.find?_eq_none]
  intro entry hentry hmatch
  apply h
  rw [← chain_map_record codec.envelopeHash records, List.map_map]
  exact List.mem_map.mpr ⟨entry, hentry, beq_iff_eq.mp hmatch⟩

theorem chain_getLast_commitId (codec : LineCodec Archive)
    (records : List (PreparedResidentCommit Archive)) :
    (chain codec.envelopeHash records).getLast?.map (·.record.commitId) =
      records.getLast?.map (·.commitId) := by
  conv => rhs; rw [← chain_map_record codec.envelopeHash records, List.getLast?_map]
  rw [Option.map_map]
  rfl

theorem syncBarriers_ok {faults : Faults} (hfile : faults.fileSync = false)
    (hdirectory : faults.directorySync = false) :
    NativeResidentJournal.syncBarriers faults = .ok () := by
  unfold NativeResidentJournal.syncBarriers
  simp only [bind_eq_ok, NativeResidentJournal.syncFile, NativeResidentJournal.syncDirectory,
    ensure_eq_ok]
  exact ⟨(), hfile, hdirectory⟩

theorem planCommit_retry (h : StreamFile H codec prepared.sessionId
    (journal.files.lookup prepared.sessionId) records) (hlaw : codec.Lawful) {i : Nat}
    (hi : records[i]? = some existing) (hid : existing.requestId = prepared.requestId) :
    journal.planCommit H codec prepared = (do
      ensure (prepared.schemaVersion = residentCommitSchema)
        ("unsupported resident commit schema '" ++ prepared.schemaVersion ++ "': prepare refused")
      ensure (∀ r ∈ records, r.baseSha256 = prepared.baseSha256)
        "journal expected base identity mismatch"
      ensure (existing.requestFingerprint = prepared.requestFingerprint)
        "request identity reuse with a different fingerprint"
      pure (.retry ⟨existing.commitId, i + 1⟩
        (terminated newline (journalLines codec records)).length)) := by
  obtain ⟨entry, hfind, rfl, hsequence⟩ := chain_find?_eq codec h.indexes.1 hi hid
  have hbases := forall_chain_record codec.envelopeHash records
    (p := fun r => r.baseSha256 = prepared.baseSha256)
  unfold NativeResidentJournal.planCommit NativeResidentJournal.loadEnvelopes
  rw [h.loadEnvelopes_eq hlaw]
  simp only [bind, Except.bind, hfind, hsequence, hbases]

/-- A fresh request is appended when its parent is the last commit and the
extended stream replays. -/
theorem planCommit_fresh (h : StreamFile H codec prepared.sessionId
    (journal.files.lookup prepared.sessionId) records) (hlaw : codec.Lawful)
    (hfresh : prepared.requestId ∉ records.map (·.requestId))
    {plan : NativeResidentJournal.CommitPlan Archive}
    (hplan : journal.planCommit H codec prepared = .ok plan) :
    Belongs prepared.sessionId prepared ∧
    prepared.parentCommitId = records.getLast?.map (·.commitId) ∧
    (∃ s, PortableHistoryState.replayBound H (records ++ [prepared]) prepared.sessionId
      prepared.baseSha256 = .ok s) ∧
    plan = .append (nextEnvelope codec.envelopeHash (chain codec.envelopeHash records) prepared)
      (terminated newline (journalLines codec records)).length
      ((journal.files.lookup prepared.sessionId).getD []).length := by
  unfold NativeResidentJournal.planCommit NativeResidentJournal.loadEnvelopes at hplan
  rw [h.loadEnvelopes_eq hlaw] at hplan
  simp only [bind_eq_ok, ensure_eq_ok, Except.ok.injEq, exists_eq_left',
    chain_find?_eq_none codec hfresh, chain_map_record, pure_eq_ok] at hplan
  obtain ⟨_, hschema, _, _, _, hparent, s, hs, rfl⟩ := hplan
  exact ⟨⟨hschema, rfl⟩, hparent.trans (chain_getLast_commitId codec records), ⟨s, hs⟩, rfl⟩

theorem planCommit_append (h : StreamFile H codec prepared.sessionId
    (journal.files.lookup prepared.sessionId) records) (hlaw : codec.Lawful)
    (hfresh : prepared.requestId ∉ records.map (·.requestId))
    (hparent : prepared.parentCommitId = records.getLast?.map (·.commitId))
    (hschema : prepared.schemaVersion = residentCommitSchema)
    (hreplays : ∃ s, PortableHistoryState.replayBound H (records ++ [prepared]) prepared.sessionId
      prepared.baseSha256 = .ok s) :
    journal.planCommit H codec prepared = .ok (.append
      (nextEnvelope codec.envelopeHash (chain codec.envelopeHash records) prepared)
      (terminated newline (journalLines codec records)).length
      ((journal.files.lookup prepared.sessionId).getD []).length) := by
  obtain ⟨s, hs⟩ := hreplays
  have hbases := (forall_chain_record codec.envelopeHash records
    (p := fun r => r.baseSha256 = prepared.baseSha256)).mpr fun r hr =>
      ((PortableHistoryState.replayBound_eq_ok.mp hs).1 r (List.mem_append_left _ hr)).2
  unfold NativeResidentJournal.planCommit NativeResidentJournal.loadEnvelopes
  rw [h.loadEnvelopes_eq hlaw]
  simp only [bind_eq_ok, ensure_eq_ok, Except.ok.injEq, exists_eq_left',
    chain_find?_eq_none codec hfresh, chain_map_record, pure_eq_ok]
  exact ⟨(), hschema, (), hbases, (), hparent.trans (chain_getLast_commitId codec records).symm,
    s, hs, trivial⟩

theorem commit_next (h : StreamFile H codec prepared.sessionId
    (journal.files.lookup prepared.sessionId) records) (hlaw : codec.Lawful)
    (hfresh : prepared.requestId ∉ records.map (·.requestId))
    (hparent : prepared.parentCommitId = records.getLast?.map (·.commitId))
    (hschema : prepared.schemaVersion = residentCommitSchema)
    (hreplays : ∃ s, PortableHistoryState.replayBound H (records ++ [prepared]) prepared.sessionId
      prepared.baseSha256 = .ok s)
    (hquota : (terminated newline (journalLines codec (records ++ [prepared]))).length ≤
      journal.maxBytes) :
    (journal.commit H codec {} prepared).1 = .ok ⟨prepared.commitId, records.length + 1⟩ ∧
    StreamFile H codec prepared.sessionId
      ((journal.commit H codec {} prepared).2.files.lookup prepared.sessionId)
      (records ++ [prepared]) := by
  have hplan := planCommit_append h hlaw hfresh hparent hschema hreplays
  obtain ⟨s, hs⟩ := hreplays
  simp only [journalLines_concat, terminated_append, terminated_cons, terminated_nil,
    List.length_append, List.length_singleton] at hquota
  have happend := h.append ⟨hschema, rfl⟩ ⟨s, replay_of_replayBound (by simp) hs⟩
  unfold NativeResidentJournal.commit
  rw [hplan]
  simp only [Bool.false_eq_true, if_false]
  rw [if_neg (by omega)]
  unfold NativeResidentJournal.writeEnvelope
  simp only [Bool.false_eq_true, and_false, if_false]
  refine ⟨?_, happend⟩
  simp only [bind_eq_ok, ensure_eq_ok, pure_eq_ok]
  refine ⟨(), trivial, (), syncBarriers_ok rfl rfl, (), trivial, ?_⟩
  simp [nextEnvelope]

/-- The outcome names the request's record by its place and commit. -/
structure Names (records : List (PreparedResidentCommit Archive)) (requestId : String)
    (outcome : DurableCommitOutcome) : Prop where
  positive : 0 < outcome.sequence
  record : ∃ r, records[outcome.sequence - 1]? = some r ∧ r.commitId = outcome.commitId ∧
    r.requestId = requestId

theorem Names.append {requestId : String} {outcome : DurableCommitOutcome}
    (h : Names records requestId outcome) (more : List (PreparedResidentCommit Archive)) :
    Names (records ++ more) requestId outcome := by
  obtain ⟨hpositive, r, hr, hfields⟩ := h
  refine ⟨hpositive, r, ?_, hfields⟩
  rw [List.getElem?_append_left (List.getElem?_eq_some_iff.mp hr).1]
  exact hr

theorem names_last (record : PreparedResidentCommit Archive) :
    Names (records ++ [record]) record.requestId ⟨record.commitId, records.length + 1⟩ :=
  ⟨Nat.succ_pos _, record, by simp, rfl, rfl⟩

theorem length_le_terminated (lines : List (List UInt8)) :
    lines.length ≤ (terminated newline lines).length := by
  induction lines with
  | nil => simp
  | cons line rest ih =>
    simp only [terminated_cons, List.length_append, List.length_cons]
    omega

/-- What a planned append does: it stops before the record is whole in the file,
or the record is there, acknowledged or not. -/
theorem commit_append (faults : Faults) (h : StreamFile H codec prepared.sessionId
    (journal.files.lookup prepared.sessionId) records) (hlaw : codec.Lawful)
    (hfresh : prepared.requestId ∉ records.map (·.requestId))
    {plan : NativeResidentJournal.CommitPlan Archive}
    (hplan : journal.planCommit H codec prepared = .ok plan) :
    (∃ e, (journal.commit H codec faults prepared).1 = .error e ∧
      StreamFile H codec prepared.sessionId
        ((journal.commit H codec faults prepared).2.files.lookup prepared.sessionId) records) ∨
    (records.length < journal.maxBytes ∧
      StreamFile H codec prepared.sessionId
        ((journal.commit H codec faults prepared).2.files.lookup prepared.sessionId)
        (records ++ [prepared]) ∧
      ((journal.commit H codec faults prepared).1 =
          .ok ⟨prepared.commitId, records.length + 1⟩ ∨
        ∃ e, (journal.commit H codec faults prepared).1 = .error e)) := by
  obtain ⟨hbelongs, _, ⟨s, hs⟩, rfl⟩ := planCommit_fresh h hlaw hfresh hplan
  have hreplays := replay_of_replayBound (by simp) hs
  unfold NativeResidentJournal.commit
  rw [hplan]
  simp only
  split
  · exact .inl ⟨_, rfl, h⟩
  split
  · exact .inl ⟨_, rfl, h⟩
  rename_i hquota
  unfold NativeResidentJournal.writeEnvelope
  split
  · exact .inl ⟨_, rfl, h.setLen⟩
  · have hlines := length_le_terminated (journalLines codec records)
    rw [length_journalLines] at hlines
    refine .inr ⟨by omega, h.append hbelongs ⟨s, hreplays⟩, ?_⟩
    dsimp only
    cases hresult : (do
        ensure (faults.sync = false) "injected journal fsync failure; outcome uncertain"
        NativeResidentJournal.syncBarriers faults
        ensure (faults.afterCommit = false)
          "commit outcome unknown after durable append; reconcile request identity"
        pure ⟨(nextEnvelope codec.envelopeHash (chain codec.envelopeHash records)
            prepared).record.commitId,
          (nextEnvelope codec.envelopeHash (chain codec.envelopeHash records) prepared).sequence⟩ :
        Result DurableCommitOutcome) with
    | error e => exact .inr ⟨e, rfl⟩
    | ok outcome =>
      simp only [bind_eq_ok, pure_eq_ok] at hresult
      obtain ⟨_, _, _, _, _, _, rfl⟩ := hresult
      exact .inl (by simp [nextEnvelope])

/-- One commit call: the stream is kept or extended by the record it proposes,
and an acknowledged outcome names the request's record. -/
theorem commit_step (faults : Faults) (h : StreamFile H codec prepared.sessionId
    (journal.files.lookup prepared.sessionId) records) (hlaw : codec.Lawful) :
    ∃ records', (records' = records ∨ records' = records ++ [prepared]) ∧
      StreamFile H codec prepared.sessionId
        ((journal.commit H codec faults prepared).2.files.lookup prepared.sessionId) records' ∧
      ∀ outcome, (journal.commit H codec faults prepared).1 = .ok outcome →
        Names records' prepared.requestId outcome := by
  by_cases hpresent : prepared.requestId ∈ records.map (·.requestId)
  · obtain ⟨existing, hmem, hid⟩ := List.mem_map.mp hpresent
    obtain ⟨i, hlt, hget⟩ := List.getElem_of_mem hmem
    have hi : records[i]? = some existing := List.getElem?_eq_some_iff.mpr ⟨hlt, hget⟩
    refine ⟨records, .inl rfl, ?_⟩
    unfold NativeResidentJournal.commit
    cases hplan : journal.planCommit H codec prepared with
    | error e => exact ⟨h, by simp⟩
    | ok plan =>
      rw [planCommit_retry h hlaw hi hid] at hplan
      simp only [bind_eq_ok, ensure_eq_ok, pure_eq_ok] at hplan
      obtain ⟨_, _, _, _, _, _, rfl⟩ := hplan
      refine ⟨h.setLen, fun outcome houtcome => ?_⟩
      simp only [bind_eq_ok, pure_eq_ok] at houtcome
      obtain ⟨_, _, rfl⟩ := houtcome
      exact ⟨Nat.succ_pos i, existing, hi, rfl, hid⟩
  · cases hplan : journal.planCommit H codec prepared with
    | error e =>
      refine ⟨records, .inl rfl, ?_⟩
      unfold NativeResidentJournal.commit
      rw [hplan]
      exact ⟨h, by simp⟩
    | ok plan =>
      rcases commit_append faults h hlaw hpresent hplan with
        ⟨e, hresult, hfile⟩ | ⟨_, hfile, hresult | ⟨e, hresult⟩⟩
      · exact ⟨records, .inl rfl, hfile, by simp [hresult]⟩
      · refine ⟨records ++ [prepared], .inr rfl, hfile, fun outcome houtcome => ?_⟩
        rw [hresult] at houtcome
        exact Except.ok.inj houtcome ▸ names_last prepared
      · exact ⟨records ++ [prepared], .inr rfl, hfile, by simp [hresult]⟩

/-- One reconcile call keeps the stream, and a committed answer names the
request's record. -/
theorem reconcile_step (faults : Faults) (requestId requestFingerprint : String)
    (h : StreamFile H codec sessionId (journal.files.lookup sessionId) records)
    (hlaw : codec.Lawful) :
    StreamFile H codec sessionId ((journal.reconcile H codec faults sessionId requestId
      requestFingerprint).2.files.lookup sessionId) records ∧
    ∀ outcome, (journal.reconcile H codec faults sessionId requestId requestFingerprint).1 =
      .ok (.committed outcome) → Names records requestId outcome := by
  unfold NativeResidentJournal.reconcile NativeResidentJournal.loadEnvelopes
  rw [h.loadEnvelopes_eq hlaw]
  refine ⟨h.setLen, fun outcome houtcome => ?_⟩
  simp only [bind_eq_ok] at houtcome
  obtain ⟨_, _, houtcome⟩ := houtcome
  split at houtcome
  · simp [pure, Except.pure] at houtcome
  · rename_i entry hfind
    simp only [bind_eq_ok, pure_eq_ok, ReconcileOutcome.committed.injEq] at houtcome
    obtain ⟨_, _, rfl⟩ := houtcome
    obtain ⟨hfound, i, hi, hentry, _⟩ := List.find?_eq_some_iff_getElem.mp hfind
    obtain ⟨hrecord, hsequence⟩ := chain_getElem? _ (List.getElem?_eq_some_iff.mpr ⟨hi, hentry⟩)
    refine ⟨Nat.lt_of_lt_of_eq (Nat.succ_pos i) hsequence.symm, entry.record, ?_, rfl,
      beq_iff_eq.mp hfound⟩
    simpa [hsequence] using hrecord

end Commit

end AgentSpreadsheet
