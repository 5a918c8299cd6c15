import AgentSpreadsheet.DurableWrite

/-! What the storage calls of a durable operation can do, whatever goes wrong with
them. A new record is stored or it is not, and an owner that is left in doubt
which of the two happened is poisoned. -/
namespace AgentSpreadsheet
open Library Library.Exec

/-- The record a commit through the storage submits. -/
def Storage.Outfits (storage : Storage Archive) (proposed record : PreparedResidentCommit Archive) :
    Prop :=
  match storage with
  | none => record = proposed
  | some decorated => ∃ response, decorated.prepare proposed = .ok response ∧
      record = decorated.decorate proposed response

structure HostStorage.Same (host host' : HostStorage Archive) : Prop where
  store : host'.store = host.store
  submitted : host'.submitted = host.submitted

/-- A submitted record is in the journal, which still replays. -/
structure Stored (H : Digest Archive) (storage : Storage Archive)
    (proposed : PreparedResidentCommit Archive) (host host' : HostStorage Archive)
    (record : PreparedResidentCommit Archive) : Prop where
  outfits : storage.Outfits proposed record
  submitted : host'.submitted = some record
  store : host'.store = host.store.append record
  replays : ∃ s, PortableHistoryState.replayBound H
    (host.store.stream record.sessionId ++ [record]) record.sessionId record.baseSha256 = .ok s
  quota : (host.store.stream record.sessionId).length < host.store.quota.toNat

inductive Attempt (H : Digest Archive) (storage : Storage Archive)
    (proposed : PreparedResidentCommit Archive) (host host' : HostStorage Archive) : Prop
  | unsent (same : host.Same host')
  | refused (record : PreparedResidentCommit Archive) (outfits : storage.Outfits proposed record)
      (submitted : host'.submitted = some record) (store : host'.store = host.store)
  | stored (record : PreparedResidentCommit Archive)
      (stored : Stored H storage proposed host host' record)

/-- What a reconciliation of a request tells about its stream. -/
def Reconciles (records : List (PreparedResidentCommit Archive)) (requestId : String) :
    ReconcileOutcome → Prop
  | .notFound => requestId ∉ records.map (·.requestId)
  | .committed outcome => ∃ record i, findRequest records requestId = some (record, i) ∧
      outcome.commitId = record.commitId

theorem HostStorage.Same.refl (host : HostStorage Archive) : host.Same host := ⟨rfl, rfl⟩

theorem HostStorage.Same.trans {a b c : HostStorage Archive} (hab : a.Same b) (hbc : b.Same c) :
    a.Same c :=
  ⟨hbc.store.trans hab.store, hbc.submitted.trans hab.submitted⟩

section Outfit
variable {storage : Storage Archive} {proposed record : PreparedResidentCommit Archive}

/-- An outfitted record differs from the proposed one in its effects alone. -/
theorem Storage.Outfits.frame (h : storage.Outfits proposed record) :
    record = { proposed with effects := record.effects } := by
  unfold Storage.Outfits at h
  cases storage with
  | none =>
    dsimp only at h
    rw [h]
  | some decorated =>
    obtain ⟨response, _, rfl⟩ := h
    rfl

theorem Storage.Outfits.effects (h : storage.Outfits proposed record) :
    ∃ extra : List (Effect Archive), record.effects = proposed.effects ++ extra ∧
      ∀ e ∈ extra, ∃ outcome, e = { canonicalOutcome := .value outcome } := by
  unfold Storage.Outfits at h
  cases storage with
  | none =>
    refine ⟨[], ?_, by simp⟩
    dsimp only at h
    rw [h, List.append_nil]
  | some decorated =>
    obtain ⟨response, _, rfl⟩ := h
    exact ⟨_, rfl, fun e he => ⟨_, List.mem_singleton.mp he⟩⟩

theorem findMember_append_absent {key : Effect Archive → Member α}
    {effects extra : List (Effect Archive)} (h : ∀ e ∈ extra, key e = .absent) :
    findMember key (effects ++ extra) = findMember key effects := by
  induction effects with
  | nil =>
    induction extra with
    | nil => rfl
    | cons e rest ih =>
      rw [List.nil_append, findMember_cons, h e List.mem_cons_self]
      exact ih fun e he => h e (List.mem_cons_of_mem _ he)
  | cons e rest ih => rw [List.cons_append, findMember_cons, findMember_cons, ih]

theorem Storage.Outfits.findMember_eq (h : storage.Outfits proposed record)
    {key : Effect Archive → Member α}
    (hkey : ∀ outcome, key { canonicalOutcome := .value outcome } = .absent) :
    findMember key record.effects = findMember key proposed.effects := by
  obtain ⟨extra, heffects, hextra⟩ := h.effects
  rw [heffects]
  refine findMember_append_absent fun e he => ?_
  obtain ⟨outcome, rfl⟩ := hextra e he
  exact hkey outcome

theorem Storage.Outfits.findValue_eq (h : storage.Outfits proposed record)
    {key : Effect Archive → Option Value}
    (hkey : ∀ outcome, key { canonicalOutcome := .value outcome } = none) :
    findValue key record.effects = findValue key proposed.effects := by
  obtain ⟨extra, heffects, hextra⟩ := h.effects
  have hnone : extra.findSome? key = none := by
    rw [List.findSome?_eq_none_iff]
    intro e he
    obtain ⟨outcome, rfl⟩ := hextra e he
    exact hkey outcome
  unfold findValue
  rw [heffects, List.findSome?_append, hnone, Option.or_none]

end Outfit

section Host
variable {H : Digest Archive} {storage : Storage Archive} {host : HostStorage Archive}
  {E : HostStorage Archive → Prop} {sessionId requestId fingerprint : String}

theorem nextFault_ends : Ends nextFault host (fun _ host' => host.Same host') E :=
  show host.Same _ from ⟨rfl, rfl⟩

theorem loadRecords_ends : Ends (loadRecords sessionId) host
    (fun records host' => records = host.store.stream sessionId ∧ host.Same host')
    host.Same := by
  refine nextFault_ends.bind fun fault host' hsame => ?_
  refine ends_get_bind (ends_lift (fun records hload => ?_) (fun _ _ => hsame))
  simp only [RecordStore.load, bind_eq_ok, pure_eq_ok] at hload
  obtain ⟨_, _, _, _, hload⟩ := hload
  exact ⟨by rw [← hload, hsame.store], hsame⟩

theorem reconcileRequest_ends : Ends (reconcileRequest sessionId requestId fingerprint) host
    (fun outcome host' => Reconciles (host.store.stream sessionId) requestId outcome ∧
      host.Same host') host.Same := by
  refine nextFault_ends.bind fun fault host' hsame => ?_
  refine ends_get_bind (ends_lift (fun outcome hreconcile => ⟨?_, hsame⟩) (fun _ _ => hsame))
  simp only [RecordStore.reconcile, bind_eq_ok, hsame.store] at hreconcile
  obtain ⟨_, _, _, _, hreconcile⟩ := hreconcile
  cases hfind : findRequest (host.store.stream sessionId) requestId with
  | none =>
    rw [hfind] at hreconcile
    rw [← Except.ok.inj hreconcile]
    exact findRequest_eq_none.mp hfind
  | some entry =>
    rw [hfind] at hreconcile
    simp only [bind_eq_ok, pure_eq_ok] at hreconcile
    obtain ⟨_, _, rfl⟩ := hreconcile
    exact ⟨entry.1, entry.2, hfind, rfl⟩

theorem capture_ends (decorated : OutcomeStorage Archive)
    (record : PreparedResidentCommit Archive) :
    Ends (decorated.capture record) host (fun _ host' => host.Same host') host.Same := by
  unfold OutcomeStorage.capture
  split
  · exact ends_fail (.refl host)
  · exact ends_fail (.refl host)
  · exact ends_guard_bind (fun _ => ends_modify ⟨rfl, rfl⟩) (fun _ => .refl host)

theorem Storage.load_ends : Ends (storage.load sessionId) host
    (fun records host' => records = host.store.stream sessionId ∧ host.Same host')
    host.Same := by
  unfold Storage.load
  cases storage with
  | none => exact loadRecords_ends
  | some decorated =>
    refine loadRecords_ends.bind ?_
    rintro records host' ⟨rfl, hsame⟩
    refine ends_guard_bind (fun _ => ?_) (fun _ => hsame)
    split
    · exact ends_pure ⟨rfl, hsame⟩
    · refine ((capture_ends decorated _).mono (fun _ _ => hsame.trans)
        (fun _ => hsame.trans)).bind fun _ host'' hsame' => ?_
      exact ends_pure ⟨rfl, hsame'⟩

theorem Storage.reconcile_ends : Ends (storage.reconcile sessionId requestId fingerprint) host
    (fun outcome host' => Reconciles (host.store.stream sessionId) requestId outcome ∧
      host.Same host') host.Same := by
  unfold Storage.reconcile
  cases storage with
  | none => exact reconcileRequest_ends
  | some decorated =>
    refine reconcileRequest_ends.bind ?_
    rintro outcome host' ⟨hfound, hsame⟩
    cases outcome with
    | notFound => exact ends_pure ⟨hfound, hsame⟩
    | committed outcome =>
      refine (loadRecords_ends.mono (fun _ _ h => hsame.trans h.2) (fun _ => hsame.trans)).bind
        fun records host'' hsame' => ?_
      refine ends_lift_bind (fun record _ => ?_) (fun _ _ => hsame')
      refine ((capture_ends decorated record).mono (fun _ _ => hsame'.trans)
        (fun _ => hsame'.trans)).bind fun _ host'' hsame'' => ?_
      exact ends_pure ⟨hfound, hsame''⟩

/-- A commit of a new request stores the record or it does not; an answer means
that it did. -/
theorem commitRecord_ends (prepared : PreparedResidentCommit Archive)
    (hfresh : prepared.requestId ∉
      (host.store.stream prepared.sessionId).map (·.requestId)) :
    Ends (commitRecord H prepared) host
      (fun outcome host' => outcome.commitId = prepared.commitId ∧
        Stored H none prepared host host' prepared)
      (fun host' => host'.submitted = some prepared ∧
        (host'.store = host.store ∨ Stored H none prepared host host' prepared)) := by
  refine nextFault_ends.bind fun fault host' hsame => ?_
  unfold Ends
  dsimp only
  rw [hsame.store]
  rcases @RecordStore.commit_fresh _ H _ fault _ hfresh with
    ⟨e, hcommit⟩ | ⟨hreplays, hquota, hstore, hresult⟩
  · rw [hcommit]
    exact ⟨rfl, .inl rfl⟩
  · have hstored : Stored H none prepared host { host' with
        store := (host.store.commit H fault prepared).2
        submitted := some prepared } prepared := ⟨rfl, rfl, hstore, hreplays, hquota⟩
    rcases hresult with hresult | ⟨e, hresult⟩
    · rw [hresult]
      exact ⟨rfl, hstored⟩
    · rw [hresult]
      exact ⟨rfl, .inr hstored⟩

theorem Storage.commit_ends {proposed : PreparedResidentCommit Archive}
    (hfresh : proposed.requestId ∉
      (host.store.stream proposed.sessionId).map (·.requestId)) :
    Ends (storage.commit H proposed) host
      (fun outcome host' => outcome.commitId = proposed.commitId ∧
        ∃ record, Stored H storage proposed host host' record)
      (Attempt H storage proposed host) := by
  unfold Storage.commit
  cases storage with
  | none =>
    refine (commitRecord_ends proposed hfresh).mono ?_ ?_
    · exact fun _ _ h => ⟨h.1, _, h.2⟩
    · rintro host' ⟨hsubmitted, hstore | hstored⟩
      · exact .refused _ rfl hsubmitted hstore
      · exact .stored _ hstored
  | some decorated =>
    refine ends_lift_bind (fun response hresponse => ?_) (fun _ _ => .unsent (.refl host))
    have houtfits : Storage.Outfits (some decorated) proposed
        (decorated.decorate proposed response) := ⟨response, hresponse, rfl⟩
    refine ((commitRecord_ends (decorated.decorate proposed response) hfresh).mono
      (fun _ _ h => h) ?_).bind ?_
    · rintro host' ⟨hsubmitted, hstore | hstored⟩
      · exact .refused _ houtfits hsubmitted hstore
      · exact .stored _ { hstored with outfits := houtfits }
    · rintro outcome host' ⟨hcommit, hstored⟩
      refine ends_guard_bind (fun _ => ends_modify_bind (ends_pure
        ⟨hcommit, decorated.decorate proposed response, ?_⟩))
        (fun hne => absurd hcommit hne)
      exact ⟨houtfits, hstored.submitted, hstored.store, hstored.replays, hstored.quota⟩

theorem Stored.before {proposed record : PreparedResidentCommit Archive}
    {host' host'' : HostStorage Archive} (h : Stored H storage proposed host host' record)
    (hsame : host'.Same host'') : Stored H storage proposed host host'' record :=
  { h with
    submitted := hsame.submitted.trans h.submitted
    store := hsame.store.trans h.store }

theorem Attempt.before {proposed : PreparedResidentCommit Archive}
    {host' host'' : HostStorage Archive} (h : Attempt H storage proposed host host')
    (hsame : host'.Same host'') : Attempt H storage proposed host host'' := by
  cases h with
  | unsent same => exact .unsent (same.trans hsame)
  | refused record outfits submitted store =>
    exact .refused record outfits (hsame.submitted.trans submitted) (hsame.store.trans store)
  | stored record stored => exact .stored record (stored.before hsame)

/-- What a reconciliation after an attempt tells about the attempt. -/
def Attempt.Resolved (H : Digest Archive) (storage : Storage Archive)
    (proposed : PreparedResidentCommit Archive) (host host' : HostStorage Archive) :
    ReconcileOutcome → Prop
  | .notFound => host'.store = host.store
  | .committed outcome => outcome.commitId = proposed.commitId ∧
      ∃ record, Stored H storage proposed host host' record

theorem Attempt.reconciles {proposed : PreparedResidentCommit Archive}
    {host' : HostStorage Archive} {outcome : ReconcileOutcome}
    (h : Attempt H storage proposed host host')
    (hfresh : proposed.requestId ∉
      (host.store.stream proposed.sessionId).map (·.requestId))
    (hreconciles : Reconciles (host'.store.stream proposed.sessionId) proposed.requestId outcome) :
    Attempt.Resolved H storage proposed host host' outcome := by
  have hkept (hstore : host'.store = host.store) :
      Attempt.Resolved H storage proposed host host' outcome := by
    cases outcome with
    | notFound => exact hstore
    | committed outcome =>
      obtain ⟨record, i, hfind, _⟩ := hreconciles
      rw [hstore] at hfind
      obtain ⟨hrecord, hid⟩ := findRequest_some hfind
      exact absurd (List.mem_map.mpr ⟨record, List.mem_of_getElem? hrecord, hid⟩) hfresh
  cases h with
  | unsent same => exact hkept same.store
  | refused record outfits submitted store => exact hkept store
  | stored record stored =>
    have hframe := stored.outfits.frame
    have hsession : record.sessionId = proposed.sessionId := by rw [hframe]
    have hrequest : record.requestId = proposed.requestId := by rw [hframe]
    have hcommit : record.commitId = proposed.commitId := by rw [hframe]
    rw [← hsession, ← hrequest] at hfresh hreconciles
    rw [stored.store, RecordStore.append_stream] at hreconciles
    cases outcome with
    | notFound => exact absurd (by simp) hreconciles
    | committed outcome =>
      obtain ⟨found, i, hfind, hid⟩ := hreconciles
      rw [findRequest_concat hfresh] at hfind
      obtain ⟨rfl, rfl⟩ := Prod.mk.inj (Option.some.inj hfind)
      exact ⟨hid.trans hcommit, record, stored⟩

end Host

end AgentSpreadsheet
