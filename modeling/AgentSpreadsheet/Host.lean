import AgentSpreadsheet.Soundness

/-! A resident host over any run: operations and recoveries in any order, each
with storage calls that go as they go. -/
namespace AgentSpreadsheet
open Library Library.Exec

/-- The identity and the immutable base of a session, its storage, and its owner
while one is retained. -/
structure ResidentHost (Archive : Type) where
  resourceId : ResourceId
  base : Archive
  storage : HostStorage Archive
  owner : Option (ResidentWriteSession Archive)

inductive HostEvent (Archive : Type) where
  | operate (storage : Storage Archive) (supply : Supply) (requestId : String) (op : DurableOp)
      (faults : List StorageFault)
  | recover (supply : Supply) (faults : List StorageFault)

namespace ResidentHost
variable (tools : Tools Archive)

def records (host : ResidentHost Archive) : List (PreparedResidentCommit Archive) :=
  host.storage.store.stream host.resourceId.key

/-- The storage with the outcomes its next calls will have. -/
def withFaults (host : ResidentHost Archive) (faults : List StorageFault) : HostStorage Archive :=
  { host.storage with faults }

/-- A failed recovery leaves no owner. -/
def step (host : ResidentHost Archive) : HostEvent Archive → ResidentHost Archive
  | .operate storage supply requestId op faults =>
    match host.owner with
    | none => host
    | some owner =>
      let w := (op.run tools storage supply requestId ⟨owner, host.withFaults faults⟩).2
      { host with storage := w.host, owner := some w.session }
  | .recover supply faults =>
    let result := recoverDurableResidentSession tools supply host.resourceId host.base
      (host.withFaults faults)
    { host with storage := result.2, owner := result.1.toOption }

def run (host : ResidentHost Archive) (events : List (HostEvent Archive)) : ResidentHost Archive :=
  events.foldl (step tools) host

/-- Random identities are new, and receipts are submitted under new requests. -/
def Admits (host : ResidentHost Archive) : HostEvent Archive → Prop
  | .operate _ _ requestId op _ =>
    ∀ receipt, op = .receipt receipt → requestId ∉ host.records.map (·.requestId)
  | .recover supply _ => supply.requestId ∉ host.records.map (·.requestId)

/-- Every event of a run is admitted where it happens. -/
def AdmitsRun (host : ResidentHost Archive) : List (HostEvent Archive) → Prop
  | [] => True
  | event :: rest => host.Admits event ∧ (host.step tools event).AdmitsRun rest

/-- A new session: an owner of the base and an empty journal. -/
structure Starts (host : ResidentHost Archive) : Prop where
  owner : ∃ epoch ingested owner, host.owner = some owner ∧
    ResidentWriteSession.fromBytes tools host.resourceId host.base epoch ingested = .ok owner
  journal : host.records = []

/-- The journal of the session replays within its quota. -/
structure SoundJournal (resourceId : ResourceId) (base : Archive) (host : HostStorage Archive) :
    Prop where
  quota : (host.store.stream resourceId.key).length ≤ host.store.quota.toNat
  replays : ∃ history, PortableHistoryState.replayBound tools.digest
    (host.store.stream resourceId.key) resourceId.key (tools.digest.archive base) = .ok history

structure Owns (host : ResidentHost Archive) (s : ResidentWriteSession Archive) : Prop where
  resourceId : s.resourceId = host.resourceId
  baseBytes : s.baseBytes = host.base
  baseSha256 : s.baseSha256 = tools.digest.archive host.base

structure Sound (host : ResidentHost Archive) : Prop where
  journal : SoundJournal tools host.resourceId host.base host.storage
  owns : ∀ s, host.owner = some s → host.Owns tools s
  owner : ∀ s, host.owner = some s → (World.mk s host.storage).Sound tools

end ResidentHost

section Restart
variable {tools : Tools Archive} {host : HostStorage Archive}
  {proposed : PreparedResidentCommit Archive}

/-- A restart boundary that is acknowledged is stored. -/
theorem commitRestart_ends
    (hfresh : proposed.requestId ∉ (host.store.stream proposed.sessionId).map (·.requestId)) :
    Ends (commitRestart tools proposed) host
      (fun _ host' => ∃ record, Stored tools.digest none proposed host host' record)
      (Attempt tools.digest none proposed host) := by
  have hcommit : Ends (commitRecord tools.digest proposed) host
      (fun outcome host' => outcome.commitId = proposed.commitId ∧
        ∃ record, Stored tools.digest none proposed host host' record)
      (Attempt tools.digest none proposed host) := by
    change Ends (Storage.commit none tools.digest proposed) host _ _
    exact Storage.commit_ends hfresh
  refine hcommit.attempt.bind ?_
  rintro (error | outcome) host' h
  · refine reconcileRequest_ends.attempt.bind ?_
    rintro (reconcile | outcome) host'' h'
    · exact ends_fail (h.before h')
    · obtain ⟨hreconciles, hsame⟩ := h'
      have hknown := h.reconciles hfresh hreconciles
      cases outcome with
      | notFound => exact ends_fail (h.before hsame)
      | committed outcome =>
        obtain ⟨_, record, hstored⟩ := hknown
        exact ends_pure ⟨record, hstored.before hsame⟩
  · exact ends_pure h.2

end Restart

section Recovery
variable {tools : Tools Archive} {supply : Supply} {resourceId : ResourceId} {base : Archive}
  {host host' : HostStorage Archive} {records : List (PreparedResidentCommit Archive)}
  {history : PortableHistoryState} {s : ResidentWriteSession Archive} {last : String}
  {record : PreparedResidentCommit Archive}

theorem ResidentHost.SoundJournal.of_store (h : ResidentHost.SoundJournal tools resourceId base host)
    (hstore : host'.store = host.store) : ResidentHost.SoundJournal tools resourceId base host' := by
  refine ⟨?_, ?_⟩
  · rw [hstore]
    exact h.quota
  · rw [hstore]
    exact h.replays

theorem Recovered.sessionId (h : Recovered tools resourceId base records history s) :
    s.sessionId = resourceId.key := congrArg ResourceId.key h.resourceId

/-- A stored restart boundary, for the journal and for the owner it was made of. -/
theorem Recovered.stored (h : Recovered tools resourceId base records history s)
    (hrecords : records = host.store.stream resourceId.key) (hne : records ≠ [])
    (hreplay : PortableHistoryState.replayBound tools.digest records resourceId.key
      (tools.digest.archive base) = .ok history)
    (hstored : Stored tools.digest none
      (restartRecord tools s history last supply.requestId supply.commitId) host host' record) :
    ResidentHost.SoundJournal tools resourceId base host' ∧ (World.mk s host').Sound tools := by
  obtain rfl : record = _ := hstored.outfits
  have hkey : (restartRecord tools s history last supply.requestId supply.commitId).sessionId =
      resourceId.key := h.sessionId
  obtain ⟨history', hreplay'⟩ := hstored.replays
  have hquota := hstored.quota
  rw [hkey, ← hrecords] at hreplay' hquota
  -- both replays name the base of the first record
  have hbase : (restartRecord tools s history last supply.requestId supply.commitId).baseSha256 =
      tools.digest.archive base := by
    obtain ⟨first, hfirst⟩ := List.exists_mem_of_ne_nil records hne
    have hold := (PortableHistoryState.replayBound_eq_ok.mp hreplay).1 first hfirst
    have hnew := (PortableHistoryState.replayBound_eq_ok.mp hreplay').1 first
      (List.mem_append_left _ hfirst)
    exact hnew.2.symm.trans hold.2
  rw [hbase] at hreplay'
  have hstream : host'.store.stream resourceId.key = records ++
      [restartRecord tools s history last supply.requestId supply.commitId] := by
    rw [hstored.store, ← hkey, RecordStore.append_stream, hkey, ← hrecords]
  have hlength : (host'.store.stream resourceId.key).length ≤ host'.store.quota.toNat := by
    rw [hstream, hstored.store, List.length_append]
    exact hquota
  refine ⟨⟨hlength, history', hstream ▸ hreplay'⟩, ?_, ⟨history', ?_⟩, ?_⟩
  · unfold World.records
    rw [h.sessionId]
    exact hlength
  · unfold World.Replays World.records
    dsimp only
    rw [h.sessionId, h.baseSha256, hstream]
    exact hreplay'
  · intro found hfound _ _
    unfold World.Replays World.records at hfound
    unfold World.records
    dsimp only at hfound ⊢
    rw [h.sessionId, h.baseSha256, hstream, hreplay'] at hfound
    obtain rfl := Except.ok.inj hfound
    rw [h.sessionId, hstream]
    exact h.restart (replayBound_extends hreplay hreplay')

theorem recoverDurableResidentSession_ends
    (h : ResidentHost.SoundJournal tools resourceId base host)
    (hfresh : supply.requestId ∉ (host.store.stream resourceId.key).map (·.requestId)) :
    Ends (recoverDurableResidentSession tools supply resourceId base) host
      (fun s host' => ResidentHost.SoundJournal tools resourceId base host' ∧
        (s.resourceId = resourceId ∧ s.baseBytes = base ∧
          s.baseSha256 = tools.digest.archive base) ∧ (World.mk s host').Sound tools)
      (ResidentHost.SoundJournal tools resourceId base) := by
  refine (loadRecords_ends.mono (fun _ _ h => h) fun _ hsame => h.of_store hsame.store).bind ?_
  rintro records host₁ ⟨hrecords, hsame⟩
  have hjournal := h.of_store hsame.store
  refine ends_lift_bind (fun s hs => ?_) fun _ _ => hjournal
  obtain ⟨history, hreplay, hrecovered⟩ := recoverFromRecords_recovered hs
  have hstream : records = host₁.store.stream resourceId.key := by
    rw [hsame.store]
    exact hrecords
  have hidentity : s.resourceId = resourceId ∧ s.baseBytes = base ∧
      s.baseSha256 = tools.digest.archive base :=
    ⟨hrecovered.resourceId, hrecovered.baseBytes, hrecovered.baseSha256⟩
  -- an owner whose journal is as it was read
  have hsound (hagrees : history.discarded = false → Agrees tools s records history) :
      (World.mk s host₁).Sound tools := by
    have hworld : (World.mk s host₁).records = records := by
      unfold World.records
      dsimp only
      rw [hrecovered.sessionId, hstream]
    refine ⟨?_, ⟨history, ?_⟩, ?_⟩
    · rw [hworld, hstream]
      exact hjournal.quota
    · unfold World.Replays
      rw [hworld, hrecovered.sessionId, hrecovered.baseSha256]
      exact hreplay
    · intro found hfound _ hkept
      unfold World.Replays at hfound
      rw [hworld, hrecovered.sessionId, hrecovered.baseSha256] at hfound
      obtain rfl := Except.ok.inj (hreplay.symm.trans hfound)
      rw [hworld]
      exact hagrees hkept
  cases hlast : records.getLast? with
  | none =>
    obtain rfl := List.getLast?_eq_none_iff.mp hlast
    obtain rfl : PortableHistoryState.empty resourceId.key (tools.digest.archive base) = history :=
      Except.ok.inj hreplay
    exact ends_pure ⟨hjournal, hidentity, hsound fun _ => hrecovered.agrees rfl rfl⟩
  | some last =>
    have hne : records ≠ [] := by
      rintro rfl
      cases hlast
    refine ends_lift_bind (fun found hfound => ?_) fun _ _ => hjournal
    obtain rfl := Except.ok.inj (hreplay.symm.trans hfound)
    split
    · rename_i hdiscarded
      exact ends_pure ⟨hjournal, hidentity, hsound fun hkept => by
        rw [hdiscarded] at hkept
        cases hkept⟩
    · have hkey : (restartRecord tools s history last.commitId supply.requestId
          supply.commitId).sessionId = resourceId.key := hrecovered.sessionId
      have hnew : (restartRecord tools s history last.commitId supply.requestId
          supply.commitId).requestId ∉ (host₁.store.stream (restartRecord tools s history
            last.commitId supply.requestId supply.commitId).sessionId).map (·.requestId) := by
        rw [hkey, hsame.store]
        exact hfresh
      refine ((commitRestart_ends hnew).mono (fun _ _ h => h) fun host₂ hattempt => ?_).bind ?_
      · cases hattempt with
        | unsent same => exact hjournal.of_store same.store
        | refused record outfits submitted store => exact hjournal.of_store store
        | stored record stored => exact (hrecovered.stored hstream hne hreplay stored).1
      · rintro _ host₂ ⟨record, hstored⟩
        have hboth := hrecovered.stored hstream hne hreplay hstored
        exact ends_pure ⟨hboth.1, hidentity, hboth.2⟩

end Recovery

section Identity
variable (tools : Tools Archive) (host : ResidentHost Archive)

@[simp] theorem ResidentHost.step_resourceId (event : HostEvent Archive) :
    (host.step tools event).resourceId = host.resourceId := by
  cases event with
  | operate storage supply requestId op faults =>
    unfold ResidentHost.step
    cases host.owner <;> rfl
  | recover supply faults => rfl

@[simp] theorem ResidentHost.step_base (event : HostEvent Archive) :
    (host.step tools event).base = host.base := by
  cases event with
  | operate storage supply requestId op faults =>
    unfold ResidentHost.step
    cases host.owner <;> rfl
  | recover supply faults => rfl

@[simp] theorem ResidentHost.run_resourceId (events : List (HostEvent Archive)) :
    (host.run tools events).resourceId = host.resourceId := by
  induction events generalizing host with
  | nil => rfl
  | cons event rest ih => exact (ih _).trans (host.step_resourceId tools event)

@[simp] theorem ResidentHost.run_base (events : List (HostEvent Archive)) :
    (host.run tools events).base = host.base := by
  induction events generalizing host with
  | nil => rfl
  | cons event rest ih => exact (ih _).trans (host.step_base tools event)

end Identity

section Run
variable {tools : Tools Archive} {host : ResidentHost Archive} {event : HostEvent Archive}

theorem ResidentHost.Starts.sound (h : host.Starts tools) : host.Sound tools := by
  obtain ⟨epoch, ingested, owner, howner, hbytes⟩ := h.owner
  obtain ⟨hread, _, hresource, _, hstaged, hgeneration, husable, hbase, hsha, hcalculation⟩ :=
    fromBytes_ok hbytes
  have hempty : PortableHistoryState.replayBound tools.digest
      (host.storage.store.stream host.resourceId.key) host.resourceId.key
      (tools.digest.archive host.base) = .ok (PortableHistoryState.empty host.resourceId.key
        (tools.digest.archive host.base)) := by
    rw [show host.storage.store.stream host.resourceId.key = [] from h.journal]
    rfl
  have hquota : (host.storage.store.stream host.resourceId.key).length ≤
      host.storage.store.quota.toNat := by
    rw [show host.storage.store.stream host.resourceId.key = [] from h.journal]
    exact Nat.zero_le _
  refine ⟨⟨hquota, _, hempty⟩, fun s hs => ?_, fun s hs => ?_⟩
  · rw [howner] at hs
    obtain rfl := Option.some.inj hs
    exact ⟨hresource, hbase, hsha⟩
  · rw [howner] at hs
    obtain rfl := Option.some.inj hs
    have hkey : owner.sessionId = host.resourceId.key := congrArg ResourceId.key hresource
    refine ⟨?_, ⟨PortableHistoryState.empty host.resourceId.key (tools.digest.archive host.base),
      ?_⟩, ?_⟩
    · unfold World.records
      dsimp only
      rw [hkey]
      exact hquota
    · unfold World.Replays World.records
      dsimp only
      rw [hkey, hsha]
      exact hempty
    · intro history hhistory _ _
      unfold World.Replays World.records at hhistory
      dsimp only at hhistory
      rw [hkey, hsha, hempty] at hhistory
      obtain rfl := Except.ok.inj hhistory
      have hrecovered : Recovered tools host.resourceId host.base (World.mk owner host.storage).records
          (PortableHistoryState.empty host.resourceId.key (tools.digest.archive host.base))
          owner := by
        refine ⟨hresource, hbase, hsha, husable, hgeneration, by rw [hstaged]; rfl, hcalculation,
          owner.workbook.document, [], hread, .base, by simp, .refl _⟩
      exact hrecovered.agrees rfl rfl

theorem World.Sound.of_store {s : ResidentWriteSession Archive} {storage storage' : HostStorage Archive}
    (h : (World.mk s storage).Sound tools) (hstore : storage'.store = storage.store) :
    (World.mk s storage').Sound tools :=
  h.kept (.refl s) hstore fun _ => .refl s

theorem ResidentHost.Sound.operates {storage : Storage Archive} {supply : Supply}
    {requestId : String} {op : DurableOp} {faults : List StorageFault}
    {owner : ResidentWriteSession Archive} (h : host.Sound tools)
    (howner : host.owner = some owner)
    (hadmits : host.Admits (.operate storage supply requestId op faults)) :
    ∃ history, (World.mk owner (host.withFaults faults)).Sound tools ∧
      (World.mk owner (host.withFaults faults)).Replays tools history ∧
      (World.mk owner (host.withFaults faults)).records = host.records ∧
      Ran tools storage supply requestId history op ⟨owner, host.withFaults faults⟩
        (op.run tools storage supply requestId ⟨owner, host.withFaults faults⟩).2 := by
  have hkey : owner.sessionId = host.resourceId.key :=
    congrArg ResourceId.key (h.owns owner howner).resourceId
  have hrecords : (World.mk owner (host.withFaults faults)).records = host.records := by
    unfold World.records
    dsimp only
    rw [hkey]
    rfl
  have hsound : (World.mk owner (host.withFaults faults)).Sound tools :=
    (h.owner owner howner).of_store rfl
  obtain ⟨history, hhistory⟩ := hsound.replays
  refine ⟨history, hsound, hhistory, hrecords, DurableOp.run_ran hhistory op ?_⟩
  rw [hrecords]
  exact hadmits

theorem ResidentHost.Sound.step (hxlsx : tools.xlsx.RoundTrips) (h : host.Sound tools)
    (hadmits : host.Admits event) : (host.step tools event).Sound tools := by
  cases event with
  | operate storage supply requestId op faults =>
    unfold ResidentHost.step
    cases howner : host.owner with
    | none => exact h
    | some owner =>
      dsimp only
      obtain ⟨hresource, hbytes, hbase⟩ := h.owns owner howner
      obtain ⟨history, hsound, hhistory, _, hran⟩ := h.operates howner hadmits
      obtain ⟨hsound', hsame⟩ := hran.sound hxlsx hsound hhistory
      generalize (op.run tools storage supply requestId ⟨owner, host.withFaults faults⟩).2 = w at *
      have hkey : w.session.sessionId = host.resourceId.key :=
        congrArg ResourceId.key (hsame.resourceId.trans hresource)
      refine ⟨?_, fun s hs => ?_, fun s hs => ?_⟩
      · refine ⟨?_, ?_⟩
        · have hquota := hsound'.quota
          unfold World.records at hquota
          rw [hkey] at hquota
          exact hquota
        · obtain ⟨history', hhistory'⟩ := hsound'.replays
          unfold World.Replays World.records at hhistory'
          rw [hkey, hsame.baseSha256, hbase] at hhistory'
          exact ⟨history', hhistory'⟩
      · obtain rfl := Option.some.inj hs
        exact ⟨hsame.resourceId.trans hresource, hsame.baseBytes.trans hbytes,
          hsame.baseSha256.trans hbase⟩
      · obtain rfl := Option.some.inj hs
        exact hsound'
  | recover supply faults =>
    have hjournal : SoundJournal tools host.resourceId host.base (host.withFaults faults) :=
      h.journal.of_store rfl
    have hend : Ends (recoverDurableResidentSession tools supply host.resourceId host.base)
        (host.withFaults faults) _ _ := recoverDurableResidentSession_ends hjournal hadmits
    unfold ResidentHost.step
    dsimp only
    unfold Ends at hend
    cases hresult : recoverDurableResidentSession tools supply host.resourceId host.base
        (host.withFaults faults) with
    | mk result storage =>
      rw [hresult] at hend
      cases result with
      | error e =>
        refine ⟨hend, fun s hs => ?_, fun s hs => ?_⟩
        · cases hs
        · cases hs
      | ok s =>
        obtain ⟨hjournal', ⟨hresource, hbytes, hbase⟩, hsound⟩ := hend
        refine ⟨hjournal', fun s' hs => ?_, fun s' hs => ?_⟩
        · obtain rfl := Option.some.inj hs
          exact ⟨hresource, hbytes, hbase⟩
        · obtain rfl := Option.some.inj hs
          exact hsound

theorem ResidentHost.Sound.run (hxlsx : tools.xlsx.RoundTrips) {events : List (HostEvent Archive)}
    (h : host.Sound tools) (hadmits : host.AdmitsRun tools events) :
    (host.run tools events).Sound tools := by
  induction events generalizing host with
  | nil => exact h
  | cons event rest ih => exact ih (h.step hxlsx hadmits.1) hadmits.2

end Run

def HostEvent.discards : HostEvent Archive → Bool
  | .operate _ _ _ (.receipt (.discard _)) _ => true
  | _ => false

def ResidentHost.Kept (tools : Tools Archive) (host : ResidentHost Archive) : Prop :=
  ∀ history, PortableHistoryState.replayBound tools.digest host.records host.resourceId.key
    (tools.digest.archive host.base) = .ok history → history.discarded = false

section Kept
variable {tools : Tools Archive} {host : ResidentHost Archive} {event : HostEvent Archive}

/-- A recovery adds a restart boundary or nothing. -/
theorem recoverDurableResidentSession_appends {supply : Supply} {resourceId : ResourceId}
    {base : Archive} {storage : HostStorage Archive}
    (hfresh : supply.requestId ∉ (storage.store.stream resourceId.key).map (·.requestId)) :
    Ends (recoverDurableResidentSession tools supply resourceId base) storage
      (fun _ storage' => storage'.store.stream resourceId.key = storage.store.stream resourceId.key ∨
        ∃ record, record.transition = .restart ∧ storage'.store.stream resourceId.key =
          storage.store.stream resourceId.key ++ [record])
      (fun storage' => storage'.store.stream resourceId.key = storage.store.stream resourceId.key ∨
        ∃ record, record.transition = .restart ∧ storage'.store.stream resourceId.key =
          storage.store.stream resourceId.key ++ [record]) := by
  have hsame {storage' : HostStorage Archive} (hstore : storage'.store = storage.store) :
      storage'.store.stream resourceId.key = storage.store.stream resourceId.key := by rw [hstore]
  refine (loadRecords_ends.mono (fun _ _ h => h) fun _ h => .inl (hsame h.store)).bind ?_
  rintro records storage₁ ⟨_, hstorage₁⟩
  refine ends_lift_bind (fun s hs => ?_) fun _ _ => .inl (hsame hstorage₁.store)
  obtain ⟨history, _, hrecovered⟩ := recoverFromRecords_recovered hs
  split
  · exact ends_pure (.inl (hsame hstorage₁.store))
  · rename_i last hlast
    refine ends_lift_bind (fun found hfound => ?_) fun _ _ => .inl (hsame hstorage₁.store)
    split
    · exact ends_pure (.inl (hsame hstorage₁.store))
    · have hkey : (restartRecord tools s found last.commitId supply.requestId
          supply.commitId).sessionId = resourceId.key := hrecovered.sessionId
      have hnew : (restartRecord tools s found last.commitId supply.requestId
          supply.commitId).requestId ∉ (storage₁.store.stream (restartRecord tools s found
            last.commitId supply.requestId supply.commitId).sessionId).map (·.requestId) := by
        rw [hkey, hstorage₁.store]
        exact hfresh
      have hstored {storage₂ : HostStorage Archive} {record : PreparedResidentCommit Archive}
          (h : Stored tools.digest none (restartRecord tools s found last.commitId
            supply.requestId supply.commitId) storage₁ storage₂ record) :
          storage₂.store.stream resourceId.key =
            storage.store.stream resourceId.key ++ [record] ∧ record.transition = .restart := by
        obtain rfl : record = _ := h.outfits
        rw [h.store, ← hkey, RecordStore.append_stream, hstorage₁.store]
        exact ⟨rfl, rfl⟩
      refine ((commitRestart_ends hnew).mono (fun _ _ h => h) fun storage₂ hattempt => ?_).bind ?_
      · cases hattempt with
        | unsent same => exact .inl (hsame (same.store.trans hstorage₁.store))
        | refused record outfits submitted store => exact .inl (hsame (store.trans hstorage₁.store))
        | stored record stored => exact .inr ⟨record, (hstored stored).2, (hstored stored).1⟩
      · rintro _ storage₂ ⟨record, h⟩
        exact ends_pure (.inr ⟨record, (hstored h).2, (hstored h).1⟩)

/-- One event adds at most one record, and a record that discards only when asked. -/
theorem ResidentHost.Sound.appends (h : host.Sound tools) (hadmits : host.Admits event) :
    (host.step tools event).records = host.records ∨
      ∃ record, (event.discards = false → record.discards = false) ∧
        (host.step tools event).records = host.records ++ [record] := by
  cases event with
  | operate storage supply requestId op faults =>
    unfold ResidentHost.step
    cases howner : host.owner with
    | none => exact .inl rfl
    | some owner =>
      dsimp only
      have hkey : owner.sessionId = host.resourceId.key :=
        congrArg ResourceId.key (h.owns owner howner).resourceId
      obtain ⟨history, _, _, hrecords, hran⟩ := h.operates howner hadmits
      have hkey' : (op.run tools storage supply requestId
          ⟨owner, host.withFaults faults⟩).2.session.sessionId = host.resourceId.key :=
        (congrArg ResourceId.key hran.sameJournal.resourceId).trans hkey
      rcases hran.appends with hsame | ⟨s, proposed, publish, record, _, _, _, hproposes, houtfits,
        hadded⟩
      · refine .inl ?_
        rw [hrecords] at hsame
        unfold World.records at hsame
        rw [hkey'] at hsame
        exact hsame
      · refine .inr ⟨record, fun hkeeps => hproposes.keeps ?_ houtfits, ?_⟩
        · rintro request rfl
          cases hkeeps
        · rw [hrecords] at hadded
          unfold World.records at hadded
          rw [hkey'] at hadded
          exact hadded
  | recover supply faults =>
    have hend : Ends (recoverDurableResidentSession tools supply host.resourceId host.base)
        (host.withFaults faults) _ _ := recoverDurableResidentSession_appends hadmits
    rcases hend.final with hsame | ⟨record, hkind, hadded⟩
    · exact .inl hsame
    · exact .inr ⟨record, fun _ => by simp [PreparedResidentCommit.discards, hkind], hadded⟩

theorem ResidentHost.Kept.step (h : host.Kept tools) (hsound : host.Sound tools)
    (hadmits : host.Admits event) (hkeeps : event.discards = false) :
    (host.step tools event).Kept tools := by
  intro history' hhistory'
  rw [ResidentHost.step_resourceId, ResidentHost.step_base] at hhistory'
  obtain ⟨history, hhistory⟩ := hsound.journal.replays
  rcases hsound.appends hadmits with hsame | ⟨record, hrecord, hadded⟩
  · rw [hsame] at hhistory'
    exact h history' hhistory'
  · rw [hadded] at hhistory'
    rw [(replayBound_extends hhistory hhistory').discarded, hrecord hkeeps, Bool.or_false]
    exact h history hhistory

theorem ResidentHost.Kept.run (hxlsx : tools.xlsx.RoundTrips) {events : List (HostEvent Archive)}
    (h : host.Kept tools) (hsound : host.Sound tools) (hadmits : host.AdmitsRun tools events)
    (hkeeps : ∀ event ∈ events, event.discards = false) : (host.run tools events).Kept tools := by
  induction events generalizing host with
  | nil => exact h
  | cons event rest ih =>
    exact ih (h.step hsound hadmits.1 (hkeeps event List.mem_cons_self))
      (hsound.step hxlsx hadmits.1) hadmits.2 fun e he => hkeeps e (List.mem_cons_of_mem _ he)

theorem ResidentHost.Starts.kept (h : host.Starts tools) : host.Kept tools := by
  intro history hhistory
  rw [h.journal] at hhistory
  rw [← Except.ok.inj hhistory]
  rfl

end Kept

section Agreement
variable {tools : Tools Archive} {host : ResidentHost Archive} {events : List (HostEvent Archive)}

/-- In every state of a run, an owner that may be used agrees with the journal. -/
theorem ResidentHost.Starts.agrees (hxlsx : tools.xlsx.RoundTrips) (hstart : host.Starts tools)
    (hadmits : host.AdmitsRun tools events) (hkeeps : ∀ event ∈ events, event.discards = false)
    {owner : ResidentWriteSession Archive} (howner : (host.run tools events).owner = some owner)
    (husable : owner.poisoned = none) :
    ∃ history, PortableHistoryState.replayBound tools.digest (host.run tools events).records
        host.resourceId.key (tools.digest.archive host.base) = .ok history ∧
      Agrees tools owner (host.run tools events).records history ∧
      owner.baseBytes = host.base := by
  have hsound := hstart.sound.run hxlsx hadmits
  have hkept := hstart.kept.run hxlsx hstart.sound hadmits hkeeps
  obtain ⟨history, hhistory⟩ := hsound.journal.replays
  obtain ⟨hresource, hbytes, hbase⟩ := hsound.owns owner howner
  replace hkept := hkept history hhistory
  change PortableHistoryState.replayBound tools.digest (host.run tools events).records _ _ = _
    at hhistory
  rw [ResidentHost.run_resourceId] at hresource hhistory
  rw [ResidentHost.run_base] at hbytes hbase hhistory
  have hkey : owner.sessionId = host.resourceId.key := congrArg ResourceId.key hresource
  refine ⟨history, hhistory, ?_, hbytes⟩
  have hworld : (World.mk owner (host.run tools events).storage).records =
      (host.run tools events).records := by
    unfold World.records ResidentHost.records
    dsimp only
    rw [hkey, ResidentHost.run_resourceId]
  rw [← hworld]
  refine (hsound.owner owner howner).agrees history ?_ husable hkept
  unfold World.Replays
  rw [hworld]
  dsimp only
  rw [hkey, hbase]
  exact hhistory

theorem Agrees.journalDocument {owner : ResidentWriteSession Archive}
    {records : List (PreparedResidentCommit Archive)} {history : PortableHistoryState}
    (h : Agrees tools owner records history) :
    ∃ document, AgentSpreadsheet.journalDocument tools.xlsx owner.baseBytes records history =
      .ok document ∧ owner.workbook.document.SameContent document := by
  obtain ⟨start, nodes, hstart, hlineage, _, hcontent⟩ := h.document
  have hactive : history.activeAncestry = .ok nodes :=
    Timeline.activeAncestry_eq_lineage hlineage
  refine ⟨documentAlong tools.xlsx records start nodes, ?_, hcontent⟩
  simp [AgentSpreadsheet.journalDocument, hstart, hactive, bind, Except.bind, pure, Except.pure]

/-- Owner and journal agree in every usable state of every run, whatever the
storage does. Contents are compared, since a calculation publishes formula
results that no record carries. -/
theorem owner_journal_agreement (hxlsx : tools.xlsx.RoundTrips) (hstart : host.Starts tools)
    (hadmits : host.AdmitsRun tools events) (hkeeps : ∀ event ∈ events, event.discards = false)
    {owner : ResidentWriteSession Archive} (howner : (host.run tools events).owner = some owner)
    (husable : owner.poisoned = none) (hne : (host.run tools events).records ≠ []) :
    ∃ history document, PortableHistoryState.replayBound tools.digest
        (host.run tools events).records host.resourceId.key
        (tools.digest.archive host.base) = .ok history ∧
      history.stateRevision = some owner.revision ∧
      history.catalogGeneration = owner.catalogGeneration ∧
      history.catalogIds = owner.staged.keys ∧
      journalDocument tools.xlsx host.base (host.run tools events).records history =
        .ok document ∧ owner.workbook.document.SameContent document := by
  obtain ⟨history, hhistory, hagrees, hbytes⟩ :=
    hstart.agrees hxlsx hadmits hkeeps howner husable
  obtain ⟨document, hdocument, hcontent⟩ := hagrees.journalDocument
  rw [hbytes] at hdocument
  obtain ⟨revision, hrevision⟩ := replayBound_revision hhistory hne
  refine ⟨history, document, hhistory, ?_, hagrees.catalogGeneration.symm,
    hagrees.catalogIds.symm, hdocument, hcontent⟩
  rw [hrevision, hagrees.revision revision hrevision]

end Agreement

def HostEvent.recovers : HostEvent Archive → Bool
  | .recover _ _ => true
  | _ => false

def ResidentHost.Fenced (host : ResidentHost Archive) : Prop :=
  ∃ owner, host.owner = some owner ∧ owner.poisoned ≠ none

section Safety
variable {tools : Tools Archive} {host : ResidentHost Archive} {event : HostEvent Archive}
  {events earlier later : List (HostEvent Archive)}

theorem ResidentHost.run_append :
    host.run tools (earlier ++ later) = (host.run tools earlier).run tools later :=
  List.foldl_append

theorem ResidentHost.AdmitsRun.append (h : host.AdmitsRun tools (earlier ++ later)) :
    host.AdmitsRun tools earlier ∧ (host.run tools earlier).AdmitsRun tools later := by
  induction earlier generalizing host with
  | nil => exact ⟨trivial, h⟩
  | cons event rest ih =>
    obtain ⟨hrest, hlater⟩ := ih h.2
    exact ⟨⟨h.1, hrest⟩, hlater⟩

theorem ResidentHost.Sound.grows (hxlsx : tools.xlsx.RoundTrips) (h : host.Sound tools)
    (hadmits : host.AdmitsRun tools events) :
    host.records <+: (host.run tools events).records ∧
      (host.run tools events).records.length ≤ host.records.length + events.length := by
  induction events generalizing host with
  | nil => exact ⟨List.prefix_refl _, Nat.le_refl _⟩
  | cons event rest ih =>
    obtain ⟨hbegins, hlength⟩ := ih (h.step hxlsx hadmits.1) hadmits.2
    have hstep : host.records <+: (host.step tools event).records ∧
        (host.step tools event).records.length ≤ host.records.length + 1 := by
      rcases h.appends hadmits.1 with hsame | ⟨record, _, hadded⟩
      · rw [hsame]
        exact ⟨List.prefix_refl _, Nat.le_succ _⟩
      · rw [hadded]
        exact ⟨List.prefix_append _ _, by simp⟩
    refine ⟨hstep.1.trans hbegins, Nat.le_trans hlength ?_⟩
    rw [List.length_cons]
    omega

/-- A journal only grows, by a record an event at most, and names no request and
no commit twice. -/
theorem host_journal_append_only (hxlsx : tools.xlsx.RoundTrips) (hstart : host.Starts tools)
    (hadmits : host.AdmitsRun tools (earlier ++ later)) :
    (host.run tools earlier).records <+: (host.run tools (earlier ++ later)).records ∧
      (host.run tools (earlier ++ later)).records.length ≤
        (host.run tools earlier).records.length + later.length ∧
      ((host.run tools (earlier ++ later)).records.map (·.requestId)).Nodup ∧
      ((host.run tools (earlier ++ later)).records.map (·.commitId)).Nodup := by
  have hsound := hstart.sound.run hxlsx hadmits
  obtain ⟨history, hhistory⟩ := hsound.journal.replays
  obtain ⟨_, r, hr, _⟩ := PortableHistoryState.replayBound_eq_ok.mp hhistory
  have hindexes := replayFrom_indexes hr
  obtain ⟨hearlier, hlater⟩ := hadmits.append
  obtain ⟨hbegins, hlength⟩ := (hstart.sound.run hxlsx hearlier).grows hxlsx hlater
  rw [← ResidentHost.run_append] at hbegins hlength
  exact ⟨hbegins, hlength, hindexes.requestsOnce, hindexes.commitsOnce⟩

theorem ResidentHost.Fenced.step (h : host.Fenced) (hsound : host.Sound tools)
    (hadmits : host.Admits event) (hoperates : event.recovers = false) :
    (host.step tools event).Fenced ∧ (host.step tools event).records = host.records := by
  obtain ⟨owner, howner, hfenced⟩ := h
  cases event with
  | recover supply faults => cases hoperates
  | operate storage supply requestId op faults =>
    obtain ⟨history, _, _, hrecords, hran⟩ := hsound.operates howner hadmits
    have hkey : (op.run tools storage supply requestId
        ⟨owner, host.withFaults faults⟩).2.session.sessionId = host.resourceId.key :=
      congrArg ResourceId.key
        (hran.sameJournal.resourceId.trans (hsound.owns owner howner).resourceId)
    unfold ResidentHost.step
    rw [howner]
    refine ⟨⟨_, rfl, fun husable => hfenced (hran.usable husable)⟩, ?_⟩
    rcases hran.appends with hsame | ⟨s, _, _, _, _, husable, _⟩
    · rw [hrecords] at hsame
      unfold World.records at hsame
      rw [hkey] at hsame
      exact hsame
    · exact absurd husable hfenced

theorem ResidentHost.Fenced.run (hxlsx : tools.xlsx.RoundTrips) (h : host.Fenced)
    (hsound : host.Sound tools) (hadmits : host.AdmitsRun tools events)
    (hoperates : ∀ event ∈ events, event.recovers = false) :
    (host.run tools events).Fenced ∧ (host.run tools events).records = host.records := by
  induction events generalizing host with
  | nil => exact ⟨h, rfl⟩
  | cons event rest ih =>
    obtain ⟨hfenced, hrecords⟩ := h.step hsound hadmits.1 (hoperates event List.mem_cons_self)
    obtain ⟨hfenced', hrecords'⟩ := ih hfenced (hsound.step hxlsx hadmits.1) hadmits.2
      fun e he => hoperates e (List.mem_cons_of_mem _ he)
    exact ⟨hfenced', hrecords'.trans hrecords⟩

/-- Up to the next recovery a fenced owner stays fenced and journals nothing,
whatever is asked of it. -/
theorem fenced_owner_journals_nothing (hxlsx : tools.xlsx.RoundTrips) (hstart : host.Starts tools)
    (hadmits : host.AdmitsRun tools (earlier ++ later)) (hfenced : (host.run tools earlier).Fenced)
    (hoperates : ∀ event ∈ later, event.recovers = false) :
    (host.run tools (earlier ++ later)).Fenced ∧
      (host.run tools (earlier ++ later)).records = (host.run tools earlier).records := by
  obtain ⟨hearlier, hlater⟩ := hadmits.append
  rw [ResidentHost.run_append]
  exact hfenced.run hxlsx (hstart.sound.run hxlsx hearlier) hlater hoperates

/-- Whatever recovery makes of the journal of a usable owner has the content, the
staged changes and the generation of that owner. -/
theorem recovery_restores_owner (hxlsx : tools.xlsx.RoundTrips) (hstart : host.Starts tools)
    (hadmits : host.AdmitsRun tools events) (hkeeps : ∀ event ∈ events, event.discards = false)
    {owner recovered : ResidentWriteSession Archive}
    (howner : (host.run tools events).owner = some owner) (husable : owner.poisoned = none)
    {epoch : String} {ingested : Bool} (hrecovers : recoverFromRecords tools epoch ingested
      host.resourceId host.base (host.run tools events).records = .ok recovered) :
    recovered.workbook.document.SameContent owner.workbook.document ∧
      recovered.staged.keys = owner.staged.keys ∧
      recovered.catalogGeneration = owner.catalogGeneration ∧ recovered.poisoned = none := by
  obtain ⟨history, hhistory, hagrees, hbytes⟩ := hstart.agrees hxlsx hadmits hkeeps howner husable
  obtain ⟨history', hhistory', hrecovered⟩ := recoverFromRecords_recovered hrecovers
  obtain rfl : history = history' := Except.ok.inj (hhistory.symm.trans hhistory')
  refine ⟨?_, hrecovered.catalogIds.trans hagrees.catalogIds.symm,
    hrecovered.catalogGeneration.trans hagrees.catalogGeneration.symm, hrecovered.usable⟩
  obtain ⟨start, nodes, hstart, hlineage, _, hcontent⟩ := hagrees.document
  obtain ⟨start', nodes', hstart', hlineage', _, hcontent'⟩ := hrecovered.document
  rw [hbytes, hstart'] at hstart
  obtain rfl := Except.ok.inj hstart
  obtain rfl := hlineage.unique hlineage'
  exact hcontent'.trans ⟨hcontent.sheets.symm, fun key => (hcontent.content key).symm⟩

end Safety

theorem sampleXlsx_roundTrips : sampleXlsx.RoundTrips where
  reads := by
    rintro document bytes ⟨_, hwrite⟩
    obtain rfl := Except.ok.inj hwrite
    exact ⟨document, rfl, rfl, fun key => .inl rfl⟩

/-- Archives are documents and every digest is the same text. -/
def sampleHostTools : Tools Workbook where
  xlsx := sampleXlsx
  digest := {
    archive := fun _ => String.ofList (List.replicate 64 '0')
    text := fun _ => String.ofList (List.replicate 64 '0')
    control := fun _ _ _ _ _ _ => String.ofList (List.replicate 64 '0')
    write := fun _ _ _ => String.ofList (List.replicate 64 '0')
    calculate := fun _ _ _ _ => String.ofList (List.replicate 64 '0')
    createFork := fun _ => String.ofList (List.replicate 64 '0')
    discardFork := fun _ => String.ofList (List.replicate 64 '0')
    exportFork := fun _ => String.ofList (List.replicate 64 '0') }
  validateFormula := fun _ => .ok ()
  validateOther := fun _ => .ok 0
  payloadBytes := fun _ => 0
  applyOther := fun _ _ book => (.ok "", book)
  summaryDetail := fun _ _ => ""
  preparedCellChange := fun _ _ _ => none
  diffBytes := fun _ _ => .ok emptyDiff
  addEffectManifest := fun diff _ => diff

def sampleHost (base : Workbook) : ResidentHost Workbook where
  resourceId := ⟨.session, "s"⟩
  base := base
  storage := ⟨⟨fun _ => [], 100⟩, [], none, none⟩
  owner := (ResidentWriteSession.fromBytes sampleHostTools ⟨.session, "s"⟩ base "e" true).toOption

theorem sampleHost_starts (base : Workbook) : (sampleHost base).Starts sampleHostTools :=
  ⟨⟨"e", true, _, rfl, rfl⟩, rfl⟩

def sampleSupply (n : Nat) : Supply where
  commitId := "c" ++ toString n
  changeId := "change" ++ toString n
  requestId := "restart" ++ toString n
  epoch := "e"
  ingested := true
  synchronized := true

def sampleWriteRequest : WriteRequest where
  resourceId := ⟨.session, "s"⟩
  expectedRevision := "resident:e:0:0"
  mode := .apply
  atomic := true
  ops := [.setCells "Sheet1" [((1, 1), .value (.string "7"))] false]
  label := none
  formulaParsePolicy := none

/-- A write whose outcome stays unknown, a recovery and an undo. -/
def sampleEvents : List (HostEvent Workbook) := [
  .operate none (sampleSupply 0) "write" (.write sampleWriteRequest)
    [.none, .none, .unacknowledged, .refused],
  .recover (sampleSupply 1) [],
  .operate none (sampleSupply 2) "undo" (.undo true) []]

theorem sampleEvents_admitted : (sampleHost sampleBase).AdmitsRun sampleHostTools sampleEvents := by
  refine ⟨?_, ?_, ?_, trivial⟩
  · intro receipt hreceipt
    cases hreceipt
  · unfold ResidentHost.Admits
    dsimp only
    decide +kernel
  · intro receipt hreceipt
    cases hreceipt

theorem sampleEvents_agreement :
    ∃ owner history document, ((sampleHost sampleBase).run sampleHostTools sampleEvents).owner =
        some owner ∧
      PortableHistoryState.replayBound sampleHostTools.digest
        ((sampleHost sampleBase).run sampleHostTools sampleEvents).records "s"
        (sampleHostTools.digest.archive sampleBase) = .ok history ∧
      history.stateRevision = some owner.revision ∧
      journalDocument sampleXlsx sampleBase
        ((sampleHost sampleBase).run sampleHostTools sampleEvents).records history =
          .ok document ∧ owner.workbook.document.SameContent document := by
  have hrun : (((sampleHost sampleBase).run sampleHostTools sampleEvents).owner.any
      fun owner => owner.poisoned.isNone) = true := by decide +kernel
  have hne : (((sampleHost sampleBase).run sampleHostTools sampleEvents).records.isEmpty) =
      false := by decide +kernel
  obtain ⟨owner, howner, husable⟩ := (Option.any_eq_true _ _).mp hrun
  obtain ⟨history, document, hhistory, hrevision, _, _, hdocument, hcontent⟩ :=
    owner_journal_agreement sampleXlsx_roundTrips (sampleHost_starts sampleBase)
      sampleEvents_admitted (by decide) howner (Option.isNone_iff_eq_none.mp husable)
      (by simpa using hne)
  exact ⟨owner, history, document, howner, hhistory, hrevision, hdocument, hcontent⟩

theorem sampleEvents_append_only :
    ((sampleHost sampleBase).run sampleHostTools (sampleEvents.take 1)).records <+:
      ((sampleHost sampleBase).run sampleHostTools
        (sampleEvents.take 1 ++ sampleEvents.drop 1)).records :=
  (host_journal_append_only sampleXlsx_roundTrips (sampleHost_starts sampleBase)
    (List.take_append_drop 1 sampleEvents ▸ sampleEvents_admitted)).1

/-- The write whose outcome stays unknown, and an undo without a recovery. -/
def unrecoveredEvents : List (HostEvent Workbook) :=
  sampleEvents.take 1 ++ [.operate none (sampleSupply 2) "undo" (.undo true) []]

theorem unrecoveredEvents_journal_nothing :
    ((sampleHost sampleBase).run sampleHostTools unrecoveredEvents).records =
      ((sampleHost sampleBase).run sampleHostTools (sampleEvents.take 1)).records := by
  have hadmits : (sampleHost sampleBase).AdmitsRun sampleHostTools unrecoveredEvents := by
    refine ⟨?_, ?_, trivial⟩ <;> intro receipt hreceipt <;> cases hreceipt
  have hrun : (((sampleHost sampleBase).run sampleHostTools (sampleEvents.take 1)).owner.any
      fun owner => owner.poisoned.isSome) = true := by decide +kernel
  obtain ⟨owner, howner, hfenced⟩ := (Option.any_eq_true _ _).mp hrun
  exact (fenced_owner_journals_nothing sampleXlsx_roundTrips (sampleHost_starts sampleBase) hadmits
    ⟨owner, howner, Option.isSome_iff_ne_none.mp hfenced⟩ (by decide)).2

theorem sampleEvents_recovered :
    ∃ owner recovered, ((sampleHost sampleBase).run sampleHostTools sampleEvents).owner =
        some owner ∧
      recoverFromRecords sampleHostTools "e" true ⟨.session, "s"⟩ sampleBase
        ((sampleHost sampleBase).run sampleHostTools sampleEvents).records = .ok recovered ∧
      recovered.workbook.document.SameContent owner.workbook.document := by
  have hrun : (((sampleHost sampleBase).run sampleHostTools sampleEvents).owner.any
      fun owner => owner.poisoned.isNone) = true := by decide +kernel
  have hrecovers : (recoverFromRecords sampleHostTools "e" true ⟨.session, "s"⟩ sampleBase
      ((sampleHost sampleBase).run sampleHostTools sampleEvents).records).toOption.isSome = true := by
    decide +kernel
  obtain ⟨owner, howner, husable⟩ := (Option.any_eq_true _ _).mp hrun
  cases hrecovered : recoverFromRecords sampleHostTools "e" true ⟨.session, "s"⟩ sampleBase
      ((sampleHost sampleBase).run sampleHostTools sampleEvents).records with
  | error message =>
    rw [hrecovered] at hrecovers
    cases hrecovers
  | ok recovered =>
    exact ⟨owner, recovered, howner, rfl, (recovery_restores_owner sampleXlsx_roundTrips
      (sampleHost_starts sampleBase) sampleEvents_admitted (by decide) howner
      (Option.isNone_iff_eq_none.mp husable) hrecovered).1⟩

/-- A base with one formula, and a calculation of it. -/
def formulaBase : Workbook where
  sheets := ["Sheet1"]
  cells := fun key => if key = ("Sheet1", 1, 1) then some { formula := some "1+1" } else none
  remainder := ""

def sampleCalculation : Calculation where
  external := false
  timeoutMs := none
  durationMs := 0
  engine := { evaluation := .ok ⟨1, [⟨"Sheet1", 1, 1, .number 2⟩], [], 0, 1⟩ }

/-- After a calculation the owner's document is not the fold itself: the formula
result is in no publication. -/
theorem calculated_document_is_no_fold :
    ∃ owner history document, ((sampleHost formulaBase).run sampleHostTools
        [.operate none (sampleSupply 0) "calculate" (.recalculate sampleCalculation) []]).owner =
        some owner ∧ owner.poisoned = none ∧
      PortableHistoryState.replayBound sampleHostTools.digest ((sampleHost formulaBase).run
        sampleHostTools [.operate none (sampleSupply 0) "calculate"
          (.recalculate sampleCalculation) []]).records "s"
        (sampleHostTools.digest.archive formulaBase) = .ok history ∧
      history.stateRevision.isSome = true ∧
      journalDocument sampleXlsx formulaBase ((sampleHost formulaBase).run sampleHostTools
        [.operate none (sampleSupply 0) "calculate" (.recalculate sampleCalculation) []]).records
        history = .ok document ∧ owner.workbook.document ≠ document := by
  have hrun : (((sampleHost formulaBase).run sampleHostTools
      [.operate none (sampleSupply 0) "calculate" (.recalculate sampleCalculation) []]).owner.any
      fun owner => owner.poisoned.isNone && (owner.workbook.document.cells ("Sheet1", 1, 1)).any
        fun cell => cell.value == .number 2) = true := by decide +kernel
  have hfold : ((PortableHistoryState.replayBound sampleHostTools.digest ((sampleHost formulaBase).run
      sampleHostTools [.operate none (sampleSupply 0) "calculate"
        (.recalculate sampleCalculation) []]).records "s"
      (sampleHostTools.digest.archive formulaBase)).toOption.any fun history =>
        history.stateRevision.isSome && (journalDocument sampleXlsx formulaBase
          ((sampleHost formulaBase).run sampleHostTools [.operate none (sampleSupply 0) "calculate"
            (.recalculate sampleCalculation) []]).records history).toOption.any fun document =>
              (document.cells ("Sheet1", 1, 1)).any fun cell => cell.value == .empty) = true := by
    decide +kernel
  obtain ⟨owner, howner, hcell⟩ := (Option.any_eq_true _ _).mp hrun
  obtain ⟨history, hhistory, hrest⟩ := exists_ok_of_any hfold
  rw [Bool.and_eq_true] at hcell hrest
  obtain ⟨document, hdocument, hempty⟩ := exists_ok_of_any hrest.2
  refine ⟨owner, history, document, howner, Option.isNone_iff_eq_none.mp hcell.1,
    hhistory, hrest.1, hdocument, ?_⟩
  rintro rfl
  obtain ⟨cell, hfound, hvalue⟩ := (Option.any_eq_true _ _).mp hcell.2
  obtain ⟨cell', hfound', hvalue'⟩ := (Option.any_eq_true _ _).mp hempty
  rw [hfound] at hfound'
  obtain rfl := Option.some.inj hfound'
  rw [beq_iff_eq.mp hvalue] at hvalue'
  exact absurd hvalue' (by decide +kernel)

end AgentSpreadsheet
