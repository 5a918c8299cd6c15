import AgentSpreadsheet.Recovered

/-! Whole runs of a resident session. A host keeps the storage and an owner while
it has one; operations and recoveries meet any storage outcomes. -/
namespace AgentSpreadsheet
open Library Library.Exec

/-- The journal replays, and an owner that may be used agrees with it. -/
structure World.Sound (tools : Tools Archive) (w : World Archive) : Prop where
  quota : w.records.length ≤ w.host.store.quota.toNat
  replays : ∃ history, w.Replays tools history
  agrees : ∀ history, w.Replays tools history → w.session.poisoned = none →
    history.discarded = false → Agrees tools w.session w.records history

section Step
variable {tools : Tools Archive} {storage : Storage Archive} {supply : Supply}
  {requestId : String} {history : PortableHistoryState} {op : DurableOp} {w w' : World Archive}
  {s : ResidentWriteSession Archive} {proposed record : PreparedResidentCommit Archive}
  {publish : Owner Archive Unit} {records : List (PreparedResidentCommit Archive)}

theorem Proposes.identity (h : Proposes tools supply s records history requestId op proposed publish) :
    proposed.sessionId = s.sessionId ∧ proposed.baseSha256 = s.baseSha256 ∧
      proposed.requestId = requestId := by
  cases h <;> exact ⟨rfl, rfl, rfl⟩

theorem Proposes.publish_sameJournal {reason : Option String} {s' : ResidentWriteSession Archive}
    (h : Proposes tools supply s records history requestId op proposed publish)
    (hpublish : publish { s with poisoned := reason } = (.ok (), s')) : SameJournal s s' := by
  cases h with
  | control plans named =>
    have hsame := (ControlPlan.publish_sameJournal _).ok hpublish
    exact ⟨hsame.resourceId, hsame.baseSha256, hsame.baseBytes⟩
  | transaction requests named prepares kept =>
    have hsame := (publishResidentTransaction_sameJournal _).ok hpublish
    exact ⟨hsame.resourceId, hsame.baseSha256, hsame.baseBytes⟩
  | discard changeId named staged =>
    rw [modify_ok_iff.mp hpublish]
    exact ⟨rfl, rfl, rfl⟩
  | calculation named prepares =>
    obtain ⟨_, s₁, hcall, hpure⟩ := bind_ok_iff.mp hpublish
    obtain ⟨_, rfl⟩ := pure_ok_iff.mp hpure
    rw [(onWorkbook_eq_ok.mp hcall).2]
    exact ⟨rfl, rfl, rfl⟩

theorem Agrees.of_idle {s' : ResidentWriteSession Archive} (h : Agrees tools s records history)
    (hidle : Idle s s') : Agrees tools s' records history where
  revision := by
    rw [hidle.revision]
    exact h.revision
  catalogGeneration := by
    rw [hidle.owner]
    exact h.catalogGeneration
  catalogIds := by
    rw [hidle.owner]
    exact h.catalogIds
  calculation := by
    rw [hidle.calculation]
    exact h.calculation
  document := by
    rw [hidle.document, hidle.sameJournal.baseBytes]
    exact h.document

theorem World.Sound.journaled (h : w.Sound tools) (hhistory : w.Replays tools history) :
    Journaled tools w.session w.records history :=
  ⟨hhistory, Nat.lt_of_le_of_lt h.quota (UInt64.toNat_lt _)⟩

theorem SameJournal.records_eq {host : HostStorage Archive} (h : SameJournal w.session s)
    (hstore : host.store = w.host.store) : (World.mk s host).records = w.records := by
  unfold World.records ResidentWriteSession.sessionId
  rw [h.resourceId, hstore]

/-- An owner that is fenced, or has done nothing, is as sound as before. -/
theorem World.Sound.kept (h : w.Sound tools) (hsame : SameJournal w.session w'.session)
    (hstore : w'.host.store = w.host.store)
    (howner : w'.session.poisoned = none → Idle w.session w'.session) : w'.Sound tools := by
  have hrecords : w'.records = w.records := hsame.records_eq hstore
  have hreplays : ∀ history, w'.Replays tools history ↔ w.Replays tools history := by
    intro history
    unfold World.Replays ResidentWriteSession.sessionId
    rw [hrecords, hsame.resourceId, hsame.baseSha256]
  refine ⟨?_, ?_, ?_⟩
  · rw [hrecords, hstore]
    exact h.quota
  · obtain ⟨history, hhistory⟩ := h.replays
    exact ⟨history, (hreplays history).mpr hhistory⟩
  · intro history hhistory husable hkept
    have hidle := howner husable
    have husable' : w.session.poisoned = none := by
      rw [hidle.owner] at husable
      exact husable
    rw [hrecords]
    exact (h.agrees history ((hreplays history).mp hhistory) husable' hkept).of_idle hidle

theorem Stored.records_eq (hstored : Stored tools.digest storage proposed w.host w'.host record)
    (hproposes : Proposes tools supply s w.records history requestId op proposed publish)
    (hsame : SameJournal w.session s) (hsame' : SameJournal s w'.session) :
    w'.records = w.records ++ [record] ∧ record.sessionId = w.session.sessionId ∧
      record.baseSha256 = w.session.baseSha256 := by
  obtain ⟨hsession, hbase, _⟩ := hproposes.identity
  have hframe := hstored.outfits.frame
  have hid : record.sessionId = w.session.sessionId := by
    rw [hframe]
    dsimp only
    rw [hsession]
    exact congrArg ResourceId.key hsame.resourceId
  refine ⟨?_, hid, ?_⟩
  · have hid' : w'.session.sessionId = record.sessionId := by
      rw [hid]
      exact congrArg ResourceId.key (hsame'.resourceId.trans hsame.resourceId)
    unfold World.records
    rw [hid', hstored.store, RecordStore.append_stream, ← hid]
  · rw [hframe]
    dsimp only
    rw [hbase, hsame.baseSha256]

/-- A stored record leaves a sound journal behind it; an owner that has published
it agrees. -/
theorem World.Sound.stored (h : w.Sound tools) (hhistory : w.Replays tools history)
    (hstored : Stored tools.digest storage proposed w.host w'.host record)
    (hproposes : Proposes tools supply s w.records history requestId op proposed publish)
    (hidle : Idle w.session s) (hsame : SameJournal s w'.session)
    (howner : w'.session.poisoned = none → history.discarded = false →
      ∀ history', Journaled tools s (w.records ++ [record]) history' →
        Agrees tools w'.session (w.records ++ [record]) history') : w'.Sound tools := by
  obtain ⟨hrecords, hid, hbase⟩ := hstored.records_eq hproposes hidle.sameJournal hsame
  have hsession : w'.session.sessionId = w.session.sessionId :=
    congrArg ResourceId.key (hsame.resourceId.trans hidle.sameJournal.resourceId)
  have hsha : w'.session.baseSha256 = w.session.baseSha256 :=
    hsame.baseSha256.trans hidle.sameJournal.baseSha256
  have hquota : w'.records.length ≤ w'.host.store.quota.toNat := by
    have hlt := hstored.quota
    rw [hid] at hlt
    rw [hrecords, hstored.store, List.length_append]
    exact hlt
  refine ⟨hquota, ?_, ?_⟩
  · obtain ⟨history', hreplay⟩ := hstored.replays
    refine ⟨history', ?_⟩
    rw [hid, hbase] at hreplay
    unfold World.Replays
    rw [hrecords, hsession, hsha]
    exact hreplay
  · intro history' hhistory' husable hkept
    unfold World.Replays at hhistory'
    rw [hrecords, hsession, hsha] at hhistory'
    rw [hrecords] at hquota ⊢
    refine howner husable ?_ history' ⟨?_, Nat.lt_of_le_of_lt hquota (UInt64.toNat_lt _)⟩
    · have hextends := replayBound_extends hhistory hhistory'
      rw [hextends.discarded] at hkept
      exact (Bool.or_eq_false_iff.mp hkept).1
    · rw [show s.sessionId = w.session.sessionId from
        congrArg ResourceId.key hidle.sameJournal.resourceId, hidle.sameJournal.baseSha256]
      exact hhistory'

/-- A durable operation keeps a sound session sound, whatever its storage does. -/
theorem Ran.sound (hxlsx : tools.xlsx.RoundTrips) (h : w.Sound tools)
    (hhistory : w.Replays tools history)
    (hran : Ran tools storage supply requestId history op w w') :
    w'.Sound tools ∧ SameJournal w.session w'.session := by
  cases hran with
  | idle owner host =>
    exact ⟨h.kept owner.sameJournal host.store fun _ => owner, owner.sameJournal⟩
  | fenced owner host =>
    refine ⟨h.kept owner.toSameJournal host.store fun husable => ?_, owner.toSameJournal⟩
    have hpoisoned := owner.poisoned
    rw [husable] at hpoisoned
    cases hpoisoned
  | tried s proposed publish usable fresh owner proposes attempt ending =>
    rcases ending with ⟨hsession, hstore⟩ | hfenced
    · rw [← hsession] at owner
      exact ⟨h.kept owner.sameJournal hstore fun _ => owner, owner.sameJournal⟩
    have hsame := owner.sameJournal.trans hfenced.toSameJournal
    have hnot (husable : w'.session.poisoned = none) : False := by
      have hpoisoned := hfenced.poisoned
      rw [husable] at hpoisoned
      cases hpoisoned
    refine ⟨?_, hsame⟩
    cases attempt with
    | unsent same => exact h.kept hsame same.store fun husable => (hnot husable).elim
    | refused record outfits submitted store =>
      exact h.kept hsame store fun husable => (hnot husable).elim
    | stored record stored =>
      exact h.stored hhistory stored proposes owner hfenced.toSameJournal
        fun husable => (hnot husable).elim
  | published s s' reason proposed record publish usable fresh owner proposes stored publishes
      revision session =>
    have hsame : SameJournal s w'.session := by
      rw [session]
      have hpublished := proposes.publish_sameJournal publishes
      exact ⟨hpublished.resourceId, hpublished.baseSha256, hpublished.baseBytes⟩
    refine ⟨?_, owner.sameJournal.trans hsame⟩
    refine h.stored hhistory stored proposes owner hsame fun _ hkept history' hjournal' => ?_
    have hjournal : Journaled tools s w.records history := by
      have hjournaled := h.journaled hhistory
      refine ⟨?_, hjournaled.length⟩
      rw [show s.sessionId = w.session.sessionId from
        congrArg ResourceId.key owner.sameJournal.resourceId, owner.sameJournal.baseSha256]
      exact hhistory
    have hagrees := (h.agrees history hhistory usable hkept).of_idle owner
    have hpublished := hagrees.published hxlsx hjournal hjournal' proposes stored.outfits publishes
      revision
    rw [session]
    exact ⟨hpublished.revision, hpublished.catalogGeneration, hpublished.catalogIds,
      hpublished.calculation, hpublished.document⟩

theorem Ran.sameJournal (hran : Ran tools storage supply requestId history op w w') :
    SameJournal w.session w'.session := by
  cases hran with
  | idle owner host => exact owner.sameJournal
  | fenced owner host => exact owner.toSameJournal
  | tried s proposed publish usable fresh owner proposes attempt ending =>
    rcases ending with ⟨hsession, _⟩ | hfenced
    · rw [hsession]
      exact owner.sameJournal
    · exact owner.sameJournal.trans hfenced.toSameJournal
  | published s s' reason proposed record publish usable fresh owner proposes stored publishes
      revision session =>
    have hsame := proposes.publish_sameJournal publishes
    rw [session]
    exact owner.sameJournal.trans ⟨hsame.resourceId, hsame.baseSha256, hsame.baseBytes⟩

theorem Ran.usable (hran : Ran tools storage supply requestId history op w w')
    (husable : w'.session.poisoned = none) : w.session.poisoned = none := by
  cases hran with
  | idle owner host =>
    rw [owner.owner] at husable
    exact husable
  | fenced owner host =>
    have hpoisoned := owner.poisoned
    rw [husable] at hpoisoned
    cases hpoisoned
  | tried s proposed publish usable fresh owner proposes attempt ending => exact usable
  | published s s' reason proposed record publish usable fresh owner proposes stored publishes
      revision session => exact usable

theorem Ran.appends (hran : Ran tools storage supply requestId history op w w') :
    w'.records = w.records ∨
    ∃ s proposed publish record, Idle w.session s ∧ w.session.poisoned = none ∧
      requestId ∉ w.records.map (·.requestId) ∧
      Proposes tools supply s w.records history requestId op proposed publish ∧
      storage.Outfits proposed record ∧ w'.records = w.records ++ [record] := by
  cases hran with
  | idle owner host => exact .inl (owner.sameJournal.records_eq host.store)
  | fenced owner host => exact .inl (owner.toSameJournal.records_eq host.store)
  | tried s proposed publish usable fresh owner proposes attempt ending =>
    have hsame : SameJournal s w'.session := by
      rcases ending with ⟨hsession, _⟩ | hfenced
      · rw [hsession]
        exact .refl s
      · exact hfenced.toSameJournal
    cases attempt with
    | unsent same => exact .inl ((owner.sameJournal.trans hsame).records_eq same.store)
    | refused record outfits submitted store =>
      exact .inl ((owner.sameJournal.trans hsame).records_eq store)
    | stored record stored =>
      exact .inr ⟨s, proposed, publish, record, owner, usable, fresh, proposes, stored.outfits,
        (stored.records_eq proposes owner.sameJournal hsame).1⟩
  | published s s' reason proposed record publish usable fresh owner proposes stored publishes
      revision session =>
    refine .inr ⟨s, proposed, publish, record, owner, usable, fresh, proposes, stored.outfits, ?_⟩
    have hsame := proposes.publish_sameJournal publishes
    refine (stored.records_eq proposes owner.sameJournal ?_).1
    rw [session]
    exact ⟨hsame.resourceId, hsame.baseSha256, hsame.baseBytes⟩

theorem Proposes.keeps (hproposes : Proposes tools supply s records history requestId op proposed
      publish) (hop : ∀ request, op ≠ .receipt (.discard request))
    (houtfits : storage.Outfits proposed record) : record.discards = false := by
  have hproposed : (proposed.effects.any fun e => e.resourceDiscard.isPresent) = false := by
    cases hproposes with
    | control plans named =>
      cases plans with
      | branchCreate name requested label target =>
        simp only [ControlPlan.record, ControlPlan.stay, branchCreateEffect]
        split <;> rfl
      | receipt receipt kept =>
        cases receipt with
        | discard request => exact absurd rfl (hop request)
        | _ => rfl
      | _ => rfl
    | _ => rfl
  obtain ⟨extra, heffects, hextra⟩ := houtfits.effects
  have hadded : (extra.any fun e => e.resourceDiscard.isPresent) = false := by
    rw [List.any_eq_false]
    intro e he
    obtain ⟨outcome, rfl⟩ := hextra e he
    simp [Member.isPresent]
  have hany : (record.effects.any fun e => e.resourceDiscard.isPresent) = false := by
    rw [heffects, List.any_append, hproposed, hadded]
    rfl
  unfold PreparedResidentCommit.discards
  rw [hany, Bool.and_false]

end Step

end AgentSpreadsheet
