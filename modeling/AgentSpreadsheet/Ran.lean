import AgentSpreadsheet.Operation
import AgentSpreadsheet.SnapshotCache

/-! Everything a durable operation can do. It leaves owner and journal alone, or
it fences the owner, or it submits one record of `Proposes` and then either
publishes it, is refused, or fences the owner. -/
namespace AgentSpreadsheet
open Library Library.Exec

def World.records (w : World Archive) : List (PreparedResidentCommit Archive) :=
  w.host.store.stream w.session.sessionId

/-- The owner's journal replays to `history`. -/
def World.Replays (tools : Tools Archive) (history : PortableHistoryState) (w : World Archive) :
    Prop :=
  PortableHistoryState.replayBound tools.digest w.records w.session.sessionId
    w.session.baseSha256 = .ok history

/-- At most a cache or a retained evaluator of the owner has changed. -/
structure Idle (s s' : ResidentWriteSession Archive) : Prop where
  owner : s' = { s with workbook := s'.workbook }
  document : s'.workbook.document = s.workbook.document
  revisions : s'.workbook.revisions = s.workbook.revisions
  calculation : s'.workbook.calculation = s.workbook.calculation

/-- The owner belongs to the same journal and base. -/
structure SameJournal (s s' : ResidentWriteSession Archive) : Prop where
  resourceId : s'.resourceId = s.resourceId
  baseSha256 : s'.baseSha256 = s.baseSha256
  baseBytes : s'.baseBytes = s.baseBytes

structure Fenced (s s' : ResidentWriteSession Archive) : Prop extends SameJournal s s' where
  poisoned : s'.poisoned.isSome = true

/-- Nothing but faults and captured responses has moved. -/
structure World.Quiet (w w' : World Archive) : Prop where
  session : w'.session = w.session
  host : w.host.Same w'.host

section Ran
variable (tools : Tools Archive) (storage : Storage Archive) (supply : Supply)
  (requestId : String) (history : PortableHistoryState)

inductive Ran (op : DurableOp) (w w' : World Archive) : Prop
  | idle (owner : Idle w.session w'.session) (host : w.host.Same w'.host)
  | fenced (owner : Fenced w.session w'.session) (host : w.host.Same w'.host)
  | tried (s : ResidentWriteSession Archive) (proposed : PreparedResidentCommit Archive)
      (publish : Owner Archive Unit) (usable : w.session.poisoned = none)
      (fresh : requestId ∉ w.records.map (·.requestId)) (owner : Idle w.session s)
      (proposes : Proposes tools supply s w.records history requestId op proposed publish)
      (attempt : Attempt tools.digest storage proposed w.host w'.host)
      (ending : w'.session = s ∧ w'.host.store = w.host.store ∨ Fenced s w'.session)
  | published (s s' : ResidentWriteSession Archive) (reason : Option String)
      (proposed record : PreparedResidentCommit Archive) (publish : Owner Archive Unit)
      (usable : w.session.poisoned = none) (fresh : requestId ∉ w.records.map (·.requestId))
      (owner : Idle w.session s)
      (proposes : Proposes tools supply s w.records history requestId op proposed publish)
      (stored : Stored tools.digest storage proposed w.host w'.host record)
      (publishes : publish { s with poisoned := reason } = (.ok (), s'))
      (revision : s'.revision = record.stateRevision)
      (session : w'.session = { s' with poisoned := none })

end Ran

theorem Idle.refl (s : ResidentWriteSession Archive) : Idle s s := ⟨rfl, rfl, rfl, rfl⟩

theorem Idle.trans {a b c : ResidentWriteSession Archive} (hab : Idle a b) (hbc : Idle b c) :
    Idle a c where
  owner := by rw [hbc.owner, hab.owner]
  document := hbc.document.trans hab.document
  revisions := hbc.revisions.trans hab.revisions
  calculation := hbc.calculation.trans hab.calculation

theorem Idle.revision {s s' : ResidentWriteSession Archive} (h : Idle s s') :
    s'.revision = s.revision := by
  unfold ResidentWriteSession.revision ResidentWorkbook.stateRevisionId
  rw [h.revisions]

theorem SameJournal.refl (s : ResidentWriteSession Archive) : SameJournal s s := ⟨rfl, rfl, rfl⟩

theorem SameJournal.trans {a b c : ResidentWriteSession Archive} (hab : SameJournal a b)
    (hbc : SameJournal b c) : SameJournal a c :=
  ⟨hbc.resourceId.trans hab.resourceId, hbc.baseSha256.trans hab.baseSha256,
    hbc.baseBytes.trans hab.baseBytes⟩

theorem SameJournal.poison {s s' : ResidentWriteSession Archive} (h : SameJournal s s')
    (reason : String) : Fenced s { s' with poisoned := some reason } :=
  ⟨⟨h.resourceId, h.baseSha256, h.baseBytes⟩, rfl⟩

theorem Idle.sameJournal {s s' : ResidentWriteSession Archive} (h : Idle s s') :
    SameJournal s s' := by
  rw [h.owner]
  exact ⟨rfl, rfl, rfl⟩

theorem World.Quiet.refl (w : World Archive) : w.Quiet w := ⟨rfl, .refl _⟩

theorem World.Quiet.trans {a b c : World Archive} (hab : a.Quiet b) (hbc : b.Quiet c) :
    a.Quiet c :=
  ⟨hbc.session.trans hab.session, hab.host.trans hbc.host⟩

theorem World.Quiet.records {w w' : World Archive} (h : w.Quiet w') : w'.records = w.records := by
  unfold World.records
  rw [h.session, h.host.store]

theorem World.Quiet.replays {tools : Tools Archive} {history : PortableHistoryState}
    {w w' : World Archive} (h : w.Quiet w') (hhistory : w.Replays tools history) :
    w'.Replays tools history := by
  unfold World.Replays
  rw [h.records, h.session]
  exact hhistory

section Frame
variable {tools : Tools Archive} {storage : Storage Archive} {supply : Supply}
  {requestId : String} {history : PortableHistoryState} {op : DurableOp}
  {w w' w'' : World Archive} {proposed record : PreparedResidentCommit Archive}

theorem Ran.of_quiet (h : w.Quiet w') : Ran tools storage supply requestId history op w w' :=
  .idle (by rw [h.session]; exact .refl _) h.host

theorem Stored.of_same {host host' host'' : HostStorage Archive} (h : host.Same host')
    (hstored : Stored tools.digest storage proposed host' host'' record) :
    Stored tools.digest storage proposed host host'' record where
  outfits := hstored.outfits
  submitted := hstored.submitted
  store := by rw [hstored.store, h.store]
  replays := by
    rw [← h.store]
    exact hstored.replays
  quota := by
    rw [← h.store]
    exact hstored.quota

theorem Attempt.of_same {host host' host'' : HostStorage Archive} (h : host.Same host')
    (hattempt : Attempt tools.digest storage proposed host' host'') :
    Attempt tools.digest storage proposed host host'' := by
  cases hattempt with
  | unsent same => exact .unsent (h.trans same)
  | refused record outfits submitted store =>
    exact .refused record outfits submitted (store.trans h.store)
  | stored record stored => exact .stored record (stored.of_same h)

/-- A call that begins without effect does what the rest of it does. -/
theorem Ran.after_idle (howner : Idle w.session w'.session) (hsame : w.host.Same w'.host)
    (hran : Ran tools storage supply requestId history op w' w'') :
    Ran tools storage supply requestId history op w w'' := by
  have hrecords : w'.records = w.records := by
    unfold World.records ResidentWriteSession.sessionId
    rw [hsame.store, howner.sameJournal.resourceId]
  have hpoisoned : w'.session.poisoned = w.session.poisoned := by rw [howner.owner]
  cases hran with
  | idle owner host => exact .idle (howner.trans owner) (hsame.trans host)
  | fenced owner host =>
    exact .fenced ⟨howner.sameJournal.trans owner.toSameJournal, owner.poisoned⟩
      (hsame.trans host)
  | tried s proposed publish usable fresh owner proposes attempt ending =>
    rw [hpoisoned] at usable
    rw [hrecords] at fresh proposes
    rw [hsame.store] at ending
    exact .tried s proposed publish usable fresh (howner.trans owner) proposes
      (attempt.of_same hsame) ending
  | published s s' reason proposed record publish usable fresh owner proposes stored publishes
      revision session =>
    rw [hpoisoned] at usable
    rw [hrecords] at fresh proposes
    exact .published s s' reason proposed record publish usable fresh (howner.trans owner)
      proposes (stored.of_same hsame) publishes revision session

theorem Ran.after_quiet (h : w.Quiet w')
    (hran : Ran tools storage supply requestId history op w' w'') :
    Ran tools storage supply requestId history op w w'' := by
  refine hran.after_idle ?_ h.host
  rw [h.session]
  exact .refl _

theorem Ran.of_failed {s : ResidentWriteSession Archive} {publish : Owner Archive Unit}
    (husable : w.session.poisoned = none) (hfresh : requestId ∉ w.records.map (·.requestId))
    (howner : Idle w.session s)
    (hproposes : Proposes tools supply s w.records history requestId op proposed publish)
    (hfailed : Attempt tools.digest storage proposed w.host w'.host ∧
      (w'.session = s ∧ w'.host.store = w.host.store ∨
        ∃ reason, w'.session = { s with poisoned := some reason })) :
    Ran tools storage supply requestId history op w w' := by
  refine .tried s proposed publish husable hfresh howner hproposes hfailed.1 ?_
  rcases hfailed.2 with hkept | ⟨reason, hsession⟩
  · exact .inl hkept
  · rw [hsession]
    exact .inr ((SameJournal.refl s).poison reason)

theorem Ran.of_unpublished {s session : ResidentWriteSession Archive}
    {publish : Owner Archive Unit} {host : HostStorage Archive} {pending : Option String}
    (husable : w.session.poisoned = none) (hfresh : requestId ∉ w.records.map (·.requestId))
    (howner : Idle w.session s)
    (hproposes : Proposes tools supply s w.records history requestId op proposed publish)
    (hstored : Stored tools.digest storage proposed w.host host record)
    (hsame : SameJournal { s with poisoned := pending } session) (reason : String) :
    Ran tools storage supply requestId history op w
      ⟨{ session with poisoned := some reason }, host⟩ := by
  refine .tried s proposed publish husable hfresh howner hproposes (.stored record hstored)
    (.inr ?_)
  exact ⟨⟨hsame.resourceId, hsame.baseSha256, hsame.baseBytes⟩, rfl⟩

end Frame

section Calls
variable {tools : Tools Archive} {storage : Storage Archive} {w : World Archive}
  {history : PortableHistoryState} {E : World Archive → Prop}

theorem onHost_ends {call : Hosted Archive α} {Q : α → HostStorage Archive → Prop}
    {F : HostStorage Archive → Prop} (h : Ends call w.host Q F) :
    Ends (onHost call) w (fun a w' => w'.session = w.session ∧ Q a w'.host)
      (fun w' => w'.session = w.session ∧ F w'.host) := by
  unfold Ends onHost at *
  cases hcall : call w.host with
  | mk result host =>
    rw [hcall] at h
    cases result <;> exact ⟨rfl, h⟩

theorem onSession_ends {call : Owner Archive α} {Q : α → ResidentWriteSession Archive → Prop}
    {F : ResidentWriteSession Archive → Prop} (h : Ends call w.session Q F) :
    Ends (onSession call) w (fun a w' => w'.host = w.host ∧ Q a w'.session)
      (fun w' => w'.host = w.host ∧ F w'.session) := by
  unfold Ends onSession at *
  cases hcall : call w.session with
  | mk result session =>
    rw [hcall] at h
    cases result <;> exact ⟨rfl, h⟩

theorem ensureUsable_ends : Ends (onSession ensureUsable) w
    (fun _ w' => w' = w ∧ w.session.poisoned = none) w.Quiet := by
  unfold Ends onSession ensureUsable
  cases hpoisoned : w.session.poisoned with
  | none => simp [Exec.get, bind, Exec.bind, hpoisoned, pure, Exec.pure]
  | some reason =>
    simp only [Exec.get, bind, Exec.bind, hpoisoned, Exec.fail]
    exact .refl w

theorem load_ends {sessionId : String} : Ends (onHost (storage.load sessionId)) w
    (fun records w' => records = w.host.store.stream sessionId ∧ w.Quiet w') w.Quiet :=
  (onHost_ends Storage.load_ends).mono (fun _ _ h => ⟨h.2.1, h.1, h.2.2⟩) fun _ h => ⟨h.1, h.2⟩

theorem loadHistory_ends (hhistory : w.Replays tools history) :
    Ends (loadHistory tools storage) w
      (fun loaded w' => loaded = (w.records, history) ∧ w.Quiet w') w.Quiet := by
  refine ends_get_bind (load_ends.bind ?_)
  rintro records w' ⟨rfl, hquiet⟩
  refine ends_lift_bind (fun replayed hreplay => ends_pure ⟨?_, hquiet⟩) (fun _ _ => hquiet)
  rw [World.Replays, World.records] at hhistory
  rw [hhistory] at hreplay
  rw [Except.ok.inj hreplay]
  rfl

theorem reconciledRecordByRequestId_ends {requestId : String}
    (hhistory : w.Replays tools history) :
    Ends (reconciledRecordByRequestId tools storage requestId) w
      (fun found w' => w.Quiet w' ∧
        (found = none → requestId ∉ w.records.map (·.requestId))) w.Quiet := by
  refine ensureUsable_ends.bind ?_
  rintro _ _ ⟨rfl, _⟩
  refine (loadHistory_ends hhistory).bind ?_
  rintro _ w' ⟨rfl, hquiet⟩
  refine ends_get_bind (ends_guard_bind (fun _ => ?_) (fun _ => hquiet))
  split
  · rename_i hnone
    refine ends_pure ⟨hquiet, fun _ hmem => ?_⟩
    obtain ⟨record, hrecord, hid⟩ := List.mem_map.mp hmem
    exact List.find?_eq_none.mp hnone record hrecord (beq_iff_eq.mpr hid)
  · refine ((onHost_ends Storage.reconcile_ends).mono
      (fun _ _ h => hquiet.trans ⟨h.1, h.2.2⟩) (fun _ h => hquiet.trans ⟨h.1, h.2⟩)).bind ?_
    intro outcome w'' hquiet'
    cases outcome with
    | notFound => exact ends_fail hquiet'
    | committed outcome =>
      dsimp only
      split
      · split
        · exact ends_pure ⟨hquiet', by simp⟩
        · exact ends_fail hquiet'
        · exact ends_pure ⟨hquiet', by simp⟩
      · exact ends_pure ⟨hquiet', by simp⟩

/-- A reconciled commit of a new request stores the record; when it fails, the
owner is poisoned unless the record is known not to be stored. -/
theorem commitReconciled_ends {unknown bail : String} {proposed : PreparedResidentCommit Archive}
    (hfresh : proposed.requestId ∉
      (w.host.store.stream proposed.sessionId).map (·.requestId)) :
    Ends (commitReconciled tools storage unknown bail proposed) w
      (fun outcome w' => outcome.commitId = proposed.commitId ∧ w'.session = w.session ∧
        ∃ record, Stored tools.digest storage proposed w.host w'.host record)
      (fun w' => Attempt tools.digest storage proposed w.host w'.host ∧
        (w'.session = w.session ∧ w'.host.store = w.host.store ∨
          ∃ reason, w'.session = { w.session with poisoned := some reason })) := by
  refine (onHost_ends (Storage.commit_ends hfresh)).attempt.bind ?_
  rintro (error | outcome) w' h
  · obtain ⟨hsession, hattempt⟩ := h
    refine (onHost_ends Storage.reconcile_ends).attempt.bind ?_
    rintro (reconcile | outcome) w'' ⟨hsession', h⟩
    · refine ends_modify_bind (ends_fail ⟨hattempt.before h, .inr
        ⟨unknown ++ error ++ "; " ++ reconcile, ?_⟩⟩)
      rw [hsession', hsession]
    · obtain ⟨hreconciles, hsame⟩ := h
      have hknown := hattempt.reconciles hfresh hreconciles
      cases outcome with
      | notFound =>
        exact ends_fail ⟨hattempt.before hsame,
          .inl ⟨hsession'.trans hsession, hsame.store.trans hknown⟩⟩
      | committed outcome =>
        obtain ⟨hcommit, record, hstored⟩ := hknown
        exact ends_pure ⟨hcommit, hsession'.trans hsession, record, hstored.before hsame⟩
  · exact ends_pure ⟨h.2.1, h.1, h.2.2⟩

end Calls

section Publication
variable {tools : Tools Archive} {s : ResidentWriteSession Archive}

theorem onWorkbook_ends
    {call : ResidentWorkbook Archive → Result α × ResidentWorkbook Archive} :
    EndsIn (onWorkbook call) s (SameJournal s) := by
  unfold EndsIn Ends onWorkbook
  cases (call s.workbook).1 <;> exact ⟨rfl, rfl, rfl⟩

theorem ControlPlan.publish_sameJournal (plan : ControlPlan Archive) :
    EndsIn (plan.publish tools) s (SameJournal s) := by
  unfold ControlPlan.publish
  split
  · exact ends_modify ⟨rfl, rfl, rfl⟩
  split
  · exact ends_pure (.refl s)
  split
  · exact onWorkbook_ends.bind fun _ _ h => ends_pure h
  split
  · exact onWorkbook_ends
  · exact onWorkbook_ends

end Publication

section Control
variable {tools : Tools Archive} {storage : Storage Archive} {supply : Supply}
  {requestId : String} {history : PortableHistoryState} {op : DurableOp} {w w' : World Archive}
  {plan : ControlPlan Archive}

/-- The rest of a call, from the state a quiet beginning leaves. -/
theorem Ran.ends_after {call : Durable Archive α} (h : w.Quiet w')
    (hcall : EndsIn call w' (Ran tools storage supply requestId history op w')) :
    EndsIn call w' (Ran tools storage supply requestId history op w) :=
  hcall.mono (fun _ _ => .after_quiet h) fun _ => .after_quiet h

theorem commitPortableControlTransition_ran
    (hhistory : w.Replays tools history) (hfresh : requestId ∉ w.records.map (·.requestId))
    (hplan : Plans tools supply w.session w.records history op plan) :
    EndsIn (commitPortableControlTransition tools storage supply requestId plan) w
      (Ran tools storage supply requestId history op w) := by
  refine (ensureUsable_ends.mono (fun _ _ h => h) fun _ => .of_quiet).bind ?_
  rintro _ _ ⟨rfl, husable⟩
  refine ends_guard_bind (fun hnamed => ?_) (fun _ => .of_quiet (.refl _))
  refine ((loadHistory_ends hhistory).mono (fun _ _ h => h) fun _ => .of_quiet).bind ?_
  rintro _ w' ⟨rfl, hquiet⟩
  rw [← hquiet.records] at hfresh
  rw [← hquiet.session] at husable
  rw [← hquiet.session, ← hquiet.records] at hplan
  refine Ran.ends_after hquiet (ends_get_bind ?_)
  clear hquiet hhistory
  have hproposes := Proposes.control hplan hnamed
  split
  · exact ends_modify_bind (ends_fail (.fenced ((SameJournal.refl _).poison _) (.refl _)))
  dsimp only
  refine ((commitReconciled_ends hfresh).mono (fun _ _ h => h) fun w'' =>
    .of_failed husable hfresh (.refl _) hproposes).bind ?_
  rintro outcome ⟨session, host⟩ ⟨hcommit, hsession, record, hstored⟩
  dsimp only at hsession hstored
  subst hsession
  refine ends_modify_bind ?_
  rw [if_neg (not_not_intro hcommit)]
  refine (onSession_ends (ends_self (plan.publish tools) _)).attempt.bind ?_
  rintro (error | _) ⟨session, host⟩ ⟨rfl, hpublish⟩
  · obtain ⟨e, hpublish⟩ := hpublish
    exact ends_modify_bind (ends_fail (.of_unpublished husable hfresh (.refl _) hproposes hstored
      (plan.publish_sameJournal.error hpublish) _))
  · refine ends_get_bind ?_
    split
    · exact ends_modify_bind (ends_fail (.of_unpublished husable hfresh (.refl _) hproposes hstored
        (plan.publish_sameJournal.ok hpublish) _))
    · rename_i hrevision
      refine ends_modify_bind (ends_pure (.published w'.session session _ _ record _ husable
        hfresh (.refl _) hproposes hstored hpublish ?_ rfl))
      rw [hstored.outfits.frame]
      exact not_not.mp hrevision

/-- An operation begins by looking its request up; a request that has a record
changes nothing. -/
theorem reconciledRecordByRequestId_ran
    {rest : Option (PreparedResidentCommit Archive) → Durable Archive α}
    (hhistory : w.Replays tools history)
    (hsome : ∀ record w', w.Quiet w' → EndsIn (rest (some record)) w' w.Quiet)
    (hnone : ∀ w', w.Quiet w' → w'.Replays tools history →
      requestId ∉ w'.records.map (·.requestId) →
      EndsIn (rest none) w' (Ran tools storage supply requestId history op w')) :
    EndsIn (reconciledRecordByRequestId tools storage requestId >>= rest) w
      (Ran tools storage supply requestId history op w) := by
  refine ((reconciledRecordByRequestId_ends hhistory).mono (fun _ _ h => h)
    fun _ => .of_quiet).bind ?_
  rintro (_ | record) w' ⟨hquiet, hfresh⟩
  · refine Ran.ends_after hquiet (hnone w' hquiet (hquiet.replays hhistory) ?_)
    rw [hquiet.records]
    exact hfresh rfl
  · exact (hsome record w' hquiet).mono (fun _ _ => .of_quiet) fun _ => .of_quiet

theorem loadHistory_ran
    {rest : List (PreparedResidentCommit Archive) × PortableHistoryState → Durable Archive α}
    (hhistory : w.Replays tools history) (hfresh : requestId ∉ w.records.map (·.requestId))
    (hrest : ∀ w', w.Quiet w' → w'.Replays tools history →
      requestId ∉ w'.records.map (·.requestId) → EndsIn (rest (w'.records, history)) w'
        (Ran tools storage supply requestId history op w')) :
    EndsIn (loadHistory tools storage >>= rest) w
      (Ran tools storage supply requestId history op w) := by
  refine ((loadHistory_ends hhistory).mono (fun _ _ h => h) fun _ => .of_quiet).bind ?_
  rintro _ w' ⟨rfl, hquiet⟩
  rw [← hquiet.records] at hfresh ⊢
  exact Ran.ends_after hquiet (hrest w' hquiet (hquiet.replays hhistory) hfresh)

theorem answer_quiet {p : Prop} [Decidable p] {message : String} {answer : α}
    (h : w.Quiet w') :
    EndsIn (Exec.guard p message >>= fun _ => pure answer : Durable Archive α) w' w.Quiet :=
  ends_guard_bind (fun _ => ends_pure h) fun _ => h

theorem ensureUsable_ran {rest : Unit → Durable Archive α}
    (hrest : w.session.poisoned = none → EndsIn (rest ()) w
      (Ran tools storage supply requestId history op w)) :
    EndsIn (onSession ensureUsable >>= rest) w
      (Ran tools storage supply requestId history op w) := by
  refine (ensureUsable_ends.mono (fun _ _ h => h) fun _ => .of_quiet).bind ?_
  rintro _ _ ⟨rfl, husable⟩
  exact hrest husable

theorem checkpointDurable_ran (hhistory : w.Replays tools history) (label : Option String) :
    EndsIn (checkpointDurable tools storage supply requestId label) w
      (Ran tools storage supply requestId history (.checkpoint label) w) := by
  refine ensureUsable_ran fun _ => reconciledRecordByRequestId_ran hhistory (fun _ _ => answer_quiet)
    fun w' _ hhistory hfresh => ?_
  refine loadHistory_ran hhistory hfresh fun w'' _ hhistory hfresh => ?_
  exact commitPortableControlTransition_ran hhistory hfresh (.checkpoint label)

theorem deleteCheckpointDurable_ran (hhistory : w.Replays tools history) (id : String) :
    EndsIn (deleteCheckpointDurable tools storage supply requestId id) w
      (Ran tools storage supply requestId history (.deleteCheckpoint id) w) := by
  refine ensureUsable_ran fun _ => reconciledRecordByRequestId_ran hhistory (fun _ _ => answer_quiet)
    fun w' _ hhistory hfresh => ?_
  refine loadHistory_ran hhistory hfresh fun w'' _ hhistory hfresh => ?_
  refine ends_guard_bind (fun hknown => ?_) fun _ => .of_quiet (.refl _)
  exact commitPortableControlTransition_ran hhistory hfresh (.checkpointDelete id hknown)

theorem materialize_ran {rest : Archive → Durable Archive α} {target : Option String}
    (hrest : ∀ bytes, Materializes tools supply w.session w.records target bytes →
      EndsIn (rest bytes) w (Ran tools storage supply requestId history op w)) :
    EndsIn (materialize tools supply w.records target >>= rest) w
      (Ran tools storage supply requestId history op w) := by
  have hbytes : Ends (materialize tools supply w.records target) w
      (fun bytes w' => Materializes tools supply w.session w.records target bytes ∧ w' = w)
      (Ran tools storage supply requestId history op w) :=
    ends_get_bind (ends_lift (fun _ h => ⟨h, rfl⟩) fun _ _ => .of_quiet (.refl w))
  refine hbytes.bind ?_
  rintro bytes _ ⟨hmaterializes, rfl⟩
  exact hrest bytes hmaterializes

theorem restoreCheckpointDurable_ran (hhistory : w.Replays tools history) (id : String) :
    EndsIn (restoreCheckpointDurable tools storage supply requestId id) w
      (Ran tools storage supply requestId history (.restoreCheckpoint id) w) := by
  refine ensureUsable_ran fun _ => reconciledRecordByRequestId_ran hhistory (fun _ _ => answer_quiet)
    fun w' _ hhistory hfresh => ?_
  refine loadHistory_ran hhistory hfresh fun w'' _ hhistory hfresh => ?_
  refine ends_lift_bind (fun checkpoint hknown => ?_) fun _ _ => .of_quiet (.refl _)
  refine materialize_ran fun bytes hbytes => ?_
  exact commitPortableControlTransition_ran hhistory hfresh
    (.checkpointRestore id checkpoint bytes (required_eq_ok.mp hknown) hbytes)

theorem createBranchAtDurable_ran (hhistory : w.Replays tools history) (name : String)
    (target label : Option String) :
    EndsIn (createBranchAtDurable tools storage supply requestId name target label) w
      (Ran tools storage supply requestId history (.createBranch name target label) w) := by
  refine ensureUsable_ran fun _ => ?_
  refine ends_guard_bind (fun hsizes => ?_) fun _ => .of_quiet (.refl _)
  refine ends_guard_bind (fun hvalid => ?_) fun _ => .of_quiet (.refl _)
  refine reconciledRecordByRequestId_ran hhistory (fun _ _ => answer_quiet)
    fun w' _ hhistory hfresh => ?_
  refine loadHistory_ran hhistory hfresh fun w'' _ hhistory hfresh => ?_
  refine ends_guard_bind (fun habsent => ?_) fun _ => .of_quiet (.refl _)
  refine ends_lift_bind (fun tip hknown => ?_) fun _ _ => .of_quiet (.refl _)
  exact commitPortableControlTransition_ran hhistory hfresh
    (.branchCreate name target label tip hsizes.1 hvalid habsent hknown)

theorem validateBase_ran {sameBase : Bool} {rest : Unit → Durable Archive α}
    (hrest : EndsIn (rest ()) w (Ran tools storage supply requestId history op w)) :
    EndsIn (onSession (validateBase sameBase) >>= rest) w
      (Ran tools storage supply requestId history op w) := by
  have hvalid : Ends (onSession (validateBase sameBase)) w (fun _ w' => w' = w)
      (fun w' => w' = w) := by
    unfold Ends onSession validateBase ensureUsable Exec.guard
    cases hpoisoned : w.session.poisoned <;> cases sameBase <;>
      simp [Exec.get, bind, Exec.bind, hpoisoned, pure, Exec.pure, Exec.fail]
  refine (hvalid.mono (fun _ _ h => h) ?_).bind ?_
  · rintro _ rfl
    exact .of_quiet (.refl _)
  · rintro _ _ rfl
    exact hrest

theorem switchBranchDurable_ran (hhistory : w.Replays tools history) (name : String)
    (sameBase : Bool) :
    EndsIn (switchBranchDurable tools storage supply requestId name sameBase) w
      (Ran tools storage supply requestId history (.switchBranch name sameBase) w) := by
  refine validateBase_ran (reconciledRecordByRequestId_ran hhistory (fun _ _ => answer_quiet)
    fun w' _ hhistory hfresh => ?_)
  refine loadHistory_ran hhistory hfresh fun w'' _ hhistory hfresh => ?_
  refine ends_lift_bind (fun target hknown => ?_) fun _ _ => .of_quiet (.refl _)
  have hknown := required_eq_ok.mp hknown
  by_cases hhere : target = history.head
  · subst hhere
    rw [if_neg (not_not_intro rfl)]
    exact commitPortableControlTransition_ran hhistory hfresh (.switchHere name sameBase hknown)
  · rw [if_pos hhere]
    refine materialize_ran fun bytes hbytes => ?_
    exact commitPortableControlTransition_ran hhistory hfresh
      (.switchAway name sameBase target bytes hknown hhere hbytes)

theorem commitControlReceipt_ran {operation : ResidentTransition} {effects : List (Effect Archive)}
    (hhistory : w.Replays tools history) (hfresh : requestId ∉ w.records.map (·.requestId))
    (hplan : Plans tools supply w.session w.records history op (.stay history .receipt
      (effects ++ [{ receiptOperation := .value operation }]))) :
    EndsIn (commitControlReceipt tools storage supply requestId operation effects) w
      (Ran tools storage supply requestId history op w) := by
  refine ensureUsable_ran fun _ => loadHistory_ran hhistory hfresh fun w' hquiet hhistory hfresh => ?_
  rw [← hquiet.records] at hplan
  rw [← hquiet.session] at hplan
  exact commitPortableControlTransition_ran hhistory hfresh hplan

theorem moveHeadDurable_ran {sameBase : Bool} {transition : ResidentTransition}
    {target : Option String} (hhistory : w.Replays tools history)
    (hfresh : requestId ∉ w.records.map (·.requestId))
    (hplan : ∀ bytes, Materializes tools supply w.session w.records target bytes →
      Plans tools supply w.session w.records history op (.move history transition
        [{ targetHead := some (Value.ofOption target) }] target bytes)) :
    EndsIn (moveHeadDurable tools storage supply requestId transition target sameBase) w
      (Ran tools storage supply requestId history op w) := by
  refine validateBase_ran (loadHistory_ran hhistory hfresh fun w' hquiet hhistory hfresh => ?_)
  rw [← hquiet.records] at hplan
  rw [← hquiet.session] at hplan
  refine materialize_ran fun bytes hbytes => ?_
  exact commitPortableControlTransition_ran hhistory hfresh (hplan bytes hbytes)

theorem undoDurable_ran (hhistory : w.Replays tools history) (sameBase : Bool) :
    EndsIn (undoDurable tools storage supply requestId sameBase) w
      (Ran tools storage supply requestId history (.undo sameBase) w) := by
  refine validateBase_ran (reconciledRecordByRequestId_ran hhistory (fun _ _ => answer_quiet)
    fun w' _ hhistory hfresh => ?_)
  refine loadHistory_ran hhistory hfresh fun w'' _ hhistory hfresh => ?_
  dsimp only
  split
  · rename_i hhead
    exact commitControlReceipt_ran hhistory hfresh (.undoNothing sameBase hhead)
  · rename_i head hhead
    refine ends_lift_bind (fun target hparent => ?_) fun _ _ => .of_quiet (.refl _)
    exact moveHeadDurable_ran hhistory hfresh
      fun bytes => .undo sameBase head target bytes hhead hparent

theorem redoDurable_ran (hhistory : w.Replays tools history) (sameBase : Bool) :
    EndsIn (redoDurable tools storage supply requestId sameBase) w
      (Ran tools storage supply requestId history (.redo sameBase) w) := by
  refine validateBase_ran (reconciledRecordByRequestId_ran hhistory (fun _ _ => answer_quiet)
    fun w' _ hhistory hfresh => ?_)
  refine loadHistory_ran hhistory hfresh fun w'' _ hhistory hfresh => ?_
  refine ends_lift_bind (fun target hnext => ?_) fun _ _ => .of_quiet (.refl _)
  cases target with
  | none => exact commitControlReceipt_ran hhistory hfresh (.redoNothing sameBase hnext)
  | some target =>
    exact moveHeadDurable_ran hhistory hfresh fun bytes => .redo sameBase target bytes hnext

theorem checkoutDurable_ran (hhistory : w.Replays tools history) (target : String)
    (sameBase : Bool) :
    EndsIn (checkoutDurable tools storage supply requestId target sameBase) w
      (Ran tools storage supply requestId history (.checkout target sameBase) w) := by
  refine validateBase_ran (reconciledRecordByRequestId_ran hhistory (fun _ _ => answer_quiet)
    fun w' _ hhistory hfresh => ?_)
  exact moveHeadDurable_ran hhistory hfresh fun bytes => .checkout target sameBase bytes

theorem revokeCalculationDurable_ran (hhistory : w.Replays tools history) :
    EndsIn (revokeCalculationDurable tools storage supply requestId) w
      (Ran tools storage supply requestId history .revokeCalculation w) := by
  refine ensureUsable_ran fun _ => reconciledRecordByRequestId_ran hhistory (fun _ _ => answer_quiet)
    fun w' _ hhistory hfresh => ?_
  refine ends_get_bind ?_
  dsimp only
  split
  · rename_i hdirty
    exact commitControlReceipt_ran hhistory hfresh (.revokeNothing hdirty)
  · rename_i hstanding
    refine loadHistory_ran hhistory hfresh fun w'' hquiet hhistory hfresh => ?_
    rw [← hquiet.session] at hstanding
    exact commitPortableControlTransition_ran hhistory hfresh
      (.revoke (Bool.eq_false_iff.mpr hstanding))

theorem commitReceiptAt_ran {receipt : LifecycleReceipt} (hhistory : w.Replays tools history)
    (hfresh : requestId ∉ w.records.map (·.requestId))
    (hkept : ∀ request, receipt = .discard request → history.discarded = false) :
    EndsIn (commitReceiptAt tools storage supply requestId history receipt) w
      (Ran tools storage supply requestId history (.receipt receipt) w) :=
  commitPortableControlTransition_ran hhistory hfresh (.receipt receipt hkept)

theorem commitCreationReceipt_ran (hhistory : w.Replays tools history)
    (hfresh : requestId ∉ w.records.map (·.requestId)) (request : CreateForkRequest) :
    EndsIn (commitCreationReceipt tools storage supply requestId request) w
      (Ran tools storage supply requestId history (.receipt (.creation request)) w) := by
  refine loadHistory_ran hhistory hfresh fun w' _ hhistory hfresh => ?_
  refine ends_guard_bind (fun _ => ?_) fun _ => .of_quiet (.refl _)
  exact commitReceiptAt_ran hhistory hfresh (by simp)

theorem commitDiscardReceipt_ran (hhistory : w.Replays tools history)
    (hfresh : requestId ∉ w.records.map (·.requestId)) (request : DiscardForkRequest) :
    EndsIn (commitDiscardReceipt tools storage supply requestId request) w
      (Ran tools storage supply requestId history (.receipt (.discard request)) w) := by
  refine ensureUsable_ran fun _ => loadHistory_ran hhistory hfresh fun w' _ hhistory hfresh => ?_
  refine ends_guard_bind (fun hkept => ?_) fun _ => .of_quiet (.refl _)
  exact commitReceiptAt_ran hhistory hfresh fun _ _ => hkept

theorem commitExportReceipt_ran (hhistory : w.Replays tools history)
    (hfresh : requestId ∉ w.records.map (·.requestId)) (request : ExportForkRequest)
    (artifact : ArtifactMetadata) :
    EndsIn (commitExportReceipt tools storage supply requestId request artifact) w
      (Ran tools storage supply requestId history
        (.receipt (.resourceExport request artifact)) w) := by
  refine loadHistory_ran hhistory hfresh fun w' _ hhistory hfresh => ?_
  exact commitReceiptAt_ran hhistory hfresh (by simp)

theorem commitFileExportReceipt_ran {receipt : LifecycleReceipt}
    (hhistory : w.Replays tools history) (hfresh : requestId ∉ w.records.map (·.requestId))
    (hkept : ∀ request, receipt = .discard request → history.discarded = false) :
    EndsIn (commitFileExportReceipt tools storage supply requestId receipt) w
      (Ran tools storage supply requestId history (.receipt receipt) w) := by
  refine loadHistory_ran hhistory hfresh fun w' _ hhistory hfresh => ?_
  exact commitReceiptAt_ran hhistory hfresh hkept

end Control

end AgentSpreadsheet
