import AgentSpreadsheet.Legacy.Import
import AgentSpreadsheet.Progression
import Mathlib.Tactic.IntervalCases

/-! Every record the importer appends is accepted by replay, and moves the
replayed state the way the importer's own variables move. -/
namespace AgentSpreadsheet.Legacy
open Library

section Identity

/-- The value of hexadecimal digits as `Nat.toDigits` writes them. -/
def hexValue (digits : List Char) : Nat :=
  digits.foldl (fun value c => 16 * value + (if c.isDigit then c.toNat - 48 else c.toNat - 87)) 0

theorem hexValue_concat (digits : List Char) (c : Char) :
    hexValue (digits ++ [c]) =
      16 * hexValue digits + (if c.isDigit then c.toNat - 48 else c.toNat - 87) := by
  unfold hexValue
  rw [List.foldl_append]
  rfl

theorem hexValue_digitChar {n : Nat} (h : n < 16) :
    (if n.digitChar.isDigit then n.digitChar.toNat - 48 else n.digitChar.toNat - 87) = n := by
  interval_cases n <;> decide

theorem hexValue_toDigits (n : Nat) : hexValue (Nat.toDigits 16 n) = n := by
  induction n using Nat.strongRecOn with
  | ind n ih =>
    rw [Nat.toDigits_eq_if (by decide)]
    split
    · rename_i hlt
      have hvalue := hexValue_digitChar hlt
      simpa [hexValue] using hvalue
    · rw [hexValue_concat, ih _ (by omega), hexValue_digitChar (Nat.mod_lt _ (by decide))]
      omega

theorem hexValue_leftpad (n : Nat) (digits : List Char) :
    hexValue (digits.leftpad n '0') = hexValue digits := by
  unfold List.leftpad
  generalize n - digits.length = k
  unfold hexValue
  rw [List.foldl_append]
  congr 1
  induction k with
  | zero => rfl
  | succ k ih =>
    rw [List.replicate_succ, List.foldl_cons]
    exact ih

theorem controlId_injective {a b : Nat} (h : controlId a = controlId b) : a = b := by
  unfold controlId at h
  have hdigits := congrArg String.toList h
  rw [String.toList_append, String.toList_append, List.append_cancel_left_eq] at hdigits
  simp only [String.toList_ofList] at hdigits
  have hvalue := congrArg hexValue hdigits
  rwa [hexValue_leftpad, hexValue_leftpad, hexValue_toDigits, hexValue_toDigits] at hvalue

theorem controlId_ne_empty (n : Nat) : controlId n ≠ "" := by
  intro h
  have hlist := congrArg String.toList h
  unfold controlId at hlist
  rw [String.toList_append] at hlist
  exact absurd hlist (by simp)

/-- A control's request is not an event's. -/
theorem legacyControl_ne_legacyEvent (a b : String) :
    "legacy_control_" ++ a ≠ "legacy_event_" ++ b := by
  intro h
  have hlist := congrArg String.toList h
  rw [String.toList_append, String.toList_append] at hlist
  have hchar := congrArg (fun l => l[7]?) hlist
  rw [List.getElem?_append_left (by decide), List.getElem?_append_left (by decide)] at hchar
  exact absurd hchar (by decide)

theorem append_left_injective (p a b : String) (h : p ++ a = p ++ b) : a = b := by
  have hlist := congrArg String.toList h
  rw [String.toList_append, String.toList_append, List.append_cancel_left_eq] at hlist
  exact String.toList_inj.mp hlist

end Identity

section Revisions
variable {epoch : String}

/-- An epoch that a revision text can be split at. -/
def PlainEpoch (epoch : String) : Prop := epoch ≠ "" ∧ ':' ∉ epoch.toList

theorem parseRevision_revisionText (h : PlainEpoch epoch) {document generation : Nat}
    (hdocument : document < 2 ^ 64) (hgeneration : generation < 2 ^ 64) :
    parseRevision (revisionText epoch document generation) =
      .ok ⟨epoch, UInt64.ofNat document, UInt64.ofNat generation⟩ := by
  have htext : revisionText epoch document generation =
      ResidentRevision.stateRevisionId ⟨epoch, .ofNat document, .ofNat generation⟩ := by
    unfold revisionText ResidentRevision.stateRevisionId
    dsimp only
    rw [UInt64.toNat_ofNat_of_lt' hdocument, UInt64.toNat_ofNat_of_lt' hgeneration]
  rw [htext]
  exact parseRevision_stateRevisionId _ h.1 h.2

theorem revisionText_injective (h : PlainEpoch epoch) {d d' n n' : Nat} (hd : d < 2 ^ 64)
    (hd' : d' < 2 ^ 64) (hn : n < 2 ^ 64) (hn' : n' < 2 ^ 64)
    (htext : revisionText epoch d n = revisionText epoch d' n') : n = n' := by
  have hparse := parseRevision_revisionText h hd hn
  rw [htext, parseRevision_revisionText h hd' hn'] at hparse
  have hstate := congrArg UInt64.toNat (congrArg ResidentRevision.state (Except.ok.inj hparse))
  dsimp only at hstate
  rw [UInt64.toNat_ofNat_of_lt' hn, UInt64.toNat_ofNat_of_lt' hn'] at hstate
  exact hstate.symm

end Revisions

section Step
variable (store : Tools Archive) (tools : AgentSpreadsheet.Tools Archive)

/-- What a record of the importer is called, and which counter it has. -/
structure NamedRecord (generation : Nat) (parents : HistoryParents)
    (record : PreparedResidentCommit Archive) : Prop where
  identity : (∃ n ≤ generation, record.commitId = controlId n ∧
      record.requestId = "legacy_control_" ++ controlId n) ∨
    (record.commitId ∈ parents ∧ record.requestId = "legacy_event_" ++ record.commitId)
  counter : ∃ document n, document ≤ n ∧ n ≤ generation ∧
    record.stateRevision = revisionText (importEpoch store tools) document n
  owner : record.sessionId = store.sessionId ∧ record.baseSha256 = importBase store tools

/-- The replayed state is the one the importer's variables describe. -/
structure Import.Replays (i : Import Archive) (r : Replay) : Prop where
  replay : replayFrom tools.digest store.sessionId (importBase store tools) i.records = .ok r
  head : r.state.head = i.activeHead
  branch : r.state.currentBranch = i.activeBranch
  branches : r.state.branches = i.importedBranches
  lastHead : i.records.getLast?.bind (·.resultingHead) = r.state.head
  revision : r.state.stateRevision = if i.stateGeneration = 0 then none
    else some (revisionText (importEpoch store tools) i.documentRevision i.stateGeneration)
  counters : i.documentRevision ≤ i.stateGeneration
  plain : r.state.discarded = false ∧ r.state.fileExportPlans = ∅ ∧ r.state.catalogGeneration = 0
  owner : r.state.sessionId = store.sessionId ∧ r.state.baseSha256 = importBase store tools
  named : ∀ record ∈ i.records,
    NamedRecord store tools i.stateGeneration r.state.historyParents record

/-- A replayed state moved to the importer's head, branch and table. -/
def Import.place (j : Import Archive) (state : PortableHistoryState) : PortableHistoryState :=
  { state with
    head := j.activeHead, currentBranch := j.activeBranch, branches := j.importedBranches }

/-- The importer's variables after a record that replay has accepted. -/
structure Import.Follows (i i' : Import Archive) (record : PreparedResidentCommit Archive)
    (state : PortableHistoryState) : Prop where
  records : i'.records = i.records ++ [record]
  generation : i'.stateGeneration = i.stateGeneration + 1
  counters : i'.documentRevision ≤ i'.stateGeneration
  revision : record.stateRevision =
    revisionText (importEpoch store tools) i'.documentRevision i'.stateGeneration
  head : record.resultingHead = i'.activeHead ∧ state.head = i'.activeHead
  branch : record.resultingBranch = i'.activeBranch ∧ state.currentBranch = i'.activeBranch
  branches : record.resultingBranches = i'.importedBranches ∧ state.branches = i'.importedBranches

theorem Import.Replays.start : (Import.start : Import Archive).Replays store tools
    (Replay.start store.sessionId (importBase store tools)) where
  replay := rfl
  head := rfl
  branch := rfl
  branches := rfl
  lastHead := rfl
  revision := rfl
  counters := le_rfl
  plain := ⟨rfl, rfl, rfl⟩
  owner := ⟨rfl, rfl⟩
  named := by simp [Import.start]

variable {store tools} {i : Import Archive} {r : Replay}

theorem Import.Replays.fresh (h : i.Replays store tools r) (commitId requestId : String)
    (hnew : (commitId = controlId (i.stateGeneration + 1) ∧
        (∀ n, controlId n ∉ r.state.historyParents) ∧
        requestId = "legacy_control_" ++ commitId) ∨
      ((∀ n, commitId ≠ controlId n) ∧ commitId ∉ r.state.historyParents ∧
        requestId = "legacy_event_" ++ commitId)) :
    commitId ∉ r.commitIds ∧ requestId ∉ r.requestIds := by
  have hindexes := replayFrom_indexes h.replay
  rw [hindexes.commitIds, hindexes.requestIds]
  simp only [List.mem_toFinset, List.mem_map, not_exists, not_and]
  refine ⟨fun record hrecord heq => ?_, fun record hrecord heq => ?_⟩
  all_goals
    rcases hnew with ⟨rfl, hfree, rfl⟩ | ⟨hplain, hfree, rfl⟩
  · rcases (h.named record hrecord).identity with ⟨n, hn, hid, _⟩ | ⟨hmem, _⟩
    · have hsame := controlId_injective (hid.symm.trans heq)
      omega
    · exact hfree _ (heq ▸ hmem)
  · rcases (h.named record hrecord).identity with ⟨n, hn, hid, _⟩ | ⟨hmem, _⟩
    · exact hplain n (heq.symm.trans hid)
    · exact hfree (heq ▸ hmem)
  · rcases (h.named record hrecord).identity with ⟨n, hn, _, hid⟩ | ⟨_, hid⟩
    · have hsame := controlId_injective (append_left_injective _ _ _ (hid.symm.trans heq))
      omega
    · exact legacyControl_ne_legacyEvent _ _ (heq.symm.trans hid)
  · rcases (h.named record hrecord).identity with ⟨n, hn, _, hid⟩ | ⟨hmem, hid⟩
    · exact legacyControl_ne_legacyEvent _ _ (hid.symm.trans heq)
    · have hsame := append_left_injective _ _ _ (hid.symm.trans heq)
      exact hfree (hsame ▸ hmem)

theorem Import.Replays.progression (h : i.Replays store tools r)
    (hepoch : PlainEpoch (importEpoch store tools)) (hbound : i.stateGeneration + 1 < 2 ^ 64)
    {record : PreparedResidentCommit Archive} (document : Nat)
    (hrevision : record.stateRevision =
      revisionText (importEpoch store tools) document (i.stateGeneration + 1))
    (hdocument : document =
      i.documentRevision + (if documentChange record r.state.head then 1 else 0))
    (hcatalog : catalogOnly record = false)
    (hfirst : previousRevision record none = none ∨ previousRevision record none =
      some (revisionText (importEpoch store tools) i.documentRevision i.stateGeneration)) :
    checkProgression record r.state.stateRevision r.state.head = .ok () := by
  have hle := h.counters
  have hdocumentLt : document < 2 ^ 64 := by
    split at hdocument <;> omega
  have hprevious : previousRevision record r.state.stateRevision = none ∨
      previousRevision record r.state.stateRevision =
        some (revisionText (importEpoch store tools) i.documentRevision i.stateGeneration) := by
    rw [h.revision]
    split
    · exact hfirst
    · exact .inr rfl
  unfold checkProgression
  rw [hrevision, parseRevision_revisionText hepoch hdocumentLt hbound]
  rcases hprevious with hprevious | hprevious
  · rw [hprevious]
    rfl
  · rw [hprevious]
    simp only [bind_eq_ok, ensure_eq_ok, Except.ok.injEq, exists_eq_left']
    refine ⟨_, parseRevision_revisionText hepoch (by omega) (by omega), rfl, ?_, ?_⟩
    · rw [hdocument]
      split
      · exact UInt64.ofNat_add _ _
      · simp
    · rw [hcatalog]
      exact UInt64.ofNat_add _ _

theorem Import.Replays.accept (h : i.Replays store tools r) (i' : Import Archive)
    (record : PreparedResidentCommit Archive) (state : PortableHistoryState)
    (hepoch : PlainEpoch (importEpoch store tools)) (hbound : i.stateGeneration + 1 < 2 ^ 64)
    (hfollows : i.Follows store tools i' record state)
    (hadmitted : r.admitRecord record = .ok ())
    (hidentity : (∃ n ≤ i'.stateGeneration, record.commitId = controlId n ∧
        record.requestId = "legacy_control_" ++ controlId n) ∨
      (record.commitId ∈ state.historyParents ∧
        record.requestId = "legacy_event_" ++ record.commitId))
    (hprepared : validatePortablePreparedRecord tools.digest record r.state.stateRevision = .ok ())
    (hcontrol : checkControl tools.digest record r.state = .ok ())
    (happlied : applyTransition tools.digest record r.state (insert record.requestId r.requestIds) =
      .ok state)
    (hprogress : checkProgression record r.state.stateRevision r.state.head = .ok ())
    (hcatalog : record.catalogGeneration = 0)
    (houtcome : record.effects.filter (fun e => e.canonicalOutcome.isPresent) = [])
    (hplain : state.discarded = false ∧ state.fileExportPlans = ∅ ∧ state.catalogGeneration = 0)
    (howner : state.sessionId = store.sessionId ∧ state.baseSha256 = importBase store tools)
    (hgrow : ∀ c ∈ r.state.historyParents, c ∈ state.historyParents) :
    ∃ r', i'.Replays store tools r' ∧ r'.state.historyParents = state.historyParents := by
  have hresult : checkResult record state = .ok () := by
    unfold checkResult
    rw [ensure_eq_ok, hfollows.head.1, hfollows.head.2, hfollows.branch.1, hfollows.branch.2,
      hfollows.branches.1, hfollows.branches.2, hcatalog, hplain.2.2]
    exact ⟨rfl, rfl, rfl, rfl⟩
  have hfresh : (record.stateRevision, record.catalogGeneration) ∉ r.visibleStates := by
    intro hmem
    obtain ⟨earlier, hearlier, hrevision, _⟩ := (replayFrom_tracks h.replay).visible _ _ hmem
    obtain ⟨document, n, hdocument, hn, htext⟩ := (h.named earlier hearlier).counter
    rw [htext, hfollows.revision] at hrevision
    have hcounters := hfollows.counters
    rw [hfollows.generation] at hrevision hcounters
    have hsame := revisionText_injective hepoch (by omega) (by omega) (by omega) (by omega) hrevision
    omega
  have hvalid : CanonicalOutcome.validate tools.digest record (settle record r.state state) =
      .ok () := by
    unfold CanonicalOutcome.validate
    rw [houtcome]
  have haccepted : Accepted tools.digest record r state :=
    ⟨hadmitted, hprepared, hcontrol, happlied, hresult, hprogress, fun _ => hfresh, hvalid⟩
  have hstep := (Replay.step_eq_ok tools.digest record).mpr ⟨state, haccepted, rfl⟩
  have hrecordOwner := (admitRecord_eq_ok.mp hadmitted).2.2.1
  refine ⟨r.extend record (settle record r.state state), ?_, rfl⟩
  constructor
  · unfold replayFrom
    rw [hfollows.records, foldlM_concat_eq_ok]
    exact ⟨r, h.replay, hstep⟩
  · exact hfollows.head.2
  · exact hfollows.branch.2
  · exact hfollows.branches.2
  · rw [hfollows.records, List.getLast?_concat]
    exact hfollows.head.1.trans hfollows.head.2.symm
  · rw [hfollows.generation, if_neg (by omega), ← hfollows.generation, ← hfollows.revision]
    rfl
  · exact hfollows.counters
  · exact hplain
  · exact howner
  · intro x hx
    rw [hfollows.records] at hx
    rcases List.mem_append.mp hx with hx | hx
    · obtain ⟨hname, ⟨document, n, hd, hn, htext⟩, hx⟩ := h.named x hx
      refine ⟨?_, ⟨document, n, hd, ?_, htext⟩, hx⟩
      · rcases hname with ⟨n, hn, hname⟩ | ⟨hmem, hname⟩
        · exact .inl ⟨n, by have := hfollows.generation; omega, hname⟩
        · exact .inr ⟨hgrow _ hmem, hname⟩
      · have := hfollows.generation
        omega
    · obtain rfl := List.mem_singleton.mp hx
      refine ⟨hidentity, ⟨_, _, hfollows.counters, le_rfl, hfollows.revision⟩, ?_⟩
      rw [hrecordOwner.1, hrecordOwner.2]
      exact h.owner

/-- A synthetic control is accepted when its transition applies. `j` is `i` with
the head, the branch and the table the control results in. -/
theorem Import.Replays.control {j : Import Archive} {transition : ResidentTransition}
    {effect : Effect Archive} (h : i.Replays store tools r)
    (hepoch : PlainEpoch (importEpoch store tools)) (hbound : i.stateGeneration + 1 < 2 ^ 64)
    (hfree : ∀ n, controlId n ∉ r.state.historyParents)
    (hj : j.records = i.records ∧ j.documentRevision = i.documentRevision ∧
      j.stateGeneration = i.stateGeneration)
    (hkind : transition = .undo ∨ transition = .checkout ∨ transition = .branchCreate ∨
      transition = .branchSwitch)
    (heffect : effect.preparedTransaction = .absent ∧ effect.canonicalOutcome = .absent ∧
      effect.fileExportPlan = .absent ∧ effect.fileExportResult = .absent)
    (htarget : transition = .undo ∨ transition = .checkout →
      effect.targetHead = some (.ofOption j.activeHead))
    (happlied : ∀ document requestIds, applyTransition tools.digest
      (controlRecord store tools j transition effect document) r.state requestIds =
        .ok (j.place r.state)) :
    ∃ r', (j.appendControl store tools transition effect).Replays store tools r' ∧
      r'.state.historyParents = r.state.historyParents := by
  obtain ⟨hrecords, hdocument, hgeneration⟩ := hj
  have hlast : j.records.getLast?.bind (·.resultingHead) = r.state.head := by
    rw [hrecords]
    exact h.lastHead
  have hmoves : ∀ document, documentChange (controlRecord store tools j transition effect document)
      r.state.head = movesDocument j.records transition j.activeHead := by
    intro document
    unfold documentChange movesDocument PreparedResidentCommit.publishesDocument
    rw [hlast]
    simp only [controlRecord, findMember, heffect.1, Bool.false_or]
    by_cases hsame : r.state.head = j.activeHead <;>
      rcases hkind with rfl | rfl | rfl | rfl <;> simp [hsame]
  have hcounters : (if movesDocument j.records transition j.activeHead then j.documentRevision + 1
      else j.documentRevision) ≤ j.stateGeneration + 1 := by
    have := h.counters
    split <;> omega
  obtain ⟨hcommit, hrequest⟩ := h.fresh (controlId (j.stateGeneration + 1))
    ("legacy_control_" ++ controlId (j.stateGeneration + 1))
    (.inl ⟨by rw [hgeneration], hfree, rfl⟩)
  generalize hcounter : (if movesDocument j.records transition j.activeHead then
    j.documentRevision + 1 else j.documentRevision) = document at hcounters
  have happend : j.appendControl store tools transition effect = { j with
      records := j.records ++ [controlRecord store tools j transition effect document]
      documentRevision := document
      stateGeneration := j.stateGeneration + 1 } := by
    rw [← hcounter]
    rfl
  rw [happend]
  refine h.accept _ (controlRecord store tools j transition effect document) (j.place r.state)
    hepoch hbound ?_ ?_ (.inl ⟨_, le_rfl, rfl, rfl⟩) ?_ ?_ (happlied _ _) ?_ rfl ?_
    h.plain h.owner fun _ hc => hc
  · refine ⟨?_, ?_, hcounters, rfl, ⟨rfl, rfl⟩, ⟨rfl, rfl⟩, ⟨rfl, rfl⟩⟩
    · rw [← hrecords]
    · rw [← hgeneration]
  · refine admitRecord_eq_ok.mpr ⟨h.plain.1, rfl, ⟨h.owner.1.symm, h.owner.2.symm⟩,
      ⟨controlId_ne_empty _, hcommit⟩, ⟨?_, hrequest⟩, ?_⟩
    · exact fun hempty => absurd (congrArg String.toList hempty) (by simp [controlRecord])
    · rw [(replayFrom_indexes h.replay).streamTip, ← hrecords]
      rfl
  · have hread : (controlRecord store tools j transition effect document).preparedTransaction =
        .ok none := by
      simp [PreparedResidentCommit.preparedTransaction, controlRecord, findMember, heffect.1,
        Member.decode]
    unfold validatePortablePreparedRecord
    rw [hread]
    rcases hkind with rfl | rfl | rfl | rfl <;> rfl
  · have hplans : ∀ id, id ∉ r.state.fileExportPlans := by
      rw [h.plain.2.1]
      exact fun id => Finmap.notMem_empty
    unfold checkControl
    rcases hkind with rfl | rfl | rfl | rfl <;>
      simp [controlRecord, findValue, heffect, Member.isPresent, hplans, htarget]
  · refine h.progression hepoch hbound document ?_ ?_ ?_ ?_
    · rw [← hgeneration]
      rfl
    · rw [hmoves, ← hdocument, ← hcounter]
      split <;> rfl
    · rcases hkind with rfl | rfl | rfl | rfl <;> rfl
    · left
      simp [previousRevision, controlRecord, findMember, heffect.1]
  · simp [controlRecord, heffect.2.1, Member.isPresent]

section Controls
variable (h : i.Replays store tools r) (hepoch : PlainEpoch (importEpoch store tools))
  (hbound : i.stateGeneration + 1 < 2 ^ 64) (hfree : ∀ n, controlId n ∉ r.state.historyParents)
include h hepoch hbound hfree

theorem Import.Replays.checkout {target : Option String}
    (htarget : ∀ c, target = some c → c ∈ r.state.historyParents) :
    ∃ r', (i.checkout store tools target).Replays store tools r' ∧
      r'.state.historyParents = r.state.historyParents := by
  refine h.control hepoch hbound hfree ⟨rfl, rfl, rfl⟩ (.inr (.inl rfl)) ⟨rfl, rfl, rfl, rfl⟩
    (fun _ => rfl) fun document requestIds => ?_
  simp only [applyTransition, controlRecord, applyCheckout, checkHistoryTarget, bind_eq_ok,
    pure_eq_ok]
  refine ⟨(), ensure_pos htarget _, ?_⟩
  unfold Import.place
  rw [← h.branch, ← h.branches]

theorem Import.Replays.undo (hundo : r.state.undoTarget = target) :
    ∃ r', ({ i with activeHead := target }.appendControl store tools .undo
        { targetHead := some (.ofOption target) }).Replays store tools r' ∧
      r'.state.historyParents = r.state.historyParents := by
  refine h.control hepoch hbound hfree ⟨rfl, rfl, rfl⟩ (.inl rfl) ⟨rfl, rfl, rfl, rfl⟩
    (fun _ => rfl) fun document requestIds => ?_
  simp only [applyTransition, controlRecord, applyUndo, bind_eq_ok, pure_eq_ok]
  refine ⟨(), ensure_pos hundo.symm _, ?_⟩
  unfold Import.place
  rw [← h.branch, ← h.branches, hundo]

theorem Import.Replays.createBranch (name : String) (hname : name ∉ i.importedBranches) :
    ∃ r', (i.createBranch store tools name i.activeHead).Replays store tools r' ∧
      r'.state.historyParents = r.state.historyParents := by
  refine h.control hepoch hbound hfree ⟨rfl, rfl, rfl⟩ (.inr (.inr (.inl rfl)))
    ⟨rfl, rfl, rfl, rfl⟩ (by simp) fun document requestIds => ?_
  rw [← h.branches] at hname
  simp only [applyTransition, controlRecord, applyBranchCreate, findValue, List.findSome?_cons,
    List.findSome?_nil, Option.bind_some, Value.asStr, required, branchTarget,
    branchTargetMatches, branchLabels, bind_eq_ok, ensure_eq_ok, pure_eq_ok, Except.ok.injEq,
    exists_eq_left']
  refine ⟨(), hname, (), trivial, ?_⟩
  unfold Import.place
  rw [← h.branch, ← h.branches, ← h.head]

theorem Import.Replays.switchBranch {name : String} (message : String) {head : Option String}
    (hname : i.importedBranches.lookup name = some head) :
    ∃ i' r', i.switchBranch store tools name message = .ok i' ∧ i'.Replays store tools r' ∧
      r'.state.historyParents = r.state.historyParents ∧
      i' = { i with activeBranch := name, activeHead := head }.appendControl store tools
        .branchSwitch { branchName := some (.text name) } := by
  have hcontrol : ∃ r', ({ i with activeBranch := name, activeHead := head }.appendControl store
      tools .branchSwitch { branchName := some (.text name) }).Replays store tools r' ∧
      r'.state.historyParents = r.state.historyParents := by
    refine h.control hepoch hbound hfree ⟨rfl, rfl, rfl⟩ (.inr (.inr (.inr rfl)))
      ⟨rfl, rfl, rfl, rfl⟩ (by simp) fun document requestIds => ?_
    simp only [applyTransition, controlRecord, applyBranchSwitch, findValue, List.findSome?_cons,
      Option.bind_some, Value.asStr, required, bind_eq_ok, pure_eq_ok, Except.ok.injEq,
      exists_eq_left', h.branches, hname]
    unfold Import.place
    rw [← h.branches]
  obtain ⟨r', hreplays, hparents⟩ := hcontrol
  refine ⟨_, r', ?_, hreplays, hparents, rfl⟩
  unfold Import.switchBranch
  rw [hname]
  rfl

end Controls

theorem Import.Replays.event (h : i.Replays store tools r)
    (hepoch : PlainEpoch (importEpoch store tools)) (hbound : i.stateGeneration + 1 < 2 ^ 64)
    {event : OpEvent} (hplain : ∀ n, event.opId ≠ controlId n) (hne : event.opId ≠ "")
    (hnew : event.opId ∉ r.state.historyParents) (hparent : event.parentId = i.activeHead)
    (before : String) (after : Archive) (fingerprint : String) :
    ∃ r', ((i.advance event).append (eventRecord store tools (i.advance event) event before after
        fingerprint)).Replays store tools r' ∧
      r'.state.historyParents = r.state.historyParents.insert event.opId event.parentId := by
  obtain ⟨hcommit, hrequest⟩ := h.fresh event.opId ("legacy_event_" ++ event.opId)
    (.inr ⟨hplain, hnew, rfl⟩)
  have hindexes := replayFrom_indexes h.replay
  have htip : (i.records.getLast?.map (·.commitId)).filter (· ≠ event.opId) =
      i.records.getLast?.map (·.commitId) := by
    rw [hindexes.commitIds, List.mem_toFinset] at hcommit
    cases hlast : i.records.getLast? with
    | none => rfl
    | some last =>
      have hmem : last.commitId ∈ i.records.map (·.commitId) :=
        List.mem_map_of_mem (List.mem_of_getLast? hlast)
      have hother : last.commitId ≠ event.opId := fun heq => hcommit (heq ▸ hmem)
      simp [hother]
  let record := eventRecord store tools (i.advance event) event before after fingerprint
  have hpublishes : record.publishesDocument = true := rfl
  let state : PortableHistoryState := { r.state with
    historyParents := r.state.historyParents.insert event.opId event.parentId
    head := some event.opId
    branches := r.state.branches.insert r.state.currentBranch (some event.opId) }
  refine h.accept _ record state hepoch hbound ?_ ?_ (.inr ⟨?_, rfl⟩) ?_ ?_ ?_ ?_ rfl rfl h.plain
    h.owner fun c hc => ?_
  · refine ⟨rfl, rfl, Nat.succ_le_succ h.counters, rfl, ⟨rfl, rfl⟩, ⟨rfl, h.branch⟩, ⟨rfl, ?_⟩⟩
    change r.state.branches.insert r.state.currentBranch _ = _
    rw [h.branch, h.branches]
    rfl
  · refine admitRecord_eq_ok.mpr ⟨h.plain.1, rfl, ⟨h.owner.1.symm, h.owner.2.symm⟩,
      ⟨hne, hcommit⟩, ⟨?_, hrequest⟩, ?_⟩
    · exact fun hempty => absurd (congrArg String.toList hempty) (by simp [record, eventRecord])
    · rw [hindexes.streamTip]
      exact htip
  · exact Finmap.mem_insert.mpr (.inl rfl)
  · have hmember : findMember Effect.preparedTransaction record.effects =
        .value (eventPrepared store tools event (i.advance event).documentRevision
          (i.advance event).stateGeneration before after) := rfl
    refine (validatePortablePreparedRecord_value hmember).mpr
      ⟨⟨rfl, rfl⟩, ?_, ensure_pos rfl _, ?_, .inl rfl⟩
    · rw [h.revision]
      split
      · rfl
      · simp [eventPrepared, Import.advance]
    · refine ⟨fun _ => .inl rfl, fun hfalse => ?_, ?_, ?_⟩
      · cases hfalse
      · simp [eventPrepared, record, eventRecord]
      · simp [eventPrepared, record, eventRecord]
  · have hplans : ∀ id, id ∉ r.state.fileExportPlans := by
      rw [h.plain.2.1]
      exact fun id => Finmap.notMem_empty
    unfold checkControl
    simp [record, eventRecord, Member.isPresent, hplans]
  · change applyMutation record r.state = .ok state
    unfold applyMutation applyPublication
    rw [hpublishes]
    simp only [bind_eq_ok, if_true, pure_eq_ok]
    refine ⟨(), ensure_pos rfl _, (), ensure_pos ?_ _, rfl⟩
    exact hparent.trans h.head.symm
  · exact h.progression hepoch hbound (i.documentRevision + 1) rfl rfl rfl (.inr rfl)
  · exact Finmap.mem_insert.mpr (.inr hc)

end Step

end AgentSpreadsheet.Legacy
