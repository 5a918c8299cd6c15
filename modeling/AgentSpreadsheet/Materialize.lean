import AgentSpreadsheet.Document

/-! Document ancestry on the records themselves, and what is read back from the
bytes of a head. -/
namespace AgentSpreadsheet
open Library Library.Exec

/-- Every document commit has its record, with the parent the history holds. -/
def HoldsRecords (records : List (PreparedResidentCommit Archive))
    (history : PortableHistoryState) : Prop :=
  ∀ commitId parent, history.historyParents.lookup commitId = some parent →
    ∃ record, recordOf records commitId = some record ∧
      (record.transition = .mutation ∨ record.transition = .stageApply) ∧
      record.publishesDocument = true ∧ record.historyParentCommitId = parent

section Records
variable {H : Digest Archive} {records : List (PreparedResidentCommit Archive)}
  {record : PreparedResidentCommit Archive} {commitId : String}

theorem recordOf_append_of_mem {found : PreparedResidentCommit Archive}
    (h : recordOf records commitId = some found) (more : List (PreparedResidentCommit Archive)) :
    recordOf (records ++ more) commitId = some found := by
  unfold recordOf at h ⊢
  rw [List.find?_append, h]
  rfl

theorem recordOf_concat_self (h : record.commitId ∉ records.map (·.commitId)) :
    recordOf (records ++ [record]) record.commitId = some record := by
  have hnone : records.find? (fun r => r.commitId == record.commitId) = none := by
    rw [List.find?_eq_none]
    intro r hr hid
    exact h (List.mem_map.mpr ⟨r, hr, beq_iff_eq.mp hid⟩)
  unfold recordOf
  rw [List.find?_append, hnone]
  simp

theorem recordOf_of_mem (hmem : commitId ∈ records.map (·.commitId)) :
    ∃ found, recordOf records commitId = some found := by
  obtain ⟨r, hr, hid⟩ := List.mem_map.mp hmem
  cases hfind : recordOf records commitId with
  | some found => exact ⟨found, rfl⟩
  | none => exact absurd (beq_iff_eq.mpr hid) (List.find?_eq_none.mp hfind r hr)

theorem recordOf_concat_of_mem (hmem : commitId ∈ records.map (·.commitId)) :
    recordOf (records ++ [record]) commitId = recordOf records commitId := by
  obtain ⟨found, hfound⟩ := recordOf_of_mem hmem
  rw [hfound]
  exact recordOf_append_of_mem hfound [record]

theorem Moves.historyParents {t t' : Timeline} (h : Moves record t t') :
    t'.historyParents = t.historyParents ∨
      (record.transition = .mutation ∨ record.transition = .stageApply) ∧
        record.publishesDocument = true ∧ record.historyParentCommitId = t.head ∧
        t' = t.publish record.commitId := by
  cases h with
  | publish kind publishes parent => exact .inr ⟨kind, publishes, parent, rfl⟩
  | _ => exact .inl rfl

theorem replayFrom_holdsRecords {r : Replay} {sessionId baseSha256 : String}
    (h : replayFrom H sessionId baseSha256 records = .ok r) :
    HoldsRecords records r.state := by
  refine (foldlM_invariant (motive := fun records r =>
    r.Indexes records ∧ HoldsRecords records r.state) ?_ ?_ h).2
  · refine ⟨Replay.Indexes.start sessionId baseSha256, fun commitId parent hlookup => ?_⟩
    simp [Replay.start, PortableHistoryState.empty] at hlookup
  · intro xs x u t hu hstep
    refine ⟨hu.1.step hstep, fun commitId parent hlookup => ?_⟩
    have hfresh := hu.1.fresh_commitId hstep
    have hold (hlookup : u.state.historyParents.lookup commitId = some parent) :
        ∃ record, recordOf (xs ++ [x]) commitId = some record ∧
          (record.transition = .mutation ∨ record.transition = .stageApply) ∧
          record.publishesDocument = true ∧ record.historyParentCommitId = parent := by
      obtain ⟨record, hrecord, hfacts⟩ := hu.2 commitId parent hlookup
      exact ⟨record, recordOf_append_of_mem hrecord [x], hfacts⟩
    rcases (Replay.step_moves hstep).historyParents with hsame | ⟨hkind, hpublishes, hparent, heq⟩
    · apply hold
      rw [← hlookup]
      exact congrArg (Finmap.lookup commitId) hsame.symm
    · have hlookup' : (u.state.timeline.publish x.commitId).parent commitId = some parent := by
        rw [← heq]
        exact hlookup
      rw [Timeline.parent_publish] at hlookup'
      split at hlookup'
      · rename_i hid
        subst hid
        exact ⟨x, recordOf_concat_self hfresh, hkind, hpublishes,
          hparent.trans (Option.some.inj hlookup')⟩
      · exact hold hlookup'

end Records

section Ancestry
variable {records : List (PreparedResidentCommit Archive)} {history : PortableHistoryState}
  {nodes : List String}

theorem portableAncestryLoop_eq (hholds : HoldsRecords records history) {target : Option String}
    (hlineage : Lineage history.timeline.parent target nodes) {fuel : Nat} {seen : List String}
    {ancestry found : List (PreparedResidentCommit Archive)}
    (h : portableAncestryLoop records fuel target seen ancestry = .ok found) :
    found = nodes.filterMap (recordOf records) ++ ancestry := by
  induction hlineage generalizing fuel seen ancestry with
  | base =>
    cases fuel <;> exact (Except.ok.inj h).symm
  | @child node up above hup habove ih =>
    obtain ⟨record, hrecord, hkind, _, hparent⟩ := hholds node up hup
    cases fuel with
    | zero => cases h
    | succ fuel =>
      unfold recordOf at hrecord
      simp only [portableAncestryLoop, hrecord] at h
      split at h
      · cases h
      rw [hparent] at h
      rw [ih h, List.filterMap_append]
      simp [recordOf, hrecord]

theorem portableAncestry_eq (hholds : HoldsRecords records history) {target : Option String}
    (hlineage : Lineage history.timeline.parent target nodes)
    {found : List (PreparedResidentCommit Archive)}
    (h : portableAncestry records target = .ok found) :
    found = nodes.filterMap (recordOf records) := by
  have hfound := portableAncestryLoop_eq hholds hlineage h
  rwa [List.append_nil] at hfound

end Ancestry

namespace ResidentWorkbook
variable {xlsx : Xlsx Archive} {w w' : ResidentWorkbook Archive} {k : Nat}

/-- A capture is at most `k` document revisions old, and a capture of the current
one serialises the document. -/
def Recent (xlsx : Xlsx Archive) (k : Nat) (w : ResidentWorkbook Archive) : Prop :=
  ∀ revision bytes, w.snapshot = some (revision, bytes) →
    ∃ age ≤ k, w.revisions.document = revision.document + UInt64.ofNat age ∧
      (age = 0 → xlsx.Serialises w.document bytes)

theorem Recent.of_none (h : w.snapshot = none) : w.Recent xlsx 0 := by
  intro revision bytes hsome
  rw [h] at hsome
  cases hsome

theorem Recent.captures (h : w.Recent xlsx k) (hcaptures : Captures xlsx w w') :
    w'.Recent xlsx k := by
  intro revision bytes hsome
  rw [hcaptures.revisions, hcaptures.document]
  rcases hcaptures.snapshot with hsame | ⟨captured, hserialises, hnew⟩
  · exact h revision bytes (hsame ▸ hsome)
  · rw [hnew] at hsome
    obtain ⟨rfl, rfl⟩ := Prod.mk.inj (Option.some.inj hsome)
    exact ⟨0, Nat.zero_le k, by simp, fun _ => hserialises⟩

theorem Recent.advance (h : w.Recent xlsx k)
    (hrevision : w'.revisions.document = w.revisions.document + 1)
    (hsnapshot : w'.snapshot = w.snapshot) : w'.Recent xlsx (k + 1) := by
  intro revision bytes hsome
  obtain ⟨age, hage, hdocument, _⟩ := h revision bytes (hsnapshot ▸ hsome)
  refine ⟨age + 1, by omega, ?_, by omega⟩
  rw [hrevision, hdocument, UInt64.ofNat_add, ← UInt64.add_assoc]
  rfl

theorem Recent.mono (h : w.Recent xlsx k) {m : Nat} (hle : k ≤ m) : w.Recent xlsx m := by
  intro revision bytes hsome
  obtain ⟨age, hage, hfacts⟩ := h revision bytes hsome
  exact ⟨age, hage.trans hle, hfacts⟩

/-- Counters do not come round within fewer steps than they have values. -/
theorem Recent.coherent (h : w.Recent xlsx k) (hk : k < 2 ^ 64) : w.Coherent xlsx := by
  intro revision bytes hsome hcurrent
  obtain ⟨age, hage, hdocument, hserialises⟩ := h revision bytes hsome
  apply hserialises
  rw [hcurrent] at hdocument
  have hage' := congrArg UInt64.toNat hdocument
  rw [UInt64.toNat_add, UInt64.toNat_ofNat'] at hage'
  have hlt := w.revisions.document.toNat_lt
  omega

/-- A cell publication assigns every effect, and counts as a document change when
there is one. -/
theorem publishPreparedCellsInner_ok {checkBefore synchronized : Bool}
    {effects : List ResidentPreparedCellEffect} {revision : String}
    (h : w.publishPreparedCellsInner xlsx checkBefore synchronized effects = (.ok revision, w')) :
    checkCells w.document checkBefore effects = .ok () ∧
      w'.document = (assignCells xlsx effects w.document).2 ∧ w'.snapshot = w.snapshot ∧
      (effects = [] ∧ w' = w ∨ effects ≠ [] ∧ w'.revisions = w.advanceDocument.revisions ∧
        w'.calculation = .dirty w'.revisions.document) := by
  unfold publishPreparedCellsInner at h
  split at h
  · cases h
  rename_i hcheck
  split at h
  · cases h
  rename_i document hassigned
  split at h
  · rename_i hempty
    subst hempty
    obtain rfl := (Prod.mk.inj h).2
    exact ⟨hcheck, rfl, rfl, .inl ⟨rfl, rfl⟩⟩
  · rename_i hne
    obtain rfl := (Prod.mk.inj h).2
    rw [hassigned]
    exact ⟨hcheck, rfl, rfl, .inr ⟨hne, rfl, rfl⟩⟩

def isCurrent : CalculationStamp → Bool
  | .current .. => true
  | _ => false

theorem replaceFromBytes_ok {bytes : Archive} {effect : ResidentCalculationEffect}
    {revision : String} (h : w.replaceFromBytes xlsx bytes effect = (.ok revision, w')) :
    xlsx.readReader bytes = .ok w'.document ∧ w'.snapshot = w.snapshot ∧
      w'.revisions = w.advanceDocument.revisions ∧
      isCurrent w'.calculation = (decide (effect = .preserve) && isCurrent w.calculation) := by
  unfold replaceFromBytes at h
  split at h
  · cases h
  rename_i replacement hread
  obtain rfl := (Prod.mk.inj h).2
  cases effect with
  | preserve =>
    refine ⟨hread, rfl, rfl, ?_⟩
    dsimp only [advanceDocument]
    cases w.calculation <;> rfl
  | invalidate => exact ⟨hread, rfl, rfl, rfl⟩

end ResidentWorkbook

/-- Publishing records again, from one owner to another. -/
structure Recovers (xlsx : Xlsx Archive) (records : List (PreparedResidentCommit Archive))
    (s s' : ResidentWriteSession Archive) : Prop where
  owner : s' = { s with workbook := s'.workbook }
  document : s'.workbook.document =
    records.foldl (PreparedResidentCommit.apply xlsx) s.workbook.document
  recent : ∀ {k}, s.workbook.Recent xlsx k → s'.workbook.Recent xlsx (k + records.length)

section Recovery
variable {tools : Tools Archive} {s s' : ResidentWriteSession Archive}
  {record : PreparedResidentCommit Archive} {records : List (PreparedResidentCommit Archive)}

theorem publishSnapshot_ends {mismatch expected sha256 : String} {bytes : Archive}
    {effect : ResidentCalculationEffect} :
    Ends (publishSnapshot tools mismatch expected bytes sha256 effect) s
      (fun _ s' => s' = { s with workbook := s'.workbook } ∧
        ∃ w revision, ResidentWorkbook.Captures tools.xlsx s.workbook w ∧
          w.replaceFromBytes tools.xlsx bytes effect = (.ok revision, s'.workbook))
      (fun _ => True) := by
  have hcaptures := ResidentWorkbook.snapshotBytes_captures tools.xlsx s.workbook
  refine ((ends_self _ _).mono (fun _ _ h => h) fun _ _ => trivial).bind fun current s₁ h₁ => ?_
  obtain ⟨_, rfl⟩ := onWorkbook_eq_ok.mp h₁
  refine ends_lift_bind (fun logical _ => ?_) fun _ _ => trivial
  refine ends_guard_bind (fun _ => ?_) fun _ => trivial
  refine ends_guard_bind (fun _ => ?_) fun _ => trivial
  refine ((ends_self _ _).mono (fun _ _ h => h) fun _ _ => trivial).bind fun revision s₂ h₂ => ?_
  obtain ⟨hreplace, hs₂⟩ := onWorkbook_eq_ok.mp h₂
  rw [hs₂]
  exact ends_pure ⟨rfl, _, revision, hcaptures, hreplace⟩

/-- A recovered record has its publication applied. -/
theorem recoverRecord_ends {message : String} :
    Ends (recoverRecord tools message record) s (fun _ => Recovers tools.xlsx [record] s)
      (fun _ => True) := by
  refine ends_lift_bind (fun found hfound => ?_) fun _ _ => trivial
  refine ends_lift_bind (fun prepared hprepared => ?_) fun _ _ => trivial
  obtain rfl := required_eq_ok.mp hprepared
  have hvalue : findMember Effect.preparedTransaction record.effects = .value prepared := by
    unfold PreparedResidentCommit.preparedTransaction at hfound
    cases hmember : findMember Effect.preparedTransaction record.effects with
    | absent => simp [hmember, Member.decode] at hfound
    | malformed => simp [hmember, Member.decode] at hfound
    | value found =>
      rw [hmember] at hfound
      rw [Option.some.inj (Except.ok.inj hfound)]
  have happly (document : Workbook) : [record].foldl (PreparedResidentCommit.apply tools.xlsx)
      document = prepared.publication.apply tools.xlsx document := by
    simp [PreparedResidentCommit.apply, hvalue]
  refine ends_get_bind (ends_guard_bind (fun _ => ?_) fun _ => trivial)
  split
  · rename_i hkind
    refine ends_pure ⟨rfl, ?_, fun h => ?_⟩
    · rw [happly, hkind]
      rfl
    · exact h.mono (Nat.le_succ _)
  · rename_i effects hkind
    refine ((ends_self _ _).mono (fun _ _ h => h) fun _ _ => trivial).bind fun revision s₁ h₁ => ?_
    obtain ⟨hpublish, hs₁⟩ := onWorkbook_eq_ok.mp h₁
    obtain ⟨_, hdocument, hsnapshot, hcases⟩ :=
      ResidentWorkbook.publishPreparedCellsInner_ok hpublish
    rw [hs₁]
    refine ends_pure ⟨rfl, ?_, fun h => ?_⟩
    · rw [happly, hkind]
      exact hdocument
    · rcases hcases with ⟨_, hsame⟩ | ⟨_, hrevisions, _⟩
      · rw [hsame]
        exact h.mono (Nat.le_succ _)
      · exact h.advance (by rw [hrevisions]; rfl) hsnapshot
  · rename_i expected bytes sha256 effect hkind
    refine (publishSnapshot_ends.mono ?_ fun _ _ => trivial)
    rintro _ s₁ ⟨howner, w, revision, hcaptures, hreplace⟩
    obtain ⟨hread, hsnapshot, hrevisions, _⟩ := ResidentWorkbook.replaceFromBytes_ok hreplace
    refine ⟨howner, ?_, fun h => ?_⟩
    · rw [happly, hkind]
      simp [PreparedResidentPublication.apply, hread]
    · exact (h.captures hcaptures).advance (by rw [hrevisions]; rfl) hsnapshot

theorem recoverRecords_ends {message : String} :
    Ends (recoverRecords tools message records) s (fun _ => Recovers tools.xlsx records s)
      (fun _ => True) := by
  induction records generalizing s with
  | nil => exact ends_pure ⟨rfl, rfl, fun h => h⟩
  | cons record rest ih =>
    refine recoverRecord_ends.bind fun _ s₁ h₁ => ih.mono (fun _ s₂ h₂ => ?_) fun _ h => h
    refine ⟨?_, ?_, fun h => ?_⟩
    · rw [h₂.owner, h₁.owner]
    · rw [h₂.document, h₁.document]
      rfl
    · have hrecent := h₂.recent (h₁.recent h)
      rw [List.length_cons, Nat.add_comm rest.length, ← Nat.add_assoc]
      exact hrecent

theorem runOwner_eq_ok {call : Owner Archive α} :
    runOwner call s = .ok s' ↔ ∃ a, call s = (.ok a, s') := by
  unfold runOwner
  cases hcall : call s with
  | mk result session =>
    cases result with
    | ok a => simp
    | error e => simp

theorem fromBytes_ok {resourceId : ResourceId} {bytes : Archive} {epoch : String}
    {ingested : Bool} (h : ResidentWriteSession.fromBytes tools resourceId bytes epoch ingested =
      .ok s) :
    tools.xlsx.readReader bytes = .ok s.workbook.document ∧ s.workbook.snapshot = none ∧
      s.resourceId = resourceId ∧ resourceId.kind = .session ∧ s.staged = ∅ ∧
      s.catalogGeneration = 0 ∧ s.poisoned = none ∧ s.baseBytes = bytes ∧
      s.baseSha256 = tools.digest.archive bytes ∧
      ResidentWorkbook.isCurrent s.workbook.calculation = false := by
  simp only [ResidentWriteSession.fromBytes, ResidentWorkbook.fromBytes, bind_eq_ok, pure_eq_ok,
    ensure_eq_ok] at h
  obtain ⟨_, hkind, workbook, ⟨document, hread, _, _, rfl⟩, rfl⟩ := h
  exact ⟨hread, rfl, rfl, hkind, rfl, rfl, rfl, rfl, rfl, rfl⟩

theorem restoreFirst_ok {message : String}
    {first : Option (PreparedResidentTransaction Archive)}
    (h : restoreFirst message first s = .ok s') :
    s' = { s with workbook := s'.workbook } ∧
      s'.workbook.document = s.workbook.document ∧ s'.workbook.snapshot = s.workbook.snapshot := by
  cases first with
  | none =>
    obtain rfl := Except.ok.inj h
    exact ⟨rfl, rfl, rfl⟩
  | some first =>
    simp only [restoreFirst, bind_eq_ok, pure_eq_ok] at h
    obtain ⟨revision, _, rfl⟩ := h
    exact ⟨rfl, rfl, rfl⟩

theorem materializePortableHead_content (hxlsx : tools.xlsx.RoundTrips)
    {history : PortableHistoryState} (hholds : HoldsRecords records history)
    {target : Option String} {nodes : List String}
    (hlineage : Lineage history.timeline.parent target nodes) (hlength : nodes.length < 2 ^ 64)
    {epoch : String} {ingested : Bool} {resourceId : ResourceId} {base bytes : Archive}
    (h : materializePortableHead tools epoch ingested resourceId base records target = .ok bytes) :
    ∃ document parsed, tools.xlsx.readReader base = .ok document ∧
      tools.xlsx.readReader bytes = .ok parsed ∧
      parsed.SameContent (documentAlong tools.xlsx records document nodes) := by
  simp only [materializePortableHead, bind_eq_ok] at h
  obtain ⟨s₀, hs₀, first, _, s₁, hs₁, found, hfound, s₂, hs₂, hbytes⟩ := h
  obtain ⟨hread, hsnapshot, _⟩ := fromBytes_ok hs₀
  obtain ⟨_, hdocument, hsnapshot'⟩ := restoreFirst_ok hs₁
  obtain ⟨_, hrecover⟩ := runOwner_eq_ok.mp hs₂
  have hrecovers := recoverRecords_ends.ok hrecover
  obtain rfl := portableAncestry_eq hholds hlineage hfound
  have hrecent := hrecovers.recent (ResidentWorkbook.Recent.of_none (hsnapshot'.trans hsnapshot))
  have hcoherent := hrecent.coherent (by
    have := List.length_filterMap_le (recordOf records) nodes
    omega)
  obtain ⟨parsed, hparsed, hsame⟩ := hxlsx.sameContent (hcoherent.snapshotBytes hbytes)
  refine ⟨s₀.workbook.document, parsed, hread, hparsed, ?_⟩
  rw [hrecovers.document, hdocument] at hsame
  exact hsame

end Recovery

end AgentSpreadsheet
