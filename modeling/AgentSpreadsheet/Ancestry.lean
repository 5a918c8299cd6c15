import AgentSpreadsheet.Timeline
import AgentSpreadsheet.Stream

/-! Ancestry walks over an accepted stream. A lineage is what both walks follow,
so they never fail on a replayed state, and undo and redo move along it. -/
namespace AgentSpreadsheet
open Library

section Walks
variable {parents : HistoryParents} {nodes : List String}

theorem activeAncestryLoop_eq {cursor : Option String}
    (h : Lineage (fun c => parents.lookup c) cursor nodes) {fuel : Nat}
    (hfuel : nodes.length ≤ fuel) {seen : Finset String} (hseen : ∀ c ∈ nodes, c ∉ seen)
    (result : List String) :
    PortableHistoryState.activeAncestryLoop parents fuel cursor seen result =
      .ok (nodes ++ result) := by
  induction h generalizing fuel seen result with
  | base => cases fuel <;> rfl
  | @child node up above hup habove ih =>
    cases fuel with
    | zero => simp at hfuel
    | succ fuel =>
      have hnode : node ∉ seen := hseen node (by simp)
      have habove' : ∀ c ∈ above, c ∉ insert node seen := by
        intro c hc hmem
        rcases Finset.mem_insert.mp hmem with rfl | hmem
        · have hnodup := (Lineage.child hup habove).nodup
          exact (List.nodup_append'.mp hnodup).2.2 hc (List.mem_singleton.mpr rfl)
        · exact hseen c (by simp [hc]) hmem
      rw [PortableHistoryState.activeAncestryLoop, if_neg hnode, hup]
      simp only
      rw [ih (by simpa using hfuel) habove' (node :: result)]
      simp

/-- The redo walk from a tip finds the node of its lineage whose parent is the
head, or nothing when there is none. -/
theorem redoTargetLoop_spec {cursor : Option String}
    (h : Lineage (fun c => parents.lookup c) cursor nodes) (head : Option String) {tip : String}
    (htip : cursor = some tip) {fuel : Nat} (hfuel : nodes.length ≤ fuel) {seen : Finset String}
    (hseen : ∀ c ∈ nodes, c ∉ seen) :
    ∃ target, PortableHistoryState.redoTargetLoop parents head fuel tip seen = .ok target ∧
      ∀ c, target = some c ↔ c ∈ nodes ∧ parents.lookup c = some head := by
  induction h generalizing fuel seen tip with
  | base => cases htip
  | @child node up above hup habove ih =>
    obtain rfl := Option.some.inj htip
    have hlineage := Lineage.child hup habove
    cases fuel with
    | zero => simp at hfuel
    | succ fuel =>
      have hnode : node ∉ seen := hseen node (by simp)
      rw [PortableHistoryState.redoTargetLoop, if_neg hnode, hup]
      simp only
      by_cases hhead : up = head
      · subst hhead
        refine ⟨some node, if_pos rfl, fun c => ⟨?_, ?_⟩⟩
        · rintro ⟨⟩
          exact ⟨hlineage.tip_mem, hup⟩
        · rintro ⟨hc, hparent⟩
          rw [hlineage.parent_injective hc hlineage.tip_mem (hparent.trans hup.symm)]
      · rw [if_neg hhead]
        have hskip : ∀ c, c ∈ above ++ [node] ∧ parents.lookup c = some head ↔
            c ∈ above ∧ parents.lookup c = some head := by
          intro c
          constructor
          · rintro ⟨hc, hparent⟩
            rcases List.mem_append.mp hc with hc | hc
            · exact ⟨hc, hparent⟩
            · rw [List.mem_singleton.mp hc, hup] at hparent
              exact absurd (Option.some.inj hparent) hhead
          · rintro ⟨hc, hparent⟩
            exact ⟨List.mem_append_left _ hc, hparent⟩
        cases up with
        | none =>
          cases habove
          refine ⟨none, rfl, fun c => ?_⟩
          rw [hskip]
          simp
        | some next =>
          have habove' : ∀ c ∈ above, c ∉ insert node seen := by
            intro c hc hmem
            rcases Finset.mem_insert.mp hmem with rfl | hmem
            · exact (List.nodup_append'.mp hlineage.nodup).2.2 hc (List.mem_singleton.mpr rfl)
            · exact hseen c (by simp [hc]) hmem
          obtain ⟨target, hrun, hspec⟩ := ih rfl (by simpa using hfuel) habove'
          exact ⟨target, hrun, fun c => (hspec c).trans (hskip c).symm⟩

theorem lineage_length_le {tip : Option String}
    (h : Lineage (fun c => parents.lookup c) tip nodes) : nodes.length ≤ parents.keys.card := by
  rw [← List.toFinset_card_of_nodup h.nodup]
  refine Finset.card_le_card fun c hc => ?_
  obtain ⟨up, hup⟩ := h.known (List.mem_toFinset.mp hc)
  exact Finmap.mem_keys.mpr (Finmap.mem_of_lookup_eq_some hup)

end Walks

namespace Timeline
variable {t : Timeline} {nodes : List String}

theorem activeAncestry_eq_lineage (h : Lineage t.parent t.head nodes) :
    t.activeAncestry = .ok nodes := by
  unfold activeAncestry
  rw [activeAncestryLoop_eq h (Nat.le_succ_of_le (lineage_length_le h)) (by simp)]
  simp

theorem redoTarget_spec (h : Lineage t.parent t.tip nodes) :
    ∃ target, t.redoTarget = .ok target ∧
      ∀ c, target = some c ↔ c ∈ nodes ∧ t.parent c = some t.head := by
  unfold redoTarget
  split
  · rename_i htip
    rw [htip] at h
    cases h
    exact ⟨none, rfl, by simp⟩
  · rename_i tip htip
    exact redoTargetLoop_spec h t.head htip (Nat.le_succ_of_le (lineage_length_le h)) (by simp)

theorem redoTarget_eq_some (h : Lineage t.parent t.tip nodes) {c : String} (hc : c ∈ nodes)
    (hparent : t.parent c = some t.head) : t.redoTarget = .ok (some c) := by
  obtain ⟨target, hrun, hspec⟩ := redoTarget_spec h
  rw [hrun, (hspec c).mpr ⟨hc, hparent⟩]

end Timeline
section Run
variable {H : Digest Archive} {records : List (PreparedResidentCommit Archive)}
  {record : PreparedResidentCommit Archive} {r r' : Replay} {sessionId baseSha256 : String}

theorem Replay.step_moves (h : r.step H record = .ok r') :
    Moves record r.state.timeline r'.state.timeline := by
  obtain ⟨state, haccepted, rfl⟩ := (Replay.step_eq_ok H record).mp h
  have hmoves : Moves record r.state.timeline state.timeline :=
    applyTransition_moves haccepted.applied
  exact hmoves

theorem Replay.Indexes.fresh_commitId (h : r.Indexes records) (hstep : r.step H record = .ok r') :
    record.commitId ∉ records.map (·.commitId) := by
  obtain ⟨state, haccepted, _⟩ := (Replay.step_eq_ok H record).mp hstep
  obtain ⟨_, _, _, ⟨_, hfresh⟩, _⟩ := admitRecord_eq_ok.mp haccepted.admitted
  rwa [h.commitIds, List.mem_toFinset] at hfresh

theorem replayFrom_wellFormed (h : replayFrom H sessionId baseSha256 records = .ok r) :
    r.state.timeline.WellFormed (records.map (·.commitId)) := by
  refine (foldlM_invariant (motive := fun records r =>
    r.Indexes records ∧ r.state.timeline.WellFormed (records.map (·.commitId))) ?_ ?_ h).2
  · exact ⟨Replay.Indexes.start sessionId baseSha256, Timeline.WellFormed.empty⟩
  · intro xs x u t hu hstep
    refine ⟨hu.1.step hstep, ?_⟩
    rw [List.map_append]
    exact hu.2.step (hu.1.fresh_commitId hstep) (Replay.step_moves hstep)

theorem replayBound_wellFormed {s : PortableHistoryState}
    (h : PortableHistoryState.replayBound H records sessionId baseSha256 = .ok s) :
    (records.map (·.commitId)).Nodup ∧ s.timeline.WellFormed (records.map (·.commitId)) := by
  obtain ⟨_, r, hr, rfl⟩ := PortableHistoryState.replayBound_eq_ok.mp h
  exact ⟨(replayFrom_indexes hr).commitsOnce, replayFrom_wellFormed hr⟩

end Run

namespace Timeline.WellFormed
variable {t : Timeline} {order : List String}

theorem parent_sublist (h : t.WellFormed order) {c p : String} (hc : t.parent c = some (some p)) :
    [p, c].Sublist order := by
  obtain ⟨nodes, hl, hsub⟩ := h.lineage c (Finmap.mem_of_lookup_eq_some hc)
  obtain ⟨above, below, rfl, hup, _⟩ := hl.parent_of_mem hl.tip_mem
  have hlast : above.getLast? = some p := Option.some.inj (hup.symm.trans hc)
  obtain ⟨first, rfl⟩ := List.getLast?_eq_some_iff.mp hlast
  refine List.Sublist.trans ?_ hsub
  rw [List.append_assoc]
  refine List.Sublist.trans ?_ (List.sublist_append_right _ _)
  simp

theorem acyclic (h : t.WellFormed order) (hnodup : order.Nodup) (c : String) :
    ¬ Relation.TransGen (fun p d => t.parent d = some (some p)) c c := by
  have hback : ∀ a b, Relation.TransGen (fun p d => t.parent d = some (some p)) a b →
      order.idxOf a < order.idxOf b := by
    intro a b hab
    have hstep : ∀ p d, t.parent d = some (some p) → order.idxOf p < order.idxOf d := by
      intro p d hd
      obtain ⟨first, second, rfl, hp, hrest⟩ := List.cons_sublist_iff.mp (h.parent_sublist hd)
      have hd' : d ∈ second := List.singleton_sublist.mp hrest
      have hdisjoint := (List.nodup_append'.mp hnodup).2.2
      rw [List.idxOf_append_of_mem hp, List.idxOf_append_of_notMem fun hmem => hdisjoint hmem hd']
      have := List.idxOf_lt_length_of_mem hp
      omega
    induction hab with
    | single hd => exact hstep _ _ hd
    | tail _ hd ih => exact ih.trans (hstep _ _ hd)
  intro hc
  exact lt_irrefl _ (hback c c hc)

theorem activeAncestry_ok (h : t.WellFormed order) :
    ∃ nodes, t.activeAncestry = .ok nodes ∧ Lineage t.parent t.head nodes ∧
      nodes.Sublist order := by
  obtain ⟨nodes, hl, hsub⟩ := h.exists_lineage h.head
  exact ⟨nodes, activeAncestry_eq_lineage hl, hl, hsub⟩

theorem redoTarget_ok (h : t.WellFormed order) : ∃ target, t.redoTarget = .ok target := by
  obtain ⟨nodes, hl, _⟩ := h.exists_lineage h.reaches_tip
  obtain ⟨target, htarget, _⟩ := redoTarget_spec hl
  exact ⟨target, htarget⟩

end Timeline.WellFormed

private theorem exists_split_of_sublist {f : α → β} {records : List α} {p c : β}
    (h : [p, c].Sublist (records.map f)) : ∃ before record after,
      records = before ++ record :: after ∧ f record = c ∧ p ∈ before.map f := by
  obtain ⟨first, second, heq, hp, hrest⟩ := List.cons_sublist_iff.mp h
  obtain ⟨left, right, rfl, rfl, rfl⟩ := List.map_eq_append_iff.mp heq
  obtain ⟨record, hrecord, rfl⟩ := List.mem_map.mp (List.singleton_sublist.mp hrest)
  obtain ⟨middle, after, rfl⟩ := List.append_of_mem hrecord
  refine ⟨left ++ middle, record, after, by simp, rfl, ?_⟩
  rw [List.map_append]
  exact List.mem_append_left _ hp

/-- Document history of an accepted stream: parents come earlier, every target
is the base or a document commit, and both walks succeed. -/
theorem replay_history_wellFormed {H : Digest Archive}
    {records : List (PreparedResidentCommit Archive)} {sessionId baseSha256 : String}
    {s : PortableHistoryState}
    (h : PortableHistoryState.replayBound H records sessionId baseSha256 = .ok s) :
    (∀ c p, s.historyParents.lookup c = some (some p) → ∃ before record after,
      records = before ++ record :: after ∧ record.commitId = c ∧
        p ∈ before.map (·.commitId)) ∧
    (∀ c, ¬ Relation.TransGen (fun p d => s.historyParents.lookup d = some (some p)) c c) ∧
    s.currentBranch ∈ s.branches ∧
    (∀ c, s.head = some c → c ∈ s.historyParents) ∧
    (∀ name c, s.branches.lookup name = some (some c) → c ∈ s.historyParents) ∧
    (∀ id checkpoint c, s.checkpoints.lookup id = some checkpoint → checkpoint.head = some c →
      c ∈ s.historyParents) ∧
    (∃ nodes, s.activeAncestry = .ok nodes ∧ nodes.Sublist (records.map (·.commitId)) ∧
      (records.map (·.commitId)).Nodup ∧ nodes.getLast? = s.head) ∧
    ∃ target, s.redoTarget = .ok target := by
  obtain ⟨hnodup, hwf⟩ := replayBound_wellFormed h
  obtain ⟨nodes, hwalk, hl, hsub⟩ := hwf.activeAncestry_ok
  refine ⟨?_, hwf.acyclic hnodup, hwf.current, hwf.head, ?_, ?_, ?_, hwf.redoTarget_ok⟩
  · intro c p hc
    exact exists_split_of_sublist (hwf.parent_sublist hc)
  · intro name c hlookup
    exact hwf.tips name _ hlookup c rfl
  · intro id checkpoint c hlookup hhead
    exact hwf.checkpoints id checkpoint hlookup c hhead
  · exact ⟨nodes, hwalk, hsub, hnodup, hl.getLast?_eq⟩

theorem sampleStream_history_wellFormed :
    ∃ s, PortableHistoryState.replayBound sampleDigest sampleStream "s" "base" = .ok s ∧
      s.head = some "c0" ∧ (∃ nodes, s.activeAncestry = .ok nodes ∧
        nodes.Sublist (sampleStream.map (·.commitId)) ∧
        (sampleStream.map (·.commitId)).Nodup ∧ nodes.getLast? = s.head) ∧
      ∃ target, s.redoTarget = .ok target := by
  have hrun : (PortableHistoryState.replayBound sampleDigest sampleStream "s" "base").toOption.any
      (fun s => s.head == some "c0") = true := by decide +kernel
  obtain ⟨s, hs, hhead⟩ := exists_ok_of_any hrun
  exact ⟨s, hs, by simpa using hhead, (replay_history_wellFormed hs).2.2.2.2.2.2⟩

/-- The head stands at place `i` of the current branch's path; place `0` is the base. -/
structure Timeline.At (t : Timeline) (nodes : List String) (i : Nat) : Prop where
  path : Lineage t.parent t.tip nodes
  head : t.head = (nodes.take i).getLast?
  bound : i ≤ nodes.length

namespace Timeline.At
variable {t t' : Timeline} {nodes : List String} {i : Nat}
  {record : PreparedResidentCommit Archive}

/-- The path cut at place `i`, with the node that follows. -/
private theorem split_at (hi : i < nodes.length) : ∃ c, (nodes.take (i + 1)).getLast? = some c ∧
    nodes = nodes.take i ++ c :: nodes.drop (i + 1) := by
  refine ⟨nodes[i], ?_, ?_⟩
  · rw [List.take_add_one, List.getElem?_eq_getElem hi, Option.toList_some, List.getLast?_concat]
  · rw [← List.drop_eq_getElem_cons hi, List.take_append_drop]

theorem undoTarget_eq (h : t.At nodes i) : t.undoTarget = (nodes.take (i - 1)).getLast? := by
  unfold undoTarget
  rw [h.head]
  cases i with
  | zero => rfl
  | succ i =>
    obtain ⟨c, hlast, hsplit⟩ := split_at h.bound
    rw [hlast, Option.bind_some, (h.path.parent_of_split hsplit).1]
    rfl

theorem redoTarget_eq (h : t.At nodes i) (hi : i < nodes.length) :
    t.redoTarget = .ok (nodes.take (i + 1)).getLast? := by
  obtain ⟨c, hlast, hsplit⟩ := split_at hi
  have hc : c ∈ nodes := by
    rw [hsplit]
    simp
  rw [hlast]
  apply redoTarget_eq_some h.path hc
  rw [(h.path.parent_of_split hsplit).1, h.head]

theorem moveTo (h : t.At nodes i) {j : Nat} (hj : j ≤ nodes.length) :
    (t.moveTo (nodes.take j).getLast?).At nodes j :=
  ⟨h.path, rfl, hj⟩

theorem undo (h : t.At nodes i) (hkind : record.transition = .undo) (hmoves : Moves record t t') :
    t' = t.moveTo (nodes.take (i - 1)).getLast? := by
  cases hmoves <;> simp_all [h.undoTarget_eq]

theorem redo (h : t.At nodes i) (hi : i < nodes.length) (hkind : record.transition = .redo)
    (hmoves : Moves record t t') : t' = t.moveTo (nodes.take (i + 1)).getLast? := by
  cases hmoves with
  | redo target _ _ hnext _ =>
    rw [h.redoTarget_eq hi] at hnext
    rw [← Except.ok.inj hnext]
  | _ => simp_all

end Timeline.At

namespace Timeline
variable {t t' : Timeline} {order nodes : List String}

/-- A head on the path to the tip has a place there, counted by its own ancestry. -/
theorem exists_at {head : String} (h : t.head = some head)
    (hpath : Lineage t.parent t.tip nodes) (hmem : head ∈ nodes)
    {ancestry : List String} (hancestry : t.activeAncestry = .ok ancestry) :
    t.At nodes ancestry.length := by
  obtain ⟨above, below, rfl, hl⟩ := hpath.ancestor hmem
  rw [← h] at hl
  rw [activeAncestry_eq_lineage hl] at hancestry
  obtain rfl := Except.ok.inj hancestry
  refine ⟨hpath, ?_, by simp⟩
  rw [h, List.length_append, List.length_singleton]
  simp [List.take_append]

theorem redoTarget_eq_none (hpath : Lineage t.parent t.tip nodes) (hhead : t.head = t.tip)
    (hsome : t.head ≠ none) : t.redoTarget = .ok none := by
  obtain ⟨target, hrun, hspec⟩ := redoTarget_spec hpath
  rw [hrun]
  cases target with
  | none => rfl
  | some c =>
    obtain ⟨hc, hparent⟩ := (hspec c).mp rfl
    obtain ⟨above, below, rfl, hup, _⟩ := hpath.parent_of_mem hc
    have hlast : above.getLast? = t.tip := by
      rw [← hhead]
      exact Option.some.inj (hup.symm.trans hparent)
    obtain ⟨d, hd⟩ := Option.ne_none_iff_exists'.mp (hhead ▸ hsome)
    -- the tip would stand both above `c` and at the end of the path
    have habove : d ∈ above := List.mem_of_getLast? (hlast.trans hd)
    have hend : d ∈ c :: below := by
      have hlast' := hpath.getLast?_eq
      rw [hd, List.getLast?_append_of_ne_nil _ (List.cons_ne_nil _ _)] at hlast'
      exact List.mem_of_getLast? hlast'
    exact absurd hend ((List.nodup_append'.mp hpath.nodup).2.2 habove)

end Timeline

section UndoRedo
variable {H : Digest Archive} {records moves : List (PreparedResidentCommit Archive)}
  {record : PreparedResidentCommit Archive} {r r' : Replay} {sessionId baseSha256 : String}
  {nodes : List String} {i : Nat}

theorem undos_moveTo (h : r.state.timeline.At nodes i)
    (hkinds : ∀ record ∈ moves, record.transition = .undo)
    (hrun : moves.foldlM (fun r record => r.step H record) r = .ok r') :
    r'.state.timeline = r.state.timeline.moveTo (nodes.take (i - moves.length)).getLast? := by
  induction moves generalizing r i with
  | nil =>
    simp only [List.foldlM_nil, pure_eq_ok] at hrun
    rw [← hrun, List.length_nil, Nat.sub_zero, ← h.head, Timeline.moveTo_head]
  | cons record rest ih =>
    simp only [List.foldlM_cons, bind_eq_ok] at hrun
    obtain ⟨mid, hstep, hrest⟩ := hrun
    have hmid := h.undo (hkinds record List.mem_cons_self) (Replay.step_moves hstep)
    have hat : mid.state.timeline.At nodes (i - 1) := by
      rw [hmid]
      exact h.moveTo (Nat.le_trans (Nat.sub_le i 1) h.bound)
    rw [ih hat (fun x hx => hkinds x (List.mem_cons_of_mem _ hx)) hrest, hmid,
      Timeline.moveTo_moveTo, List.length_cons, Nat.sub_sub, Nat.add_comm 1]

theorem redos_moveTo (h : r.state.timeline.At nodes i) (hlength : i + moves.length ≤ nodes.length)
    (hkinds : ∀ record ∈ moves, record.transition = .redo)
    (hrun : moves.foldlM (fun r record => r.step H record) r = .ok r') :
    r'.state.timeline = r.state.timeline.moveTo (nodes.take (i + moves.length)).getLast? := by
  induction moves generalizing r i with
  | nil =>
    simp only [List.foldlM_nil, pure_eq_ok] at hrun
    rw [← hrun, List.length_nil, Nat.add_zero, ← h.head, Timeline.moveTo_head]
  | cons record rest ih =>
    simp only [List.foldlM_cons, bind_eq_ok] at hrun
    obtain ⟨mid, hstep, hrest⟩ := hrun
    rw [List.length_cons] at hlength
    have hmid := h.redo (by omega) (hkinds record List.mem_cons_self) (Replay.step_moves hstep)
    have hat : mid.state.timeline.At nodes (i + 1) := by
      rw [hmid]
      exact h.moveTo (by omega)
    rw [ih hat (by omega) (fun x hx => hkinds x (List.mem_cons_of_mem _ hx)) hrest, hmid,
      Timeline.moveTo_moveTo, List.length_cons, Nat.add_assoc, Nat.add_comm 1]

theorem Accepted.publishes_of_mutation {state : PortableHistoryState}
    (h : Accepted H record r state) (hkind : record.transition = .mutation) :
    record.publishesDocument = true := by
  have hprepared := h.prepared
  unfold validatePortablePreparedRecord PreparedResidentCommit.preparedTransaction at hprepared
  unfold PreparedResidentCommit.publishesDocument
  cases hfind : findMember Effect.preparedTransaction record.effects with
  | absent => simp [hfind, Member.decode, hkind] at hprepared
  | malformed => simp [hfind, Member.decode] at hprepared
  | value prepared =>
    simp only [hfind, Member.decode, bind_eq_ok] at hprepared
    obtain ⟨_, hvalue, hprepared⟩ := hprepared
    obtain rfl := Except.ok.inj hvalue
    simp only [bind_eq_ok, ensure_eq_ok] at hprepared
    obtain ⟨_, _, _, _, _, _, _, ⟨_, hquiet, _⟩, _⟩ := hprepared
    cases hpublishes : prepared.publication.publishesDocument with
    | true => exact hpublishes
    | false => exact absurd hkind (hquiet hpublishes)

theorem redoTarget_after_publish
    (h : r'.state.timeline.WellFormed order) (hstep : r.step H record = .ok r')
    (hkind : record.transition = .mutation ∨
      record.transition = .stageApply ∧ record.publishesDocument = true) :
    r'.state.redoTarget = .ok none := by
  have hpublishes : record.publishesDocument = true := by
    obtain ⟨state, haccepted, _⟩ := (Replay.step_eq_ok H record).mp hstep
    rcases hkind with hkind | ⟨_, hpublishes⟩
    · exact haccepted.publishes_of_mutation hkind
    · exact hpublishes
  obtain ⟨nodes, hl, _⟩ := h.exists_lineage h.reaches_tip
  have htimeline : r'.state.timeline = r.state.timeline.publish record.commitId := by
    have hmoves := Replay.step_moves hstep
    generalize r'.state.timeline = t' at hmoves
    cases hmoves <;> simp_all
  rw [PortableHistoryState.redoTarget_eq]
  apply Timeline.redoTarget_eq_none hl
  · rw [htimeline, Timeline.tip_publish]
    rfl
  · rw [htimeline]
    exact Option.some_ne_none _

end UndoRedo

/-- The commit is on the path from the root to the current branch's tip. -/
def PortableHistoryState.OnBranchPath (s : PortableHistoryState) (commitId : String) : Prop :=
  ∃ nodes, Lineage s.timeline.parent s.timeline.tip nodes ∧ commitId ∈ nodes

/-- Undo and redo are inverse on the current branch's path: one undo makes the
old head the redo target and a redo restores it, as many redos as undos restore
it while the undos stay above the base, and a mutation leaves nothing to redo. -/
theorem undo_redo_inverse {H : Digest Archive}
    {records : List (PreparedResidentCommit Archive)} {sessionId baseSha256 head : String}
    {s : PortableHistoryState} {ancestry : List String}
    (h : PortableHistoryState.replayBound H records sessionId baseSha256 = .ok s)
    (hhead : s.head = some head) (hpath : s.OnBranchPath head)
    (hancestry : s.activeAncestry = .ok ancestry) :
    (∀ undo s₁, undo.transition = .undo →
      PortableHistoryState.replayBound H (records ++ [undo]) sessionId baseSha256 = .ok s₁ →
      s₁.redoTarget = .ok (some head) ∧
      (∀ redo : PreparedResidentCommit Archive, redo.resultingHead = some head →
        applyRedo redo s₁ = .ok { s₁ with head := s.head }) ∧
      (∀ redo s₂, redo.transition = .redo →
        PortableHistoryState.replayBound H (records ++ [undo, redo]) sessionId baseSha256 =
          .ok s₂ → s₂.head = s.head ∧ s₂.branches = s.branches) ∧
      (∀ mutation s₂, mutation.transition = .mutation ∨
          mutation.transition = .stageApply ∧ mutation.publishesDocument = true →
        PortableHistoryState.replayBound H (records ++ [undo, mutation]) sessionId baseSha256 =
          .ok s₂ → s₂.redoTarget = .ok none)) ∧
    (∀ undos redos s', (∀ undo ∈ undos, undo.transition = .undo) →
      (∀ redo ∈ redos, redo.transition = .redo) → undos.length = redos.length →
      undos.length ≤ ancestry.length →
      PortableHistoryState.replayBound H (records ++ (undos ++ redos)) sessionId baseSha256 =
        .ok s' → s'.head = s.head ∧ s'.branches = s.branches) := by
  obtain ⟨nodes, hl, hmem⟩ := hpath
  have hat : s.timeline.At nodes ancestry.length := Timeline.exists_at hhead hl hmem hancestry
  have hback : s.timeline.moveTo (nodes.take ancestry.length).getLast? = s.timeline := by
    rw [← hat.head, Timeline.moveTo_head]
  have hpos : 0 < ancestry.length := by
    by_contra hzero
    have hlast := hat.head
    rw [Nat.eq_zero_of_not_pos hzero] at hlast
    exact absurd (hlast.symm.trans hhead) (by simp)
  have hmany : ∀ undos redos s', (∀ undo ∈ undos, undo.transition = .undo) →
      (∀ redo ∈ redos, redo.transition = .redo) → undos.length = redos.length →
      undos.length ≤ ancestry.length →
      PortableHistoryState.replayBound H (records ++ (undos ++ redos)) sessionId baseSha256 =
        .ok s' → s'.timeline = s.timeline := by
    intro undos redos s' hundos hredos hlength hle hrun
    obtain ⟨r, r', _, rfl, hmore, rfl⟩ := PortableHistoryState.replayBound_append h hrun
    rw [List.foldlM_append] at hmore
    obtain ⟨mid, hup, hdown⟩ := bind_eq_ok.mp hmore
    have hmid := undos_moveTo hat hundos hup
    have hat' : mid.state.timeline.At nodes (ancestry.length - undos.length) := by
      rw [hmid]
      exact hat.moveTo (Nat.le_trans (Nat.sub_le _ _) hat.bound)
    have hbound := hat.bound
    rw [redos_moveTo hat' (by omega) hredos hdown, hmid, Timeline.moveTo_moveTo, ← hlength,
      Nat.sub_add_cancel hle, hback]
  refine ⟨?_, ?_⟩
  · intro undo s₁ hkind hrun
    obtain ⟨r, r₁, hr, rfl, hstep, rfl⟩ := PortableHistoryState.replayBound_append h hrun
    have hfirst := undos_moveTo hat (by simpa using hkind) hstep
    have hat₁ : r₁.state.timeline.At nodes (ancestry.length - 1) := by
      rw [hfirst]
      exact hat.moveTo (Nat.le_trans (Nat.sub_le _ _) hat.bound)
    have hredo : r₁.state.redoTarget = .ok (some head) := by
      have hbound := hat.bound
      rw [PortableHistoryState.redoTarget_eq, hat₁.redoTarget_eq (by omega),
        Nat.sub_add_cancel hpos, ← hat.head]
      exact congrArg _ hhead
    refine ⟨hredo, ?_, ?_, ?_⟩
    · intro redo htarget
      obtain ⟨target, hwalk, hspec⟩ := Timeline.redoTarget_spec hat₁.path
      rw [← PortableHistoryState.redoTarget_eq, hredo] at hwalk
      obtain rfl := Except.ok.inj hwalk
      have hparent : r₁.state.historyParents.lookup head = some r₁.state.head :=
        ((hspec head).mp rfl).2
      simp [applyRedo, checkHistoryTarget, htarget, hredo, hhead, hparent,
        Finmap.mem_of_lookup_eq_some hparent]
    · intro redo s₂ hkind₂ hrun₂
      have hsame := hmany [undo] [redo] s₂ (by simpa using hkind) (by simpa using hkind₂) rfl hpos
        hrun₂
      exact ⟨congrArg Timeline.head hsame, congrArg Timeline.branches hsame⟩
    · intro mutation s₂ hkind₂ hrun₂
      rw [show records ++ [undo, mutation] = records ++ [undo] ++ [mutation] by simp] at hrun₂
      have hwf := (replayBound_wellFormed hrun₂).2
      obtain ⟨q, q', hq, _, hlast, rfl⟩ := PortableHistoryState.replayBound_append hrun hrun₂
      simp only [List.foldlM_cons, List.foldlM_nil, bind_eq_ok, pure_eq_ok, exists_eq_right]
        at hlast
      exact redoTarget_after_publish hwf hlast hkind₂
  · intro undos redos s' hundos hredos hlength hle hrun
    have hsame := hmany undos redos s' hundos hredos hlength hle hrun
    exact ⟨congrArg Timeline.head hsame, congrArg Timeline.branches hsame⟩


theorem sampleStream_state :
    ∃ s, PortableHistoryState.replayBound sampleDigest sampleStream "s" "base" = .ok s ∧
      s.head = some "c0" ∧ s.OnBranchPath "c0" ∧ s.activeAncestry = .ok ["c0"] := by
  have hrun : (PortableHistoryState.replayBound sampleDigest sampleStream "s" "base").toOption.any
      (fun s => s.head == some "c0" && s.timeline.tip == some "c1" &&
        s.historyParents.lookup "c1" == some (some "c0") &&
        s.historyParents.lookup "c0" == some none) = true := by decide +kernel
  obtain ⟨s, hs, hfacts⟩ := exists_ok_of_any hrun
  simp only [Bool.and_eq_true, beq_iff_eq] at hfacts
  obtain ⟨⟨⟨hhead, htip⟩, hsecond⟩, hfirst⟩ := hfacts
  have hbase : Lineage s.timeline.parent (some "c0") ([] ++ ["c0"]) := .child hfirst .base
  refine ⟨s, hs, hhead, ⟨[] ++ ["c0"] ++ ["c1"], ?_, by decide⟩, ?_⟩
  · rw [htip]
    exact .child hsecond hbase
  · have hpath : Lineage s.timeline.parent s.timeline.head ([] ++ ["c0"]) := by
      rw [show s.timeline.head = some "c0" from hhead]
      exact hbase
    exact Timeline.activeAncestry_eq_lineage hpath

theorem sampleStream_undo_redo_inverse :
    ∃ s s', PortableHistoryState.replayBound sampleDigest sampleStream "s" "base" = .ok s ∧
      PortableHistoryState.replayBound sampleDigest (sampleStream ++
        ([sampleMove 3 .undo none (some "c1")] ++ [sampleMove 4 .redo (some "c0") (some "c1")]))
        "s" "base" = .ok s' ∧ s'.head = s.head ∧ s'.branches = s.branches := by
  obtain ⟨s, hs, hhead, hpath, hancestry⟩ := sampleStream_state
  have hrun : (PortableHistoryState.replayBound sampleDigest (sampleStream ++
      ([sampleMove 3 .undo none (some "c1")] ++ [sampleMove 4 .redo (some "c0") (some "c1")]))
      "s" "base").toOption.any (fun _ => true) = true := by decide +kernel
  obtain ⟨s', hs', _⟩ := exists_ok_of_any hrun
  refine ⟨s, s', hs, hs', ?_⟩
  exact (undo_redo_inverse hs hhead hpath hancestry).2 [sampleMove 3 .undo none (some "c1")]
    [sampleMove 4 .redo (some "c0") (some "c1")] s' (by decide) (by decide) rfl (by decide) hs'

/-- A second undo at the base is a record of its own, so two redos pass the
commit the two undos started from. -/
theorem undo_at_base_overshoots :
    ∃ s s', PortableHistoryState.replayBound sampleDigest sampleStream "s" "base" = .ok s ∧
      s.head = some "c0" ∧ s.OnBranchPath "c0" ∧
      PortableHistoryState.replayBound sampleDigest (sampleStream ++
        ([sampleMove 3 .undo none (some "c1"), sampleMove 4 .undo none (some "c1")] ++
         [sampleMove 5 .redo (some "c0") (some "c1"), sampleMove 6 .redo (some "c1") (some "c1")]))
        "s" "base" = .ok s' ∧ s'.head ≠ s.head := by
  obtain ⟨s, hs, hhead, hpath, _⟩ := sampleStream_state
  have hrun : (PortableHistoryState.replayBound sampleDigest (sampleStream ++
      ([sampleMove 3 .undo none (some "c1"), sampleMove 4 .undo none (some "c1")] ++
       [sampleMove 5 .redo (some "c0") (some "c1"), sampleMove 6 .redo (some "c1") (some "c1")]))
      "s" "base").toOption.any (fun s => s.head == some "c1") = true := by decide +kernel
  obtain ⟨s', hs', hhead'⟩ := exists_ok_of_any hrun
  refine ⟨s, s', hs, hhead, hpath, hs', ?_⟩
  rw [hhead, beq_iff_eq.mp hhead']
  decide

end AgentSpreadsheet
