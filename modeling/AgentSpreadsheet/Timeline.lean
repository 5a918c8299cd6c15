import AgentSpreadsheet.Replay
import AgentSpreadsheet.Library.Lineage

/-! The document history inside a replayed state. A record moves it in one of
eight ways, whatever else the record does; every fact about ancestry, undo and
redo is proved on these moves. -/
namespace AgentSpreadsheet
open Library

structure Timeline where
  historyParents : HistoryParents
  head : Option String
  currentBranch : String
  branches : Branches
  checkpoints : Finmap fun _ : String => ResidentCheckpoint

def PortableHistoryState.timeline (s : PortableHistoryState) : Timeline where
  historyParents := s.historyParents
  head := s.head
  currentBranch := s.currentBranch
  branches := s.branches
  checkpoints := s.checkpoints

namespace Timeline

def parent (t : Timeline) (commitId : String) : Option (Option String) :=
  t.historyParents.lookup commitId

def tip (t : Timeline) : Option String := (t.branches.lookup t.currentBranch).join

def undoTarget (t : Timeline) : Option String := (t.head.bind t.parent).join

/-- `target` is the base or a document commit. -/
def Reaches (t : Timeline) (target : Option String) : Prop :=
  ∀ c, target = some c → c ∈ t.historyParents

def publish (t : Timeline) (commitId : String) : Timeline :=
  { t with
    historyParents := t.historyParents.insert commitId t.head
    head := some commitId
    branches := t.branches.insert t.currentBranch (some commitId) }

def moveTo (t : Timeline) (target : Option String) : Timeline := { t with head := target }

def createBranch (t : Timeline) (name : String) (target : Option String) : Timeline :=
  { t with branches := t.branches.insert name target }

def switchBranch (t : Timeline) (name : String) (target : Option String) : Timeline :=
  { t with currentBranch := name, head := target }

def addCheckpoint (t : Timeline) (checkpoint : ResidentCheckpoint) : Timeline :=
  { t with checkpoints := t.checkpoints.insert checkpoint.id checkpoint }

def dropCheckpoint (t : Timeline) (id : String) : Timeline :=
  { t with checkpoints := t.checkpoints.erase id }

@[simp] theorem moveTo_head (t : Timeline) : t.moveTo t.head = t := rfl

@[simp] theorem moveTo_moveTo (t : Timeline) (a b : Option String) :
    (t.moveTo a).moveTo b = t.moveTo b := rfl

@[simp] theorem tip_publish (t : Timeline) (commitId : String) :
    (t.publish commitId).tip = some commitId := by
  simp [tip, publish]

theorem parent_publish (t : Timeline) (commitId c : String) :
    (t.publish commitId).parent c = if c = commitId then some t.head else t.parent c := by
  unfold parent publish
  by_cases hc : c = commitId
  · subst hc
    simp
  · rw [if_neg hc]
    exact Finmap.lookup_insert_of_ne _ hc

end Timeline

/-- The state-only reading of the redo walk, for use on timelines. -/
def Timeline.redoTarget (t : Timeline) : Result (Option String) :=
  match t.tip with
  | none => .ok none
  | some tip => PortableHistoryState.redoTargetLoop t.historyParents t.head
      (t.historyParents.keys.card + 1) tip ∅

def Timeline.activeAncestry (t : Timeline) : Result (List String) :=
  PortableHistoryState.activeAncestryLoop t.historyParents (t.historyParents.keys.card + 1)
    t.head ∅ []

theorem PortableHistoryState.redoTarget_eq (s : PortableHistoryState) :
    s.redoTarget = s.timeline.redoTarget := rfl

theorem PortableHistoryState.activeAncestry_eq (s : PortableHistoryState) :
    s.activeAncestry = s.timeline.activeAncestry := rfl

/-- What an accepted record does to the document history. -/
inductive Moves (record : PreparedResidentCommit Archive) (t : Timeline) : Timeline → Prop
  | publish (kind : record.transition = .mutation ∨ record.transition = .stageApply)
      (publishes : record.publishesDocument = true)
      (parent : record.historyParentCommitId = t.head) : Moves record t (t.publish record.commitId)
  | unmoved (kind : record.transition = .stageApply ∨ record.transition = .mutation ∨
        record.transition = .receipt ∨ record.transition = .catalogStage ∨
        record.transition = .catalogDiscard ∨ record.transition = .calculationPublish ∨
        record.transition = .calculationInvalidate ∨ record.transition = .restart)
      (quiet : record.transition = .stageApply ∨ record.transition = .mutation →
        record.publishesDocument = false) : Moves record t t
  | checkpoint (checkpoint : ResidentCheckpoint) (kind : record.transition = .checkpoint)
      (head : checkpoint.head = t.head) : Moves record t (t.addCheckpoint checkpoint)
  | checkpointDelete (id : String) (kind : record.transition = .checkpointDelete) :
      Moves record t (t.dropCheckpoint id)
  | undo (kind : record.transition = .undo) : Moves record t (t.moveTo t.undoTarget)
  | redo (target : Option String) (kind : record.transition = .redo) (known : t.Reaches target)
      (next : t.redoTarget = .ok target) (up : (target.bind t.parent).join = t.head) :
      Moves record t (t.moveTo target)
  | checkout (target : Option String) (kind : record.transition = .checkout)
      (known : t.Reaches target) : Moves record t (t.moveTo target)
  | branchCreate (name : String) (target : Option String) (kind : record.transition = .branchCreate)
      (fresh : name ∉ t.branches) (known : target = t.head ∨ t.Reaches target) :
      Moves record t (t.createBranch name target)
  | branchSwitch (name : String) (target : Option String) (kind : record.transition = .branchSwitch)
      (known : t.branches.lookup name = some target) : Moves record t (t.switchBranch name target)

section Inversion
variable {H : Digest Archive} {record : PreparedResidentCommit Archive}
  {s s' : PortableHistoryState} {requestIds : Finset String}

/-- A receipt touches the discard flag and the file-export maps only. -/
theorem applyReceipt_frame (h : applyReceipt H record s requestIds = .ok s') :
    s' = { s with
      discarded := s'.discarded
      fileExportPlans := s'.fileExportPlans
      fileExportResults := s'.fileExportResults } := by
  unfold applyReceipt at h
  dsimp only at h
  split at h
  · simp only [bind_eq_ok, pure_eq_ok] at h
    obtain ⟨_, _, _, _, rfl⟩ := h
    rfl
  split at h
  · simp only [bind_eq_ok, pure_eq_ok] at h
    obtain ⟨_, _, rfl⟩ := h
    rfl
  split at h
  · simp only [bind_eq_ok, pure_eq_ok] at h
    obtain ⟨_, _, rfl⟩ := h
    rfl
  split at h
  · simp only [bind_eq_ok, pure_eq_ok] at h
    obtain ⟨_, _, rfl⟩ := h
    rfl
  split at h
  · simp only [admitFileExportPlan, bind_eq_ok, pure_eq_ok] at h
    obtain ⟨_, _, _, _, _, _, _, _, rfl⟩ := h
    rfl
  split at h
  · simp only [admitFileExportResult, bind_eq_ok, pure_eq_ok] at h
    obtain ⟨_, _, _, _, _, _, rfl⟩ := h
    rfl
  · simp only [bind_eq_ok, pure_eq_ok] at h
    obtain ⟨_, _, rfl⟩ := h
    rfl

theorem applyReceipt_timeline (h : applyReceipt H record s requestIds = .ok s') :
    s'.timeline = s.timeline := by
  rw [applyReceipt_frame h]
  rfl

theorem applyPublication_cases (h : applyPublication record s = .ok s') :
    (record.publishesDocument = true ∧ record.historyParentCommitId = s.head ∧
      s' = { s with
        historyParents := s.historyParents.insert record.commitId s.head
        head := some record.commitId
        branches := s.branches.insert s.currentBranch (some record.commitId) }) ∨
    (record.publishesDocument = false ∧ record.historyParentCommitId = none ∧ s' = s) := by
  unfold applyPublication at h
  split at h
  · rename_i hpublishes
    simp only [bind_eq_ok, ensure_eq_ok, pure_eq_ok, exists_and_left, exists_const] at h
    obtain ⟨hparent, rfl⟩ := h
    exact .inl ⟨hpublishes, hparent, by rw [hparent]⟩
  · rename_i hquiet
    simp only [bind_eq_ok, ensure_eq_ok, pure_eq_ok, exists_and_left, exists_const] at h
    exact .inr ⟨by simpa using hquiet, h.1, h.2.symm⟩

theorem applyMutation_moves (kind : record.transition = .mutation ∨
    record.transition = .stageApply) (h : applyMutation record s = .ok s') :
    Moves record s.timeline s'.timeline := by
  unfold applyMutation at h
  simp only [bind_eq_ok] at h
  obtain ⟨_, _, h⟩ := h
  obtain ⟨hpublishes, hparent, rfl⟩ | ⟨hquiet, _, rfl⟩ := applyPublication_cases h
  · exact .publish kind hpublishes hparent
  · exact .unmoved (by tauto) fun _ => hquiet

theorem applyTransition_moves (h : applyTransition H record s requestIds = .ok s') :
    Moves record s.timeline s'.timeline := by
  unfold applyTransition at h
  split at h
  case h_1 hk =>
    rw [applyReceipt_timeline h]
    exact .unmoved (by simp [hk]) (by simp [hk])
  case h_2 hk => exact applyMutation_moves (.inl hk) h
  case h_3 hk =>
    simp only [applyStageApply, bind_eq_ok, pure_eq_ok] at h
    obtain ⟨u, hu, _, _, _, _, _, _, rfl⟩ := h
    have hmoves : Moves record s.timeline u.timeline := applyMutation_moves (.inr hk) hu
    exact hmoves
  case h_4 hk =>
    simp only [applyCatalogStage, bind_eq_ok, pure_eq_ok] at h
    obtain ⟨_, _, _, _, _, _, _, _, rfl⟩ := h
    exact .unmoved (by simp [hk]) (by simp [hk])
  case h_5 hk =>
    simp only [applyCatalogDiscard, bind_eq_ok, pure_eq_ok] at h
    obtain ⟨_, _, _, _, _, _, rfl⟩ := h
    exact .unmoved (by simp [hk]) (by simp [hk])
  case h_6 hk =>
    simp only [bind_eq_ok, pure_eq_ok] at h
    obtain ⟨_, _, rfl⟩ := h
    exact .unmoved (by simp [hk]) (by simp [hk])
  case h_7 hk =>
    simp only [bind_eq_ok, pure_eq_ok] at h
    obtain ⟨_, _, rfl⟩ := h
    exact .unmoved (by simp [hk]) (by simp [hk])
  case h_8 hk =>
    cases h
    exact .checkpoint ⟨record.requestId, s.head, record.stateRevision, _⟩ hk rfl
  case h_9 hk =>
    simp only [applyCheckpointDelete, bind_eq_ok, pure_eq_ok] at h
    obtain ⟨id, _, _, _, rfl⟩ := h
    exact .checkpointDelete id hk
  case h_10 hk =>
    simp only [bind_eq_ok, pure_eq_ok] at h
    obtain ⟨_, _, rfl⟩ := h
    exact .unmoved (by simp [hk]) (by simp [hk])
  case h_11 hk =>
    simp only [applyUndo, bind_eq_ok, pure_eq_ok] at h
    obtain ⟨_, _, rfl⟩ := h
    exact .undo hk
  case h_12 hk =>
    simp only [applyRedo, checkHistoryTarget, bind_eq_ok, ensure_eq_ok, pure_eq_ok] at h
    obtain ⟨_, hknown, redo, hredo, _, ⟨hup, htarget⟩, rfl⟩ := h
    exact .redo _ hk hknown (htarget ▸ hredo) hup
  case h_13 hk =>
    simp only [applyCheckout, checkHistoryTarget, bind_eq_ok, ensure_eq_ok, pure_eq_ok] at h
    obtain ⟨_, hknown, rfl⟩ := h
    exact .checkout _ hk hknown
  case h_14 hk =>
    simp only [applyBranchCreate, bind_eq_ok, ensure_eq_ok, pure_eq_ok] at h
    obtain ⟨name, _, _, hfresh, target, htarget, _, _, _, _, rfl⟩ := h
    refine .branchCreate name target hk hfresh ?_
    unfold branchTarget at htarget
    split at htarget
    · exact .inl (Except.ok.inj htarget).symm
    · refine .inr fun c hc => ?_
      simp [← Except.ok.inj htarget] at hc
    · split at htarget
      · rename_i hmem
        refine .inr fun c hc => ?_
        rw [← Except.ok.inj htarget] at hc
        exact Option.some.inj hc ▸ hmem
      · cases htarget
    · cases htarget
  case h_15 hk =>
    simp only [applyBranchSwitch, bind_eq_ok, required_eq_ok, pure_eq_ok] at h
    obtain ⟨name, _, target, htarget, rfl⟩ := h
    exact .branchSwitch name target hk htarget
end Inversion

/-- Document history over the stream `order` of commit identities. -/
structure Timeline.WellFormed (order : List String) (t : Timeline) : Prop where
  lineage : ∀ c ∈ t.historyParents,
    ∃ nodes, Lineage t.parent (some c) nodes ∧ nodes.Sublist order
  head : t.Reaches t.head
  tips : ∀ name target, t.branches.lookup name = some target → t.Reaches target
  checkpoints : ∀ id checkpoint, t.checkpoints.lookup id = some checkpoint →
    t.Reaches checkpoint.head
  current : t.currentBranch ∈ t.branches

namespace Timeline
variable {t t' : Timeline} {order : List String} {target : Option String}

theorem reaches_none (t : Timeline) : t.Reaches none := by
  intro c hc
  cases hc

theorem Reaches.of_publish (h : t.Reaches target) (id : String) : (t.publish id).Reaches target :=
  fun c hc => Finmap.mem_insert.mpr (.inr (h c hc))

theorem reaches_publish_self (t : Timeline) (id : String) : (t.publish id).Reaches (some id) := by
  intro c hc
  cases hc
  exact Finmap.mem_insert.mpr (.inl rfl)

namespace WellFormed

/-- Every reachable target has a lineage in stream order. -/
theorem exists_lineage (h : t.WellFormed order) (hr : t.Reaches target) :
    ∃ nodes, Lineage t.parent target nodes ∧ nodes.Sublist order := by
  cases target with
  | none => exact ⟨[], .base, List.nil_sublist _⟩
  | some c => exact h.lineage c (hr c rfl)

theorem reaches_tip (h : t.WellFormed order) : t.Reaches t.tip := by
  intro c hc
  exact h.tips t.currentBranch _ (Option.join_eq_some_iff.mp hc) c rfl

theorem reaches_undoTarget (h : t.WellFormed order) : t.Reaches t.undoTarget := by
  intro c hc
  unfold undoTarget at hc
  obtain ⟨d, hd, hparent⟩ := Option.bind_eq_some_iff.mp (Option.join_eq_some_iff.mp hc)
  obtain ⟨nodes, hl, _⟩ := h.lineage d (h.head d hd)
  have hmem := hl.mem_of_parent_mem hl.tip_mem hparent
  obtain ⟨up, hup⟩ := hl.known hmem
  exact Finmap.mem_of_lookup_eq_some hup

theorem empty : WellFormed [] (PortableHistoryState.empty sessionId baseSha256).timeline where
  lineage := fun c hc => absurd hc Finmap.notMem_empty
  head := reaches_none _
  tips := by
    intro name target h c hc
    subst hc
    by_cases hname : name = "main"
    · subst hname
      simp [PortableHistoryState.timeline, PortableHistoryState.empty] at h
    · have hmem := Finmap.mem_of_lookup_eq_some h
      simp [PortableHistoryState.timeline, PortableHistoryState.empty, hname] at hmem
  checkpoints := by
    intro id checkpoint h
    simp [PortableHistoryState.timeline, PortableHistoryState.empty] at h
  current := by simp [PortableHistoryState.timeline, PortableHistoryState.empty]

theorem extend (h : t.WellFormed order) (id : String) : t.WellFormed (order ++ [id]) where
  lineage := fun c hc => by
    obtain ⟨nodes, hl, hsub⟩ := h.lineage c hc
    exact ⟨nodes, hl, hsub.trans (List.sublist_append_left _ _)⟩
  head := h.head
  tips := h.tips
  checkpoints := h.checkpoints
  current := h.current

theorem publish (h : t.WellFormed order) {id : String} (hfresh : id ∉ order) :
    (t.publish id).WellFormed (order ++ [id]) where
  lineage := by
    -- the new commit is no key, so earlier lineages survive the insertion
    have hkey : id ∉ t.historyParents := by
      intro hmem
      obtain ⟨nodes, hl, hsub⟩ := h.lineage id hmem
      exact hfresh (hsub.subset hl.tip_mem)
    have hgrow : ∀ c p, t.parent c = some p → (t.publish id).parent c = some p := by
      intro c p hc
      rw [parent_publish, if_neg]
      · exact hc
      · rintro rfl
        exact hkey (Finmap.mem_of_lookup_eq_some hc)
    intro c hc
    rcases Finmap.mem_insert.mp hc with rfl | hc
    · obtain ⟨nodes, hl, hsub⟩ := h.exists_lineage h.head
      refine ⟨nodes ++ [c], .child ?_ (hl.mono hgrow), hsub.append (List.Sublist.refl _)⟩
      rw [parent_publish, if_pos rfl]
    · obtain ⟨nodes, hl, hsub⟩ := h.lineage c hc
      exact ⟨nodes, hl.mono hgrow, hsub.trans (List.sublist_append_left _ _)⟩
  head := reaches_publish_self t id
  tips := by
    intro name target hlookup
    by_cases hname : name = t.currentBranch
    · subst hname
      simp only [Timeline.publish, Finmap.lookup_insert, Option.some.injEq] at hlookup
      exact hlookup ▸ reaches_publish_self t id
    · simp only [Timeline.publish, Finmap.lookup_insert_of_ne _ hname] at hlookup
      exact (h.tips name target hlookup).of_publish id
  checkpoints := fun key checkpoint hlookup => (h.checkpoints key checkpoint hlookup).of_publish id
  current := Finmap.mem_insert.mpr (.inl rfl)

theorem moveTo (h : t.WellFormed order) (hr : t.Reaches target) :
    (t.moveTo target).WellFormed order :=
  ⟨h.lineage, hr, h.tips, h.checkpoints, h.current⟩

theorem createBranch (h : t.WellFormed order) (name : String) (hr : t.Reaches target) :
    (t.createBranch name target).WellFormed order where
  lineage := h.lineage
  head := h.head
  tips := by
    intro key found hlookup
    by_cases hkey : key = name
    · subst hkey
      simp only [Timeline.createBranch, Finmap.lookup_insert, Option.some.injEq] at hlookup
      exact hlookup ▸ hr
    · simp only [Timeline.createBranch, Finmap.lookup_insert_of_ne _ hkey] at hlookup
      exact h.tips key found hlookup
  checkpoints := h.checkpoints
  current := Finmap.mem_insert.mpr (.inr h.current)

theorem switchBranch (h : t.WellFormed order) {name : String}
    (hname : t.branches.lookup name = some target) : (t.switchBranch name target).WellFormed order :=
  ⟨h.lineage, h.tips name target hname, h.tips, h.checkpoints,
    Finmap.mem_of_lookup_eq_some hname⟩

theorem addCheckpoint (h : t.WellFormed order) {checkpoint : ResidentCheckpoint}
    (hhead : checkpoint.head = t.head) : (t.addCheckpoint checkpoint).WellFormed order where
  lineage := h.lineage
  head := h.head
  tips := h.tips
  checkpoints := by
    intro key found hlookup
    by_cases hkey : key = checkpoint.id
    · subst hkey
      simp only [Timeline.addCheckpoint, Finmap.lookup_insert, Option.some.injEq] at hlookup
      subst hlookup
      exact hhead ▸ h.head
    · simp only [Timeline.addCheckpoint, Finmap.lookup_insert_of_ne _ hkey] at hlookup
      exact h.checkpoints key found hlookup
  current := h.current

theorem dropCheckpoint (h : t.WellFormed order) (id : String) :
    (t.dropCheckpoint id).WellFormed order where
  lineage := h.lineage
  head := h.head
  tips := h.tips
  checkpoints := by
    intro key found hlookup
    have hkey : key ≠ id := by
      rintro rfl
      exact Finmap.notMem_erase_self (Finmap.mem_of_lookup_eq_some hlookup)
    rw [Timeline.dropCheckpoint, Finmap.lookup_erase_ne hkey] at hlookup
    exact h.checkpoints key found hlookup
  current := h.current

/-- One step: every accepted record keeps document history well formed. -/
theorem step {record : PreparedResidentCommit Archive} (h : t.WellFormed order)
    (hfresh : record.commitId ∉ order) (hmoves : Moves record t t') :
    t'.WellFormed (order ++ [record.commitId]) := by
  cases hmoves with
  | publish => exact h.publish hfresh
  | unmoved => exact h.extend _
  | checkpoint _ _ hhead => exact (h.addCheckpoint hhead).extend _
  | checkpointDelete id => exact (h.dropCheckpoint id).extend _
  | undo => exact (h.moveTo h.reaches_undoTarget).extend _
  | redo _ _ hknown => exact (h.moveTo hknown).extend _
  | checkout _ _ hknown => exact (h.moveTo hknown).extend _
  | branchCreate name _ _ _ hknown =>
    refine (h.createBranch name ?_).extend _
    rcases hknown with rfl | hknown
    · exact h.head
    · exact hknown
  | branchSwitch _ _ _ hknown => exact (h.switchBranch hknown).extend _

end WellFormed
end Timeline

end AgentSpreadsheet
