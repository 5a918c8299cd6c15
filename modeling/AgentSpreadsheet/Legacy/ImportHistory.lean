import AgentSpreadsheet.Legacy.ImportOrder
import AgentSpreadsheet.Legacy.Integrity
import AgentSpreadsheet.Ancestry

/-! An imported journal replays to the history of the legacy session. -/
namespace AgentSpreadsheet.Legacy
open Library

/-- The workbooks before and after an event can be rebuilt, and the one before it
fingerprinted. -/
def Materializes (store : Tools Archive) (tools : AgentSpreadsheet.Tools Archive) (files : Files)
    (event : OpEvent) : Prop :=
  ∃ before after sha256, predecessorBytes store files event.parentId = .ok before ∧
    files.materializeAt store event.opId = .ok after ∧
    logicalWorkbookSha256 tools before = .ok sha256

section Runs
variable (store : Tools Archive) (tools : AgentSpreadsheet.Tools Archive) (files : Files)
  (log : List OpEvent)

/-- A verified log the importer can turn into records. -/
structure Ready : Prop where
  epoch : PlainEpoch (importEpoch store tools)
  plain : ∀ id ∈ log.map (·.opId), id ≠ "" ∧ ∀ n, id ≠ controlId n
  hashed : ∀ event ∈ log, event.eventHash.isSome = true
  materializes : ∀ event ∈ log, Materializes store tools files event

/-- The events in `done` are the imported history. -/
structure Import.Holds (i : Import Archive) (r : Replay) (done : List String) : Prop where
  replays : i.Replays store tools r
  parents : ∀ id, r.state.historyParents.lookup id = if id ∈ done then parentOf log id else none
  known : ∀ id ∈ done, id ∈ log.map (·.opId)

variable {store tools files log} {i : Import Archive} {r : Replay} {done : List String}

theorem Import.Holds.mem (h : i.Holds store tools log r done) {id : String} :
    id ∈ r.state.historyParents ↔ id ∈ done := by
  rw [← Finmap.lookup_isSome, h.parents]
  split
  · rename_i hmem
    obtain ⟨up, hup⟩ := parentOf_of_mem (h.known id hmem)
    simp [hup, hmem]
  · simp_all

theorem Import.Holds.free (h : i.Holds store tools log r done) (hready : Ready store tools files log)
    (n : Nat) : controlId n ∉ r.state.historyParents := by
  rw [h.mem]
  intro hmem
  exact (hready.plain _ (h.known _ hmem)).2 n rfl

theorem Import.Holds.of_control (h : i.Holds store tools log r done) {i' : Import Archive}
    {r' : Replay} (hreplays : i'.Replays store tools r')
    (hsame : r'.state.historyParents = r.state.historyParents) :
    i'.Holds store tools log r' done where
  replays := hreplays
  parents := by
    rw [hsame]
    exact h.parents
  known := h.known

section Steps
variable (h : i.Holds store tools log r done) (hready : Ready store tools files log)
include h hready

theorem Import.Holds.moveTo {target : Option String} (hbound : i.stateGeneration + 1 < 2 ^ 64)
    (htarget : ∀ c, target = some c → c ∈ done) :
    ∃ r', (i.moveTo store tools target).Holds store tools log r' done ∧
      (i.moveTo store tools target).activeHead = target ∧
      (i.moveTo store tools target).activeBranch = i.activeBranch ∧
      (i.moveTo store tools target).importedBranches = i.importedBranches ∧
      (i.moveTo store tools target).stateGeneration ≤ i.stateGeneration + 1 := by
  unfold Import.moveTo
  split
  · rename_i hsame
    exact ⟨r, h, hsame, rfl, rfl, Nat.le_succ _⟩
  · obtain ⟨r', hreplays, hsame⟩ := h.replays.checkout hready.epoch hbound (h.free hready)
      fun c hc => h.mem.mpr (htarget c hc)
    exact ⟨r', h.of_control hreplays hsame, rfl, rfl, rfl, le_rfl⟩

theorem Import.Holds.branchAt (name : String) {target : Option String}
    (hbound : i.stateGeneration + 2 < 2 ^ 64) (htarget : ∀ c, target = some c → c ∈ done)
    (hname : name ∉ i.importedBranches) :
    ∃ r', ((i.moveTo store tools target).createBranch store tools name target).Holds store tools log
        r' done ∧
      ((i.moveTo store tools target).createBranch store tools name target).importedBranches =
        i.importedBranches.insert name target ∧
      ((i.moveTo store tools target).createBranch store tools name target).activeBranch =
        i.activeBranch ∧
      ((i.moveTo store tools target).createBranch store tools name target).stateGeneration ≤
        i.stateGeneration + 2 := by
  obtain ⟨r₁, h₁, hhead, hbranch, hbranches, hgeneration⟩ := h.moveTo hready (by omega) htarget
  have hcreate := h₁.replays.createBranch hready.epoch (by omega) (h₁.free hready) name
    (by rwa [hbranches])
  rw [hhead] at hcreate
  obtain ⟨r₂, hreplays, hsame⟩ := hcreate
  refine ⟨r₂, h₁.of_control hreplays hsame, ?_, hbranch, Nat.succ_le_succ hgeneration⟩
  rw [← hbranches]
  rfl

theorem Import.Holds.enterBranch (event : OpEvent) {branch : String}
    (hbound : i.stateGeneration + 3 < 2 ^ 64) (hother : branch ≠ i.activeBranch)
    (hparent : ∀ c, event.parentId = some c → c ∈ done) (hbranch : branch ∉ i.importedBranches) :
    ∃ j r', i.enterBranch store tools event branch = .ok j ∧ j.Holds store tools log r' done ∧
      j.activeBranch = branch ∧ j.activeHead = event.parentId ∧
      j.importedBranches = i.importedBranches.insert branch event.parentId ∧
      j.stateGeneration ≤ i.stateGeneration + 3 := by
  obtain ⟨r₁, h₁, hbranches, _, hgeneration⟩ :=
    h.branchAt hready branch (by omega) hparent hbranch
  have hmoved : branch ∉ (i.moveTo store tools event.parentId).importedBranches := by
    unfold Import.moveTo
    split <;> exact hbranch
  obtain ⟨j, r₂, hswitch, hreplays, hsame, rfl⟩ := h₁.replays.switchBranch hready.epoch (by omega)
    (h₁.free hready) "legacy branch was not imported"
    (by rw [hbranches]; exact Finmap.lookup_insert _)
  refine ⟨_, r₂, ?_, h₁.of_control hreplays hsame, rfl, rfl, hbranches,
    Nat.succ_le_succ hgeneration⟩
  unfold Import.enterBranch
  rw [if_neg hother]
  dsimp only
  rw [if_neg hmoved]
  exact hswitch

theorem Import.Holds.appendEvent {event : OpEvent} (hevent : findEvent log event.opId = some event)
    (hbound : i.stateGeneration + 1 < 2 ^ 64) (hnew : event.opId ∉ done)
    (hparent : event.parentId = i.activeHead) :
    ∃ i' r', i.appendEvent store tools files event = .ok i' ∧
      i'.Holds store tools log r' (done ++ [event.opId]) ∧ i'.activeBranch = i.activeBranch ∧
      i'.activeHead = some event.opId ∧
      i'.importedBranches = i.importedBranches.insert i.activeBranch (some event.opId) ∧
      i'.stateGeneration = i.stateGeneration + 1 := by
  have hmem : event ∈ log := (findEvent_some hevent).1
  have hid : event.opId ∈ log.map (·.opId) := List.mem_map_of_mem hmem
  obtain ⟨before, after, sha256, hbefore, hafter, hsha256⟩ := hready.materializes event hmem
  obtain ⟨fingerprint, hfingerprint⟩ := Option.isSome_iff_exists.mp (hready.hashed event hmem)
  obtain ⟨hne, hplain⟩ := hready.plain _ hid
  obtain ⟨r', hreplays, hparents⟩ := h.replays.event hready.epoch hbound hplain hne
    (fun hold => hnew (h.mem.mp hold)) hparent sha256 after fingerprint
  refine ⟨_, r', ?_, ⟨hreplays, fun id => ?_, fun id hid => ?_⟩, rfl, rfl, rfl, rfl⟩
  · unfold Import.appendEvent
    simp only [bind_eq_ok, required_eq_ok, pure_eq_ok]
    exact ⟨before, hbefore, after, hafter, sha256, hsha256, fingerprint, hfingerprint, rfl⟩
  · rw [hparents]
    by_cases hsame : id = event.opId
    · subst hsame
      rw [Finmap.lookup_insert, if_pos (by simp)]
      exact (parentOf_eq_some.mpr ⟨event, hevent, rfl⟩).symm
    · rw [Finmap.lookup_insert_of_ne _ hsame, h.parents]
      simp [hsame]
  · rcases List.mem_append.mp hid with hid | hid
    · exact h.known id hid
    · rw [List.mem_singleton.mp hid]
      exact List.mem_map_of_mem hmem

end Steps

theorem Import.Holds.run {tips : BranchTips} {mainPath above own : List String} {branch : String}
    {tip : Option String} (hready : Ready store tools files log)
    (h : i.Holds store tools log r done) (hpath : Lineage (parentOf log) tip (above ++ own))
    (hhead : i.activeHead = above.getLast?) (hbranch : i.activeBranch = branch)
    (hat : i.importedBranches.lookup branch = some i.activeHead)
    (hown : ∀ id ∈ own, id ∉ done ∧ desiredBranch log tips mainPath id = branch)
    (hbound : i.stateGeneration + own.length < 2 ^ 64) :
    ∃ i' r', own.foldlM (Import.event store tools files log tips mainPath) i = .ok i' ∧
      i'.Holds store tools log r' (done ++ own) ∧ i'.activeBranch = branch ∧ i'.activeHead = tip ∧
      i'.importedBranches.lookup branch = some tip ∧
      (∀ name, name ≠ branch → i'.importedBranches.lookup name = i.importedBranches.lookup name) ∧
      i'.stateGeneration = i.stateGeneration + own.length := by
  induction own generalizing i r done above with
  | nil =>
    have htip := hpath.getLast?_eq
    rw [List.append_nil] at htip
    refine ⟨i, r, rfl, by rwa [List.append_nil], hbranch, hhead.trans htip, ?_, fun _ _ => rfl, rfl⟩
    rw [hat, hhead, htip]
  | cons id rest ih =>
    obtain ⟨hup, _⟩ := hpath.parent_of_split rfl
    obtain ⟨event, hevent, hparent⟩ := parentOf_eq_some.mp hup
    obtain rfl := (findEvent_some hevent).2
    obtain ⟨hnew, hdesired⟩ := hown event.opId List.mem_cons_self
    rw [List.length_cons] at hbound
    obtain ⟨i₁, r₁, happend, h₁, hbranch₁, hhead₁, hbranches₁, hgeneration₁⟩ :=
      h.appendEvent hready hevent (by omega) hnew (hparent.trans hhead.symm)
    have hstep : i.event store tools files log tips mainPath event.opId = .ok i₁ := by
      unfold Import.event
      rw [hevent, hdesired]
      simp only [required, bind_eq_ok, Except.ok.injEq, exists_eq_left']
      refine ⟨i, ?_, happend⟩
      unfold Import.enterBranch
      rw [if_pos hbranch.symm]
    have hnodup := hpath.nodup
    obtain ⟨i', r', hrun, h', hbranch', hhead', hat', hothers, hgeneration'⟩ := ih h₁
      (show Lineage (parentOf log) tip ((above ++ [event.opId]) ++ rest) by simpa using hpath)
      (by simp [hhead₁])
      (hbranch₁.trans hbranch) (by rw [hbranches₁, hbranch, Finmap.lookup_insert, hhead₁])
      (fun x hx => by
        obtain ⟨hx', hdesired'⟩ := hown x (List.mem_cons_of_mem _ hx)
        refine ⟨fun hmem => ?_, hdesired'⟩
        rcases List.mem_append.mp hmem with hmem | hmem
        · exact hx' hmem
        · obtain rfl := List.mem_singleton.mp hmem
          exact (List.nodup_cons.mp (List.nodup_append'.mp hnodup).2.1).1 hx)
      (by omega)
    refine ⟨i', r', ?_, by simpa using h', hbranch', hhead', hat', fun name hname => ?_, ?_⟩
    · rw [List.foldlM_cons, hstep]
      exact hrun
    · rw [hothers name hname, hbranches₁, hbranch, Finmap.lookup_insert_of_ne _ hname]
    · rw [hgeneration', hgeneration₁, List.length_cons]
      omega

theorem Import.Holds.block {tips : BranchTips} {mainPath shared own : List String} {branch : String}
    {tip : Option String} (hready : Ready store tools files log)
    (h : i.Holds store tools log r done) (hpath : Lineage (parentOf log) tip (shared ++ own))
    (hshared : ∀ id ∈ shared, id ∈ done)
    (hown : ∀ id ∈ own, id ∉ done ∧ desiredBranch log tips mainPath id = branch)
    (hother : branch ≠ i.activeBranch) (hbranch : branch ∉ i.importedBranches)
    (hbound : i.stateGeneration + 4 * own.length < 2 ^ 64) (hne : own ≠ []) :
    ∃ i' r', own.foldlM (Import.event store tools files log tips mainPath) i = .ok i' ∧
      i'.Holds store tools log r' (done ++ own) ∧ i'.activeBranch = branch ∧
      i'.importedBranches.lookup branch = some tip ∧
      (∀ name, name ≠ branch → i'.importedBranches.lookup name = i.importedBranches.lookup name) ∧
      i'.stateGeneration ≤ i.stateGeneration + 4 * own.length := by
  obtain ⟨id, rest, rfl⟩ := List.exists_cons_of_ne_nil hne
  rw [List.length_cons] at hbound ⊢
  obtain ⟨hup, _⟩ := hpath.parent_of_split rfl
  obtain ⟨event, hevent, hparent⟩ := parentOf_eq_some.mp hup
  obtain rfl := (findEvent_some hevent).2
  obtain ⟨j, r₁, henter, h₁, hbranch₁, hhead₁, hbranches₁, hgeneration₁⟩ :=
    h.enterBranch hready event (by omega) hother
      (fun c hc => hshared c (List.mem_of_getLast? (hparent.symm.trans hc))) hbranch
  obtain ⟨i', r', hrun, h', hbranch', _, hat', hothers, hgeneration'⟩ := h₁.run hready hpath
    (hhead₁.trans hparent) hbranch₁ (by rw [hbranches₁, Finmap.lookup_insert, hhead₁]) hown
    (by rw [List.length_cons]; omega)
  refine ⟨i', r', ?_, h', hbranch', hat', fun name hname => ?_, ?_⟩
  · -- the first event finds the branch entered, and so would it in the state after entering
    have hsame : i.event store tools files log tips mainPath event.opId =
        j.event store tools files log tips mainPath event.opId := by
      have hdesired := (hown event.opId List.mem_cons_self).2
      have hstay : j.enterBranch store tools event branch = .ok j := if_pos hbranch₁.symm
      unfold Import.event
      rw [hevent, hdesired]
      change (i.enterBranch store tools event branch >>= fun i => i.appendEvent store tools files
        event) = (j.enterBranch store tools event branch >>= fun i => i.appendEvent store tools
        files event)
      rw [henter, hstay]
    rw [List.foldlM_cons, hsame]
    exact hrun
  · rw [hothers name hname, hbranches₁, Finmap.lookup_insert_of_ne _ hname]
  · rw [hgeneration', List.length_cons]
    omega

/-- The branches in `seen` are merged: `done` holds their paths and every imported
branch is at its tip. -/
structure Import.Merged (store : Tools Archive) (tools : AgentSpreadsheet.Tools Archive)
    (log : List OpEvent) (mainTip : Option String) (mainPath : List String) (seen : BranchTips)
    (i : Import Archive) (r : Replay) (done : List String) : Prop where
  holds : i.Holds store tools log r done
  closed : Closed log done
  once : done.Nodup
  small : i.stateGeneration ≤ 4 * done.length
  main : ∀ id ∈ mainPath, id ∈ done
  covers : ∀ branch ∈ seen, branch.1 ≠ "main" →
    ∀ path, Lineage (parentOf log) branch.2 path → ∀ id ∈ path, id ∈ done
  imported : ∀ name tip, i.importedBranches.lookup name = some tip →
    name = "main" ∧ tip = mainTip ∨ (name, tip) ∈ seen
  atMain : i.importedBranches.lookup "main" = some mainTip
  active : i.activeBranch = "main" ∨ i.activeBranch ∈ seen.map (·.1)

section Merge
variable {tips seen rest : BranchTips} {mainTip : Option String} {mainPath : List String}
  {branch : String × Option String}

/-- A branch owns the events that no branch before it carries. -/
theorem desiredBranch_eq {path : List String} {id : String} (hname : branch.1 ≠ "main")
    (hpath : Lineage (parentOf log) branch.2 path) (hid : id ∈ path) (hmain : id ∉ mainPath)
    (hseen : ∀ other ∈ seen, other.1 ≠ "main" → ∃ path, Lineage (parentOf log) other.2 path ∧
      id ∉ path) :
    desiredBranch log (seen ++ branch :: rest) mainPath id = branch.1 := by
  have hself : carries log id branch = true := by
    unfold carries
    rw [ancestry_eq hpath]
    simp [hname, hid]
  have hothers : ∀ other ∈ seen, ¬ ((carries log id other && decide (id ∉ mainPath)) = true) := by
    intro other hother hcarries
    unfold carries at hcarries
    by_cases hmain' : other.1 = "main"
    · simp [hmain'] at hcarries
    · obtain ⟨path', hpath', hnot⟩ := hseen other hother hmain'
      rw [ancestry_eq hpath'] at hcarries
      simp [hnot] at hcarries
  unfold desiredBranch
  rw [List.find?_append, List.find?_eq_none.mpr hothers, Option.none_or,
    List.find?_cons_of_pos (by simp [hself, hmain])]
  rfl

theorem desiredBranch_main {id : String} (h : id ∈ mainPath) :
    desiredBranch log tips mainPath id = "main" := by
  unfold desiredBranch
  rw [List.find?_eq_none.mpr (by simp [h])]
  rfl

theorem Import.Holds.length_le (h : i.Holds store tools log r done) (hnodup : done.Nodup) :
    done.length ≤ log.length := by
  have hlength := (List.subperm_of_subset hnodup h.known).length_le
  rwa [List.length_map] at hlength

theorem Import.Merged.step (hready : Ready store tools files log)
    (hsmall : 4 * log.length < 2 ^ 64)
    (h : i.Merged store tools log mainTip mainPath seen r done)
    (hnames : ((seen ++ branch :: rest).map (·.1)).Nodup)
    (hpaths : ∀ other ∈ seen ++ branch :: rest, ∃ path, Lineage (parentOf log) other.2 path) :
    ∃ own i' r', addBranch log done branch = .ok (done ++ own) ∧
      own.foldlM (Import.event store tools files log (seen ++ branch :: rest) mainPath) i =
        .ok i' ∧
      i'.Merged store tools log mainTip mainPath (seen ++ [branch]) r' (done ++ own) := by
  have hweaken : ∀ {j : Import Archive}, (∀ name tip, j.importedBranches.lookup name = some tip →
      name = "main" ∧ tip = mainTip ∨ (name, tip) ∈ seen) → ∀ name tip,
      j.importedBranches.lookup name = some tip →
      name = "main" ∧ tip = mainTip ∨ (name, tip) ∈ seen ++ [branch] := by
    intro j hj name tip hname
    rcases hj name tip hname with hname | hname
    · exact .inl hname
    · exact .inr (List.mem_append_left _ hname)
  have hactive : i.activeBranch = "main" ∨ i.activeBranch ∈ (seen ++ [branch]).map (·.1) := by
    rcases h.active with hactive | hactive
    · exact .inl hactive
    · exact .inr (by rw [List.map_append]; exact List.mem_append_left _ hactive)
  by_cases hmain : branch.1 = "main"
  · -- the path of main was merged first
    refine ⟨[], i, r, ?_, rfl, ?_⟩
    · unfold addBranch
      rw [if_pos hmain, List.append_nil]
    · rw [List.append_nil]
      refine ⟨h.holds, h.closed, h.once, h.small, h.main, fun other hother hne => ?_,
        hweaken h.imported, h.atMain, hactive⟩
      rcases List.mem_append.mp hother with hother | hother
      · exact h.covers other hother hne
      · rw [List.mem_singleton.mp hother] at hne
        exact absurd hmain hne
  obtain ⟨path, hpath⟩ := hpaths branch (by simp)
  obtain ⟨shared, own, rfl, hshared, hown⟩ := h.closed.split hpath
  have hownNodup : own.Nodup := (List.nodup_append'.mp hpath.nodup).2.1
  have honce : (done ++ own).Nodup :=
    List.nodup_append'.mpr ⟨h.once, hownNodup, fun id hid hid' => hown id hid' hid⟩
  have hadd : addBranch log done branch = .ok (done ++ own) := by
    unfold addBranch
    rw [if_neg hmain, ancestry_eq hpath]
    change Except.ok (addPath done (shared ++ own)) = _
    rw [addPath_shared hshared, addPath_own hownNodup hown]
  have hcovers : ∀ other ∈ seen ++ [branch], other.1 ≠ "main" →
      ∀ path, Lineage (parentOf log) other.2 path → ∀ id ∈ path, id ∈ done ++ own := by
    intro other hother hne path' hpath' id hid
    rcases List.mem_append.mp hother with hother | hother
    · exact List.mem_append_left _ (h.covers other hother hne path' hpath' id hid)
    · rw [List.mem_singleton.mp hother] at hpath'
      rw [hpath'.unique hpath] at hid
      rcases List.mem_append.mp hid with hid | hid
      · exact List.mem_append_left _ (hshared id hid)
      · exact List.mem_append_right _ hid
  have hfresh : branch.1 ∉ seen.map (·.1) := by
    rw [List.map_append, List.map_cons] at hnames
    intro hmem
    exact (List.nodup_append'.mp hnames).2.2 hmem List.mem_cons_self
  have hnew : branch.1 ∉ i.importedBranches := by
    intro hmem
    obtain ⟨tip, htip⟩ := Option.isSome_iff_exists.mp (Finmap.lookup_isSome.mpr hmem)
    rcases h.imported _ _ htip with ⟨hname, _⟩ | hname
    · exact hmain hname
    · exact hfresh (List.mem_map.mpr ⟨_, hname, rfl⟩)
  by_cases hempty : own = []
  · subst hempty
    refine ⟨[], i, r, hadd, rfl, ?_⟩
    rw [List.append_nil] at hcovers ⊢
    exact ⟨h.holds, h.closed, h.once, h.small, h.main, hcovers, hweaken h.imported, h.atMain,
      hactive⟩
  have hdesired : ∀ id ∈ own, id ∉ done ∧
      desiredBranch log (seen ++ branch :: rest) mainPath id = branch.1 := by
    intro id hid
    refine ⟨hown id hid, desiredBranch_eq hmain hpath (List.mem_append_right _ hid)
      (fun hmem => hown id hid (h.main id hmem)) fun other hother hne => ?_⟩
    obtain ⟨path', hpath'⟩ := hpaths other (List.mem_append_left _ hother)
    exact ⟨path', hpath', fun hmem => hown id hid (h.covers other hother hne path' hpath' id hmem)⟩
  have hother : branch.1 ≠ i.activeBranch := by
    intro heq
    rcases h.active with hactive | hactive
    · exact hmain (heq.trans hactive)
    · exact hfresh (heq ▸ hactive)
  have hlength : (done ++ own).length ≤ log.length := by
    have hknown : ∀ id ∈ done ++ own, id ∈ log.map (·.opId) := by
      intro id hid
      rcases List.mem_append.mp hid with hid | hid
      · exact h.holds.known id hid
      · obtain ⟨up, hup⟩ := hpath.known (List.mem_append_right _ hid)
        exact mem_of_parentOf hup
    have hle := (List.subperm_of_subset honce hknown).length_le
    rwa [List.length_map] at hle
  rw [List.length_append] at hlength
  have hcounter := h.small
  obtain ⟨i', r', hrun, h', hbranch', hat', hothers, hgeneration'⟩ :=
    h.holds.block hready hpath hshared hdesired hother hnew (by omega) hempty
  refine ⟨own, i', r', hadd, hrun, h', h.closed.extend hpath hshared, honce, ?_,
    fun id hid => List.mem_append_left _ (h.main id hid), hcovers, fun name tip hname => ?_, ?_, ?_⟩
  · rw [List.length_append]
    omega
  · by_cases hsame : name = branch.1
    · rw [hsame, hat'] at hname
      obtain rfl := Option.some.inj hname
      rw [hsame]
      exact .inr (by simp)
    · rw [hothers name hsame] at hname
      exact hweaken h.imported name tip hname
  · rw [hothers "main" (Ne.symm hmain)]
    exact h.atMain
  · exact .inr (by rw [hbranch', List.map_append]; simp)

theorem Import.Merged.run (hready : Ready store tools files log) (hsmall : 4 * log.length < 2 ^ 64)
    (h : i.Merged store tools log mainTip mainPath seen r done)
    (hnames : ((seen ++ rest).map (·.1)).Nodup)
    (hpaths : ∀ other ∈ seen ++ rest, ∃ path, Lineage (parentOf log) other.2 path) :
    ∃ own i' r', rest.foldlM (addBranch log) done = .ok (done ++ own) ∧
      own.foldlM (Import.event store tools files log (seen ++ rest) mainPath) i = .ok i' ∧
      i'.Merged store tools log mainTip mainPath (seen ++ rest) r' (done ++ own) := by
  induction rest generalizing seen i r done with
  | nil =>
    rw [List.append_nil]
    exact ⟨[], i, r, by simp, rfl, by simpa using h⟩
  | cons branch rest ih =>
    obtain ⟨own₁, i₁, r₁, hadd₁, hrun₁, h₁⟩ := h.step hready hsmall hnames hpaths
    have hsplit : seen ++ branch :: rest = (seen ++ [branch]) ++ rest := by simp
    obtain ⟨own₂, i₂, r₂, hadd₂, hrun₂, h₂⟩ := ih h₁ (by rwa [← hsplit]) (by rwa [← hsplit])
    rw [← hsplit] at hrun₂ h₂
    refine ⟨own₁ ++ own₂, i₂, r₂, ?_, ?_, by rwa [List.append_assoc] at h₂⟩
    · rw [List.foldlM_cons, hadd₁]
      exact hadd₂.trans (by rw [List.append_assoc])
    · rw [List.foldlM_append, hrun₁]
      exact hrun₂

end Merge

theorem Import.Holds.aliases (h : i.Holds store tools log r done) (tips : BranchTips)
    (hready : Ready store tools files log) (hbound : i.stateGeneration + 2 * tips.length < 2 ^ 64)
    (htips : ∀ branch ∈ tips, ∀ c, branch.2 = some c → c ∈ done) :
    ∃ r', (tips.foldl (Import.alias store tools) i).Holds store tools log r' done ∧
      (∀ name, name ∈ (tips.foldl (Import.alias store tools) i).importedBranches ↔
        name ∈ i.importedBranches ∨ name ∈ tips.map (·.1)) ∧
      (∀ name tip, (tips.foldl (Import.alias store tools) i).importedBranches.lookup name =
        some tip → i.importedBranches.lookup name = some tip ∨ (name, tip) ∈ tips) ∧
      (tips.foldl (Import.alias store tools) i).stateGeneration ≤
        i.stateGeneration + 2 * tips.length := by
  induction tips generalizing i r with
  | nil => exact ⟨r, h, by simp, fun _ _ hname => .inl hname, le_rfl⟩
  | cons branch rest ih =>
    rw [List.length_cons] at hbound ⊢
    have hrest : ∀ other ∈ rest, ∀ c, other.2 = some c → c ∈ done :=
      fun other hother => htips other (List.mem_cons_of_mem _ hother)
    rw [List.foldl_cons]
    by_cases hmem : branch.1 ∈ i.importedBranches
    · have hsame : i.alias store tools branch = i := if_pos hmem
      obtain ⟨r', h', hnames, himported, hgeneration⟩ := ih h (by omega) hrest
      rw [hsame]
      refine ⟨r', h', fun name => ?_, fun name tip hname => ?_, by omega⟩
      · rw [hnames, List.map_cons, List.mem_cons]
        constructor
        · tauto
        · rintro (hname | rfl | hname)
          · exact .inl hname
          · exact .inl hmem
          · exact .inr hname
      · exact (himported name tip hname).imp_right (List.mem_cons_of_mem _)
    · obtain ⟨r₁, h₁, hbranches₁, _, hgeneration₁⟩ := h.branchAt hready branch.1 (by omega)
        (htips branch List.mem_cons_self) hmem
      have hcreate : i.alias store tools branch =
          (i.moveTo store tools branch.2).createBranch store tools branch.1 branch.2 := if_neg hmem
      rw [← hcreate] at h₁ hbranches₁ hgeneration₁
      obtain ⟨r', h', hnames, himported, hgeneration⟩ := ih h₁ (by omega) hrest
      refine ⟨r', h', fun name => ?_, fun name tip hname => ?_, by omega⟩
      · rw [hnames, hbranches₁, Finmap.mem_insert, List.map_cons, List.mem_cons]
        tauto
      · rcases himported name tip hname with hname | hname
        · rw [hbranches₁] at hname
          by_cases hsame : name = branch.1
          · rw [hsame, Finmap.lookup_insert] at hname
            obtain rfl := Option.some.inj hname
            rw [hsame]
            exact .inr (by simp)
          · rw [Finmap.lookup_insert_of_ne _ hsame] at hname
            exact .inl hname
        · exact .inr (List.mem_cons_of_mem _ hname)

theorem Import.Holds.restore {current : String} {tip head : Option String}
    (hready : Ready store tools files log) (h : i.Holds store tools log r done)
    (hbound : i.stateGeneration + 2 < 2 ^ 64)
    (hcurrent : i.importedBranches.lookup current = some tip)
    (hhead : ∀ c, head = some c → c ∈ done) :
    ∃ j r', i.select store tools current = .ok j ∧
      (j.restoreHead store tools log head).Holds store tools log r' done ∧
      (j.restoreHead store tools log head).activeHead = head ∧
      (j.restoreHead store tools log head).activeBranch = current ∧
      (j.restoreHead store tools log head).importedBranches = i.importedBranches := by
  have hselect : ∃ j r₁, i.select store tools current = .ok j ∧ j.Holds store tools log r₁ done ∧
      j.activeBranch = current ∧ j.importedBranches = i.importedBranches ∧
      j.stateGeneration ≤ i.stateGeneration + 1 := by
    unfold Import.select
    split
    · rename_i hsame
      exact ⟨i, r, rfl, h, hsame, rfl, Nat.le_succ _⟩
    · obtain ⟨j, r₁, hswitch, hreplays, hsame, rfl⟩ := h.replays.switchBranch hready.epoch
        (by omega) (h.free hready) "selected legacy branch was not imported" hcurrent
      exact ⟨_, r₁, hswitch, h.of_control hreplays hsame, rfl, rfl, le_rfl⟩
  obtain ⟨j, r₁, hselect, h₁, hbranch, hbranches, hgeneration⟩ := hselect
  refine ⟨j, ?_⟩
  unfold Import.restoreHead
  split
  · rename_i hsame
    exact ⟨r₁, hselect, h₁, hsame, hbranch, hbranches⟩
  split
  · rename_i hundo
    -- the undo target of the replayed head is its legacy parent
    have htarget : r₁.state.undoTarget = head := by
      have hjoin : (j.activeHead.bind r₁.state.historyParents.lookup).join =
          (j.activeHead.bind (findEvent log)).bind (·.parentId) := by
        cases hactive : j.activeHead with
        | none => rfl
        | some id =>
          have hmem : id ∈ done := by
            have hreaches := (replayFrom_wellFormed h₁.replays.replay).head
            exact h₁.mem.mp (hreaches id (h₁.replays.head.trans hactive))
          rw [Option.bind_some, Option.bind_some, h₁.parents, if_pos hmem]
          unfold parentOf
          cases findEvent log id <;> rfl
      unfold PortableHistoryState.undoTarget
      rw [h₁.replays.head, hjoin]
      exact hundo
    obtain ⟨r₂, hreplays, hsame⟩ := h₁.replays.undo hready.epoch (by omega) (h₁.free hready) htarget
    exact ⟨r₂, hselect, h₁.of_control hreplays hsame, rfl, hbranch, hbranches⟩
  · obtain ⟨r₂, hreplays, hsame⟩ := h₁.replays.checkout hready.epoch (by omega) (h₁.free hready)
      fun c hc => h₁.mem.mpr (hhead c hc)
    exact ⟨r₂, hselect, h₁.of_control hreplays hsame, rfl, hbranch, hbranches⟩

end Runs

end AgentSpreadsheet.Legacy
