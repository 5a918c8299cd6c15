import AgentSpreadsheet.Legacy.ImportHistory

/-! Import of a whole session: what a frozen copy must be for it, and that the
journal then replays to the HEAD, branches and parents of the copy. -/
namespace AgentSpreadsheet.Legacy
open Library

section Copies
variable {store : Tools Archive} {tools : AgentSpreadsheet.Tools Archive} {files : Files}
  {log : List OpEvent}

structure Importable (store : Tools Archive) (tools : AgentSpreadsheet.Tools Archive)
    (copy : FrozenCopy) : Prop where
  session : validSessionId store.sessionId = true
  bound : copy.marker = .value ⟨some true, some (importBase store tools)⟩
  verified : ∃ events, copy.files.readEvents store = .ok events
  reachable : ∀ event ∈ copy.files.log, ∃ branch ∈ copy.files.branches, ∃ tip,
    branch.tipOpId = some tip ∧ Ancestor copy.files.log event.opId tip
  rooted : ∀ event ∈ copy.files.log,
    ∃ path, Lineage (parentOf copy.files.log) (some event.opId) path
  branchesOnce : (copy.files.branches.map (·.name)).Nodup
  current : trim copy.files.currentBranch ∈ copy.files.branches.map (·.name)
  plain : ∀ event ∈ copy.files.log, ∀ n, event.opId ≠ controlId n
  materializes : ∀ event ∈ copy.files.log, Materializes store tools copy.files event
  small : 4 * copy.files.log.length + 2 * copy.files.branches.length + 2 < 2 ^ 64

theorem plainEpoch_of_hex {epoch : String} (h : isSha256Hex epoch = true) : PlainEpoch epoch := by
  unfold isSha256Hex at h
  obtain ⟨hlength, hall⟩ := Bool.and_eq_true_iff.mp h
  refine ⟨fun hempty => ?_, fun hmem => ?_⟩
  · rw [hempty] at hlength
    exact absurd hlength (by decide)
  · exact absurd (List.all_eq_true.mp hall ':' hmem) (by decide)

/-- All events of a verified log are read when a tip reaches each of them. -/
theorem readEvents_all {events : List OpEvent} (h : files.readEvents store = .ok events)
    (hreachable : ∀ event ∈ files.log, ∃ branch ∈ files.branches, ∃ tip,
      branch.tipOpId = some tip ∧ Ancestor files.log event.opId tip) : events = files.log := by
  obtain ⟨_, committed, hcommitted, rfl⟩ := readEvents_eq_ok.mp h
  obtain ⟨hclosed, htips, _⟩ := committedIds_ok hcommitted
  refine List.filter_eq_self.mpr fun event hevent => ?_
  obtain ⟨branch, hbranch, tip, htip, hancestor⟩ := hreachable event hevent
  have hmem : tip ∈ files.tips :=
    List.mem_append_left _ (List.mem_filterMap.mpr ⟨branch, hbranch, htip⟩)
  exact decide_eq_true (hclosed.ancestor (htips tip hmem) hancestor)

theorem verifyParents_ok {ids : List String}
    (h : ∀ event ∈ log, ∀ p, event.parentId = some p → p ∈ ids) :
    log.forM (verifyParent ids) = .ok () := by
  induction log with
  | nil => rfl
  | cons event rest ih =>
    have hfirst : verifyParent ids event = .ok () := by
      unfold verifyParent
      split
      · rfl
      · rename_i parent hparent
        exact ensure_pos (h event List.mem_cons_self parent hparent) _
    change (verifyParent ids event >>= fun _ => rest.forM _) = _
    rw [hfirst]
    exact ih fun x hx => h x (List.mem_cons_of_mem _ hx)

theorem verifyEvents_of_checkLog (h : checkLog store log = .ok ()) :
    verifyEvents store log = .ok () ∧ ∀ event ∈ log, event.eventHash.isSome = true := by
  have hparents := (checkLog_mem h).2.2
  simp only [checkLog, bind_eq_ok] at h
  obtain ⟨scan, hscan, _⟩ := h
  have hverify : log.foldlM (LogScan.verify store) ⟨none, []⟩ = .ok scan ∧
      ∀ event ∈ log, event.eventHash.isSome = true := by
    refine foldlM_invariant (motive := fun log scan =>
      log.foldlM (LogScan.verify store) ⟨none, []⟩ = .ok scan ∧
        ∀ event ∈ log, event.eventHash.isSome = true) ⟨rfl, by simp⟩ ?_ hscan
    rintro xs event u t ⟨hu, hhashed⟩ hstep
    simp only [LogScan.step, bind_eq_ok, ensure_eq_ok, pure_eq_ok] at hstep
    obtain ⟨_, _, _, ⟨hsession, hintegrity⟩, _, hprevious, _, hfresh, rfl⟩ := hstep
    refine ⟨foldlM_concat_eq_ok.mpr ⟨u, hu, ?_⟩, fun x hx => ?_⟩
    · simp only [LogScan.verify, bind_eq_ok, ensure_eq_ok, pure_eq_ok]
      exact ⟨(), ⟨hsession, hintegrity⟩, (), hprevious, (), hfresh, trivial⟩
    · rcases List.mem_append.mp hx with hx | hx
      · exact hhashed x hx
      · rw [List.mem_singleton.mp hx]
        unfold OpEvent.verifyIntegrity at hintegrity
        rw [beq_iff_eq.mp (Bool.and_eq_true_iff.mp hintegrity).2]
        rfl
  refine ⟨?_, hverify.2⟩
  unfold verifyEvents
  rw [hverify.1]
  exact verifyParents_ok hparents

theorem branchTips_eq {branches : List BranchInfo} (h : (branches.map (·.name)).Nodup) :
    ∃ tips, branchTips branches = .ok tips ∧
      tips.Perm (branches.map fun branch => (branch.name, branch.tipOpId)) := by
  have hfrom : ∀ tips : BranchTips, (tips.map (·.1) ++ branches.map (·.name)).Nodup →
      ∃ tips', branches.foldlM BranchTips.add tips = .ok tips' ∧
        tips'.Perm (tips ++ branches.map fun branch => (branch.name, branch.tipOpId)) := by
    clear h
    induction branches with
    | nil => exact fun tips _ => ⟨tips, rfl, by simp⟩
    | cons branch rest ih =>
      intro tips hnodup
      have hperm : (tips.orderedInsert (fun a b => a.1 ≤ b.1) (branch.name, branch.tipOpId)).Perm
          ((branch.name, branch.tipOpId) :: tips) := List.perm_orderedInsert _ _ _
      have hnew : branch.name ∉ tips.map (·.1) := fun hmem =>
        (List.nodup_append'.mp hnodup).2.2 hmem (by simp)
      obtain ⟨tips', htips', hperm'⟩ := ih
        (tips.orderedInsert (fun a b => a.1 ≤ b.1) (branch.name, branch.tipOpId)) (by
          refine (List.Perm.append_right _ (hperm.map _)).nodup_iff.mpr ?_
          exact List.perm_middle.nodup_iff.mp hnodup)
      refine ⟨tips', ?_, ?_⟩
      · rw [List.foldlM_cons]
        unfold BranchTips.add
        rw [ensure_pos hnew]
        exact htips'
      · refine hperm'.trans ((List.Perm.append_right _ hperm).trans ?_)
        exact List.perm_middle.symm
  obtain ⟨tips, htips, hperm⟩ := hfrom [] (by simpa using h)
  exact ⟨tips, htips, hperm⟩

theorem mergeMain (tips : BranchTips) {mainTip : Option String} {mainPath : List String}
    (hready : Ready store tools files log) (hsmall : 4 * log.length < 2 ^ 64)
    (hpath : Lineage (parentOf log) mainTip mainPath) :
    ∃ i r, mainPath.foldlM (Import.event store tools files log tips mainPath) Import.start = .ok i ∧
      i.Merged store tools log mainTip mainPath [] r mainPath := by
  have hstart : (Import.start : Import Archive).Holds store tools log
      (Replay.start store.sessionId (importBase store tools)) [] :=
    ⟨.start store tools, fun id => rfl, by simp⟩
  have hknown : ∀ id ∈ mainPath, id ∈ log.map (·.opId) := by
    intro id hid
    obtain ⟨up, hup⟩ := hpath.known hid
    exact mem_of_parentOf hup
  have hlength := (List.subperm_of_subset hpath.nodup hknown).length_le
  rw [List.length_map] at hlength
  have hgeneration : (Import.start : Import Archive).stateGeneration = 0 := rfl
  obtain ⟨i, r, hrun, hholds, hbranch, _, hat, hothers, hcounter⟩ :=
    hstart.run hready (show Lineage (parentOf log) mainTip ([] ++ mainPath) from hpath) rfl
      (show Import.start.activeBranch = "main" from rfl) rfl
      (fun id hid => ⟨by simp, desiredBranch_main hid⟩) (by omega)
  refine ⟨i, r, hrun, hholds, fun id hid p hp => hpath.mem_of_parent_mem hid hp, hpath.nodup, ?_,
    fun _ hid => hid, by simp, fun name tip hname => ?_, hat, .inl hbranch⟩
  · omega
  · by_cases hmain : name = "main"
    · rw [hmain, hat] at hname
      exact .inl ⟨hmain, (Option.some.inj hname).symm⟩
    · rw [hothers name hmain] at hname
      exact absurd (Finmap.mem_of_lookup_eq_some hname) (by simpa [Import.start] using hmain)

theorem importRecords_holds {tips : BranchTips} {tip : Option String}
    (hready : Ready store tools files log)
    (hsmall : 4 * log.length + 2 * tips.length + 2 < 2 ^ 64) (hlog : (log.map (·.opId)).Nodup)
    (hnames : (tips.map (·.1)).Nodup)
    (hpaths : ∀ branch ∈ tips, ∃ path, Lineage (parentOf log) branch.2 path)
    (hreachable : ∀ id ∈ log.map (·.opId), ∃ branch ∈ tips, ∃ c, branch.2 = some c ∧
      Ancestor log id c)
    (hcurrent : (trim files.currentBranch, tip) ∈ tips)
    (hhead : ∀ c, files.readHead = some c → c ∈ log.map (·.opId)) :
    ∃ i r, importRecords store tools files log tips = .ok i ∧ i.Replays store tools r ∧
      i.activeHead = files.readHead ∧ i.activeBranch = trim files.currentBranch ∧
      (∀ branch ∈ tips, i.importedBranches.lookup branch.1 = some branch.2) ∧
      ∀ id, r.state.historyParents.lookup id = parentOf log id := by
  have hunique : ∀ a ∈ tips, ∀ b ∈ tips, a.1 = b.1 → a = b := fun a ha b hb =>
    List.inj_on_of_nodup_map hnames ha hb
  have hmain : ∀ branch ∈ tips, branch.1 = "main" →
      (tips.find? (·.1 == "main")).bind (·.2) = branch.2 := by
    intro branch hbranch hname
    cases hfind : tips.find? (·.1 == "main") with
    | none =>
      have hnot := List.find?_eq_none.mp hfind branch hbranch
      simp [hname] at hnot
    | some found =>
      have hfound : found.1 = "main" := by simpa using List.find?_some hfind
      rw [hunique found (List.mem_of_find?_eq_some hfind) branch hbranch
        (hfound.trans hname.symm)]
      rfl
  generalize hmainTip : (tips.find? (·.1 == "main")).bind (·.2) = mainTip at hmain
  have hmainPath : ∃ path, Lineage (parentOf log) mainTip path := by
    cases hfind : tips.find? (·.1 == "main") with
    | none =>
      rw [hfind] at hmainTip
      exact ⟨[], hmainTip ▸ .base⟩
    | some found =>
      rw [hfind] at hmainTip
      exact hmainTip ▸ hpaths found (List.mem_of_find?_eq_some hfind)
  obtain ⟨mainPath, hmainPath⟩ := hmainPath
  obtain ⟨i₁, r₁, hrun₁, h₁⟩ := mergeMain tips hready (by omega) hmainPath
  obtain ⟨own, i₂, r₂, hadd, hrun₂, h₂⟩ := h₁.run hready (by omega) hnames hpaths
  rw [List.nil_append] at h₂ hrun₂
  -- every event is on the path of some branch
  have hall : ∀ id ∈ log.map (·.opId), id ∈ mainPath ++ own := by
    intro id hid
    obtain ⟨branch, hbranch, c, hc, hancestor⟩ := hreachable id hid
    obtain ⟨path, hpath⟩ := hpaths branch hbranch
    by_cases hname : branch.1 = "main"
    · have hsame := hmain branch hbranch hname
      rw [hsame, hc] at hmainPath
      exact List.mem_append_left _ (hancestor.mem_path hmainPath)
    · exact h₂.covers branch hbranch hname path hpath id
        (hancestor.mem_path (by rwa [hc] at hpath))
  have hlength : (mainPath ++ own).length = log.length := by
    have hle := (List.subperm_of_subset hlog hall).length_le
    have hge := h₂.holds.length_le h₂.once
    rw [List.length_map] at hle
    omega
  have hsmall₂ := h₂.small
  obtain ⟨r₃, h₃, hnames₃, himported₃, hgeneration₃⟩ := h₂.holds.aliases tips hready
    (by omega) fun branch hbranch c hc => by
      obtain ⟨path, hpath⟩ := hpaths branch hbranch
      rw [hc] at hpath
      obtain ⟨up, hup⟩ := hpath.known hpath.tip_mem
      exact hall c (mem_of_parentOf hup)
  have htips : ∀ branch ∈ tips, (tips.foldl (Import.alias store tools) i₂).importedBranches.lookup
      branch.1 = some branch.2 := by
    intro branch hbranch
    have hmem := (hnames₃ branch.1).mpr (.inr (List.mem_map_of_mem hbranch))
    obtain ⟨found, hfound⟩ := Option.isSome_iff_exists.mp (Finmap.lookup_isSome.mpr hmem)
    have hcorrect : branch.1 = "main" ∧ found = mainTip ∨ (branch.1, found) ∈ tips := by
      rcases himported₃ _ _ hfound with hold | hnew
      · exact h₂.imported _ _ hold
      · exact .inr hnew
    rw [hfound]
    rcases hcorrect with ⟨hname, rfl⟩ | hlisted
    · rw [hmain branch hbranch hname]
    · rw [← hunique _ hlisted branch hbranch rfl]
  obtain ⟨j, r₄, hselect, h₄, hhead₄, hbranch₄, hbranches₄⟩ := h₃.restore hready (by omega)
    (htips _ hcurrent) fun c hc => hall c (hhead c hc)
  refine ⟨_, r₄, ?_, h₄.replays, hhead₄, hbranch₄, ?_, fun id => ?_⟩
  · unfold importRecords
    rw [hmainTip, ancestry_eq hmainPath]
    simp only [bind_eq_ok, pure_eq_ok, ensure_eq_ok, Except.ok.injEq, exists_eq_left']
    refine ⟨mainPath ++ own, hadd, (), hlength, i₂, ?_, j, hselect, rfl⟩
    rw [List.foldlM_append, hrun₁]
    exact hrun₂
  · rw [hbranches₄]
    exact htips
  · rw [h₄.parents]
    split
    · rfl
    · rename_i hnot
      cases hparent : parentOf log id with
      | none => rfl
      | some up => exact absurd (hall id (mem_of_parentOf hparent)) hnot

/-- A frozen copy whose log verifies is imported, and the journal replays to the
HEAD, the current branch, the branch tips and the parents of the copy. -/
theorem legacy_import_preserves_history {copy : FrozenCopy}
    (hdigest : ∀ text, isSha256Hex (tools.digest.text text) = true)
    (h : Importable store tools copy) :
    ∃ imported state, importLegacySession store tools copy = .ok imported ∧
      PortableHistoryState.replayBound tools.digest imported.records store.sessionId
        (importBase store tools) = .ok state ∧
      state.head = copy.files.readHead ∧ state.currentBranch = trim copy.files.currentBranch ∧
      (∀ branch ∈ copy.files.branches,
        state.branches.lookup branch.name = some branch.tipOpId) ∧
      (∀ id, state.historyParents.lookup id = parentOf copy.files.log id) ∧
      (imported.records.map (·.commitId)).Nodup := by
  obtain ⟨events, hread⟩ := h.verified
  have haccepted : copy.files.Accepted store := .of_readEvents hread
  obtain rfl := readEvents_all hread h.reachable
  obtain ⟨hlog, hvalid, _⟩ := checkLog_mem haccepted.log
  obtain ⟨hverified, hhashed⟩ := verifyEvents_of_checkLog haccepted.log
  obtain ⟨tips, htips, hperm⟩ := branchTips_eq h.branchesOnce
  have hmem : ∀ branch, branch ∈ tips ↔
      ∃ info ∈ copy.files.branches, (info.name, info.tipOpId) = branch := by
    intro branch
    rw [hperm.mem_iff, List.mem_map]
  have hnames : (tips.map (·.1)).Perm (copy.files.branches.map (·.name)) := by
    have hmap := hperm.map (·.1)
    rwa [List.map_map] at hmap
  have hready : Ready store tools copy.files copy.files.log := by
    refine ⟨plainEpoch_of_hex (hdigest _), fun id hid => ?_, hhashed, h.materializes⟩
    obtain ⟨event, hevent, rfl⟩ := List.mem_map.mp hid
    refine ⟨fun hempty => ?_, h.plain event hevent⟩
    have hid := hvalid event hevent
    rw [hempty] at hid
    exact absurd hid (by decide)
  have hpaths : ∀ branch ∈ tips, ∃ path, Lineage (parentOf copy.files.log) branch.2 path := by
    intro branch hbranch
    obtain ⟨info, hinfo, rfl⟩ := (hmem branch).mp hbranch
    cases htip : info.tipOpId with
    | none => exact ⟨[], .base⟩
    | some c =>
      have hc := haccepted.tips c (Files.mem_tips.mpr (.inl ⟨info, hinfo, htip⟩))
      obtain ⟨event, hevent, rfl⟩ := List.mem_map.mp hc
      exact h.rooted event hevent
  have hcurrent := (hnames.mem_iff).mpr h.current
  obtain ⟨⟨name, tip⟩, hlisted, hname⟩ := List.mem_map.mp hcurrent
  subst hname
  have hlength := hperm.length_eq
  rw [List.length_map] at hlength
  obtain ⟨i, r, himport, hreplays, hhead, hbranch, hbranches, hparents⟩ :=
    importRecords_holds hready (by have := h.small; omega) hlog (hnames.nodup_iff.mpr h.branchesOnce)
      hpaths (fun id hid => by
        obtain ⟨event, hevent, rfl⟩ := List.mem_map.mp hid
        obtain ⟨info, hinfo, c, hc, hancestor⟩ := h.reachable event hevent
        exact ⟨_, (hmem _).mpr ⟨info, hinfo, rfl⟩, c, hc, hancestor⟩) hlisted
      fun c hc => haccepted.tips c (Files.mem_tips.mpr (.inr hc))
  have hbound : PortableHistoryState.replayBound tools.digest i.records store.sessionId
      (importBase store tools) = .ok r.state :=
    PortableHistoryState.replayBound_eq_ok.mpr
      ⟨fun record hrecord => (hreplays.named record hrecord).owner, r, hreplays.replay, rfl⟩
  refine ⟨⟨store.base, i.records, copy.staged.insertionSort (· ≤ ·)⟩, r.state, ?_, hbound,
    hreplays.head.trans hhead, hreplays.branch.trans hbranch, fun branch hbranch => ?_, hparents,
    (replayFrom_indexes hreplays.replay).commitsOnce⟩
  · unfold importLegacySession
    rw [ensure_pos h.session, h.bound]
    simp only [bind_eq_ok, pure_eq_ok, ensure_eq_ok]
    exact ⟨(), trivial, (), ensure_pos ⟨rfl, rfl⟩ _, _, hread, (), hverified, tips, htips, (), hcurrent,
      i, himport, r.state, hbound, rfl⟩
  · rw [hreplays.branches]
    exact hbranches _ ((hmem _).mpr ⟨branch, hbranch, rfl⟩)

end Copies

/-- A store whose replay rejects rows that are no array. -/
def importStore : Tools Unit := { sampleTools with
  replay := fun _ events => if events.any (·.payload == "\x7b\"rows\":5\x7d") then
    .error "legacy write_matrix rows must be an array" else .ok () }

/-- An event that replay takes note of and nothing else. -/
def auditEvent (opId : String) (parentId : Option String) : OpEvent :=
  { sampleEvent opId parentId with kind := "session.materialize" }

def copyAfter (calls : List Call) : FrozenCopy where
  files := { filesAfter importStore Files.create calls with frozen := true }
  marker := .value ⟨some true, some (importBase importStore sampleSessionTools)⟩
  staged := []

def forkedCopy : FrozenCopy :=
  copyAfter [.append (auditEvent "a" none), .append (auditEvent "b" (some "a")),
    .createBranch "alt" (some "a") none, .createBranch "tag" (some "b") none, .switchBranch "alt",
    .append (auditEvent "c" (some "a")), .undo]

def reachesAll (files : Files) : Bool :=
  match committedIds files.log (files.branches.filterMap (·.tipOpId)) with
  | .ok committed => files.log.all fun event => event.opId ∈ committed
  | .error _ => false

theorem reachesAll_reachable {files : Files} (h : reachesAll files = true) :
    ∀ event ∈ files.log, ∃ branch ∈ files.branches, ∃ tip,
      branch.tipOpId = some tip ∧ Ancestor files.log event.opId tip := by
  unfold reachesAll at h
  split at h
  · rename_i committed hcommitted
    intro event hevent
    have hmem := of_decide_eq_true (List.all_eq_true.mp h event hevent)
    obtain ⟨tip, htip, hancestor⟩ := (committedIds_ok hcommitted).2.2 _ hmem
    obtain ⟨branch, hbranch, hbranchTip⟩ := List.mem_filterMap.mp htip
    exact ⟨branch, hbranch, tip, hbranchTip, hancestor⟩
  · cases h

theorem controlId_head (n : Nat) : (controlId n).toList.head? = some 'i' := by
  unfold controlId
  rw [String.toList_append]
  rfl

/-- Whether the workbooks around an event can be rebuilt. -/
def materializes (files : Files) (event : OpEvent) : Bool :=
  match predecessorBytes importStore files event.parentId,
    files.materializeAt importStore event.opId with
  | .ok before, .ok _ => (logicalWorkbookSha256 sampleSessionTools before).isOk
  | _, _ => false

theorem materializes_iff {files : Files} {event : OpEvent} (h : materializes files event = true) :
    Materializes importStore sampleSessionTools files event := by
  unfold materializes at h
  split at h
  · rename_i before after hbefore hafter
    cases hsha256 : logicalWorkbookSha256 sampleSessionTools before with
    | ok sha256 => exact ⟨before, after, sha256, hbefore, hafter, hsha256⟩
    | error e =>
      rw [hsha256] at h
      cases h
  · cases h

theorem forkedCopy_importable : Importable importStore sampleSessionTools forkedCopy := by
  have hids : forkedCopy.files.log.map (·.opId) = ["a", "b", "c"] := by decide +kernel
  have hparents : ["a", "b", "c"].map (parentOf forkedCopy.files.log) =
      [some none, some (some "a"), some (some "a")] := by decide +kernel
  simp only [List.map_cons, List.map_nil, List.cons.injEq, and_true] at hparents
  obtain ⟨ha, hb, hc⟩ := hparents
  have hpath : ∀ id ∈ ["a", "b", "c"],
      ∃ path, Lineage (parentOf forkedCopy.files.log) (some id) path := by
    intro id hid
    simp only [List.mem_cons, List.not_mem_nil, or_false] at hid
    rcases hid with rfl | rfl | rfl
    · exact ⟨_, .child ha .base⟩
    · exact ⟨_, .child hb (.child ha .base)⟩
    · exact ⟨_, .child hc (.child ha .base)⟩
  have hmem : ∀ event ∈ forkedCopy.files.log, event.opId ∈ ["a", "b", "c"] :=
    fun event hevent => hids ▸ List.mem_map_of_mem hevent
  have hread : (forkedCopy.files.readEvents importStore).isOk = true := by decide +kernel
  have hmaterializes : forkedCopy.files.log.all (materializes forkedCopy.files) = true := by
    decide +kernel
  constructor
  · decide +kernel
  · rfl
  · cases hevents : forkedCopy.files.readEvents importStore with
    | ok events => exact ⟨events, rfl⟩
    | error e =>
      rw [hevents] at hread
      cases hread
  · exact reachesAll_reachable (by decide +kernel)
  · exact fun event hevent => hpath _ (hmem event hevent)
  · decide +kernel
  · decide +kernel
  · intro event hevent n heq
    have hhead := controlId_head n
    rw [← heq] at hhead
    have hfirst : ∀ id ∈ ["a", "b", "c"], id.toList.head? ≠ some 'i' := by decide +kernel
    exact hfirst _ (hmem event hevent) hhead
  · exact fun event hevent => materializes_iff (List.all_eq_true.mp hmaterializes event hevent)
  · decide +kernel

theorem forkedCopy_import_preserves_history :
    Importable importStore sampleSessionTools forkedCopy ∧
    ∃ imported state, importLegacySession importStore sampleSessionTools forkedCopy = .ok imported ∧
      PortableHistoryState.replayBound sampleSessionTools.digest imported.records importStore.sessionId
        (importBase importStore sampleSessionTools) = .ok state ∧
      state.head = some "a" ∧ state.currentBranch = "alt" := by
  have hdigest : isSha256Hex (String.ofList (List.replicate 64 '0')) = true := by decide +kernel
  obtain ⟨imported, state, himport, hreplay, hhead, hbranch, _⟩ :=
    legacy_import_preserves_history (fun _ => hdigest) forkedCopy_importable
  refine ⟨forkedCopy_importable, imported, state, himport, hreplay, hhead.trans ?_,
    hbranch.trans ?_⟩
  · decide +kernel
  · decide +kernel

/-- Copies that are refused: rows that do not replay, an event named like a
control record, a selected branch whose name is trimmed, a cycle, and a branch
named twice. -/
def refusedCopies : List FrozenCopy :=
  [copyAfter [.append { sampleEvent "a" none with
      payload := "\x7b\"rows\":5\x7d", canonicalPayloadHash := "\x7b\"rows\":5\x7d" }],
    copyAfter [.append (auditEvent "import_control_0000000000000002" none),
      .createBranch "alt" none none],
    copyAfter [.createBranch " x" none none, .switchBranch " x"],
    { copyAfter [] with files := { Files.create with
        log := [
          { auditEvent "a" (some "b") with eventHash := some "a" },
          { auditEvent "b" (some "a") with prevEventHash := some "a", eventHash := some "ba" }]
        branches := [⟨"main", some "b", none, none⟩] } },
    { copyAfter [] with files := { Files.create with
        branches := [⟨"main", none, none, none⟩, ⟨"main", none, none, none⟩] } }]

/-- A frozen copy with a verified log and no event out of reach that is refused. -/
def Refused (copy : FrozenCopy) : Prop :=
  (copy.marker = .value ⟨some true, some (importBase importStore sampleSessionTools)⟩) ∧
    (∃ events, copy.files.readEvents importStore = .ok events) ∧
    (∀ event ∈ copy.files.log, ∃ branch ∈ copy.files.branches, ∃ tip,
      branch.tipOpId = some tip ∧ Ancestor copy.files.log event.opId tip) ∧
    ¬ ∃ imported, importLegacySession importStore sampleSessionTools copy = .ok imported

theorem legacy_import_refuses : refusedCopies.length = 5 ∧ refusedCopies.Forall Refused := by
  have hall : refusedCopies.all (fun copy =>
      (copy.marker == .value ⟨some true, some (importBase importStore sampleSessionTools)⟩) &&
      (copy.files.readEvents importStore).isOk && reachesAll copy.files &&
      !(importLegacySession importStore sampleSessionTools copy).isOk) = true := by decide +kernel
  refine ⟨rfl, List.forall_iff_forall_mem.mpr fun copy hcopy => ?_⟩
  have hchecks := List.all_eq_true.mp hall copy hcopy
  simp only [Bool.and_eq_true, beq_iff_eq, Bool.not_eq_true'] at hchecks
  obtain ⟨⟨⟨hmarker, hread⟩, hreach⟩, hrefused⟩ := hchecks
  refine ⟨hmarker, ?_, reachesAll_reachable hreach, ?_⟩
  · cases hevents : copy.files.readEvents importStore with
    | ok events => exact ⟨events, rfl⟩
    | error e =>
      rw [hevents] at hread
      cases hread
  · rintro ⟨imported, himported⟩
    rw [himported] at hrefused
    cases hrefused

end AgentSpreadsheet.Legacy
