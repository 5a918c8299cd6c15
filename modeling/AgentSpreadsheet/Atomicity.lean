import AgentSpreadsheet.Transaction

/-! What a write transaction leaves behind. Nothing of a preview, of a stage or of
a failed atomic apply; of a non-atomic apply the longest prefix of operations
that succeed. -/
namespace AgentSpreadsheet
open Library Library.Exec

section Prefixes
variable (tools : Tools Archive) (policy : FormulaParsePolicy)

/-- All operations in their order, when each of them succeeds. -/
def applyAll : List WriteOp → Workbook → Option Workbook
  | [], book => some book
  | op :: rest, book =>
    match applyWriteOpToWorkbook tools policy op book with
    | (.ok _, book) => applyAll rest book
    | (.error _, _) => none

/-- The first `count` operations succeed into `current`, and no more. -/
structure LongestPrefix (ops : List WriteOp) (book : Workbook) (count : Nat)
    (current : Workbook) : Prop where
  le : count ≤ ops.length
  applies : applyAll tools policy (ops.take count) book = some current
  stops : count < ops.length → applyAll tools policy (ops.take (count + 1)) book = none

/-- A prefix applied, one failed, the rest skipped. -/
structure PrefixResults (ops : List WriteOp) (first count : Nat) (results : List WriteOpResult) :
    Prop where
  named : results.map (fun result => (result.kind, result.index)) =
    (ops.zipIdx first).map fun entry => (entry.1.kind, entry.2)
  statuses : results.map (·.status) = List.replicate count .applied ++
    if count < ops.length then .failed :: List.replicate (ops.length - count - 1) .skipped else []

end Prefixes

section Loops
variable {tools : Tools Archive} {policy : FormulaParsePolicy} {ops : List WriteOp}
  {book current : Workbook} {count : Nat}

theorem LongestPrefix.cons {op : WriteOp} {detail : String} {next : Workbook}
    (hop : applyWriteOpToWorkbook tools policy op book = (.ok detail, next))
    (h : LongestPrefix tools policy ops next count current) :
    LongestPrefix tools policy (op :: ops) book (count + 1) current where
  le := Nat.succ_le_succ h.le
  applies := by
    rw [List.take_succ_cons, applyAll, hop]
    exact h.applies
  stops := by
    intro hlt
    rw [List.take_succ_cons, applyAll, hop]
    exact h.stops (by simpa using hlt)

theorem LongestPrefix.failed {op : WriteOp} {error : String} {next : Workbook}
    (hop : applyWriteOpToWorkbook tools policy op book = (.error error, next)) :
    LongestPrefix tools policy (op :: ops) book 0 book where
  le := Nat.zero_le _
  applies := rfl
  stops := by
    intro _
    rw [List.take_succ_cons, applyAll, hop]

theorem LongestPrefix.nil : LongestPrefix tools policy [] book 0 book where
  le := le_rfl
  applies := rfl
  stops := by simp

/-- A loop over the operations that stops at the first failure. `left` is the
workbook it keeps then, of the one before the operation and the one after it. -/
structure WriteLoop (tools : Tools Archive) (policy : FormulaParsePolicy)
    (left : Workbook → Workbook → Workbook)
    (step : Workbook × List WriteOpResult × Option Nat → WriteOp × Nat →
      Workbook × List WriteOpResult × Option Nat) : Prop where
  skips : ∀ book results failed op index, step (book, results, some failed) (op, index) =
    (book, results ++ [skippedResult index op], some failed)
  applies : ∀ book results op index detail next,
    applyWriteOpToWorkbook tools policy op book = (.ok detail, next) →
    step (book, results, none) (op, index) =
      (next, results ++ [appliedResult index op detail], none)
  fails : ∀ book results op index error next,
    applyWriteOpToWorkbook tools policy op book = (.error error, next) →
    step (book, results, none) (op, index) =
      (left book next, results ++ [writeError index op error], some index)

variable {left : Workbook → Workbook → Workbook}
  {step : Workbook × List WriteOpResult × Option Nat → WriteOp × Nat →
    Workbook × List WriteOpResult × Option Nat}

theorem WriteLoop.skip_all (h : WriteLoop tools policy left step) (first failed : Nat)
    (results : List WriteOpResult) :
    (ops.zipIdx first).foldl step (book, results, some failed) =
      (book, results ++ (ops.zipIdx first).map fun entry => skippedResult entry.2 entry.1,
        some failed) := by
  induction ops generalizing first results with
  | nil => simp
  | cons op rest ih =>
    rw [List.zipIdx_cons, List.foldl_cons, h.skips, ih, List.map_cons, List.append_assoc]
    rfl

/-- The loop finds the longest prefix that succeeds. -/
theorem WriteLoop.run (h : WriteLoop tools policy left step) (ops : List WriteOp) (first : Nat)
    (book : Workbook) (results : List WriteOpResult) :
    ∃ count current entries final, LongestPrefix tools policy ops book count current ∧
      PrefixResults ops first count entries ∧
      (ops.zipIdx first).foldl step (book, results, none) =
        (final, results ++ entries, if count < ops.length then some (first + count) else none) ∧
      if count < ops.length then ∃ next, final = left current next else final = current := by
  induction ops generalizing first book results with
  | nil => exact ⟨0, book, [], book, .nil, ⟨rfl, rfl⟩, by simp, rfl⟩
  | cons op rest ih =>
    rw [List.zipIdx_cons, List.foldl_cons]
    cases hop : applyWriteOpToWorkbook tools policy op book with
    | mk result next =>
      cases result with
      | ok detail =>
        rw [h.applies _ _ _ _ _ _ hop]
        obtain ⟨count, current, entries, final, hlongest, hentries, hrun, hfinal⟩ :=
          ih (first + 1) next (results ++ [appliedResult first op detail])
        refine ⟨count + 1, current, appliedResult first op detail :: entries, final,
          hlongest.cons hop, ⟨?_, ?_⟩, ?_, ?_⟩
        · rw [List.map_cons, hentries.named, List.zipIdx_cons, List.map_cons]
          rfl
        · rw [List.map_cons, hentries.statuses, List.replicate_succ, List.length_cons]
          simp only [Nat.add_lt_add_iff_right, Nat.add_sub_add_right, List.cons_append]
          rfl
        · rw [hrun, List.append_assoc, List.length_cons]
          simp only [Nat.add_lt_add_iff_right, List.singleton_append]
          rw [Nat.add_assoc, Nat.add_comm 1 count]
        · simpa using hfinal
      | error error =>
        rw [h.fails _ _ _ _ _ _ hop, h.skip_all]
        refine ⟨0, book, writeError first op error ::
          (rest.zipIdx (first + 1)).map (fun entry => skippedResult entry.2 entry.1),
          left book next, .failed hop, ⟨?_, ?_⟩, ?_, ?_⟩
        · simp [writeError, skippedResult, List.zipIdx_cons, Function.comp_def]
        · rw [List.map_cons, List.map_map, if_pos (by simp), List.length_cons]
          simp only [List.replicate_zero, List.nil_append, Nat.sub_zero, Nat.add_sub_cancel]
          congr 1
          rw [List.eq_replicate_iff]
          refine ⟨by simp, fun status hstatus => ?_⟩
          obtain ⟨entry, _, rfl⟩ := List.mem_map.mp hstatus
          rfl
        · simp
        · rw [if_pos (by simp)]
          exact ⟨next, rfl⟩

theorem PrefixResults.applied {first : Nat} {entries : List WriteOpResult}
    (h : PrefixResults ops first count entries) :
    (entries.filter fun result => result.status = .applied).length = count := by
  have hcount : (entries.filter fun result => result.status = .applied).length =
      (entries.map (·.status)).countP fun status => status = .applied := by
    rw [List.countP_map, List.countP_eq_length_filter]
    rfl
  rw [hcount, h.statuses, List.countP_append, List.countP_replicate, if_pos (by simp)]
  by_cases hlt : count < ops.length
  · rw [if_pos hlt, List.countP_cons, List.countP_replicate]
    simp
  · simp [hlt]

theorem writeLoop_each (tools : Tools Archive) (policy : FormulaParsePolicy) :
    WriteLoop tools policy (fun before _ => before)
      (fun (current, results, failure) (op, index) =>
        if failure.isSome then (current, results ++ [skippedResult index op], failure)
        else
          match applyWriteOpToWorkbook tools policy op current with
          | (.ok detail, candidate) => (candidate, results ++ [appliedResult index op detail], none)
          | (.error error, _) => (current, results ++ [writeError index op error], some index)) := by
  refine ⟨fun _ _ _ _ _ => rfl, fun _ _ _ _ _ _ hop => ?_, fun _ _ _ _ _ _ hop => ?_⟩
  · simp [hop]
  · simp [hop]

theorem writeLoop_candidate (tools : Tools Archive) (policy : FormulaParsePolicy) :
    WriteLoop tools policy (fun _ after => after)
      (fun (candidate, results, failure) (op, index) =>
        if failure.isSome then (candidate, results ++ [skippedResult index op], failure)
        else
          match applyWriteOpToWorkbook tools policy op candidate with
          | (.ok detail, candidate) => (candidate, results ++ [appliedResult index op detail], none)
          | (.error error, candidate) =>
            (candidate, results ++ [writeError index op error], some index)) := by
  refine ⟨fun _ _ _ _ _ => rfl, fun _ _ _ _ _ _ hop => ?_, fun _ _ _ _ _ _ hop => ?_⟩
  · simp [hop]
  · simp [hop]

theorem applyEach_loop (tools : Tools Archive) (policy : FormulaParsePolicy)
    (original : Workbook) (ops : List WriteOp) :
    ∃ count current results, LongestPrefix tools policy ops original count current ∧
      PrefixResults ops 0 count results ∧
      applyEach tools policy original ops =
        (current, results, if count < ops.length then some count else none) := by
  obtain ⟨count, current, entries, final, hlongest, hentries, hrun, hfinal⟩ :=
    (writeLoop_each tools policy).run ops 0 original []
  refine ⟨count, current, entries, hlongest, hentries, ?_⟩
  have hsame : final = current := by
    split at hfinal
    · obtain ⟨_, rfl⟩ := hfinal
      rfl
    · exact hfinal
  subst hsame
  rw [List.nil_append, Nat.zero_add] at hrun
  exact hrun

theorem applyCandidate_loop (tools : Tools Archive) (policy : FormulaParsePolicy)
    (original : Workbook) (ops : List WriteOp) :
    ∃ count current results final, LongestPrefix tools policy ops original count current ∧
      PrefixResults ops 0 count results ∧
      applyCandidate tools policy original ops =
        (final, results, if count < ops.length then some count else none) ∧
      (count = ops.length → final = current) := by
  obtain ⟨count, current, entries, final, hlongest, hentries, hrun, hfinal⟩ :=
    (writeLoop_candidate tools policy).run ops 0 original []
  refine ⟨count, current, entries, final, hlongest, hentries, ?_, fun hall => ?_⟩
  · rw [List.nil_append, Nat.zero_add] at hrun
    exact hrun
  · rwa [if_neg (by omega)] at hfinal

end Loops

def Backend.Unchanged (backend : Backend σ Archive) (s t : σ) : Prop :=
  backend.document t = backend.document s ∧ backend.revision t = backend.revision s

/-- What a transaction relies on of a backend in the states it starts from. -/
structure Backend.Lawful (backend : Backend σ Archive) (ready : σ → Prop) : Prop where
  snapshots : ∀ s, backend.Unchanged s (backend.snapshot s).2
  reads : ∀ s snapshot t, ready s → backend.snapshot s = (.ok snapshot, t) →
    backend.document s = some snapshot.bytes
  commits : ∀ s expected bytes kinds revision t,
    backend.commit expected bytes kinds s = (.ok revision, t) → backend.document t = some bytes
  stages : ∀ s expected bundle label impact diff,
    backend.document (backend.stage expected bundle label impact diff s).2 = backend.document s
  refuses : ∀ s expected bundle label impact diff error t,
    backend.stage expected bundle label impact diff s = (.error error, t) →
    backend.revision t = backend.revision s

section Backends
variable (digest : Digest Archive)

theorem byteBackend_lawful (revisionId : String) :
    (byteBackend digest revisionId).Lawful fun s => s.committed = none := by
  refine ⟨fun _ => ⟨rfl, rfl⟩, fun s snapshot t hready h => ?_,
    fun s expected bytes kinds revision t h => ?_, fun _ _ _ _ _ _ => rfl,
    fun s _ _ _ _ _ _ t h => ?_⟩
  · change some (s.committed.getD s.bytes) = _
    rw [hready, ← Except.ok.inj (Prod.mk.inj h).1]
    rfl
  · simp only [byteBackend, bind_ok_iff, guard_ok_iff, pure_ok_iff] at h
    obtain ⟨_, _, _, _, _, ⟨_, rfl⟩, _, _, hmodify, _, rfl⟩ := h
    rw [← (Prod.mk.inj hmodify).2]
    rfl
  · rw [← (Prod.mk.inj h).2]

theorem ForkContext.syncRevisions_ends (fork : ForkContext Archive) (changeId revisionId : String) :
    Ends (ForkContext.syncRevisions digest) fork
      (fun revision fork' => (forkBackend digest changeId revisionId).Unchanged fork fork' ∧
        (forkBackend digest changeId revisionId).revision fork = some revision)
      (fun fork' => fork' = fork) := by
  unfold ForkContext.syncRevisions
  refine ends_get_bind (ends_lift_bind (fun bytes hbytes => ?_) fun _ _ => rfl)
  rw [required_eq_ok] at hbytes
  change (forkBackend digest changeId revisionId).Unchanged fork _ ∧
    (forkBackend digest changeId revisionId).revision fork = some _
  unfold Backend.Unchanged forkBackend
  dsimp only
  split
  · rename_i hchanged
    simp [hbytes, hchanged]
  · rename_i hsame
    simp [hbytes, hsame]

theorem forkBackend_lawful (changeId revisionId : String) :
    (forkBackend digest changeId revisionId).Lawful fun _ => True := by
  have hsync := fun fork => ForkContext.syncRevisions_ends digest fork changeId revisionId
  have hstage : ∀ fork expected bundle label impact diff,
      Ends ((forkBackend digest changeId revisionId).stage expected bundle label impact diff) fork
        (fun _ t => t.workFile = fork.workFile)
        (fun t => (forkBackend digest changeId revisionId).Unchanged fork t) := by
    intro fork expected bundle label impact diff
    refine Ends.bind ((hsync fork).mono (fun _ _ h => h) fun _ h => h ▸ ⟨rfl, rfl⟩) ?_
    rintro revision t ⟨hsame, _⟩
    refine ends_guard_bind (fun _ => ?_) fun _ => hsame
    exact ends_modify_bind hsame.1
  refine ⟨fun fork => ?_, fun fork snapshot t _ h => ?_,
    fun fork expected bytes kinds revision t h => ?_, fun fork expected bundle label impact diff => ?_,
    fun fork expected bundle label impact diff error t h => ?_⟩
  · refine Ends.final (P := (forkBackend digest changeId revisionId).Unchanged fork) ?_
    refine Ends.bind ((hsync fork).mono (fun _ _ h => h) fun _ h => h ▸ ⟨rfl, rfl⟩) ?_
    rintro revision t ⟨hsame, _⟩
    exact ends_get_bind (ends_lift_bind (fun _ _ => hsame) fun _ _ => hsame)
  · simp only [forkBackend, bind_ok_iff, lift_ok_iff, pure_ok_iff, required_eq_ok] at h
    obtain ⟨revision, t₁, hrevision, _, _, hget, bytes, _, ⟨hbytes, rfl⟩, rfl, _⟩ := h
    obtain ⟨hsame, _⟩ := (hsync fork).ok hrevision
    obtain ⟨hfork, rfl⟩ := Prod.mk.inj hget
    rw [← Except.ok.inj hfork] at hbytes
    exact hsame.1.symm.trans hbytes
  · simp only [forkBackend, bind_ok_iff, guard_ok_iff, pure_ok_iff] at h
    obtain ⟨_, _, _, _, _, ⟨_, rfl⟩, _, _, hmodify, _, rfl⟩ := h
    rw [← (Prod.mk.inj hmodify).2]
    rfl
  · exact ((hstage fork expected bundle label impact diff).mono (fun _ _ h => h)
      fun _ h => h.1).final
  · exact ((hstage fork expected bundle label impact diff).error h).2

end Backends

/-- What a transaction does to the document and the revision, in each mode. -/
structure WritesAtomically (tools : Tools Archive) (backend : Backend σ Archive)
    (ready : σ → Prop) : Prop where
  preview : ∀ request s, request.mode = .preview →
    backend.Unchanged s (executeWriteTransaction tools backend request s).2
  stage : ∀ request s, request.mode = .stage →
    backend.document (executeWriteTransaction tools backend request s).2 = backend.document s ∧
    (backend.revision (executeWriteTransaction tools backend request s).2 = backend.revision s ∨
      ∃ response changeId, (executeWriteTransaction tools backend request s).1 = .ok response ∧
        response.status = .staged changeId)
  atomic : ∀ request s bytes original count current, ready s → request.mode = .apply →
    request.atomic = true → backend.document s = some bytes →
    tools.xlsx.readReader bytes = .ok original →
    LongestPrefix tools (request.formulaParsePolicy.getD .warn) request.ops original count current →
    count < request.ops.length →
    backend.Unchanged s (executeWriteTransaction tools backend request s).2
  each : ∀ request s response, ready s → request.mode = .apply → request.atomic = false →
    (executeWriteTransaction tools backend request s).1 = .ok response →
    ∃ bytes original count current, backend.document s = some bytes ∧
      tools.xlsx.readReader bytes = .ok original ∧
      LongestPrefix tools (request.formulaParsePolicy.getD .warn) request.ops original count
        current ∧
      PrefixResults request.ops 0 count response.results ∧ response.ops = count ∧
      if count = 0 then backend.Unchanged s (executeWriteTransaction tools backend request s).2
      else ∃ after, tools.xlsx.writeWriter 0 current = .ok after ∧
        backend.document (executeWriteTransaction tools backend request s).2 = some after

section Transactions
variable {tools : Tools Archive} {backend : Backend σ Archive} {ready : σ → Prop}
  {request : WriteRequest} {s : σ}

theorem applyAll_append (policy : FormulaParsePolicy) (ops more : List WriteOp) (book : Workbook) :
    applyAll tools policy (ops ++ more) book =
      (applyAll tools policy ops book).bind (applyAll tools policy more) := by
  induction ops generalizing book with
  | nil => rfl
  | cons op rest ih =>
    rw [List.cons_append, applyAll, applyAll]
    split
    · exact ih _
    · rfl

/-- A prefix that is not everything is one before a failure. -/
theorem LongestPrefix.lt_iff {policy : FormulaParsePolicy} {ops : List WriteOp}
    {book current : Workbook} {count : Nat} (h : LongestPrefix tools policy ops book count current) :
    count < ops.length ↔ applyAll tools policy ops book = none := by
  constructor
  · intro hlt
    rw [← List.take_append_drop (count + 1) ops, applyAll_append, h.stops hlt]
    rfl
  · intro hnone
    by_contra hge
    have happlies := h.applies
    rw [List.take_of_length_le (by omega), hnone] at happlies
    cases happlies

theorem executeWriteTransaction_cases (hlawful : backend.Lawful ready) (request : WriteRequest)
    (s : σ) :
    (backend.Unchanged s (executeWriteTransaction tools backend request s).2 ∧
      ∃ error, (executeWriteTransaction tools backend request s).1 = .error error) ∨
    ∃ snapshot t original, backend.snapshot s = (.ok snapshot, t) ∧ backend.Unchanged s t ∧
      tools.xlsx.readReader snapshot.bytes = .ok original ∧
      executeWriteTransaction tools backend request s =
        if request.mode = .preview ∨ request.mode = .stage ∨ request.atomic = true then
          executeOnCandidate tools backend snapshot request original t
        else executeEach tools backend snapshot request original t := by
  unfold executeWriteTransaction
  simp only [bind_apply, lift_apply, guard_apply]
  cases validateRequest tools request with
  | error e => exact .inl ⟨⟨rfl, rfl⟩, e, rfl⟩
  | ok _ =>
    dsimp only [Exec.get]
    cases backend.validateResource request.resourceId s with
    | error e => exact .inl ⟨⟨rfl, rfl⟩, e, rfl⟩
    | ok _ =>
      dsimp only
      by_cases hstage : request.mode = .stage → backend.supportsStage = true
      · rw [if_pos hstage]
        dsimp only
        have hsame := hlawful.snapshots s
        cases hsnapshot : backend.snapshot s with
        | mk result t =>
          rw [hsnapshot] at hsame
          cases result with
          | error e => exact .inl ⟨hsame, e, rfl⟩
          | ok snapshot =>
            dsimp only
            by_cases hrevision : request.expectedRevision = snapshot.revision
            · rw [if_pos hrevision]
              dsimp only
              cases hread : tools.xlsx.readReader snapshot.bytes with
              | error e => exact .inl ⟨hsame, e, rfl⟩
              | ok original =>
                refine .inr ⟨snapshot, t, original, rfl, hsame, hread, ?_⟩
                dsimp only
                split <;> rfl
            · rw [if_neg hrevision]
              exact .inl ⟨hsame, _, rfl⟩
      · rw [if_neg hstage]
        exact .inl ⟨⟨rfl, rfl⟩, _, rfl⟩

section Candidates
variable {snapshot : WriteSnapshot Archive} {original : Workbook} {t : σ}

theorem executeOnCandidate_failed
    (hfailure : (applyCandidate tools (request.formulaParsePolicy.getD .warn) original
      request.ops).2.2.isSome = true) :
    (executeOnCandidate tools backend snapshot request original t).2 = t := by
  refine Ends.final (P := fun t' => t' = t) ?_
  unfold executeOnCandidate
  dsimp only
  rw [if_pos hfailure]
  split
  · exact ends_pure rfl
  · exact ends_lift_bind (fun _ _ => ends_lift_bind (fun _ _ => ends_pure rfl) fun _ _ => rfl)
      fun _ _ => rfl

theorem executeOnCandidate_preview (hmode : request.mode = .preview) :
    (executeOnCandidate tools backend snapshot request original t).2 = t := by
  by_cases hfailure : (applyCandidate tools (request.formulaParsePolicy.getD .warn) original
    request.ops).2.2.isSome = true
  · exact executeOnCandidate_failed hfailure
  · refine Ends.final (P := fun t' => t' = t) ?_
    unfold executeOnCandidate
    dsimp only
    rw [if_neg hfailure]
    refine ends_lift_bind (fun _ _ => ends_lift_bind (fun _ _ => ?_) fun _ _ => rfl) fun _ _ => rfl
    unfold settleCandidate
    rw [hmode]
    exact ends_pure rfl

theorem executeOnCandidate_stage (hlawful : backend.Lawful ready) (hmode : request.mode = .stage) :
    backend.document (executeOnCandidate tools backend snapshot request original t).2 =
        backend.document t ∧
      (backend.revision (executeOnCandidate tools backend snapshot request original t).2 =
          backend.revision t ∨
        ∃ response changeId, (executeOnCandidate tools backend snapshot request original t).1 =
          .ok response ∧ response.status = .staged changeId) := by
  by_cases hfailure : (applyCandidate tools (request.formulaParsePolicy.getD .warn) original
    request.ops).2.2.isSome = true
  · rw [executeOnCandidate_failed hfailure]
    exact ⟨rfl, .inl rfl⟩
  · unfold executeOnCandidate
    dsimp only
    rw [if_neg hfailure]
    simp only [bind_apply, lift_apply]
    cases tools.xlsx.writeWriter 0 (applyCandidate tools (request.formulaParsePolicy.getD .warn)
      original request.ops).1 with
    | error e => exact ⟨rfl, .inl rfl⟩
    | ok candidateBytes =>
      dsimp only
      cases tools.diffBytes snapshot.bytes candidateBytes with
      | error e => exact ⟨rfl, .inl rfl⟩
      | ok diff =>
        dsimp only
        unfold settleCandidate
        rw [hmode]
        simp only [bind_apply]
        have hstages := hlawful.stages t snapshot.revision ⟨request.label, snapshot.contentRevision,
          (writeImpact request.ops).risk, true, request.ops, request.formulaParsePolicy⟩
          request.label (writeImpact request.ops) diff
        have hrefuses := hlawful.refuses t snapshot.revision ⟨request.label,
          snapshot.contentRevision, (writeImpact request.ops).risk, true, request.ops,
          request.formulaParsePolicy⟩ request.label (writeImpact request.ops) diff
        cases hstage : backend.stage snapshot.revision ⟨request.label, snapshot.contentRevision,
          (writeImpact request.ops).risk, true, request.ops, request.formulaParsePolicy⟩
          request.label (writeImpact request.ops) diff t with
        | mk result t' =>
          rw [hstage] at hstages
          cases result with
          | error e => exact ⟨hstages, .inl (hrefuses e t' hstage)⟩
          | ok staged =>
            refine ⟨hstages, .inr ⟨_, staged.1, rfl, ?_⟩⟩
            simp [canonicalResponseFromPrepared, hmode]

end Candidates

theorem canonicalResponse_each (tools : Tools Archive) {before after : String}
    {results : List WriteOpResult} {diff : WriteDiff} {impact : WriteImpact} {failure : Option Nat}
    {applied : Nat} (hmode : request.mode = .apply) (hatomic : request.atomic = false) :
    (canonicalResponseFromPrepared tools request before after results diff impact failure applied
        none).results = results ∧
      (canonicalResponseFromPrepared tools request before after results diff impact failure applied
        none).ops = applied := by
  unfold canonicalResponseFromPrepared
  cases failure with
  | none => simp [hmode]
  | some index => simp [hmode, hatomic]

theorem Backend.Lawful.writesAtomically (hlawful : backend.Lawful ready) (tools : Tools Archive) :
    WritesAtomically tools backend ready := by
  constructor
  · intro request s hmode
    rcases executeWriteTransaction_cases hlawful request s with
      ⟨hsame, _⟩ | ⟨snapshot, t, original, _, hsame, _, hrun⟩
    · exact hsame
    · rw [hrun, if_pos (.inl hmode), executeOnCandidate_preview hmode]
      exact hsame
  · intro request s hmode
    rcases executeWriteTransaction_cases hlawful request s with
      ⟨hsame, _⟩ | ⟨snapshot, t, original, _, hsame, _, hrun⟩
    · exact ⟨hsame.1, .inl hsame.2⟩
    · rw [hrun, if_pos (.inr (.inl hmode)), ← hsame.1, ← hsame.2]
      exact executeOnCandidate_stage hlawful hmode
  · intro request s bytes original count current hready _ hatomic hdocument hread hlongest hlt
    rcases executeWriteTransaction_cases hlawful request s with
      ⟨hsame, _⟩ | ⟨snapshot, t, original', hsnapshot, hsame, hread', hrun⟩
    · exact hsame
    · have hbytes := (hlawful.reads s snapshot t hready hsnapshot).symm.trans hdocument
      rw [Option.some.inj hbytes, hread] at hread'
      obtain rfl := Except.ok.inj hread'
      obtain ⟨count', _, _, _, hlongest', _, hloop, _⟩ := applyCandidate_loop tools
        (request.formulaParsePolicy.getD .warn) original request.ops
      have hfailure : (applyCandidate tools (request.formulaParsePolicy.getD .warn) original
          request.ops).2.2.isSome = true := by
        rw [hloop, if_pos (hlongest'.lt_iff.mpr (hlongest.lt_iff.mp hlt))]
        rfl
      rw [hrun, if_pos (.inr (.inr hatomic)), executeOnCandidate_failed hfailure]
      exact hsame
  · intro request s response hready hmode hatomic hok
    rcases executeWriteTransaction_cases hlawful request s with
      ⟨_, error, herror⟩ | ⟨snapshot, t, original, hsnapshot, hsame, hread, hrun⟩
    · rw [hok] at herror
      cases herror
    rw [if_neg (by simp [hmode, hatomic])] at hrun
    obtain ⟨count, current, results, hlongest, hresults, hloop⟩ := applyEach_loop tools
      (request.formulaParsePolicy.getD .warn) original request.ops
    have hdocument := hlawful.reads s snapshot t hready hsnapshot
    cases hend : executeWriteTransaction tools backend request s with
    | mk result t' =>
      rw [hend] at hok hrun
      obtain rfl : result = .ok response := hok
      have heach := hrun.symm
      simp only [executeEach, hloop, bind_ok_iff, lift_ok_iff, pure_ok_iff,
        hresults.applied] at heach
      obtain ⟨after, _, ⟨hafter, rfl⟩, diff, _, ⟨_, rfl⟩, revisionAfter, _, hcommit, rfl, rfl⟩ :=
        heach
      refine ⟨snapshot.bytes, original, count, current, hdocument, hread, hlongest, ?_, ?_, ?_⟩
      · rw [(canonicalResponse_each tools hmode hatomic).1]
        exact hresults
      · exact (canonicalResponse_each tools hmode hatomic).2
      · unfold commitApplied at hcommit
        split
        · rename_i hzero
          rw [if_neg (by omega), pure_ok_iff] at hcommit
          rw [← hcommit.2]
          exact hsame
        · rw [if_pos (by omega)] at hcommit
          exact ⟨after, hafter, hlawful.commits _ _ _ _ _ _ hcommit⟩

end Transactions

/-- Over both backends: a preview and a failed atomic apply leave document and
revision as they were, a stage leaves the document, and a non-atomic apply leaves
the longest prefix of operations that succeed. -/
theorem write_transaction_atomicity (tools : Tools Archive) (changeId revisionId : String) :
    WritesAtomically tools (byteBackend tools.digest revisionId) (fun s => s.committed = none) ∧
      WritesAtomically tools (forkBackend tools.digest changeId revisionId) fun _ => True :=
  ⟨(byteBackend_lawful tools.digest revisionId).writesAtomically tools,
    (forkBackend_lawful tools.digest changeId revisionId).writesAtomically tools⟩

def sampleFork : ForkContext Unit where
  forkId := "f"
  workFile := some ()
  contentRevision := String.ofList (List.replicate 64 '0')
  stateRevision := "state:before"
  stagedChanges := []
  canonicalOperations := []
  recalcNeeded := false

def sampleStageRequest : WriteRequest where
  resourceId := ⟨.fork, "f"⟩
  expectedRevision := "state:before"
  mode := .stage
  atomic := true
  ops := [.setCells "Sheet1" [((1, 1), .value (.string "x"))] false]
  label := none
  formulaParsePolicy := none

/-- A staged change is a state of its own: the fork's revision moves. -/
theorem stage_moves_revision :
    (forkBackend sampleDigest "chg" "after").revision sampleFork = some "state:before" ∧
      (forkBackend sampleDigest "chg" "after").revision
        (executeWriteTransaction sampleSessionTools (forkBackend sampleDigest "chg" "after")
          sampleStageRequest sampleFork).2 = some "state:after" := by
  decide +kernel

end AgentSpreadsheet
