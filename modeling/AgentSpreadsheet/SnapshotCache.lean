import AgentSpreadsheet.Workbook

/-! Coherence of the snapshot capture. The capture is keyed by the revision it
was made at, so it may be reused as long as no other document can be current
under that revision. Counters only grow, except when an identity is restored. -/
namespace AgentSpreadsheet
open Library

/-- A revision that the current one can no longer become by counting up. -/
def ResidentRevision.Superseded (current old : ResidentRevision) : Prop :=
  old.epoch ≠ current.epoch ∨ old.state < current.state ∨ old.document < current.document

instance (current old : ResidentRevision) : Decidable (current.Superseded old) :=
  inferInstanceAs (Decidable (_ ∨ _))

/-- The calls of a resident workbook, with what the engine answers to them. -/
inductive ResidentCall (Archive : Type) where
  | snapshotBytes
  | exportBytes
  | publishPreparedCells (synchronized : Bool) (effects : List ResidentPreparedCellEffect)
  | recoverPreparedCells (synchronized : Bool) (effects : List ResidentPreparedCellEffect)
  | restoreRevisionIdentity (revision : ResidentRevision)
  | prepareCalculation (engine : ResidentWorkbook.EngineRun)
  | prepareExternalCalculation (engine : ResidentWorkbook.EngineRun)
  | publishPreparedCalculation (evaluation : EvaluatorEvaluation) (coverage : EvaluationCoverage)
  | advanceMetadataState
  | markRestartBoundary
  | replaceFromBytes (bytes : Archive) (effect : ResidentCalculationEffect)
  | applyWriteMatrices (synchronized : Bool) (ops : List SessionTransformOp)
  | invalidateAfterUnsupportedChange
  | recalculate (engine : ResidentWorkbook.EngineRun)
  | revokeCalculationProof

namespace ResidentCall
variable (xlsx : Xlsx Archive)

/-- The workbook after a call, whatever the call returned. -/
def run (w : ResidentWorkbook Archive) : ResidentCall Archive → ResidentWorkbook Archive
  | .snapshotBytes => (w.snapshotBytes xlsx).2
  | .exportBytes => (w.exportBytes xlsx).2
  | .publishPreparedCells synchronized effects =>
    (w.publishPreparedCells xlsx synchronized effects).2
  | .recoverPreparedCells synchronized effects =>
    (w.recoverPreparedCells xlsx synchronized effects).2
  | .restoreRevisionIdentity revision => w.restoreRevisionIdentity revision
  | .prepareCalculation engine => (w.prepareCalculation xlsx engine).2
  | .prepareExternalCalculation engine => (w.prepareExternalCalculation xlsx engine).2
  | .publishPreparedCalculation evaluation coverage =>
    (w.publishPreparedCalculation xlsx evaluation coverage).2
  | .advanceMetadataState => w.advanceMetadataState
  | .markRestartBoundary => w.markRestartBoundary
  | .replaceFromBytes bytes effect => (w.replaceFromBytes xlsx bytes effect).2
  | .applyWriteMatrices synchronized ops => (w.applyWriteMatrices xlsx synchronized ops).2
  | .invalidateAfterUnsupportedChange => w.invalidateAfterUnsupportedChange
  | .recalculate engine => (w.recalculate xlsx engine).2
  | .revokeCalculationProof => w.revokeCalculationProof

end ResidentCall

namespace ResidentWorkbook
variable (xlsx : Xlsx Archive)

/-- Whenever the capture has the current revision it is a serialisation of the
current document. -/
def Coherent (w : ResidentWorkbook Archive) : Prop :=
  ∀ revision bytes, w.snapshot = some (revision, bytes) → revision = w.revisions →
    xlsx.Serialises w.document bytes

/-- The inductive form: a capture is current and exact, or can never be current
again by counting. -/
def CaptureSound (w : ResidentWorkbook Archive) : Prop :=
  ∀ revision bytes, w.snapshot = some (revision, bytes) →
    w.revisions.Superseded revision ∨
      revision = w.revisions ∧ xlsx.Serialises w.document bytes

def CountersBelowMax (w : ResidentWorkbook Archive) : Prop :=
  w.revisions.document.toNat + 1 < 2 ^ 64 ∧ w.revisions.state.toNat + 1 < 2 ^ 64

def CapturedNow (w : ResidentWorkbook Archive) : Prop :=
  ∃ bytes, w.snapshot = some (w.revisions, bytes)

variable {xlsx} {w w' : ResidentWorkbook Archive}

theorem not_superseded_self (r : ResidentRevision) : ¬ r.Superseded r := by
  rintro (h | h | h)
  · exact h rfl
  · exact (UInt64.lt_irrefl _) h
  · exact (UInt64.lt_irrefl _) h

theorem CaptureSound.coherent (h : w.CaptureSound xlsx) : w.Coherent xlsx := by
  intro revision bytes hcapture hcurrent
  rcases h revision bytes hcapture with hold | ⟨_, hexact⟩
  · exact absurd (hcurrent ▸ hold) (not_superseded_self _)
  · exact hexact

/-- Without a capture there is nothing to keep coherent. -/
theorem CaptureSound.of_none (xlsx : Xlsx Archive) (h : w.snapshot = none) : w.CaptureSound xlsx := by
  intro revision bytes hcapture
  rw [h] at hcapture
  cases hcapture

theorem CaptureSound.same (h : w.CaptureSound xlsx) (hrevision : w'.revisions = w.revisions)
    (hdocument : w'.document = w.document) (hcapture : w'.snapshot = w.snapshot) :
    w'.CaptureSound xlsx := by
  intro revision bytes hsome
  rw [hcapture] at hsome
  rw [hrevision, hdocument]
  exact h revision bytes hsome

/-- Calls that count up keep every capture out of reach, whatever they do to the
document. -/
theorem CaptureSound.advance (h : w.CaptureSound xlsx)
    (hepoch : w'.revisions.epoch = w.revisions.epoch)
    (hstate : w.revisions.state < w'.revisions.state)
    (hdocument : w.revisions.document ≤ w'.revisions.document)
    (hcapture : w'.snapshot = w.snapshot) : w'.CaptureSound xlsx := by
  intro revision bytes hsome
  rw [hcapture] at hsome
  refine Or.inl ?_
  rcases h revision bytes hsome with (hold | hold | hold) | ⟨rfl, _⟩
  · exact Or.inl (hepoch ▸ hold)
  · exact Or.inr (Or.inl (UInt64.lt_trans hold hstate))
  · exact Or.inr (Or.inr (UInt64.lt_of_lt_of_le hold hdocument))
  · exact Or.inr (Or.inl hstate)

theorem lt_succ_of_below {n : UInt64} (h : n.toNat + 1 < 2 ^ 64) : n < n + 1 := by
  rw [UInt64.lt_iff_toNat_lt, UInt64.toNat_add, UInt64.toNat_one, Nat.mod_eq_of_lt h]
  exact Nat.lt_succ_self _

theorem CaptureSound.advanceDocument (h : w.CaptureSound xlsx) (hmax : w.CountersBelowMax)
    (hrevision : w'.revisions = w.advanceDocument.revisions)
    (hcapture : w'.snapshot = w.snapshot) : w'.CaptureSound xlsx := by
  apply h.advance (by rw [hrevision]; rfl) _ _ hcapture
  · rw [hrevision]
    exact lt_succ_of_below hmax.2
  · rw [hrevision]
    exact UInt64.le_of_lt (lt_succ_of_below hmax.1)

theorem CaptureSound.advanceState (h : w.CaptureSound xlsx) (hmax : w.CountersBelowMax)
    (hrevision : w'.revisions = w.advanceMetadataState.revisions)
    (hcapture : w'.snapshot = w.snapshot) : w'.CaptureSound xlsx := by
  apply h.advance (by rw [hrevision]; rfl) _ _ hcapture
  · rw [hrevision]
    exact lt_succ_of_below hmax.2
  · rw [hrevision]
    exact UInt64.le_refl _

structure Captures (xlsx : Xlsx Archive) (w w' : ResidentWorkbook Archive) : Prop where
  revisions : w'.revisions = w.revisions
  document : w'.document = w.document
  calculation : w'.calculation = w.calculation
  evaluator : w'.evaluator = w.evaluator
  snapshot : w'.snapshot = w.snapshot ∨
    ∃ bytes, xlsx.Serialises w.document bytes ∧ w'.snapshot = some (w.revisions, bytes)

theorem writeSnapshot_captures (xlsx : Xlsx Archive) (w : ResidentWorkbook Archive) :
    Captures xlsx w (w.writeSnapshot xlsx).2 := by
  unfold writeSnapshot
  split
  · exact ⟨rfl, rfl, rfl, rfl, Or.inl rfl⟩
  · rename_i bytes hok
    exact ⟨rfl, rfl, rfl, rfl, Or.inr ⟨bytes, ⟨_, hok⟩, rfl⟩⟩

theorem snapshotBytes_captures (xlsx : Xlsx Archive) (w : ResidentWorkbook Archive) :
    Captures xlsx w (w.snapshotBytes xlsx).2 := by
  unfold snapshotBytes
  split
  · split
    · exact ⟨rfl, rfl, rfl, rfl, Or.inl rfl⟩
    · exact writeSnapshot_captures xlsx w
  · exact writeSnapshot_captures xlsx w

theorem CaptureSound.captures (h : w.CaptureSound xlsx) (hw : Captures xlsx w w') :
    w'.CaptureSound xlsx := by
  rcases hw.snapshot with hcapture | ⟨bytes, hbytes, hcapture⟩
  · exact h.same hw.revisions hw.document hcapture
  · intro revision bytes' hsome
    rw [hcapture] at hsome
    obtain ⟨rfl, rfl⟩ := Prod.mk.inj (Option.some.inj hsome)
    exact Or.inr ⟨hw.revisions.symm, hw.document ▸ hbytes⟩

theorem writeSnapshot_serialises {bytes : Archive} (h : (w.writeSnapshot xlsx).1 = .ok bytes) :
    xlsx.Serialises w.document bytes := by
  unfold writeSnapshot at h
  split at h
  · cases h
  · rename_i written hok
    obtain rfl := Except.ok.inj h
    exact ⟨_, hok⟩

/-- The bytes a snapshot call returns serialise the document, by the capture or
by a new write. -/
theorem Coherent.snapshotBytes (h : w.Coherent xlsx) {bytes : Archive}
    (hbytes : (w.snapshotBytes xlsx).1 = .ok bytes) : xlsx.Serialises w.document bytes := by
  unfold ResidentWorkbook.snapshotBytes at hbytes
  split at hbytes
  · rename_i revision captured hcapture
    split at hbytes
    · rename_i hcurrent
      obtain rfl := Except.ok.inj hbytes
      exact h revision captured hcapture hcurrent
    · exact writeSnapshot_serialises hbytes
  · exact writeSnapshot_serialises hbytes

theorem ensureEvaluator_cases (xlsx : Xlsx Archive) (w : ResidentWorkbook Archive)
    (engine : EngineRun) :
    ∃ w' evaluator, Captures xlsx w w' ∧
      (w.ensureEvaluator xlsx engine).2 = { w' with evaluator } := by
  unfold ensureEvaluator
  split
  · exact ⟨w, w.evaluator, ⟨rfl, rfl, rfl, rfl, Or.inl rfl⟩, rfl⟩
  · have hcaptures := snapshotBytes_captures xlsx w
    split
    · rename_i e w' heq
      rw [heq] at hcaptures
      exact ⟨w', w'.evaluator, hcaptures, rfl⟩
    · rename_i bytes w' heq
      rw [heq] at hcaptures
      split
      · exact ⟨w', true, hcaptures, rfl⟩
      · exact ⟨w', w'.evaluator, hcaptures, rfl⟩

theorem CaptureSound.ensureEvaluator (h : w.CaptureSound xlsx) (engine : EngineRun) :
    (w.ensureEvaluator xlsx engine).2.CaptureSound xlsx := by
  obtain ⟨w', evaluator, hcaptures, heq⟩ := ensureEvaluator_cases xlsx w engine
  rw [heq]
  exact (h.captures hcaptures).same rfl rfl rfl

theorem ensureEvaluator_below (xlsx : Xlsx Archive) (hmax : w.CountersBelowMax)
    (engine : EngineRun) :
    (w.ensureEvaluator xlsx engine).2.CountersBelowMax := by
  obtain ⟨w', evaluator, hcaptures, heq⟩ := ensureEvaluator_cases xlsx w engine
  rw [heq]
  unfold CountersBelowMax
  rw [show ({ w' with evaluator } : ResidentWorkbook Archive).revisions = w.revisions from
    hcaptures.revisions]
  exact hmax

theorem CaptureSound.invalidateCalculationProof (h : w.CaptureSound xlsx)
    (hmax : w.CountersBelowMax) : w.invalidateCalculationProof.CaptureSound xlsx := by
  unfold ResidentWorkbook.invalidateCalculationProof
  simp only
  split
  · exact h.same rfl rfl rfl
  · exact h.advanceState hmax rfl rfl

theorem CaptureSound.publishFormulaCaches (h : w.CaptureSound xlsx) (hmax : w.CountersBelowMax)
    {updates : List FormulaCacheUpdate} {e : String}
    (herror : (w.publishFormulaCaches xlsx updates).1 = .error e) :
    (w.publishFormulaCaches xlsx updates).2.CaptureSound xlsx := by
  unfold ResidentWorkbook.publishFormulaCaches at herror ⊢
  split
  · exact h.invalidateCalculationProof hmax
  · rename_i document hok
    rw [hok] at herror
    cases herror

theorem publishFormulaCaches_ok {updates : List FormulaCacheUpdate} {w' : ResidentWorkbook Archive}
    (h : w.publishFormulaCaches xlsx updates = (.ok (), w')) :
    applyFormulaCacheUpdates xlsx w.document updates = .ok w'.document ∧
      w' = { w with document := w'.document } := by
  unfold ResidentWorkbook.publishFormulaCaches at h
  split at h
  · cases h
  · rename_i document hok
    obtain rfl := (Prod.mk.inj h).2
    exact ⟨hok, rfl⟩

theorem CaptureSound.publishPreparedCalculation (h : w.CaptureSound xlsx)
    (hmax : w.CountersBelowMax) (evaluation : EvaluatorEvaluation) (coverage : EvaluationCoverage) :
    (w.publishPreparedCalculation xlsx evaluation coverage).2.CaptureSound xlsx := by
  unfold ResidentWorkbook.publishPreparedCalculation
  split
  · rename_i e w' heq
    have hfailed := h.publishFormulaCaches hmax (e := e) (by rw [heq])
    rwa [heq] at hfailed
  · rename_i w' heq
    obtain ⟨_, hw'⟩ := publishFormulaCaches_ok heq
    rw [hw']
    exact h.advanceState hmax rfl rfl

theorem CaptureSound.recalculate (h : w.CaptureSound xlsx) (hmax : w.CountersBelowMax)
    (engine : EngineRun) : (w.recalculate xlsx engine).2.CaptureSound xlsx := by
  have hensured := h.ensureEvaluator engine
  have hbelow := ensureEvaluator_below xlsx hmax engine
  unfold ResidentWorkbook.recalculate
  split
  · rename_i e w' heq
    rwa [heq] at hensured
  · rename_i w' heq
    rw [heq] at hensured hbelow
    split
    · exact hensured.invalidateCalculationProof hbelow
    · rename_i evaluation _
      split
      · rename_i e w'' hpublish
        have hfailed := hensured.publishFormulaCaches hbelow (e := e) (by rw [hpublish])
        rwa [hpublish] at hfailed
      · rename_i w'' hpublish
        obtain ⟨_, hw''⟩ := publishFormulaCaches_ok hpublish
        rw [hw'']
        exact hensured.advanceState hbelow rfl rfl

theorem assignCells_ok (xlsx : Xlsx Archive) {effects : List ResidentPreparedCellEffect}
    {document : Workbook} (hsheets : ∀ e ∈ effects, e.sheetName ∈ document.sheets)
    (hassignable : ∀ e ∈ effects, e.after.assignable = true) :
    (assignCells xlsx effects document).1 = .ok () := by
  induction effects generalizing document with
  | nil => rfl
  | cons effect rest ih =>
    have hassigned := assignMaterializedCell_ok xlsx (document.cellMut effect.key)
      (hassignable effect List.mem_cons_self)
    unfold assignCells
    rw [if_neg (not_not_intro (hsheets effect List.mem_cons_self))]
    split
    · exact ih (fun e he => hsheets e (List.mem_cons_of_mem _ he))
        (fun e he => hassignable e (List.mem_cons_of_mem _ he))
    · rename_i heq
      rw [heq] at hassigned
      cases hassigned

theorem checkCells_sheets {document : Workbook} {checkBefore : Bool}
    {effects : List ResidentPreparedCellEffect}
    (h : checkCells document checkBefore effects = .ok ()) :
    ∀ e ∈ effects, e.sheetName ∈ document.sheets := by
  induction effects with
  | nil => simp
  | cons effect rest ih =>
    simp only [checkCells, Workbook.materializedCell, bind_eq_ok, ensure_eq_ok] at h
    obtain ⟨_, ⟨_, hsheet, _⟩, _, _, hrest⟩ := h
    intro e he
    rcases List.mem_cons.mp he with rfl | he
    · exact hsheet
    · exact ih hrest e he

/-- A cell publication that does not stop half-way under a current capture keeps
the capture sound. -/
theorem CaptureSound.publishPreparedCellsInner (h : w.CaptureSound xlsx)
    (hmax : w.CountersBelowMax) {checkBefore : Bool} (synchronized : Bool)
    {effects : List ResidentPreparedCellEffect}
    (hwhole : w.CapturedNow → checkCells w.document checkBefore effects = .ok () →
      ∀ e ∈ effects, e.after.assignable = true) :
    (w.publishPreparedCellsInner xlsx checkBefore synchronized effects).2.CaptureSound xlsx := by
  unfold ResidentWorkbook.publishPreparedCellsInner
  split
  · exact h
  · rename_i hchecked
    split
    · -- A refused cell: the revision stays while the document has changed.
      rename_i e document hrefused
      intro revision bytes hcapture
      rcases h revision bytes hcapture with hold | ⟨rfl, _⟩
      · exact Or.inl hold
      · have hok := assignCells_ok xlsx (checkCells_sheets hchecked)
          (hwhole ⟨bytes, hcapture⟩ hchecked)
        rw [hrefused] at hok
        cases hok
    · split
      · exact h
      · exact h.advanceDocument hmax rfl rfl

theorem CaptureSound.replaceFromBytes (h : w.CaptureSound xlsx) (hmax : w.CountersBelowMax)
    (bytes : Archive) (effect : ResidentCalculationEffect) :
    (w.replaceFromBytes xlsx bytes effect).2.CaptureSound xlsx := by
  unfold ResidentWorkbook.replaceFromBytes
  split
  · exact h
  · cases effect with
    | preserve => exact h.advanceDocument hmax rfl rfl
    | invalidate => exact h.advanceDocument hmax rfl rfl

/-- A step of a batch counts up, or leaves count and document. -/
def CountsUp (before after : Workbook × Nat) : Prop :=
  before.2 ≤ after.2 ∧ (after.2 = before.2 → after.1 = before.1)

theorem CountsUp.foldl {step : Workbook × Nat → α → Workbook × Nat}
    (hstep : ∀ result x, CountsUp result (step result x)) (xs : List α) (result : Workbook × Nat) :
    CountsUp result (xs.foldl step result) := by
  induction xs generalizing result with
  | nil => exact ⟨le_refl _, fun _ => rfl⟩
  | cons x rest ih =>
    obtain ⟨hle, hsame⟩ := hstep result x
    obtain ⟨hle', hsame'⟩ := ih (step result x)
    exact ⟨hle.trans hle', fun heq => (hsame' (by simp only [List.foldl_cons] at heq; omega)).trans
      (hsame (by simp only [List.foldl_cons] at heq; omega))⟩

theorem setMatrixCell_countsUp (xlsx : Xlsx Archive) (overwriteFormulas : Bool)
    (result : Workbook × Nat) (target : CellKey × MatrixCell) :
    CountsUp result (setMatrixCell xlsx overwriteFormulas result target) := by
  unfold setMatrixCell
  split
  · exact ⟨le_refl _, fun _ => rfl⟩
  · exact ⟨Nat.le_succ _, fun heq => absurd heq (Nat.succ_ne_self _)⟩

theorem applyOps_zero {document : Workbook} {ops : List SessionTransformOp}
    (h : (applyOps xlsx document ops).2 = 0) : (applyOps xlsx document ops).1 = document := by
  have hbatch (result : Workbook × Nat) (op : SessionTransformOp) :
      CountsUp result (op.cells.foldl (setMatrixCell xlsx op.overwriteFormulas) result) :=
    CountsUp.foldl (setMatrixCell_countsUp xlsx op.overwriteFormulas) op.cells result
  exact (CountsUp.foldl hbatch ops (document, 0)).2 h

theorem CaptureSound.applyWriteMatrices (h : w.CaptureSound xlsx) (hmax : w.CountersBelowMax)
    (synchronized : Bool) (ops : List SessionTransformOp) :
    (w.applyWriteMatrices xlsx synchronized ops).2.CaptureSound xlsx := by
  unfold ResidentWorkbook.applyWriteMatrices
  split
  · exact h
  · dsimp only
    split
    · rename_i hzero
      exact h.same rfl (applyOps_zero hzero) rfl
    · exact h.advanceDocument hmax rfl rfl

theorem CaptureSound.prepareCalculation (h : w.CaptureSound xlsx) (engine : EngineRun) :
    (w.prepareCalculation xlsx engine).2.CaptureSound xlsx := by
  have hensured := h.ensureEvaluator engine
  unfold ResidentWorkbook.prepareCalculation
  split
  · rename_i e w' heq
    rwa [heq] at hensured
  · rename_i w' heq
    rw [heq] at hensured
    split
    · exact hensured.same rfl rfl rfl
    · exact hensured

theorem CaptureSound.prepareExternalCalculation (h : w.CaptureSound xlsx) (engine : EngineRun) :
    (w.prepareExternalCalculation xlsx engine).2.CaptureSound xlsx := by
  have hcaptured := h.captures (snapshotBytes_captures xlsx w)
  unfold ResidentWorkbook.prepareExternalCalculation
  split
  · rename_i e w' heq
    rwa [heq] at hcaptured
  · rename_i bytes w' heq
    rw [heq] at hcaptured
    split
    · exact hcaptured
    · exact hcaptured.same rfl rfl rfl

/-- When a call cannot bring a stale capture under the current revision. -/
def KeepsCapture (w : ResidentWorkbook Archive) : ResidentCall Archive → Prop
  | .snapshotBytes | .exportBytes | .prepareCalculation _ | .prepareExternalCalculation _ => True
  | .restoreRevisionIdentity revision =>
    ∀ captured bytes, w.snapshot = some (captured, bytes) →
      revision.Superseded captured ∨ captured = revision ∧ revision = w.revisions
  | .publishPreparedCells _ effects =>
    w.CountersBelowMax ∧ (w.CapturedNow → checkCells w.document true effects = .ok () →
      ∀ e ∈ effects, e.after.assignable = true)
  | .recoverPreparedCells _ effects =>
    w.CountersBelowMax ∧ (w.CapturedNow → checkCells w.document false effects = .ok () →
      ∀ e ∈ effects, e.after.assignable = true)
  | _ => w.CountersBelowMax

theorem CaptureSound.call (h : w.CaptureSound xlsx) {call : ResidentCall Archive}
    (hkeeps : w.KeepsCapture call) : (call.run xlsx w).CaptureSound xlsx := by
  cases call with
  | snapshotBytes => exact h.captures (snapshotBytes_captures xlsx w)
  | exportBytes => exact h.captures (snapshotBytes_captures xlsx w)
  | publishPreparedCells synchronized effects =>
    exact h.publishPreparedCellsInner hkeeps.1 synchronized hkeeps.2
  | recoverPreparedCells synchronized effects =>
    exact h.publishPreparedCellsInner hkeeps.1 synchronized hkeeps.2
  | restoreRevisionIdentity revision =>
    intro captured bytes hcapture
    rcases hkeeps captured bytes hcapture with hold | ⟨rfl, hcurrent⟩
    · exact Or.inl hold
    · exact Or.inr ⟨rfl, h.coherent captured bytes hcapture hcurrent⟩
  | prepareCalculation engine => exact h.prepareCalculation engine
  | prepareExternalCalculation engine => exact h.prepareExternalCalculation engine
  | publishPreparedCalculation evaluation coverage =>
    exact h.publishPreparedCalculation hkeeps evaluation coverage
  | advanceMetadataState => exact h.advanceState hkeeps rfl rfl
  | markRestartBoundary => exact h.advanceState hkeeps rfl rfl
  | replaceFromBytes bytes effect => exact h.replaceFromBytes hkeeps bytes effect
  | applyWriteMatrices synchronized ops => exact h.applyWriteMatrices hkeeps synchronized ops
  | invalidateAfterUnsupportedChange => exact h.advanceDocument hkeeps rfl rfl
  | recalculate engine => exact h.recalculate hkeeps engine
  | revokeCalculationProof => exact h.invalidateCalculationProof hkeeps

def runCalls (xlsx : Xlsx Archive) (w : ResidentWorkbook Archive)
    (calls : List (ResidentCall Archive)) : ResidentWorkbook Archive :=
  calls.foldl (ResidentCall.run xlsx) w

/-- Every call of the run keeps the capture, in the state it is made in. -/
def RunKeepsCapture (xlsx : Xlsx Archive) :
    ResidentWorkbook Archive → List (ResidentCall Archive) → Prop
  | _, [] => True
  | w, call :: rest => w.KeepsCapture call ∧ RunKeepsCapture xlsx (call.run xlsx w) rest

theorem CaptureSound.runCalls (h : w.CaptureSound xlsx) {calls : List (ResidentCall Archive)}
    (hkeeps : RunKeepsCapture xlsx w calls) : (w.runCalls xlsx calls).CaptureSound xlsx := by
  induction calls generalizing w with
  | nil => exact h
  | cons call rest ih => exact ih (h.call hkeeps.1) hkeeps.2

end ResidentWorkbook

/-- From a new workbook, as long as no call restores an identity a capture may
still meet, stops a publication half-way under a current capture or wraps a
counter, a capture of the current revision is the current document and every
snapshot returned serialises it. -/
theorem snapshot_cache_coherent (xlsx : Xlsx Archive) {bytes : Archive} {epoch : String}
    {ingested : Bool} {w : ResidentWorkbook Archive}
    (hstart : ResidentWorkbook.fromBytes xlsx bytes epoch ingested = .ok w)
    (calls : List (ResidentCall Archive)) (hkeeps : w.RunKeepsCapture xlsx calls) :
    (w.runCalls xlsx calls).Coherent xlsx ∧
      ∀ returned, ((w.runCalls xlsx calls).snapshotBytes xlsx).1 = .ok returned →
        xlsx.Serialises (w.runCalls xlsx calls).document returned := by
  have hnone : w.snapshot = none := by
    simp only [ResidentWorkbook.fromBytes, bind_eq_ok, pure_eq_ok] at hstart
    obtain ⟨_, _, _, _, rfl⟩ := hstart
    rfl
  have hsound := (ResidentWorkbook.CaptureSound.of_none xlsx hnone).runCalls hkeeps
  exact ⟨hsound.coherent, fun _ hreturned => hsound.coherent.snapshotBytes hreturned⟩

/-- A library whose archives are the documents themselves. -/
def sampleXlsx : Xlsx Workbook where
  readReader := .ok
  writeWriter := fun _ document => .ok document
  guessTypedData := fun text => if text = "" then .empty else .string text

def sampleBase : Workbook := ⟨["Sheet1"], fun _ => none, ""⟩

def sampleResident : ResidentWorkbook Workbook where
  document := sampleBase
  evaluator := true
  revisions := ⟨"e", 0, 0⟩
  calculation := .notEvaluated 0
  serializations := 0
  snapshot := none

/-- A cell publication of A1 with the given formula and result. -/
def samplePublish (value : ResidentMaterializedValue) (formula : Option String) :
    ResidentCall Workbook :=
  .publishPreparedCells true [⟨"Sheet1", 1, 1, [0], none, ⟨value, formula⟩⟩]

/-- A snapshot, a write and the next snapshot. -/
theorem sampleResident_cache_coherent :
    ResidentWorkbook.fromBytes sampleXlsx sampleBase "e" true = .ok sampleResident ∧
    (sampleResident.runCalls sampleXlsx
      [.snapshotBytes, samplePublish (.number 1) none, .snapshotBytes]).Coherent sampleXlsx := by
  have hstart : ResidentWorkbook.fromBytes sampleXlsx sampleBase "e" true = .ok sampleResident :=
    rfl
  refine ⟨hstart, (snapshot_cache_coherent sampleXlsx hstart _ ?_).1⟩
  refine ⟨trivial, ⟨⟨by decide, by decide⟩, fun _ _ e he => ?_⟩, trivial, trivial⟩
  rw [List.mem_singleton.mp he]
  rfl

/-- Restoring the captured identity over a changed document, or a publication
refused after its formula was set, leaves a capture of the current revision that
does not serialise the current document. -/
theorem stale_capture_is_returned :
    ¬ (sampleResident.runCalls sampleXlsx [.snapshotBytes, samplePublish (.number 1) none,
      .restoreRevisionIdentity ⟨"e", 0, 0⟩]).Coherent sampleXlsx ∧
    ¬ (sampleResident.runCalls sampleXlsx
      [.snapshotBytes, samplePublish (.error "#SPILL!") (some "A2")]).Coherent sampleXlsx := by
  have hstale (w : ResidentWorkbook Workbook)
      (hcapture : w.snapshot = some (w.revisions, sampleBase))
      (hne : (w.document.cells ("Sheet1", 1, 1)).isSome = true) : ¬ w.Coherent sampleXlsx := by
    intro h
    obtain ⟨_, hwrite⟩ := h w.revisions sampleBase hcapture rfl
    rw [show w.document = sampleBase from Except.ok.inj hwrite] at hne
    cases hne
  constructor
  · apply hstale
    · rfl
    · rfl
  · apply hstale
    · rfl
    · rfl

end AgentSpreadsheet
