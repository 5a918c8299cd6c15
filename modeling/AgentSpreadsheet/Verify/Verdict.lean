import AgentSpreadsheet.Library.Pointwise
import AgentSpreadsheet.Verify.Maps

/-! When the verdict is exact. A number that is not finite is null in JSON, and named items are
told apart by a text. -/
namespace AgentSpreadsheet.Verify
open Library
open Search (CellValue WorkbookContext)

section Verdict
variable {ν : Type} [DecidableEq ν] (tools : VerifyTools ν)

/-! ### Targets -/

def readTarget (book : WorkbookContext) (target : String) :
    Except String (TargetCellSnapshot ν) := do
  let (sheetName, cellRef) ← parseSheetCellRef tools target
  readTargetCell tools book sheetName cellRef

/-- Each target can be read on both sides, and `same` holds of what is there. -/
def TargetsAre (same : TargetCellSnapshot ν → TargetCellSnapshot ν → Prop)
    (baseline current : WorkbookContext) (targets : List String) : Prop :=
  ∀ target ∈ targets, ∃ before after, readTarget tools baseline target = .ok before ∧
    readTarget tools current target = .ok after ∧ same before after

def WrittenSame (before after : TargetCellSnapshot ν) : Prop :=
  cellValuesEqual tools before.value after.value = true ∧ before.formula = after.formula

/-- Two different numbers are not both other than finite. -/
def NumbersTold (before after : TargetCellSnapshot ν) : Prop :=
  ∀ m n, before.value = some (.number m) → after.value = some (.number n) → m ≠ n →
    tools.isFinite m = true ∨ tools.isFinite n = true

variable {tools}

/-- Only numbers that are not finite are written alike. -/
theorem toJson_eq_iff {left right : CellValue ν} : toJson tools left = toJson tools right ↔
    left = right ∨ ∃ m n, left = .number m ∧ right = .number n ∧ tools.isFinite m = false ∧
      tools.isFinite n = false := by
  cases left with
  | number m =>
    cases right with
    | number n =>
      by_cases hsame : m = n
      · simp [hsame]
      · by_cases hm : tools.isFinite m = true <;> by_cases hn : tools.isFinite n = true <;>
          simp [toJson, hm, hn, hsame]
    | _ => by_cases hm : tools.isFinite m = true <;> simp [toJson, hm]
  | _ =>
    cases right with
    | number n => by_cases hn : tools.isFinite n = true <;> simp [toJson, hn]
    | _ => simp [toJson]

theorem cellValuesEqual_iff {left right : Option (CellValue ν)} :
    cellValuesEqual tools left right = true ↔ left = right ∨ ∃ m n, left = some (.number m) ∧
      right = some (.number n) ∧ tools.isFinite m = false ∧ tools.isFinite n = false := by
  cases left with
  | none => cases right <;> simp [cellValuesEqual]
  | some l =>
    cases right with
    | none => simp [cellValuesEqual]
    | some r => simp [cellValuesEqual, toJson_eq_iff]

theorem writtenSame_iff {before after : TargetCellSnapshot ν} :
    before = after ↔ WrittenSame tools before after ∧ NumbersTold tools before after := by
  unfold WrittenSame NumbersTold
  rw [cellValuesEqual_iff]
  constructor
  · intro h
    subst h
    refine ⟨⟨Or.inl rfl, rfl⟩, fun m n hm hn hne => absurd ?_ hne⟩
    rw [hm] at hn
    injection hn with hn
    injection hn
  · intro h
    obtain ⟨⟨hvalue, hformula⟩, hnumbers⟩ := h
    cases hvalue with
    | inl hvalue =>
      cases before
      cases after
      simp_all
    | inr hvalue =>
      obtain ⟨m, n, hm, hn, hfm, hfn⟩ := hvalue
      by_cases hsame : m = n
      · subst hsame
        cases before
        cases after
        simp_all
      · have := hnumbers m n hm hn hsame
        simp_all

theorem targetDelta_unchanged {baseline current : WorkbookContext} {target : String} :
    (∃ delta, targetDelta tools baseline current target = .ok delta ∧ delta.changed = false) ↔
      ∃ before after, readTarget tools baseline target = .ok before ∧
        readTarget tools current target = .ok after ∧ WrittenSame tools before after := by
  unfold targetDelta readTarget WrittenSame
  simp only [bind_eq_ok, pure_eq_ok, Prod.exists]
  constructor
  · intro h
    obtain ⟨_, ⟨sheetName, cellRef, hparse, before, hbefore, after, hafter, rfl⟩, hsame⟩ := h
    refine ⟨before, after, ⟨sheetName, cellRef, hparse, hbefore⟩,
      ⟨sheetName, cellRef, hparse, hafter⟩, ?_⟩
    simpa using hsame
  · intro h
    obtain ⟨before, after, ⟨sheetName, cellRef, hparse, hbefore⟩, ⟨sheetName', cellRef', hparse',
      hafter⟩, hvalue, hformula⟩ := h
    obtain ⟨rfl, rfl⟩ := Prod.mk.inj (Except.ok.inj (hparse.symm.trans hparse'))
    refine ⟨_, ⟨sheetName, cellRef, hparse, before, hbefore, after, hafter, rfl⟩, ?_⟩
    simp [hvalue, hformula]

theorem targetDeltas_unchanged {baseline current : WorkbookContext} {targets : List String} :
    (∃ deltas, collectTargetDeltas tools baseline current targets = .ok deltas ∧
      deltas.any TargetDelta.changed = false) ↔
      TargetsAre tools (WrittenSame tools) baseline current targets := by
  unfold collectTargetDeltas TargetsAre
  simp only [List.any_eq_false, Bool.not_eq_true, ← targetDelta_unchanged]
  exact mapM_all

theorem targetDelta_swap {baseline current : WorkbookContext} {target : String}
    {delta : TargetDelta ν} (h : targetDelta tools baseline current target = .ok delta) :
    ∃ delta', targetDelta tools current baseline target = .ok delta' := by
  unfold targetDelta at *
  simp only [bind_eq_ok, pure_eq_ok, Prod.exists] at *
  obtain ⟨sheetName, cellRef, hparse, before, hbefore, after, hafter, _⟩ := h
  exact ⟨_, sheetName, cellRef, hparse, after, hafter, before, hbefore, rfl⟩

theorem targetDeltas_swap {baseline current : WorkbookContext} {targets : List String}
    {deltas : List (TargetDelta ν)}
    (h : collectTargetDeltas tools baseline current targets = .ok deltas) :
    ∃ deltas', collectTargetDeltas tools current baseline targets = .ok deltas' := by
  have hall := mapM_all.mp ⟨deltas, h, fun _ _ => trivial⟩
  obtain ⟨deltas', hdeltas', _⟩ := mapM_all.mpr fun target htarget =>
    (hall target htarget).elim fun delta hdelta =>
      (targetDelta_swap hdelta.1).elim fun delta' hdelta' => ⟨delta', hdelta', trivial⟩
  exact ⟨deltas', hdeltas'⟩

/-! ### The verdict of the code -/

variable (tools) (baseline current : Side) (options : VerifyOptions)

def Covered : Prop :=
  baseline.coverage.isCompleteAndFresh = true ∧ current.coverage.isCompleteAndFresh = true

def TargetsIn (same : TargetCellSnapshot ν → TargetCellSnapshot ν → Prop) : Prop :=
  options.errorsOnly = false → TargetsAre tools same baseline.book current.book options.targets

/-- The same cells in scope have the same errors under the same formulas. -/
def ErrorsSame : Prop :=
  options.targetsOnly = false → InScope baseline.book options.sheetFilter ∧
    InScope current.book options.sheetFilter ∧ ∀ address snapshot,
      ErrorAt baseline.book options.sheetFilter address snapshot ↔
        ErrorAt current.book options.sheetFilter address snapshot

/-- The named items, where they are compared, are the same under `read`. -/
def NamesIn {κ ρ : Type} (read : List NamedRangeDescriptor → κ → Option ρ) : Prop :=
  options.includeNamedRangeDeltas = true → ∃ before after, baseline.namedRanges = some before ∧
    current.namedRanges = some after ∧ ∀ key, read before key = read after key

def writtenEntry (items : List NamedRangeDescriptor) (key : String) :
    Option (String × Search.NamedItemKind) :=
  (lastItem items key).map entryOf

variable {tools baseline current options}

theorem errorComparison_clean :
    (∃ errors, errorComparison baseline current options = .ok errors ∧ errors.Clean) ↔
      ErrorsSame baseline current options := by
  unfold errorComparison ErrorsSame
  cases options.targetsOnly with
  | true => simp [ErrorComparison.Clean]
  | false =>
    simp only [Bool.false_eq_true, if_false, bind_eq_ok, pure_eq_ok, true_imp_iff]
    constructor
    · intro h
      obtain ⟨_, ⟨before, hbefore, after, hafter, rfl⟩, hclean⟩ := h
      have hscope := collectErrorCells_inScope hbefore
      have hscope' := collectErrorCells_inScope hafter
      obtain ⟨map, hmap, hget⟩ := collectErrorCells_ok hscope
      obtain ⟨map', hmap', hget'⟩ := collectErrorCells_ok hscope'
      obtain rfl := Except.ok.inj (hbefore.symm.trans hmap)
      obtain rfl := Except.ok.inj (hafter.symm.trans hmap')
      refine ⟨hscope, hscope', fun address snapshot => ?_⟩
      rw [← hget, ← hget', compareErrorMaps_clean.mp hclean address]
    · intro h
      obtain ⟨hscope, hscope', hsame⟩ := h
      obtain ⟨map, hmap, hget⟩ := collectErrorCells_ok hscope
      obtain ⟨map', hmap', hget'⟩ := collectErrorCells_ok hscope'
      refine ⟨_, ⟨map, hmap, map', hmap', rfl⟩, compareErrorMaps_clean.mpr fun address => ?_⟩
      apply Option.ext
      intro snapshot
      rw [hget, hget', hsame]

theorem nameComparison_nil : nameComparison baseline current options = .ok [] ↔
    NamesIn baseline current options writtenEntry := by
  unfold nameComparison NamesIn
  cases options.includeNamedRangeDeltas with
  | false => simp
  | true =>
    simp [compareNamedRanges_nil, writtenEntry]

theorem targetComparison_unchanged :
    (∃ deltas, targetComparison tools baseline current options = .ok deltas ∧
      deltas.any TargetDelta.changed = false) ↔
      TargetsIn tools baseline current options (WrittenSame tools) := by
  unfold targetComparison TargetsIn
  cases options.errorsOnly with
  | true => simp
  | false =>
    simp only [Bool.false_eq_true, if_false, true_imp_iff]
    exact targetDeltas_unchanged

theorem compareWorkbooks_ok {response : VerifyResponse ν}
    (h : compareWorkbooksWithCoverage tools baseline current options = .ok response) :
    options.validate = .ok () ∧ ∃ targets errors names,
      targetComparison tools baseline current options = .ok targets ∧
      errorComparison baseline current options = .ok errors ∧
      nameComparison baseline current options = .ok names ∧
      response.newErrors = errors.newErrors ∧ response.resolvedErrors = errors.resolvedErrors ∧
      response.namedRangeDeltas = names ∧ response.proofStatus =
        if !(baseline.coverage.isCompleteAndFresh && current.coverage.isCompleteAndFresh) then
          .inconclusiveUnevaluated
        else if hasDifferences targets errors names then .differencesFound
        else .proved := by
  unfold compareWorkbooksWithCoverage at h
  simp only [bind_eq_ok, pure_eq_ok] at h
  obtain ⟨_, hvalid, targets, htargets, errors, herrors, names, hnames, rfl⟩ := h
  exact ⟨hvalid, targets, errors, names, htargets, herrors, hnames, rfl, rfl, rfl, rfl⟩

omit [DecidableEq ν] in
theorem hasDifferences_false {targets : List (TargetDelta ν)} {errors : ErrorComparison}
    {names : List NamedRangeDelta} : hasDifferences targets errors names = false ↔
      targets.any TargetDelta.changed = false ∧ errors.Clean ∧ names = [] := by
  simp [hasDifferences, ErrorComparison.Clean, and_assoc]

theorem proved_iff (hvalid : options.validate = .ok ()) :
    (∃ response, compareWorkbooksWithCoverage tools baseline current options = .ok response ∧
      response.proofStatus = .proved) ↔
      Covered baseline current ∧ TargetsIn tools baseline current options (WrittenSame tools) ∧
        ErrorsSame baseline current options ∧ NamesIn baseline current options writtenEntry := by
  rw [← targetComparison_unchanged, ← errorComparison_clean, ← nameComparison_nil]
  unfold Covered
  constructor
  · intro h
    obtain ⟨response, hresponse, hstatus⟩ := h
    obtain ⟨_, targets, errors, names, htargets, herrors, hnames, _, _, _, hproof⟩ :=
      compareWorkbooks_ok hresponse
    rw [hstatus] at hproof
    split at hproof
    · contradiction
    · next hcovered =>
      split at hproof
      · contradiction
      · next hnone =>
        obtain ⟨hsame, hclean, rfl⟩ := hasDifferences_false.mp (Bool.not_eq_true _ ▸ hnone)
        exact ⟨by simpa using hcovered, ⟨targets, htargets, hsame⟩, ⟨errors, herrors, hclean⟩,
          hnames⟩
  · intro h
    obtain ⟨⟨hcovered, hcovered'⟩, ⟨targets, htargets, hsame⟩, ⟨errors, herrors, hclean⟩,
      hnames⟩ := h
    have hclean := hasDifferences_false.mpr ⟨hsame, hclean, rfl⟩
    unfold compareWorkbooksWithCoverage
    rw [hvalid]
    simp [bind_eq_ok, htargets, herrors, hnames, hcovered, hcovered', hclean]

/-! ### The other side -/

theorem cellValuesEqual_comm (left right : Option (CellValue ν)) :
    cellValuesEqual tools left right = cellValuesEqual tools right left := by
  cases left <;> cases right <;> simp [cellValuesEqual, Bool.beq_comm]

theorem writtenSame_symm {before after : TargetCellSnapshot ν}
    (h : WrittenSame tools before after) : WrittenSame tools after before :=
  ⟨(cellValuesEqual_comm _ _).trans h.1, h.2.symm⟩

theorem targetsIn_symm {same : TargetCellSnapshot ν → TargetCellSnapshot ν → Prop}
    (hsymm : ∀ before after, same before after → same after before)
    (h : TargetsIn tools baseline current options same) :
    TargetsIn tools current baseline options same := by
  intro hmode target htarget
  obtain ⟨before, after, hbefore, hafter, hsame⟩ := h hmode target htarget
  exact ⟨after, before, hafter, hbefore, hsymm before after hsame⟩

theorem errorsSame_symm (h : ErrorsSame baseline current options) :
    ErrorsSame current baseline options := by
  intro hmode
  obtain ⟨hscope, hscope', hsame⟩ := h hmode
  exact ⟨hscope', hscope, fun address snapshot => (hsame address snapshot).symm⟩

theorem namesIn_symm {κ ρ : Type} {read : List NamedRangeDescriptor → κ → Option ρ}
    (h : NamesIn baseline current options read) : NamesIn current baseline options read := by
  intro hmode
  obtain ⟨before, after, hbefore, hafter, hsame⟩ := h hmode
  exact ⟨after, before, hafter, hbefore, fun key => (hsame key).symm⟩

theorem proved_symm (hvalid : options.validate = .ok ())
    (h : ∃ response, compareWorkbooksWithCoverage tools baseline current options = .ok response ∧
      response.proofStatus = .proved) :
    ∃ response, compareWorkbooksWithCoverage tools current baseline options = .ok response ∧
      response.proofStatus = .proved := by
  rw [proved_iff hvalid] at *
  obtain ⟨hcovered, htargets, herrors, hnames⟩ := h
  exact ⟨hcovered.symm, targetsIn_symm (fun _ _ => writtenSame_symm) htargets,
    errorsSame_symm herrors, namesIn_symm hnames⟩

theorem targetComparison_swap {targets : List (TargetDelta ν)}
    (h : targetComparison tools baseline current options = .ok targets) :
    ∃ targets', targetComparison tools current baseline options = .ok targets' := by
  unfold targetComparison at *
  split at h
  · next hmode => exact ⟨[], if_pos hmode⟩
  · next hmode =>
    rw [if_neg hmode]
    exact targetDeltas_swap h

theorem errorComparison_swap {errors : ErrorComparison}
    (h : errorComparison baseline current options = .ok errors) :
    ∃ errors', errorComparison current baseline options = .ok errors' ∧
      errors'.newErrors = errors.resolvedErrors.map ErrorDelta.swap ∧
      errors'.resolvedErrors = errors.newErrors.map ErrorDelta.swap := by
  unfold errorComparison at *
  split at h
  · next hmode =>
    obtain rfl := Except.ok.inj h
    exact ⟨{}, if_pos hmode, rfl, rfl⟩
  · next hmode =>
    simp only [bind_eq_ok, pure_eq_ok] at h
    obtain ⟨before, hbefore, after, hafter, rfl⟩ := h
    refine ⟨compareErrorMaps after before, ?_, newErrors_swap before after,
      resolvedErrors_swap before after⟩
    rw [if_neg hmode, hafter, hbefore]
    rfl

theorem nameComparison_swap {names : List NamedRangeDelta}
    (h : nameComparison baseline current options = .ok names) :
    ∃ names', nameComparison current baseline options = .ok names' ∧
      ofChange .added names' = (ofChange .removed names).map NamedRangeDelta.swap ∧
      ofChange .removed names' = (ofChange .added names).map NamedRangeDelta.swap := by
  unfold nameComparison at *
  split at h
  · next hmode =>
    simp only [bind_eq_ok, pure_eq_ok] at h
    obtain ⟨before, hbefore, after, hafter, rfl⟩ := h
    refine ⟨compareNamedRanges after before, ?_, addedNames_swap before after,
      removedNames_swap before after⟩
    rw [if_pos hmode, required_eq_ok.mp hafter, required_eq_ok.mp hbefore]
    rfl
  · next hmode =>
    obtain rfl := Except.ok.inj h
    exact ⟨[], if_neg hmode, rfl, rfl⟩

/-- The answers of the two directions mirror each other. -/
structure Mirrored (response swapped : VerifyResponse ν) : Prop where
  newErrors : swapped.newErrors = response.resolvedErrors.map ErrorDelta.swap
  resolvedErrors : swapped.resolvedErrors = response.newErrors.map ErrorDelta.swap
  added : ofChange .added swapped.namedRangeDeltas =
    (ofChange .removed response.namedRangeDeltas).map NamedRangeDelta.swap
  removed : ofChange .removed swapped.namedRangeDeltas =
    (ofChange .added response.namedRangeDeltas).map NamedRangeDelta.swap
  verdict : swapped.proofStatus = response.proofStatus

/-- Without coverage there is no verdict, and with it there is one. -/
theorem inconclusive_iff {response : VerifyResponse ν}
    (h : compareWorkbooksWithCoverage tools baseline current options = .ok response) :
    response.proofStatus = .inconclusiveUnevaluated ↔ ¬Covered baseline current := by
  obtain ⟨_, targets, errors, names, _, _, _, _, _, _, hproof⟩ := compareWorkbooks_ok h
  rw [hproof]
  unfold Covered
  rw [← Bool.and_eq_true]
  split
  · next hcovered =>
    rw [Bool.not_eq_true'] at hcovered
    simp [hcovered]
  · next hcovered =>
    rw [Bool.not_eq_true', Bool.not_eq_false] at hcovered
    split <;> simp [hcovered]

theorem status_eq {status status' : ProofStatus}
    (hproved : status = .proved ↔ status' = .proved)
    (hnone : status = .inconclusiveUnevaluated ↔ status' = .inconclusiveUnevaluated) :
    status' = status := by
  cases status <;> cases status' <;> simp_all

theorem compareWorkbooks_swap {response : VerifyResponse ν}
    (h : compareWorkbooksWithCoverage tools baseline current options = .ok response) :
    ∃ swapped, compareWorkbooksWithCoverage tools current baseline options = .ok swapped ∧
      Mirrored response swapped := by
  obtain ⟨hvalid, targets, errors, names, htargets, herrors, hnames, hnew, hresolved, hdeltas,
    _⟩ := compareWorkbooks_ok h
  obtain ⟨targets', htargets'⟩ := targetComparison_swap htargets
  obtain ⟨errors', herrors', hnew', hresolved'⟩ := errorComparison_swap herrors
  obtain ⟨names', hnames', hadded, hremoved⟩ := nameComparison_swap hnames
  have hok : ∃ swapped, compareWorkbooksWithCoverage tools current baseline options =
      .ok swapped := by
    unfold compareWorkbooksWithCoverage
    rw [hvalid, htargets', herrors', hnames']
    exact ⟨_, rfl⟩
  obtain ⟨swapped, hswapped⟩ := hok
  refine ⟨swapped, hswapped, ?_⟩
  obtain ⟨_, targets'', errors'', names'', _, herrors'', hnames'', hnew'', hresolved'', hdeltas'',
    _⟩ := compareWorkbooks_ok hswapped
  obtain rfl := Except.ok.inj (herrors'.symm.trans herrors'')
  obtain rfl := Except.ok.inj (hnames'.symm.trans hnames'')
  have hproved : response.proofStatus = .proved ↔ swapped.proofStatus = .proved := by
    constructor
    · intro hstatus
      obtain ⟨other, hother, hother'⟩ := proved_symm hvalid ⟨response, h, hstatus⟩
      obtain rfl := Except.ok.inj (hswapped.symm.trans hother)
      exact hother'
    · intro hstatus
      obtain ⟨other, hother, hother'⟩ := proved_symm hvalid ⟨swapped, hswapped, hstatus⟩
      obtain rfl := Except.ok.inj (h.symm.trans hother)
      exact hother'
  have hinconclusive := (inconclusive_iff h).trans
    ((not_congr And.comm).trans (inconclusive_iff hswapped).symm)
  exact { newErrors := by rw [hnew'', hnew', hresolved]
          resolvedErrors := by rw [hresolved'', hresolved', hnew]
          added := by rw [hdeltas'', hadded, hdeltas]
          removed := by rw [hdeltas'', hremoved, hdeltas]
          verdict := status_eq hproved hinconclusive }

/-! ### When the verdict is exact -/

variable (tools baseline current options)

structure VerdictExact : Prop where
  proved : (∃ response, compareWorkbooksWithCoverage tools baseline current options =
      .ok response ∧ response.proofStatus = .proved) ↔
    Covered baseline current ∧ TargetsIn tools baseline current options (· = ·) ∧
      ErrorsSame baseline current options ∧ NamesIn baseline current options referenceOf
  swapped : ∀ response, compareWorkbooksWithCoverage tools baseline current options =
    .ok response → ∃ swapped, compareWorkbooksWithCoverage tools current baseline options =
      .ok swapped ∧ Mirrored response swapped

/-- Where all else agrees, two different numbers at a target are not both other than finite, and
the texts that tell named items apart agree as the items do. -/
structure DifferencesSeen : Prop where
  numbers : Covered baseline current → ErrorsSame baseline current options →
    TargetsIn tools baseline current options (WrittenSame tools) →
    NamesIn baseline current options writtenEntry →
      TargetsIn tools baseline current options (NumbersTold tools)
  names : Covered baseline current → ErrorsSame baseline current options →
    TargetsIn tools baseline current options (· = ·) →
      (NamesIn baseline current options writtenEntry ↔
        NamesIn baseline current options referenceOf)

variable {tools baseline current options}

omit [DecidableEq ν] in
theorem targetsIn_and {same same' : TargetCellSnapshot ν → TargetCellSnapshot ν → Prop} :
    TargetsIn tools baseline current options (fun before after =>
        same before after ∧ same' before after) ↔
      TargetsIn tools baseline current options same ∧
        TargetsIn tools baseline current options same' := by
  unfold TargetsIn TargetsAre
  constructor
  · intro h
    refine ⟨fun hmode target htarget => ?_, fun hmode target htarget => ?_⟩
    · obtain ⟨before, after, hbefore, hafter, hsame, _⟩ := h hmode target htarget
      exact ⟨before, after, hbefore, hafter, hsame⟩
    · obtain ⟨before, after, hbefore, hafter, _, hsame⟩ := h hmode target htarget
      exact ⟨before, after, hbefore, hafter, hsame⟩
  · intro h hmode target htarget
    obtain ⟨before, after, hbefore, hafter, hsame⟩ := h.1 hmode target htarget
    obtain ⟨before', after', hbefore', hafter', hsame'⟩ := h.2 hmode target htarget
    obtain rfl := Except.ok.inj (hbefore.symm.trans hbefore')
    obtain rfl := Except.ok.inj (hafter.symm.trans hafter')
    exact ⟨before, after, hbefore, hafter, hsame, hsame'⟩

theorem targetsSame_iff : TargetsIn tools baseline current options (· = ·) ↔
    TargetsIn tools baseline current options (WrittenSame tools) ∧
      TargetsIn tools baseline current options (NumbersTold tools) := by
  rw [← targetsIn_and]
  unfold TargetsIn TargetsAre
  simp only [@writtenSame_iff ν _ tools]

theorem verdict_exact_iff (hvalid : options.validate = .ok ()) :
    VerdictExact tools baseline current options ↔
      DifferencesSeen tools baseline current options := by
  have hcode := @proved_iff ν _ tools baseline current options hvalid
  constructor
  · intro h
    have hsame := hcode.symm.trans h.proved
    constructor
    · intro hcovered herrors htargets hnames
      have hall := hsame.mp ⟨hcovered, htargets, herrors, hnames⟩
      exact (targetsSame_iff.mp hall.2.1).2
    · intro hcovered herrors htargets
      have hwritten := (targetsSame_iff.mp htargets).1
      exact ⟨fun hnames => (hsame.mp ⟨hcovered, hwritten, herrors, hnames⟩).2.2.2,
        fun hnames => (hsame.mpr ⟨hcovered, htargets, herrors, hnames⟩).2.2.2⟩
  · intro h
    refine ⟨hcode.trans ?_, fun response hresponse => compareWorkbooks_swap hresponse⟩
    constructor
    · intro hall
      obtain ⟨hcovered, htargets, herrors, hnames⟩ := hall
      have hsame := targetsSame_iff.mpr
        ⟨htargets, h.numbers hcovered herrors htargets hnames⟩
      exact ⟨hcovered, hsame, herrors, (h.names hcovered herrors hsame).mp hnames⟩
    · intro hall
      obtain ⟨hcovered, hsame, herrors, hnames⟩ := hall
      exact ⟨hcovered, (targetsSame_iff.mp hsame).1, herrors,
        (h.names hcovered herrors hsame).mpr hnames⟩

end Verdict

/-! ### Text that reads as a number -/

inductive Reading where
  | infinity
  | nan
  deriving DecidableEq, Repr

def readingTools : VerifyTools Reading where
  parse text := if text = "inf" then some .infinity else if text = "nan" then some .nan else none
  display _ := ""
  excelSerialToIso _ := ""
  regex _ := none
  isFinite _ := false
  indexFromCoordinate text := if text = "A1" then (some 1, some 1) else (none, none)

def oneCell (text : String) : WorkbookContext where
  sheets := [{ name := "S", cells := [⟨1, 1, text, "s", none, false⟩]
               distinct := by simp, placed := by simp }]
  distinct := by simp
  namedItems := []
  detectedRegion _ _ := none

def totalName : NamedRangeDescriptor := ⟨"Total", some .workbook, none, "S!A1", .namedRange⟩

def evaluatedCell (text : String) : Side where
  label := text
  book := oneCell text
  namedRanges := some [totalName]
  coverage := ⟨0, 0, 0, 0, .none, .currentRevision, "r"⟩

theorem evaluatedCell_exact : VerdictExact readingTools (evaluatedCell "x") (evaluatedCell "x")
    { targets := ["S!A1"], includeNamedRangeDeltas := true } := by
  refine (verdict_exact_iff (by decide)).mpr ⟨fun _ _ htargets _ hmode target htarget => ?_,
    fun _ _ _ => ⟨fun _ _ => ?_, fun _ _ => ?_⟩⟩
  · obtain ⟨before, after, hbefore, hafter, _⟩ := htargets hmode target htarget
    refine ⟨before, after, hbefore, hafter, fun m n hm hn hne => absurd ?_ hne⟩
    rw [Except.ok.inj (hbefore.symm.trans hafter), hn] at hm
    injection hm with hm
    injection hm with hm
    exact hm.symm
  · exact ⟨[totalName], [totalName], rfl, rfl, fun _ => rfl⟩
  · exact ⟨[totalName], [totalName], rfl, rfl, fun _ => rfl⟩

theorem verdict_inexact : ¬VerdictExact readingTools (evaluatedCell "inf") (evaluatedCell "nan")
    { targets := ["S!A1"] } := by
  intro h
  have hstatus : (compareWorkbooksWithCoverage readingTools (evaluatedCell "inf")
      (evaluatedCell "nan") { targets := ["S!A1"] }).map VerifyResponse.proofStatus =
      .ok .proved := by
    decide +kernel
  cases hok : compareWorkbooksWithCoverage readingTools (evaluatedCell "inf")
      (evaluatedCell "nan") { targets := ["S!A1"] } with
  | error e =>
    rw [hok] at hstatus
    contradiction
  | ok response =>
    rw [hok] at hstatus
    obtain ⟨_, htargets, _, _⟩ := h.proved.mp ⟨response, hok, Except.ok.inj hstatus⟩
    obtain ⟨before, after, hbefore, hafter, rfl⟩ := htargets rfl "S!A1" List.mem_cons_self
    have hread : readTarget readingTools (oneCell "inf") "S!A1" ≠
        readTarget readingTools (oneCell "nan") "S!A1" := by
      decide +kernel
    exact hread (hbefore.trans hafter.symm)

end AgentSpreadsheet.Verify
