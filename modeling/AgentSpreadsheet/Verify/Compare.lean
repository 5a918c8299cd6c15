import AgentSpreadsheet.Library.Quoted
import AgentSpreadsheet.Search.Values
import Mathlib.Data.List.Basic

/-! The comparison of two evaluated workbooks: targets, cells with errors and named items, each in
its own way, and one verdict. -/
namespace AgentSpreadsheet.Verify
open Library
open Search (CellValue ValueTools StoredCell Worksheet WorkbookContext NamedItemKind cellToValue
  isSpreadsheetError)

/-! ### Coverage -/

inductive EvaluationSource where
  | formualizer
  | trustedCache
  | none
  deriving DecidableEq, Repr

def EvaluationSource.isTrusted : EvaluationSource → Bool
  | .formualizer => true
  | .trustedCache => true
  | .none => false

inductive EvaluationFreshness where
  | currentRevision
  | unknown
  deriving DecidableEq, Repr

inductive EvaluationState where
  | clean
  | errorsFound
  | partly
  | notEvaluated
  deriving DecidableEq, Repr

structure EvaluationCoverage where
  formulaCells : Nat
  evaluatedFormulaCells : Nat
  unsupportedFormulaCells : Nat
  errorFormulaCells : Nat
  source : EvaluationSource
  freshness : EvaluationFreshness
  revisionId : String
  deriving DecidableEq, Repr

def EvaluationCoverage.hasValidCounts (coverage : EvaluationCoverage) : Bool :=
  coverage.evaluatedFormulaCells ≤ coverage.formulaCells &&
    coverage.unsupportedFormulaCells ≤ coverage.formulaCells &&
    coverage.errorFormulaCells ≤ coverage.evaluatedFormulaCells

def EvaluationCoverage.state (coverage : EvaluationCoverage) : EvaluationState :=
  if 0 < coverage.errorFormulaCells then .errorsFound
  else if coverage.formulaCells = 0 then .clean
  else if coverage.freshness ≠ .currentRevision then
    if 0 < coverage.evaluatedFormulaCells ∧
        coverage.evaluatedFormulaCells < coverage.formulaCells then .partly
    else .notEvaluated
  else if coverage.evaluatedFormulaCells = 0 then .notEvaluated
  else if coverage.evaluatedFormulaCells < coverage.formulaCells ∨
      0 < coverage.unsupportedFormulaCells then .partly
  else .clean

def EvaluationCoverage.isCompleteAndFresh (coverage : EvaluationCoverage) : Bool :=
  coverage.hasValidCounts && coverage.freshness == .currentRevision &&
    coverage.evaluatedFormulaCells == coverage.formulaCells &&
    coverage.unsupportedFormulaCells == 0 &&
    (coverage.formulaCells == 0 || coverage.source.isTrusted)

/-! ### Requests and answers -/

structure VerifyOptions where
  targets : List String := []
  sheetFilter : Option String := none
  includeNamedRangeDeltas : Bool := false
  errorsOnly : Bool := false
  targetsOnly : Bool := false
  deriving DecidableEq, Repr

def VerifyOptions.validate (options : VerifyOptions) : Except String Unit := do
  ensure (¬(options.errorsOnly ∧ options.targetsOnly))
    "invalid argument: --errors-only and --targets-only cannot be combined"
  ensure (¬(options.errorsOnly ∧ options.targets ≠ []))
    ("invalid argument: --errors-only cannot be combined with explicit --targets; drop --targets" ++
      " or use default verify mode")
  ensure (¬(options.errorsOnly ∧ options.includeNamedRangeDeltas))
    ("invalid argument: --errors-only cannot be combined with --named-ranges; use default verify" ++
      " mode to include named-range deltas")
  ensure (¬(options.targetsOnly ∧ options.targets = []))
    ("invalid argument: --targets-only requires --targets Sheet!A1,... to define the proof scope")
  ensure (¬(options.targetsOnly ∧ options.includeNamedRangeDeltas))
    ("invalid argument: --targets-only cannot be combined with --named-ranges; use default verify" ++
      " mode to include named-range deltas")

inductive NamedRangeScope where
  | workbook
  | sheet
  deriving DecidableEq, Repr

structure NamedRangeDescriptor where
  name : String
  scopeKind : Option NamedRangeScope
  scopeSheetName : Option String
  refersTo : String
  kind : NamedItemKind
  deriving DecidableEq, Repr

structure TargetCellSnapshot (ν : Type) where
  value : Option (CellValue ν)
  formula : Option String
  deriving DecidableEq, Repr

structure ErrorCellSnapshot where
  error : String
  formula : Option String
  deriving DecidableEq, Repr

inductive TargetClassification where
  | unchanged
  | newError
  | formulaShift
  | directEdit
  | recalcResult
  deriving DecidableEq, Repr

structure TargetDelta (ν : Type) where
  address : String
  before : Option (CellValue ν)
  after : Option (CellValue ν)
  beforeFormula : Option String
  afterFormula : Option String
  classification : TargetClassification
  changed : Bool
  deriving DecidableEq, Repr

structure ErrorDelta where
  address : String
  beforeError : Option String
  afterError : Option String
  beforeFormula : Option String
  afterFormula : Option String
  deriving DecidableEq, Repr

inductive NameChange where
  | changed
  | removed
  | added
  deriving DecidableEq, Repr

structure NamedRangeDelta where
  name : String
  scopeKind : Option NamedRangeScope
  scopeSheetName : Option String
  change : NameChange
  beforeRefersTo : Option String
  afterRefersTo : Option String
  beforeKind : Option NamedItemKind
  afterKind : Option NamedItemKind
  deriving DecidableEq, Repr

inductive ProofStatus where
  | proved
  | differencesFound
  | inconclusiveUnevaluated
  deriving DecidableEq, Repr

structure VerifySummary where
  targetCount : Nat
  changedTargets : Nat
  newErrorCount : Nat
  resolvedErrorCount : Nat
  preexistingErrorCount : Nat
  namedRangeDeltaCount : Nat
  targetClassificationCounts : TargetClassification → Nat

structure VerifyResponse (ν : Type) where
  baseline : String
  current : String
  proofStatus : ProofStatus
  baselineState : EvaluationState
  currentState : EvaluationState
  baselineEvaluationCoverage : EvaluationCoverage
  currentEvaluationCoverage : EvaluationCoverage
  targetDeltas : List (TargetDelta ν)
  newErrors : List ErrorDelta
  resolvedErrors : List ErrorDelta
  preexistingErrors : List ErrorDelta
  namedRangeDeltas : List NamedRangeDelta
  summary : VerifySummary

/-! ### Values -/

/-- Numbers are those that `==` tells apart, and one that is not a number. `isFinite` tells which
of them JSON can write; `indexFromCoordinate` is the workbook library's reading of an address. -/
structure VerifyTools (ν : Type) extends ValueTools ν where
  isFinite : ν → Bool
  indexFromCoordinate : String → Option Nat × Option Nat

inductive JsonValue (ν : Type) where
  | text (s : String)
  | number (n : ν)
  | null (kind : String)
  | bool (b : Bool)
  | error (e : String)
  | date (d : String)
  deriving DecidableEq, Repr

section Values
variable {ν : Type} (tools : VerifyTools ν)

/-- As `serde_json` writes it: a number that is not finite is null. -/
def toJson : CellValue ν → JsonValue ν
  | .text s => .text s
  | .number n => if tools.isFinite n then .number n else .null "Number"
  | .bool b => .bool b
  | .error e => .error e
  | .date d => .date d

def cellValuesEqual [DecidableEq ν] : Option (CellValue ν) → Option (CellValue ν) → Bool
  | none, none => true
  | some left, some right => toJson tools left == toJson tools right
  | _, _ => false

def isErrorValue : Option (CellValue ν) → Bool
  | some (.error _) => true
  | some (.text s) => isSpreadsheetError s
  | some (.date d) => isSpreadsheetError d
  | _ => false

def nonEmptyFormula (raw : String) : Option String :=
  if Legacy.trim raw = "" then none else some (Legacy.trim raw)

/-! ### Targets -/

def extractSheetName (raw : String) : String :=
  let trimmed := Legacy.trim raw
  match trimmed.toList with
  | '\'' :: rest =>
    if rest.getLast? = some '\'' then String.ofList (undoubled '\'' rest.dropLast) else trimmed
  | _ => trimmed

/-- At the last exclamation mark. -/
def rsplitOnce (raw : String) : Option (String × String) :=
  let after := (raw.toList.reverse.takeWhile (· ≠ '!')).reverse
  if after.length < raw.toList.length then
    some (String.ofList (raw.toList.take (raw.toList.length - after.length - 1)),
      String.ofList after)
  else none

def parseTargetCellRef (target rawCellRef : String) : Except String String :=
  let cellRef := Legacy.trim rawCellRef
  match tools.indexFromCoordinate cellRef with
  | (some c, some r) =>
    if 0 < c ∧ 0 < r then .ok cellRef
    else .error ("invalid argument: target '" ++ target ++
      "' must use Sheet!A1 notation with a single A1 cell reference")
  | _ => .error ("invalid argument: target '" ++ target ++
      "' must use Sheet!A1 notation with a single A1 cell reference")

def parseSheetCellRef (raw : String) : Except String (String × String) := do
  let (sheetName, cellRef) ← required (rsplitOnce raw)
    ("invalid argument: target '" ++ raw ++ "' must use Sheet!A1 notation")
  ensure (Legacy.trim sheetName ≠ "" ∧ Legacy.trim cellRef ≠ "")
    ("invalid argument: target '" ++ raw ++ "' must use Sheet!A1 notation")
  let cellRef ← parseTargetCellRef tools raw cellRef
  pure (extractSheetName sheetName, cellRef)

def cellSnapshot (cell : StoredCell) : TargetCellSnapshot ν where
  value := cellToValue tools.toValueTools cell
  formula := nonEmptyFormula (cell.formula.getD "")

def readTargetCell (book : WorkbookContext) (sheetName cellRef : String) :
    Except String (TargetCellSnapshot ν) := do
  let sheet ← book.withSheet sheetName
  pure <| match tools.indexFromCoordinate cellRef with
    | (some col, some row) => ((sheet.cell col row).map (cellSnapshot tools)).getD ⟨none, none⟩
    | _ => ⟨none, none⟩

def classifyTargetDelta (before after : TargetCellSnapshot ν) (changed : Bool) :
    TargetClassification :=
  if !changed then .unchanged
  else if isErrorValue after.value && !isErrorValue before.value then .newError
  else if before.formula ≠ after.formula then .formulaShift
  else if before.formula = none ∧ after.formula = none then .directEdit
  else .recalcResult

section Compare
variable [DecidableEq ν] (baseline current : WorkbookContext)

def targetDelta (target : String) : Except String (TargetDelta ν) := do
  let (sheetName, cellRef) ← parseSheetCellRef tools target
  let before ← readTargetCell tools baseline sheetName cellRef
  let after ← readTargetCell tools current sheetName cellRef
  let changed := !cellValuesEqual tools before.value after.value ||
    before.formula != after.formula
  pure { address := target, before := before.value, after := after.value
         beforeFormula := before.formula, afterFormula := after.formula
         classification := classifyTargetDelta before after changed, changed }

def collectTargetDeltas (targets : List String) : Except String (List (TargetDelta ν)) :=
  targets.mapM (targetDelta tools baseline current)

def countTargetClassifications (deltas : List (TargetDelta ν)) (classification :
    TargetClassification) : Nat :=
  deltas.countP fun delta => delta.classification = classification

end Compare

end Values

/-! ### Errors -/

abbrev ErrorMap : Type := Std.TreeMap String ErrorCellSnapshot

def isErrorCell (cell : StoredCell) : Bool :=
  cell.dataType == "e" || (cell.isFormula && isSpreadsheetError cell.value)

def errorItem (sheetName : String) (cell : StoredCell) : String × ErrorCellSnapshot :=
  (sheetName ++ "!" ++ cell.address, ⟨cell.value, nonEmptyFormula (cell.formula.getD "")⟩)

def sheetErrors (book : WorkbookContext) (sheetName : String) :
    Except String (List (String × ErrorCellSnapshot)) := do
  let sheet ← book.withSheet sheetName
  pure ((sheet.cells.filter isErrorCell).map (errorItem sheetName))

def scopeNames (book : WorkbookContext) : Option String → List String
  | some sheetName => [sheetName]
  | none => book.sheetNames

def collectErrorCells (book : WorkbookContext) (sheetFilter : Option String) :
    Except String ErrorMap := do
  let items ← (scopeNames book sheetFilter).mapM (sheetErrors book)
  pure (Std.TreeMap.ofList items.flatten)

def errorDelta (address : String) (before after : Option ErrorCellSnapshot) : ErrorDelta where
  address
  beforeError := before.map ErrorCellSnapshot.error
  afterError := after.map ErrorCellSnapshot.error
  beforeFormula := before.bind ErrorCellSnapshot.formula
  afterFormula := after.bind ErrorCellSnapshot.formula

structure ErrorComparison where
  newErrors : List ErrorDelta := []
  resolvedErrors : List ErrorDelta := []
  preexistingErrors : List ErrorDelta := []

def compareErrorMaps (baseline current : ErrorMap) : ErrorComparison where
  newErrors := current.toList.filterMap fun (address, after) =>
    if baseline.contains address then none else some (errorDelta address none (some after))
  resolvedErrors := baseline.toList.filterMap fun (address, before) =>
    if current.contains address then none else some (errorDelta address (some before) none)
  preexistingErrors := current.toList.filterMap fun (address, after) =>
    baseline[address]?.map fun before => errorDelta address (some before) (some after)

/-! ### Named items -/

def scopeText : Option NamedRangeScope → String
  | some .workbook => "Some(Workbook)"
  | some .sheet => "Some(Sheet)"
  | none => "None"

def kindText : NamedItemKind → String
  | .namedRange => "NamedRange"
  | .table => "Table"
  | .formula => "Formula"
  | .unknown => "Unknown"

def namedRangeKey (item : NamedRangeDescriptor) : String :=
  item.name ++ "|" ++ scopeText item.scopeKind ++ "|" ++ item.scopeSheetName.getD "" ++ "|" ++
    kindText item.kind

abbrev NameMap : Type := Std.TreeMap String NamedRangeDescriptor

def nameMap (items : List NamedRangeDescriptor) : NameMap :=
  Std.TreeMap.ofList (items.map fun item => (namedRangeKey item, item))

def namedRangeDelta (item : NamedRangeDescriptor) (change : NameChange)
    (before after : Option NamedRangeDescriptor) : NamedRangeDelta where
  name := item.name
  scopeKind := item.scopeKind
  scopeSheetName := item.scopeSheetName
  change
  beforeRefersTo := before.map NamedRangeDescriptor.refersTo
  afterRefersTo := after.map NamedRangeDescriptor.refersTo
  beforeKind := before.map NamedRangeDescriptor.kind
  afterKind := after.map NamedRangeDescriptor.kind

def nameDelta : Option NamedRangeDescriptor → Option NamedRangeDescriptor → Option NamedRangeDelta
  | some b, some a =>
    if b.refersTo ≠ a.refersTo ∨ b.kind ≠ a.kind then
      some (namedRangeDelta a .changed (some b) (some a))
    else none
  | some b, none => some (namedRangeDelta b .removed (some b) none)
  | none, some a => some (namedRangeDelta a .added none (some a))
  | none, none => none

def compareNamedRanges (baseline current : List NamedRangeDescriptor) : List NamedRangeDelta :=
  let baseMap := nameMap baseline
  let currentMap := nameMap current
  (Std.TreeSet.ofList (baseMap.keys ++ currentMap.keys)).toList.filterMap fun key =>
    nameDelta baseMap[key]? currentMap[key]?

/-! ### The verdict -/

/-- One side of a comparison: its label, its book, its named items where they were loaded, and how
far it was evaluated. -/
structure Side where
  label : String
  book : WorkbookContext
  namedRanges : Option (List NamedRangeDescriptor)
  coverage : EvaluationCoverage

section Verdict
variable {ν : Type} [DecidableEq ν] (tools : VerifyTools ν) (baseline current : Side)
  (options : VerifyOptions)

def targetComparison : Except String (List (TargetDelta ν)) :=
  if options.errorsOnly then .ok []
  else collectTargetDeltas tools baseline.book current.book options.targets

def errorComparison : Except String ErrorComparison :=
  if options.targetsOnly then .ok {}
  else do
    let baselineErrors ← collectErrorCells baseline.book options.sheetFilter
    let currentErrors ← collectErrorCells current.book options.sheetFilter
    pure (compareErrorMaps baselineErrors currentErrors)

def nameComparison : Except String (List NamedRangeDelta) :=
  if options.includeNamedRangeDeltas then do
    let baselineNames ← required baseline.namedRanges
      "internal error: baseline named ranges were not loaded for verification"
    let currentNames ← required current.namedRanges
      "internal error: current named ranges were not loaded for verification"
    pure (compareNamedRanges baselineNames currentNames)
  else .ok []

def ErrorDelta.changed (delta : ErrorDelta) : Bool :=
  delta.beforeError != delta.afterError || delta.beforeFormula != delta.afterFormula

def hasDifferences (targets : List (TargetDelta ν)) (errors : ErrorComparison)
    (names : List NamedRangeDelta) : Bool :=
  targets.any TargetDelta.changed || !errors.newErrors.isEmpty ||
    !errors.resolvedErrors.isEmpty || errors.preexistingErrors.any ErrorDelta.changed ||
    !names.isEmpty

def compareWorkbooksWithCoverage : Except String (VerifyResponse ν) := do
  options.validate
  let targets ← targetComparison tools baseline current options
  let errors ← errorComparison baseline current options
  let names ← nameComparison baseline current options
  pure { baseline := baseline.label, current := current.label
         proofStatus :=
          if !(baseline.coverage.isCompleteAndFresh && current.coverage.isCompleteAndFresh) then
            .inconclusiveUnevaluated
          else if hasDifferences targets errors names then .differencesFound
          else .proved
         baselineState := baseline.coverage.state
         currentState := current.coverage.state
         baselineEvaluationCoverage := baseline.coverage
         currentEvaluationCoverage := current.coverage
         targetDeltas := targets
         newErrors := errors.newErrors
         resolvedErrors := errors.resolvedErrors
         preexistingErrors := errors.preexistingErrors
         namedRangeDeltas := names
         summary := {
          targetCount := targets.length
          changedTargets := targets.countP TargetDelta.changed
          newErrorCount := errors.newErrors.length
          resolvedErrorCount := errors.resolvedErrors.length
          preexistingErrorCount := errors.preexistingErrors.length
          namedRangeDeltaCount := names.length
          targetClassificationCounts := countTargetClassifications targets } }

end Verdict

end AgentSpreadsheet.Verify
