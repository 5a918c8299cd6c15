import AgentSpreadsheet.Record
import AgentSpreadsheet.Library.Exec

/-! The authoritative document and its resident owner. The XLSX library is a
parameter: it reads, writes and types cell text. The formula engine is outside
as well; what it answers is an argument of the calls that ask it. -/
namespace AgentSpreadsheet
open Library

abbrev CellKey := String × Nat × Nat

instance instLawfulBEqCellKey : LawfulBEq CellKey := inferInstance

/-- A library cell. A formula set to the empty text is still a formula to the
library. -/
structure Cell where
  value : ResidentMaterializedValue := .empty
  formula : Option String := none
  style : String := ""
  deriving DecidableEq, Repr

/-- A document: sheets, cells, and everything that is not a cell. -/
structure Workbook where
  sheets : List String
  cells : CellKey → Option Cell
  remainder : String

/-- The XLSX library. Repeated writes need not be byte-identical, so a write
takes the state of the library's serialisation tables. -/
structure Xlsx (Archive : Type) where
  readReader : Archive → Result Workbook
  writeWriter : Nat → Workbook → Result Archive
  guessTypedData : String → ResidentMaterializedValue

/-- `bytes` is a serialisation of the document. -/
def Xlsx.Serialises (xlsx : Xlsx Archive) (document : Workbook) (bytes : Archive) : Prop :=
  ∃ tables, xlsx.writeWriter tables document = .ok bytes

namespace Cell

def isFormula (cell : Cell) : Bool := cell.formula.isSome

def setFormula (cell : Cell) (formula : String) : Cell := { cell with formula := some formula }

def setFormulaResult (cell : Cell) (value : ResidentMaterializedValue) : Cell :=
  { cell with value }

/-- Literal setters drop the formula. -/
def setLiteral (cell : Cell) (value : ResidentMaterializedValue) : Cell :=
  { cell with value, formula := none }

def setValue (xlsx : Xlsx Archive) (cell : Cell) (text : String) : Cell :=
  cell.setLiteral (xlsx.guessTypedData text)

/-- `materialize_umya_cell`. -/
def materialize (cell : Cell) : ResidentMaterializedCell where
  value := cell.value
  formula := cell.formula.filter (· ≠ "")

end Cell

namespace Workbook

def materializedCell (document : Workbook) (key : CellKey) :
    Result (Option ResidentMaterializedCell) := do
  ensure (key.1 ∈ document.sheets) ("sheet '" ++ key.1 ++ "' not found")
  pure ((document.cells key).map Cell.materialize)

/-- `cell_mut` creates a missing cell. -/
def cellMut (document : Workbook) (key : CellKey) : Cell :=
  (document.cells key).getD {}

def setCell (document : Workbook) (key : CellKey) (cell : Cell) : Workbook :=
  { document with cells := Function.update document.cells key (some cell) }

end Workbook

def logicalPredecessorMatches :
    Option ResidentMaterializedCell → Option ResidentMaterializedCell → Bool
  | none, none => true
  | some current, some expected =>
    match expected.formula with
    | some formula => current.formula == some formula
    | none => current == expected
  | _, _ => false

/-- The error literals a prepared formula result can be given. -/
def supportedErrors : List String :=
  ["#DIV/0!", "#NAME?", "#N/A", "#NUM!", "#VALUE!", "#REF!", "#NULL!", "#DATA!"]

/-- The formula is set before its result is looked at, so a refused result
leaves the cell changed. -/
def assignMaterializedCell (xlsx : Xlsx Archive) (cell : Cell)
    (materialized : ResidentMaterializedCell) : Result Unit × Cell :=
  match materialized.formula with
  | some formula =>
    let cell := cell.setFormula formula
    match materialized.value with
    | .empty => (.ok (), cell.setFormulaResult .empty)
    | .string s | .richText s | .lazy s => (.ok (), cell.setFormulaResult (.string s))
    | .number n => (.ok (), cell.setFormulaResult (.number n))
    | .bool b => (.ok (), cell.setFormulaResult (.bool b))
    | .error s =>
      if s ∈ supportedErrors then (.ok (), cell.setFormulaResult (.error s))
      else (.error ("unsupported prepared cell error '" ++ s ++ "'"), cell)
  | none =>
    match materialized.value with
    | .empty => (.ok (), cell.setValue xlsx "")
    | .string s | .richText s | .lazy s => (.ok (), cell.setLiteral (.string s))
    | .number n => (.ok (), cell.setLiteral (.number n))
    | .bool b => (.ok (), cell.setLiteral (.bool b))
    | .error s => (.ok (), cell.setValue xlsx s)

/-- Whether a prepared cell can be assigned at all. -/
def ResidentMaterializedCell.assignable (materialized : ResidentMaterializedCell) : Bool :=
  match materialized.formula, materialized.value with
  | some _, .error s => s ∈ supportedErrors
  | _, _ => true

theorem assignMaterializedCell_ok (xlsx : Xlsx Archive) (cell : Cell)
    {materialized : ResidentMaterializedCell} (h : materialized.assignable = true) :
    (assignMaterializedCell xlsx cell materialized).1 = .ok () := by
  obtain ⟨value, formula⟩ := materialized
  cases formula <;> cases value <;> simp_all [assignMaterializedCell,
    ResidentMaterializedCell.assignable]

def ResidentPreparedCellEffect.key (effect : ResidentPreparedCellEffect) : CellKey :=
  (effect.sheetName, effect.column, effect.row)

def checkCells (document : Workbook) (checkBefore : Bool) :
    List ResidentPreparedCellEffect → Result Unit
  | [] => .ok ()
  | effect :: rest => do
    let current ← document.materializedCell effect.key
    ensure ((if checkBefore then decide (current = effect.expectedBefore)
      else logicalPredecessorMatches current effect.expectedBefore) = true)
      ("prepared cell logical precondition changed at " ++ effect.sheetName)
    checkCells document checkBefore rest

/-- The second loop. It has no way back from a refused cell. -/
def assignCells (xlsx : Xlsx Archive) :
    List ResidentPreparedCellEffect → Workbook → Result Unit × Workbook
  | [], document => (.ok (), document)
  | effect :: rest, document =>
    if effect.sheetName ∉ document.sheets then
      (.error ("sheet '" ++ effect.sheetName ++ "' not found"), document)
    else
      match assignMaterializedCell xlsx (document.cellMut effect.key) effect.after with
      | (.ok (), cell) => assignCells xlsx rest (document.setCell effect.key cell)
      | (.error e, cell) => (.error e, document.setCell effect.key cell)

/-- An evaluator literal; dates, times and durations are the serial numbers the
date system gives them. -/
inductive LiteralValue where
  | empty
  | int (n : Int)
  | number (n : Rat)
  | boolean (b : Bool)
  | text (s : String)
  | error (kind : String)
  | temporal (serial : Rat)
  | pending
  | array
  deriving DecidableEq, Repr

structure FormulaCacheUpdate where
  sheet : String
  row : Nat
  col : Nat
  value : LiteralValue
  deriving DecidableEq, Repr

def FormulaCacheUpdate.key (update : FormulaCacheUpdate) : CellKey :=
  (update.sheet, update.col, update.row)

def cacheValue (xlsx : Xlsx Archive) : LiteralValue → ResidentMaterializedValue
  | .empty => xlsx.guessTypedData ""
  | .int n => .number n
  | .number n => .number n
  | .boolean b => .bool b
  | .text s => .string s
  | .error kind => xlsx.guessTypedData kind
  | .temporal serial => .number serial
  | .pending | .array => xlsx.guessTypedData "#VALUE!"

/-- Every target is a formula cell of the document. -/
def checkCacheTargets (document : Workbook) : List FormulaCacheUpdate → Result Unit
  | [] => .ok ()
  | update :: rest => do
    ensure (update.sheet ∈ document.sheets) ("sheet '" ++ update.sheet ++ "' not found")
    let cell ← required (document.cells update.key)
      ("formula cache target " ++ update.sheet ++ " does not exist")
    ensure (cell.isFormula = true) ("formula cache target " ++ update.sheet ++ " is not a formula")
    checkCacheTargets document rest

def publishCache (xlsx : Xlsx Archive) (document : Workbook) (update : FormulaCacheUpdate) :
    Workbook :=
  document.setCell update.key
    ((document.cellMut update.key).setFormulaResult (cacheValue xlsx update.value))

/-- All targets are checked before any cache changes. -/
def applyFormulaCacheUpdates (xlsx : Xlsx Archive) (document : Workbook)
    (updates : List FormulaCacheUpdate) : Result Workbook := do
  checkCacheTargets document updates
  pure (updates.foldl (publishCache xlsx) document)

def jsonValueToCellString : MatrixValue → String
  | .null => ""
  | .bool b => toString b
  | .number text | .string text | .composite text => text

/-- One leading equals sign is not part of the formula. -/
def stripEquals (formula : String) : String :=
  match formula.toList with
  | '=' :: rest => String.ofList rest
  | _ => formula

/-- One cell of a matrix write, for a value the matrix does have. -/
def writeMatrixCell (xlsx : Xlsx Archive) (overwriteFormulas : Bool) (cell : Cell)
    (written : MatrixCell) : Option Cell :=
  if cell.isFormula && !overwriteFormulas then none
  else
    match written with
    | .value raw => some (cell.setValue xlsx (jsonValueToCellString raw))
    | .formula formula =>
      some ((cell.setFormula (stripEquals formula)).setFormulaResult (xlsx.guessTypedData ""))

/-- The positions a matrix writes, row by row. -/
def matrixCells (anchor : Position) (rows : List (List (Option MatrixCell))) :
    List (Position × MatrixCell) :=
  rows.zipIdx.flatMap fun (values, rowOffset) =>
    values.zipIdx.filterMap fun (value, columnOffset) =>
      value.map fun written => ((anchor.1 + columnOffset, anchor.2 + rowOffset), written)

structure SessionTransformOp where
  sheetName : String
  anchor : Position
  rows : List (List (Option MatrixCell))
  overwriteFormulas : Bool
  deriving DecidableEq, Repr

/-- The targets of a matrix write with their values. -/
def SessionTransformOp.cells (op : SessionTransformOp) : List (CellKey × MatrixCell) :=
  (matrixCells op.anchor op.rows).map fun (position, written) =>
    ((op.sheetName, position.1, position.2), written)

def preflightWriteMatrix (document : Workbook) (op : SessionTransformOp) : Result Unit := do
  ensure (op.sheetName ∈ document.sheets) ("sheet '" ++ op.sheetName ++ "' not found")
  let maxWidth := (op.rows.map List.length).foldl max 0
  ensure (op.anchor.2 + (op.rows.length - 1) < 2 ^ 32) "matrix row range overflows"
  ensure (op.anchor.1 + (maxWidth - 1) < 2 ^ 32) "matrix column range overflows"
  ensure (op.anchor.2 + (op.rows.length - 1) ≤ 1048576 ∧ op.anchor.1 + (maxWidth - 1) ≤ 16384)
    "matrix exceeds XLSX worksheet bounds"

/-- One cell of a batch, with the count of the cells set so far. A skipped cell
exists already, so that touching it creates nothing. -/
def setMatrixCell (xlsx : Xlsx Archive) (overwriteFormulas : Bool) (result : Workbook × Nat)
    (target : CellKey × MatrixCell) : Workbook × Nat :=
  match writeMatrixCell xlsx overwriteFormulas (result.1.cellMut target.1) target.2 with
  | none => result
  | some cell => (result.1.setCell target.1 cell, result.2 + 1)

/-- The document after a batch and the number of cells it set. -/
def applyOps (xlsx : Xlsx Archive) (document : Workbook) (ops : List SessionTransformOp) :
    Workbook × Nat :=
  ops.foldl (fun result op => op.cells.foldl (setMatrixCell xlsx op.overwriteFormulas) result)
    (document, 0)

inductive CalculationStamp where
  | notEvaluated (documentRevision : UInt64)
  | dirty (documentRevision : UInt64)
  | current (documentRevision : UInt64) (coverage : EvaluationCoverage)
  deriving DecidableEq, Repr

structure EvaluatorEvaluation where
  cellsEvaluated : Nat
  cacheUpdates : List FormulaCacheUpdate
  evalErrors : List String
  errorFormulaCells : Nat
  formulaCells : Nat
  deriving DecidableEq, Repr

/-- The coverage of a complete evaluation by the resident engine. -/
def EvaluatorEvaluation.coverage (evaluation : EvaluatorEvaluation) (revisionId : String) :
    EvaluationCoverage where
  formulaCells := evaluation.formulaCells
  evaluatedFormulaCells := evaluation.formulaCells
  unsupportedFormulaCells := 0
  errorFormulaCells := evaluation.errorFormulaCells
  source := .formualizer
  freshness := .currentRevision
  revisionId := revisionId

/-- One portable resident workbook. `evaluator` says whether an evaluator is
retained; `snapshot` is the last serialisation with the revision it was made at. -/
structure ResidentWorkbook (Archive : Type) where
  document : Workbook
  evaluator : Bool
  revisions : ResidentRevision
  calculation : CalculationStamp
  serializations : Nat
  snapshot : Option (ResidentRevision × Archive)

namespace ResidentWorkbook
variable (xlsx : Xlsx Archive) (w : ResidentWorkbook Archive)

/-- `ingested` says whether the evaluator could be built from the bytes. -/
def fromBytes (bytes : Archive) (epoch : String) (ingested : Bool) :
    Result (ResidentWorkbook Archive) := do
  let document ← xlsx.readReader bytes
  ensure (ingested = true) "failed to open evaluator adapter"
  pure {
    document, evaluator := true, revisions := ⟨epoch, 0, 0⟩
    calculation := .notEvaluated 0, serializations := 0, snapshot := none }

def stateRevisionId : String := w.revisions.stateRevisionId

/-- A new serialisation, captured under the current revision. -/
def writeSnapshot : Result Archive × ResidentWorkbook Archive :=
  match xlsx.writeWriter (w.serializations + 1) w.document with
  | .error e => (.error e, { w with serializations := w.serializations + 1 })
  | .ok bytes => (.ok bytes, { w with
      serializations := w.serializations + 1
      snapshot := some (w.revisions, bytes) })

/-- A capture of exactly the current revision is reused. -/
def snapshotBytes : Result Archive × ResidentWorkbook Archive :=
  match w.snapshot with
  | some (revision, bytes) =>
    if revision = w.revisions then (.ok bytes, w) else w.writeSnapshot xlsx
  | none => w.writeSnapshot xlsx

/-- Both counters advance for a document transition. -/
def advanceDocument : ResidentWorkbook Archive :=
  { w with revisions := { w.revisions with
      document := w.revisions.document + 1, state := w.revisions.state + 1 } }

def markDirty : ResidentWorkbook Archive :=
  { w with calculation := .dirty w.revisions.document }

/-- `synchronized` says whether the evaluator took every effect. -/
def publishPreparedCellsInner (checkBefore synchronized : Bool)
    (effects : List ResidentPreparedCellEffect) : Result String × ResidentWorkbook Archive :=
  match checkCells w.document checkBefore effects with
  | .error e => (.error e, w)
  | .ok () =>
    match assignCells xlsx effects w.document with
    | (.error e, document) => (.error e, { w with document })
    | (.ok (), document) =>
      if effects = [] then (.ok w.stateRevisionId, w)
      else
        let w := { w with document }.advanceDocument.markDirty
        (.ok w.stateRevisionId, { w with evaluator := w.evaluator && synchronized })

def publishPreparedCells (synchronized : Bool) (effects : List ResidentPreparedCellEffect) :
    Result String × ResidentWorkbook Archive :=
  w.publishPreparedCellsInner xlsx true synchronized effects

def recoverPreparedCells (synchronized : Bool) (effects : List ResidentPreparedCellEffect) :
    Result String × ResidentWorkbook Archive :=
  w.publishPreparedCellsInner xlsx false synchronized effects

/-- The capture stays. -/
def restoreRevisionIdentity (revision : ResidentRevision) : ResidentWorkbook Archive :=
  { w with
    revisions := revision
    calculation := .dirty revision.document
    evaluator := false }

def advanceMetadataState : ResidentWorkbook Archive :=
  { w with revisions := { w.revisions with state := w.revisions.state + 1 } }

def invalidateCalculationProof : ResidentWorkbook Archive :=
  let w := { w with evaluator := false }
  if w.calculation = .dirty w.revisions.document then w
  else w.advanceMetadataState.markDirty

/-- `revoke_calculation_proof`, less the revision text it returns. -/
def revokeCalculationProof : ResidentWorkbook Archive := w.invalidateCalculationProof

/-- A refused cache update revokes the proof and leaves the document. -/
def publishFormulaCaches (updates : List FormulaCacheUpdate) :
    Result Unit × ResidentWorkbook Archive :=
  match applyFormulaCacheUpdates xlsx w.document updates with
  | .error e => (.error e, w.invalidateCalculationProof)
  | .ok document => (.ok (), { w with document })

def publishPreparedCalculation (evaluation : EvaluatorEvaluation) (coverage : EvaluationCoverage) :
    Result String × ResidentWorkbook Archive :=
  match w.publishFormulaCaches xlsx evaluation.cacheUpdates with
  | (.error e, w) => (.error e, w)
  | (.ok (), w) =>
    let w := w.advanceMetadataState
    (.ok w.stateRevisionId, { w with
      calculation := .current w.revisions.document
        { coverage with revisionId := w.stateRevisionId } })

def markRestartBoundary : ResidentWorkbook Archive :=
  { w with evaluator := false }.advanceMetadataState.markDirty

def replaceFromBytes (bytes : Archive) (effect : ResidentCalculationEffect) :
    Result String × ResidentWorkbook Archive :=
  match xlsx.readReader bytes with
  | .error e => (.error e, w)
  | .ok replacement =>
    let w := { w with document := replacement }.advanceDocument
    let w := match effect with
      | .preserve => { w with calculation := match w.calculation with
          | .current _ coverage => .current w.revisions.document
              { coverage with revisionId := w.stateRevisionId }
          | .notEvaluated _ => .notEvaluated w.revisions.document
          | .dirty _ => .dirty w.revisions.document }
      | .invalidate => { w with evaluator := false }.markDirty
    (.ok w.stateRevisionId, w)

def preflightWriteMatrices (ops : List SessionTransformOp) : Result Unit :=
  ops.forM (preflightWriteMatrix w.document)

/-- `apply_write_matrices`; the summary is the number of cells set. -/
def applyWriteMatrices (synchronized : Bool) (ops : List SessionTransformOp) :
    Result Nat × ResidentWorkbook Archive :=
  match w.preflightWriteMatrices ops with
  | .error e => (.error e, w)
  | .ok () =>
    let (document, set) := applyOps xlsx w.document ops
    if set = 0 then (.ok set, { w with document })
    else
      let w := { w with document }.advanceDocument.markDirty
      (.ok set, { w with evaluator := w.evaluator && synchronized })

def invalidateAfterUnsupportedChange : ResidentWorkbook Archive :=
  { w.advanceDocument.markDirty with evaluator := false }

/-- What the engine answers when it is built and run. -/
structure EngineRun where
  ingested : Bool := true
  evaluation : Result EvaluatorEvaluation

/-- A missing evaluator is built from a snapshot. -/
def ensureEvaluator (engine : EngineRun) : Result Unit × ResidentWorkbook Archive :=
  if w.evaluator then (.ok (), w)
  else
    match w.snapshotBytes xlsx with
    | (.error e, w) => (.error e, w)
    | (.ok _, w) =>
      if engine.ingested then (.ok (), { w with evaluator := true })
      else (.error "failed to rebuild evaluator adapter", w)

def prepareCalculation (engine : EngineRun) :
    Result EvaluatorEvaluation × ResidentWorkbook Archive :=
  match w.ensureEvaluator xlsx engine with
  | (.error e, w) => (.error e, w)
  | (.ok (), w) =>
    match engine.evaluation with
    | .error e => (.error e, { w with evaluator := false })
    | .ok evaluation => (.ok evaluation, w)

/-- An external engine works on a snapshot; only its caches come back. -/
def prepareExternalCalculation (engine : EngineRun) :
    Result EvaluatorEvaluation × ResidentWorkbook Archive :=
  match w.snapshotBytes xlsx with
  | (.error e, w) => (.error e, w)
  | (.ok _, w) =>
    match engine.evaluation with
    | .error e => (.error e, w)
    | .ok evaluation => (.ok evaluation, { w with evaluator := false })

/-- Evaluation and publication in one call, outside the journal. -/
def recalculate (engine : EngineRun) : Result EvaluationCoverage × ResidentWorkbook Archive :=
  match w.ensureEvaluator xlsx engine with
  | (.error e, w) => (.error e, w)
  | (.ok (), w) =>
    match engine.evaluation with
    | .error e => (.error e, w.invalidateCalculationProof)
    | .ok evaluation =>
      match w.publishFormulaCaches xlsx evaluation.cacheUpdates with
      | (.error e, w) => (.error e, w)
      | (.ok (), w) =>
        let w := w.advanceMetadataState
        let coverage := evaluation.coverage w.stateRevisionId
        (.ok coverage, { w with calculation := .current w.revisions.document coverage })

/-- `export_bytes`, less the export stamp. -/
def exportBytes : Result Archive × ResidentWorkbook Archive := w.snapshotBytes xlsx

end ResidentWorkbook

end AgentSpreadsheet
