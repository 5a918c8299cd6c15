import AgentSpreadsheet.Revision
import Mathlib.Data.Rat.Defs

/-! Canonical write vocabulary: requests, responses, staged bundles and the
prepared effects a write publishes. Finite doubles are the rationals they
denote; the wire format has no other numbers. -/
namespace AgentSpreadsheet

inductive ResourceKind where
  | wb
  | fork
  | session
  deriving DecidableEq, Repr

/-- A typed resource identifier `kind:key`. -/
structure ResourceId where
  kind : ResourceKind
  key : String
  deriving DecidableEq, Repr

/-- The opaque part after the type prefix. -/
def ResourceId.toWorkbookId (resource : ResourceId) : String := resource.key

inductive WriteMode where
  | preview
  | apply
  | stage
  deriving DecidableEq, Repr

inductive FormulaParsePolicy where
  | fail
  | warn
  | off
  deriving DecidableEq, Repr

inductive OperationRisk where
  | low
  | moderate
  | high
  | destructive
  deriving DecidableEq, Repr

/-- A JSON cell value with the text it has in a request. -/
inductive MatrixValue where
  | null
  | bool (b : Bool)
  | number (text : String)
  | string (text : String)
  | composite (text : String)
  deriving DecidableEq, Repr

inductive MatrixCell where
  | value (v : MatrixValue)
  | formula (f : String)
  deriving DecidableEq, Repr

/-- A one-based cell position `(column, row)`. -/
abbrev Position := Nat × Nat

/-- Write operations. The two common cell operations are kept in full; every
other operation is its kind with an uninterpreted payload. -/
inductive WriteOp where
  | setCells (sheetName : String) (cells : List (Position × MatrixCell)) (overwriteFormulas : Bool)
  | writeMatrix (sheetName : String) (anchor : Position) (rows : List (List (Option MatrixCell)))
      (overwriteFormulas : Bool)
  | other (kind : String) (risk : OperationRisk) (payload : String)
  deriving DecidableEq, Repr

def WriteOp.kind : WriteOp → String
  | .setCells .. => "set_cells"
  | .writeMatrix .. => "write_matrix"
  | .other kind _ _ => kind

def WriteOp.risk : WriteOp → OperationRisk
  | .other _ risk _ => risk
  | _ => .moderate

structure WriteRequest where
  resourceId : ResourceId
  expectedRevision : String
  mode : WriteMode
  atomic : Bool
  ops : List WriteOp
  label : Option String
  formulaParsePolicy : Option FormulaParsePolicy
  deriving DecidableEq, Repr

inductive WriteOpStatus where
  | applied
  | staged
  | previewed
  | rolledBack
  | failed
  | skipped
  deriving DecidableEq, Repr

structure WriteOpResult where
  index : Nat
  kind : String
  status : WriteOpStatus
  detail : Option String
  error : Option String
  deriving DecidableEq, Repr

structure WriteDiff where
  changeCount : Nat
  exact : Bool
  precision : String
  changes : List String
  effects : List String
  deriving DecidableEq, Repr

structure WriteImpact where
  opKinds : List String
  risk : OperationRisk
  deriving DecidableEq, Repr

inductive WriteStatus where
  | previewed
  | staged (changeId : String)
  | applied
  | partialApply
  | failed
  | rolledBack
  deriving DecidableEq, Repr

/-- `ops` is `ops_previewed`, `ops_staged` or `ops_applied`, by status. -/
structure WriteResponseData where
  status : WriteStatus
  mode : WriteMode
  atomic : Bool
  revisionBefore : String
  revisionAfter : String
  ops : Nat
  diff : WriteDiff
  impact : WriteImpact
  results : List WriteOpResult
  deriving DecidableEq, Repr

structure CanonicalStagedBundle where
  label : Option String
  baseRevision : String
  maxRisk : OperationRisk
  atomic : Bool
  ops : List WriteOp
  formulaParsePolicy : Option FormulaParsePolicy
  deriving DecidableEq, Repr

inductive ResidentMaterializedValue where
  | empty
  | string (s : String)
  | richText (s : String)
  | lazy (s : String)
  | number (n : Rat)
  | bool (b : Bool)
  | error (s : String)
  deriving DecidableEq, Repr

structure ResidentMaterializedCell where
  value : ResidentMaterializedValue
  formula : Option String
  deriving DecidableEq, Repr

structure ResidentPreparedCellEffect where
  sheetName : String
  column : Nat
  row : Nat
  sourceOpIndices : List Nat
  expectedBefore : Option ResidentMaterializedCell
  after : ResidentMaterializedCell
  deriving DecidableEq, Repr

inductive ResidentCalculationEffect where
  | preserve
  | invalidate
  deriving DecidableEq, Repr

/-- What a prepared transaction publishes to the document. `Archive` stands for
XLSX bytes, which are only compared, hashed, written and read. -/
inductive PreparedResidentPublication (Archive : Type) where
  | none
  | cells (effects : List ResidentPreparedCellEffect)
  | snapshot (expectedBeforeSha256 : String) (bytes : Archive) (sha256 : String)
      (calculationEffect : ResidentCalculationEffect)
  deriving DecidableEq

structure PreparedResidentTransaction (Archive : Type) where
  baseSha256 : String
  response : WriteResponseData
  publication : PreparedResidentPublication Archive
  staged : Option (String × CanonicalStagedBundle)
  consumeStaged : Option String
  deriving DecidableEq

/-- `publication.kind != "none"`. -/
def PreparedResidentPublication.publishesDocument :
    PreparedResidentPublication Archive → Bool
  | .none => false
  | _ => true

end AgentSpreadsheet
