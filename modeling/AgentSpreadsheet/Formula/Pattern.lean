import AgentSpreadsheet.Library.Guard
import Mathlib.Data.List.Forall2

/-! A formula as the parser has it, and the walk that moves its references. -/
namespace AgentSpreadsheet.Formula
open Library

inductive RelativeMode where
  | excel
  | absCols
  | absRows
  deriving DecidableEq, Repr

inductive Axis where
  | row
  | col
  deriving DecidableEq, Repr

def Axis.limit : Axis → Nat
  | .row => 1048576
  | .col => 16384

structure Coordinate where
  value : UInt32
  abs : Bool
  deriving DecidableEq, Repr

/-- An end of a range. Without a value the range is open there. -/
structure Bound where
  value : Option UInt32
  abs : Bool
  deriving DecidableEq, Repr

inductive ReferenceType where
  | cell (sheet : Option String) (row col : Coordinate)
  | range (sheet : Option String) (startRow startCol endRow endCol : Bound)
  | table (text : String)
  | namedRange (name : String)
  | external (text : String)
  | cell3D (firstSheet lastSheet : String) (row col : Coordinate)
  | range3D (firstSheet lastSheet : String) (startRow startCol endRow endCol : Bound)
  deriving DecidableEq, Repr

/-- A reference as it was written, and what it refers to. -/
structure Leaf where
  original : String
  reference : ReferenceType
  deriving DecidableEq, Repr

inductive ASTNode where
  | reference (leaf : Leaf)
  | unaryOp (op : String) (expr : ASTNode)
  | binaryOp (op : String) (left right : ASTNode)
  | function (name : String) (args : List ASTNode)
  | call (callee : ASTNode) (args : List ASTNode)
  | omitted
  | array (rows : List (List ASTNode))
  | literal (text : String)

/-! ### One reference -/

def shiftU32 (value : UInt32) (abs : Bool) (delta : Int) : Except String UInt32 :=
  if abs = true ∨ delta = 0 then .ok value
  else if (value.toNat : Int) + delta < 1 then .error "shift would move reference before A1"
  else .ok (UInt32.ofNat ((value.toNat : Int) + delta).toNat)

def shiftOptU32 (value : Option UInt32) (abs : Bool) (delta : Int) : Except String (Option UInt32) :=
  match value with
  | some v => some <$> shiftU32 v abs delta
  | none => .ok none

/-- The modes make a coordinate absolute, in a range where it has a value. -/
def Coordinate.freeze (frozen : Bool) (c : Coordinate) : Coordinate := { c with abs := c.abs || frozen }

def Bound.freeze (frozen : Bool) (b : Bound) : Bound :=
  { b with abs := b.abs || (frozen && b.value.isSome) }

def Coordinate.shift (delta : Int) (c : Coordinate) : Except String Coordinate :=
  (fun value => { c with value }) <$> shiftU32 c.value c.abs delta

def Bound.shift (delta : Int) (b : Bound) : Except String Bound :=
  (fun value => { b with value }) <$> shiftOptU32 b.value b.abs delta

section Shift
variable (deltaCol deltaRow : Int) (mode : RelativeMode)

def shiftPlace (row col : Coordinate) : Except String (Coordinate × Coordinate) := do
  let col ← (col.freeze (mode == .absCols)).shift deltaCol
  let row ← (row.freeze (mode == .absRows)).shift deltaRow
  pure (row, col)

def shiftBounds (startRow startCol endRow endCol : Bound) :
    Except String (Bound × Bound × Bound × Bound) := do
  let startCol ← (startCol.freeze (mode == .absCols)).shift deltaCol
  let endCol ← (endCol.freeze (mode == .absCols)).shift deltaCol
  let startRow ← (startRow.freeze (mode == .absRows)).shift deltaRow
  let endRow ← (endRow.freeze (mode == .absRows)).shift deltaRow
  pure (startRow, startCol, endRow, endCol)

/-- Tables, names and other books stay. References across sheets move like the others. -/
def shiftReferenceType : ReferenceType → Except String ReferenceType
  | .cell sheet row col =>
    (fun (row, col) => .cell sheet row col) <$> shiftPlace deltaCol deltaRow mode row col
  | .range sheet startRow startCol endRow endCol =>
    (fun (startRow, startCol, endRow, endCol) => .range sheet startRow startCol endRow endCol) <$>
      shiftBounds deltaCol deltaRow mode startRow startCol endRow endCol
  | .cell3D firstSheet lastSheet row col =>
    (fun (row, col) => .cell3D firstSheet lastSheet row col) <$>
      shiftPlace deltaCol deltaRow mode row col
  | .range3D firstSheet lastSheet startRow startCol endRow endCol =>
    (fun (startRow, startCol, endRow, endCol) =>
      .range3D firstSheet lastSheet startRow startCol endRow endCol) <$>
        shiftBounds deltaCol deltaRow mode startRow startCol endRow endCol
  | other => .ok other

variable (display : ReferenceType → String)

def shiftReferenceInPlace (leaf : Leaf) : Except String Leaf :=
  (fun reference => ⟨display reference, reference⟩) <$>
    shiftReferenceType deltaCol deltaRow mode leaf.reference

end Shift

/-! ### The walk -/

section Walk
variable (visit : Leaf → Except String Leaf)

mutual

def ASTNode.walk : ASTNode → Except String ASTNode
  | .reference leaf => .reference <$> visit leaf
  | .unaryOp op expr => .unaryOp op <$> expr.walk
  | .binaryOp op left right => do
    let left ← left.walk
    let right ← right.walk
    pure (.binaryOp op left right)
  | .function name args => .function name <$> ASTNode.walkAll args
  | .call callee args => do
    let callee ← callee.walk
    let args ← ASTNode.walkAll args
    pure (.call callee args)
  | .omitted => .ok .omitted
  | .array rows => .array <$> ASTNode.walkRows rows
  | .literal text => .ok (.literal text)

def ASTNode.walkAll : List ASTNode → Except String (List ASTNode)
  | [] => .ok []
  | node :: rest => do
    let node ← node.walk
    let rest ← ASTNode.walkAll rest
    pure (node :: rest)

def ASTNode.walkRows : List (List ASTNode) → Except String (List (List ASTNode))
  | [] => .ok []
  | row :: rest => do
    let row ← ASTNode.walkAll row
    let rest ← ASTNode.walkRows rest
    pure (row :: rest)

end

end Walk

/-- The writer of formulas. It writes what a reference refers to, not how it was written. -/
structure Printer where
  display : ReferenceType → String
  canonicalFormula : ASTNode → String
  unread : ∀ (text : Leaf → String) (ast ast' : ASTNode),
    ast.walk (fun leaf => .ok ⟨text leaf, leaf.reference⟩) = .ok ast' →
      canonicalFormula ast' = canonicalFormula ast

def shiftRefsInPlace (printer : Printer) (deltaCol deltaRow : Int) (mode : RelativeMode)
    (ast : ASTNode) : Except String ASTNode :=
  ast.walk (shiftReferenceInPlace deltaCol deltaRow mode printer.display)

def shiftFormulaAst (printer : Printer) (ast : ASTNode) (deltaCol deltaRow : Int)
    (mode : RelativeMode) : Except String String :=
  printer.canonicalFormula <$> shiftRefsInPlace printer deltaCol deltaRow mode ast

/-! ### The references of a formula -/

section Leaves

mutual

def ASTNode.leaves : ASTNode → List Leaf
  | .reference leaf => [leaf]
  | .unaryOp _ expr => expr.leaves
  | .binaryOp _ left right => left.leaves ++ right.leaves
  | .function _ args => ASTNode.leavesAll args
  | .call callee args => callee.leaves ++ ASTNode.leavesAll args
  | .omitted => []
  | .array rows => ASTNode.leavesRows rows
  | .literal _ => []

def ASTNode.leavesAll : List ASTNode → List Leaf
  | [] => []
  | node :: rest => node.leaves ++ ASTNode.leavesAll rest

def ASTNode.leavesRows : List (List ASTNode) → List Leaf
  | [] => []
  | row :: rest => ASTNode.leavesAll row ++ ASTNode.leavesRows rest

end

/-- The same tree, but for its references, which are related one by one. -/
inductive ASTNode.Related (R : Leaf → Leaf → Prop) : ASTNode → ASTNode → Prop
  | reference {leaf leaf' : Leaf} : R leaf leaf' → ASTNode.Related R (.reference leaf) (.reference leaf')
  | unaryOp {op : String} {expr expr' : ASTNode} : ASTNode.Related R expr expr' →
      ASTNode.Related R (.unaryOp op expr) (.unaryOp op expr')
  | binaryOp {op : String} {left right left' right' : ASTNode} : ASTNode.Related R left left' →
      ASTNode.Related R right right' →
      ASTNode.Related R (.binaryOp op left right) (.binaryOp op left' right')
  | function {name : String} {args args' : List ASTNode} :
      List.Forall₂ (ASTNode.Related R) args args' →
      ASTNode.Related R (.function name args) (.function name args')
  | call {callee callee' : ASTNode} {args args' : List ASTNode} : ASTNode.Related R callee callee' →
      List.Forall₂ (ASTNode.Related R) args args' →
      ASTNode.Related R (.call callee args) (.call callee' args')
  | omitted : ASTNode.Related R .omitted .omitted
  | array {rows rows' : List (List ASTNode)} :
      List.Forall₂ (List.Forall₂ (ASTNode.Related R)) rows rows' →
      ASTNode.Related R (.array rows) (.array rows')
  | literal {text : String} : ASTNode.Related R (.literal text) (.literal text)

end Leaves

end AgentSpreadsheet.Formula
