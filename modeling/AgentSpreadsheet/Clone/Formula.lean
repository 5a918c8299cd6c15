import AgentSpreadsheet.Sheets.References

/-! A formula as a tree. Shifting its references and inserting rows above them both come down to
other row numbers in the same tree. -/
namespace AgentSpreadsheet.Clone
open Library

/-- One end of a reference; whole columns have no row. -/
structure ReferenceEnd where
  row : Option Nat
  col : Option Nat
  rowAbs : Bool
  colAbs : Bool
  deriving DecidableEq, Repr

inductive ReferenceType where
  | cell (sheet : Option String) (place : ReferenceEnd)
  | range (sheet : Option String) (first last : ReferenceEnd)
  | table (text : String)
  | namedRange (text : String)
  | external (text : String)
  | cell3D (firstSheet lastSheet : String) (place : ReferenceEnd)
  | range3D (firstSheet lastSheet : String) (first last : ReferenceEnd)
  deriving DecidableEq, Repr

/-- Operators, functions, calls, arrays and literals are branches. -/
inductive ASTNode where
  | reference (target : ReferenceType)
  | branch (label : String) (children : List ASTNode)

/-! ### Shifts -/

def shiftU32 (value : Nat) (abs : Bool) (delta : Int) : Result Nat :=
  if abs = true ∨ delta = 0 then .ok value
  else if value + delta < 1 then .error "shift would move reference before A1"
  else .ok (value + delta).toNat

def shiftOptU32 (value : Option Nat) (abs : Bool) (delta : Int) : Result (Option Nat) :=
  match value with
  | some value => some <$> shiftU32 value abs delta
  | none => .ok none

section Shift
variable (deltaCol deltaRow : Int)

def ReferenceEnd.shift (place : ReferenceEnd) : Result ReferenceEnd := do
  let col ← shiftOptU32 place.col place.colAbs deltaCol
  let row ← shiftOptU32 place.row place.rowAbs deltaRow
  pure { place with row, col }

/-- Names, tables and other books stay. -/
def ReferenceType.shift : ReferenceType → Result ReferenceType
  | .cell sheet place => .cell sheet <$> place.shift deltaCol deltaRow
  | .range sheet first last => do
    let first ← first.shift deltaCol deltaRow
    let last ← last.shift deltaCol deltaRow
    pure (.range sheet first last)
  | .cell3D firstSheet lastSheet place =>
    .cell3D firstSheet lastSheet <$> place.shift deltaCol deltaRow
  | .range3D firstSheet lastSheet first last => do
    let first ← first.shift deltaCol deltaRow
    let last ← last.shift deltaCol deltaRow
    pure (.range3D firstSheet lastSheet first last)
  | other => .ok other

mutual

def ASTNode.shift : ASTNode → Result ASTNode
  | .reference target => .reference <$> target.shift deltaCol deltaRow
  | .branch label children => .branch label <$> ASTNode.shiftAll children

def ASTNode.shiftAll : List ASTNode → Result (List ASTNode)
  | [] => .ok []
  | node :: rest => do
    let node ← node.shift
    let rest ← ASTNode.shiftAll rest
    pure (node :: rest)

end

end Shift

/-! ### Rows -/

/-- A row in a reference; `onSheet` when it is a row of the formula's own sheet. -/
structure RowMark where
  onSheet : Bool
  row : Nat
  abs : Bool
  deriving DecidableEq, Repr

section Rows
variable (name : String) (f : RowMark → Nat)

def ReferenceEnd.mapRows (onSheet : Bool) (place : ReferenceEnd) : ReferenceEnd :=
  { place with row := place.row.map fun row => f ⟨onSheet, row, place.rowAbs⟩ }

def ReferenceEnd.marks (onSheet : Bool) (place : ReferenceEnd) : List RowMark :=
  (place.row.map fun row => ⟨onSheet, row, place.rowAbs⟩).toList

/-- A reference without a sheet is one to the formula's own. -/
def namesSheet (sheet : Option String) : Bool := sheet == none || sheet == some name

def ReferenceType.mapRows : ReferenceType → ReferenceType
  | .cell sheet place => .cell sheet (place.mapRows f (namesSheet name sheet))
  | .range sheet first last =>
    .range sheet (first.mapRows f (namesSheet name sheet)) (last.mapRows f (namesSheet name sheet))
  | .cell3D firstSheet lastSheet place => .cell3D firstSheet lastSheet (place.mapRows f false)
  | .range3D firstSheet lastSheet first last =>
    .range3D firstSheet lastSheet (first.mapRows f false) (last.mapRows f false)
  | other => other

def ReferenceType.marks : ReferenceType → List RowMark
  | .cell sheet place => place.marks (namesSheet name sheet)
  | .range sheet first last =>
    first.marks (namesSheet name sheet) ++ last.marks (namesSheet name sheet)
  | .cell3D _ _ place => place.marks false
  | .range3D _ _ first last => first.marks false ++ last.marks false
  | _ => []

mutual

def ASTNode.mapRows : ASTNode → ASTNode
  | .reference target => .reference (target.mapRows name f)
  | .branch label children => .branch label (ASTNode.mapRowsAll children)

def ASTNode.mapRowsAll : List ASTNode → List ASTNode
  | [] => []
  | node :: rest => node.mapRows :: ASTNode.mapRowsAll rest

end

mutual

def ASTNode.marks : ASTNode → List RowMark
  | .reference target => target.marks name
  | .branch _ children => ASTNode.marksAll children

def ASTNode.marksAll : List ASTNode → List RowMark
  | [] => []
  | node :: rest => node.marks ++ ASTNode.marksAll rest

end

end Rows

section Algebra
variable {name : String} {f g : RowMark → Nat}

theorem ReferenceEnd.mapRows_eq_iff {onSheet : Bool} {place : ReferenceEnd} :
    place.mapRows f onSheet = place.mapRows g onSheet ↔
      ∀ mark ∈ place.marks onSheet, f mark = g mark := by
  obtain ⟨row, col, rowAbs, colAbs⟩ := place
  cases row <;> simp [ReferenceEnd.mapRows, ReferenceEnd.marks]

theorem ReferenceType.mapRows_eq_iff {reference : ReferenceType} :
    reference.mapRows name f = reference.mapRows name g ↔
      ∀ mark ∈ reference.marks name, f mark = g mark := by
  cases reference <;>
    simp [ReferenceType.mapRows, ReferenceType.marks, ReferenceEnd.mapRows_eq_iff, or_imp,
      forall_and]

mutual

/-- Two ways to number the rows give one tree when they agree on its rows. -/
theorem ASTNode.mapRows_eq_iff : (node : ASTNode) →
    (node.mapRows name f = node.mapRows name g ↔ ∀ mark ∈ node.marks name, f mark = g mark)
  | .reference target => by
    simp [ASTNode.mapRows, ASTNode.marks, ReferenceType.mapRows_eq_iff]
  | .branch label children => by
    simp [ASTNode.mapRows, ASTNode.marks, ASTNode.mapRowsAll_eq_iff children]

theorem ASTNode.mapRowsAll_eq_iff : (nodes : List ASTNode) →
    (ASTNode.mapRowsAll name f nodes = ASTNode.mapRowsAll name g nodes ↔
      ∀ mark ∈ ASTNode.marksAll name nodes, f mark = g mark)
  | [] => by simp [ASTNode.mapRowsAll, ASTNode.marksAll]
  | node :: rest => by
    simp [ASTNode.mapRowsAll, ASTNode.marksAll, ASTNode.mapRows_eq_iff node,
      ASTNode.mapRowsAll_eq_iff rest, or_imp, forall_and]

end

def RowMark.renumber (f : RowMark → Nat) (mark : RowMark) : RowMark := { mark with row := f mark }

theorem ReferenceEnd.marks_mapRows {onSheet : Bool} {place : ReferenceEnd} :
    (place.mapRows f onSheet).marks onSheet = (place.marks onSheet).map (RowMark.renumber f) := by
  obtain ⟨row, col, rowAbs, colAbs⟩ := place
  cases row <;> rfl

theorem ReferenceEnd.mapRows_mapRows {onSheet : Bool} {place : ReferenceEnd} :
    (place.mapRows f onSheet).mapRows g onSheet =
      place.mapRows (fun mark => g (mark.renumber f)) onSheet := by
  obtain ⟨row, col, rowAbs, colAbs⟩ := place
  cases row <;> rfl

theorem ReferenceType.marks_mapRows {reference : ReferenceType} :
    (reference.mapRows name f).marks name =
      (reference.marks name).map (RowMark.renumber f) := by
  cases reference <;>
    simp [ReferenceType.mapRows, ReferenceType.marks, ReferenceEnd.marks_mapRows]

theorem ReferenceType.mapRows_mapRows {reference : ReferenceType} :
    (reference.mapRows name f).mapRows name g =
      reference.mapRows name fun mark => g (mark.renumber f) := by
  cases reference <;> simp [ReferenceType.mapRows, ReferenceEnd.mapRows_mapRows]

mutual

theorem ASTNode.marks_mapRows : (node : ASTNode) →
    (node.mapRows name f).marks name = (node.marks name).map (RowMark.renumber f)
  | .reference target => by
    simp [ASTNode.mapRows, ASTNode.marks, ReferenceType.marks_mapRows]
  | .branch label children => by
    simp [ASTNode.mapRows, ASTNode.marks, ASTNode.marksAll_mapRows children]

theorem ASTNode.marksAll_mapRows : (nodes : List ASTNode) →
    ASTNode.marksAll name (ASTNode.mapRowsAll name f nodes) =
      (ASTNode.marksAll name nodes).map (RowMark.renumber f)
  | [] => rfl
  | node :: rest => by
    simp [ASTNode.mapRowsAll, ASTNode.marksAll, ASTNode.marks_mapRows node,
      ASTNode.marksAll_mapRows rest]

end

mutual

theorem ASTNode.mapRows_mapRows : (node : ASTNode) →
    (node.mapRows name f).mapRows name g = node.mapRows name fun mark => g (mark.renumber f)
  | .reference target => by
    simp [ASTNode.mapRows, ReferenceType.mapRows_mapRows]
  | .branch label children => by
    simp [ASTNode.mapRows, ASTNode.mapRowsAll_mapRows children]

theorem ASTNode.mapRowsAll_mapRows : (nodes : List ASTNode) →
    ASTNode.mapRowsAll name g (ASTNode.mapRowsAll name f nodes) =
      ASTNode.mapRowsAll name (fun mark => g (mark.renumber f)) nodes
  | [] => rfl
  | node :: rest => by
    simp [ASTNode.mapRowsAll, ASTNode.mapRows_mapRows node, ASTNode.mapRowsAll_mapRows rest]

end

theorem ReferenceType.mapRows_row {reference : ReferenceType} :
    reference.mapRows name RowMark.row = reference := by
  have hplace (place : ReferenceEnd) (onSheet : Bool) :
      place.mapRows RowMark.row onSheet = place := by
    obtain ⟨row, col, rowAbs, colAbs⟩ := place
    cases row <;> rfl
  cases reference <;> simp [ReferenceType.mapRows, hplace]

mutual

theorem ASTNode.mapRows_row : (node : ASTNode) → node.mapRows name RowMark.row = node
  | .reference target => by simp [ASTNode.mapRows, ReferenceType.mapRows_row]
  | .branch label children => by simp [ASTNode.mapRows, ASTNode.mapRowsAll_row children]

theorem ASTNode.mapRowsAll_row : (nodes : List ASTNode) →
    ASTNode.mapRowsAll name RowMark.row nodes = nodes
  | [] => rfl
  | node :: rest => by
    simp [ASTNode.mapRowsAll, ASTNode.mapRows_row node, ASTNode.mapRowsAll_row rest]

end

end Algebra

/-! ### A shift by rows -/

section RowShift
variable {name : String} {delta : Int}

def RowMark.Shifts (delta : Int) (mark : RowMark) : Prop :=
  mark.abs = true ∨ delta = 0 ∨ 1 ≤ mark.row + delta

instance (delta : Int) (mark : RowMark) : Decidable (mark.Shifts delta) :=
  inferInstanceAs (Decidable (_ ∨ _ ∨ _))

def RowMark.shifted (delta : Int) (mark : RowMark) : Nat :=
  if mark.abs then mark.row else (mark.row + delta).toNat

theorem shiftU32_eq_ok {value value' : Nat} {abs : Bool} (onSheet : Bool) :
    shiftU32 value abs delta = .ok value' ↔
      (RowMark.mk onSheet value abs).Shifts delta ∧
        (RowMark.mk onSheet value abs).shifted delta = value' := by
  unfold shiftU32 RowMark.Shifts RowMark.shifted
  dsimp only
  cases abs with
  | true => simp
  | false =>
    by_cases hzero : delta = 0
    · simp [hzero]
    · by_cases hfirst : value + delta < 1
      · simp [hzero, hfirst]
      · simp [hzero, hfirst]
        omega

theorem ReferenceEnd.shift_eq_ok {onSheet : Bool} {place place' : ReferenceEnd} :
    place.shift 0 delta = .ok place' ↔ (∀ mark ∈ place.marks onSheet, mark.Shifts delta) ∧
      place.mapRows (RowMark.shifted delta) onSheet = place' := by
  have hcol (col : Option Nat) (abs : Bool) : shiftOptU32 col abs 0 = .ok col := by
    cases col <;> simp [shiftOptU32, shiftU32, Functor.map, Except.map]
  obtain ⟨row, col, rowAbs, colAbs⟩ := place
  unfold ReferenceEnd.shift ReferenceEnd.mapRows ReferenceEnd.marks
  simp only [hcol, bind_eq_ok, pure_eq_ok, Except.ok.injEq, exists_eq_left']
  cases row with
  | none => simp [shiftOptU32]
  | some row => simp [shiftOptU32, shiftU32_eq_ok onSheet, and_assoc]

theorem ReferenceType.shift_eq_ok {reference reference' : ReferenceType} :
    reference.shift 0 delta = .ok reference' ↔
      (∀ mark ∈ reference.marks name, mark.Shifts delta) ∧
        reference.mapRows name (RowMark.shifted delta) = reference' := by
  cases reference with
  | cell sheet place =>
    simp [ReferenceType.shift, ReferenceType.marks, ReferenceType.mapRows,
      @ReferenceEnd.shift_eq_ok delta (namesSheet name sheet)]
  | range sheet first last =>
    simp [ReferenceType.shift, ReferenceType.marks, ReferenceType.mapRows,
      @ReferenceEnd.shift_eq_ok delta (namesSheet name sheet), or_imp, forall_and, and_assoc]
  | cell3D firstSheet lastSheet place =>
    simp [ReferenceType.shift, ReferenceType.marks, ReferenceType.mapRows,
      @ReferenceEnd.shift_eq_ok delta false]
  | range3D firstSheet lastSheet first last =>
    simp [ReferenceType.shift, ReferenceType.marks, ReferenceType.mapRows,
      @ReferenceEnd.shift_eq_ok delta false, or_imp, forall_and, and_assoc]
  | _ => simp [ReferenceType.shift, ReferenceType.marks, ReferenceType.mapRows]

mutual

/-- A shift by rows numbers them anew, unless one of them would leave the sheet. -/
theorem ASTNode.shift_eq_ok : (node : ASTNode) → {node' : ASTNode} →
    (node.shift 0 delta = .ok node' ↔ (∀ mark ∈ node.marks name, mark.Shifts delta) ∧
      node.mapRows name (RowMark.shifted delta) = node')
  | .reference target, _ => by
    simp [ASTNode.shift, ASTNode.marks, ASTNode.mapRows,
      @ReferenceType.shift_eq_ok name delta target]
  | .branch label children, _ => by
    simp [ASTNode.shift, ASTNode.marks, ASTNode.mapRows, ASTNode.shiftAll_eq_ok children]

theorem ASTNode.shiftAll_eq_ok : (nodes : List ASTNode) → {nodes' : List ASTNode} →
    (ASTNode.shiftAll 0 delta nodes = .ok nodes' ↔
      (∀ mark ∈ ASTNode.marksAll name nodes, mark.Shifts delta) ∧
        ASTNode.mapRowsAll name (RowMark.shifted delta) nodes = nodes')
  | [], _ => by simp [ASTNode.shiftAll, ASTNode.marksAll, ASTNode.mapRowsAll]
  | node :: rest, _ => by
    simp [ASTNode.shiftAll, ASTNode.marksAll, ASTNode.mapRowsAll, ASTNode.shift_eq_ok node,
      ASTNode.shiftAll_eq_ok rest, or_imp, forall_and, and_assoc]

end

end RowShift

/-! ### An insertion of rows -/

/-- Where a row of a reference goes. -/
def RowMark.inserted (line count : Nat) (mark : RowMark) : Nat :=
  if mark.onSheet then
    Sheets.adjustInsertBounded mark.row line count Sheets.StructureAxis.row.maxValue
  else mark.row

def ASTNode.insertRows (name : String) (line count : Nat) (node : ASTNode) : ASTNode :=
  node.mapRows name (RowMark.inserted line count)

end AgentSpreadsheet.Clone
