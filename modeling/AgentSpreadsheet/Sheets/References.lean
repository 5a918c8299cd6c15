import AgentSpreadsheet.Sheets.Structure
import Mathlib.Data.List.SplitOn
import Mathlib.Data.List.TakeWhile
import Mathlib.Data.Set.Lattice

/-! Relocation of A1 references when rows or columns are inserted or deleted. A reference
is a text; what it denotes is a set of cells of the grid. -/
namespace AgentSpreadsheet.Sheets
open Library

inductive StructureAxis where
  | row
  | col
  deriving DecidableEq, Repr

/-- `before` is the line an insertion comes before. -/
inductive StructureEdit where
  | insert (before count : Nat)
  | delete (start count : Nat)
  deriving DecidableEq, Repr

/-- The size of the grid. -/
def StructureAxis.maxValue : StructureAxis → Nat
  | .row => 1048576
  | .col => 16384

/-- On `u32`. -/
def saturatingAdd (a b : Nat) : Nat := min (a + b) 4294967295

def adjustInsert (value before count : Nat) : Nat :=
  if before ≤ value then saturatingAdd value count else value

def adjustInsertBounded (value before count maxValue : Nat) : Nat :=
  min (adjustInsert value before count) maxValue

def deletedEnd (start count : Nat) : Nat := saturatingAdd start (count - 1)

def adjustDelete (value start count : Nat) : Option Nat :=
  if start ≤ value ∧ value ≤ deletedEnd start count then none
  else if deletedEnd start count < value then some (value - count)
  else some value

def transformA1Scalar (value : Option Nat) (axis : StructureAxis) (edit : StructureEdit) :
    Option Nat :=
  match value, edit with
  | none, _ => none
  | some value, .insert before count =>
    some (adjustInsertBounded value before count axis.maxValue)
  | some value, .delete start count => adjustDelete value start count

def transformA1Interval (first last : Nat) (axis : StructureAxis) (edit : StructureEdit) :
    Option (Nat × Nat) :=
  match edit with
  | .insert before count => some (adjustInsertBounded first before count axis.maxValue,
      adjustInsertBounded last before count axis.maxValue)
  | .delete start count =>
    if last < start then some (first, last)
    else if deletedEnd start count < first then some (first - count, last - count)
    else
      match decide (first < start), decide (deletedEnd start count < last) with
      | false, false => none
      | true, false => some (first, start - 1)
      | false, true => some (start, last - count)
      | true, true => some (first, last - count)

structure A1RefSegment where
  col : Option Nat
  row : Option Nat
  colLock : Bool
  rowLock : Bool

namespace A1RefSegment

def value (segment : A1RefSegment) : StructureAxis → Option Nat
  | .row => segment.row
  | .col => segment.col

def setValue (segment : A1RefSegment) (axis : StructureAxis) (value : Option Nat) :
    A1RefSegment :=
  match axis with
  | .row => { segment with row := value }
  | .col => { segment with col := value }

end A1RefSegment

/-- The coordinate functions of the workbook library. -/
structure CoordinateHelper where
  indexFromCoordinate : String → Option Nat × Option Nat × Option Bool × Option Bool
  coordinateFromIndexWithLock : Nat → Nat → Bool → Bool → String
  stringFromColumnIndex : Nat → String

def splitOnce (separator : Char) (text : String) : Option (String × String) :=
  match text.toList.span (· ≠ separator) with
  | (before, _ :: after) => some (String.ofList before, String.ofList after)
  | (_, []) => none

theorem span_append {separator : Char} {before after : List Char} (h : separator ∉ before) :
    (before ++ separator :: after).span (· ≠ separator) = (before, separator :: after) := by
  have hall : ∀ c ∈ before, decide (c ≠ separator) = true := by
    intro c hc
    exact decide_eq_true fun hsame => h (hsame ▸ hc)
  rw [List.span_eq_takeWhile_dropWhile, List.takeWhile_append_of_pos hall,
    List.dropWhile_append_of_pos hall]
  simp

theorem splitOnce_append {separator : Char} {before after : String}
    (h : separator ∉ before.toList) :
    splitOnce separator (before ++ String.singleton separator ++ after) = some (before, after) := by
  have htext : (before ++ String.singleton separator ++ after).toList =
      before.toList ++ separator :: after.toList := by
    simp
  unfold splitOnce
  rw [htext, span_append h]
  simp

theorem splitOnce_none {separator : Char} {text : String} (h : separator ∉ text.toList) :
    splitOnce separator text = none := by
  have hall : ∀ c ∈ text.toList, decide (c ≠ separator) = true := by
    intro c hc
    exact decide_eq_true fun hsame => h (hsame ▸ hc)
  unfold splitOnce
  rw [List.span_eq_takeWhile_dropWhile, List.dropWhile_eq_nil_iff.mpr hall]

section Transform
variable (helper : CoordinateHelper) (axis : StructureAxis) (edit : StructureEdit)

def parseA1RefSegment (segment : String) : Result A1RefSegment := do
  let (col, row, colLock, rowLock) := helper.indexFromCoordinate segment
  ensure (¬(col = none ∧ row = none)) ("invalid A1 reference segment '" ++ segment ++ "'")
  pure ⟨col, row, colLock.getD false, rowLock.getD false⟩

def lockText (lock : Bool) : String := if lock then "$" else ""

def formatA1RefSegment (segment : A1RefSegment) : Result String :=
  match segment.col, segment.row with
  | some col, some row =>
    .ok (helper.coordinateFromIndexWithLock col row segment.colLock segment.rowLock)
  | some col, none => .ok (lockText segment.colLock ++ helper.stringFromColumnIndex col)
  | none, some row => .ok (lockText segment.rowLock ++ toString row)
  | none, none => .error "A1 reference was removed"

/-- Both ends moved on their own; the range is dropped when one of them is. -/
def transformEnds (start last : A1RefSegment) : Option (A1RefSegment × A1RefSegment) :=
  match transformA1Scalar (start.value axis) axis edit,
      transformA1Scalar (last.value axis) axis edit with
  | some first, some last' =>
    some (start.setValue axis (some first), last.setValue axis (some last'))
  | _, _ => none

def transformSegments (start last : A1RefSegment) : Option (A1RefSegment × A1RefSegment) :=
  match start.value axis, last.value axis with
  | none, none => some (start, last)
  | some first, some last' =>
    if first ≤ last' then
      (transformA1Interval first last' axis edit).map fun moved =>
        (start.setValue axis (some moved.1), last.setValue axis (some moved.2))
    else transformEnds axis edit start last
  | _, _ => transformEnds axis edit start last

def transformRangeText (start last : A1RefSegment) : Result (Option String) :=
  match transformSegments axis edit start last with
  | none => pure none
  | some (start, last) => do
    let startText ← formatA1RefSegment helper start
    let lastText ← formatA1RefSegment helper last
    pure (some (startText ++ ":" ++ lastText))

def transformCellText (segment : A1RefSegment) : Result (Option String) :=
  let moved := segment.setValue axis (transformA1Scalar (segment.value axis) axis edit)
  if moved.col = none ∧ moved.row = none then pure none
  else do
    let text ← formatA1RefSegment helper moved
    pure (some text)

def transformA1RangePiece (piece : String) : Result (Option String) :=
  match splitOnce ':' piece with
  | some (startRaw, endRaw) => do
    let start ← parseA1RefSegment helper startRaw
    let last ← parseA1RefSegment helper endRaw
    transformRangeText helper axis edit start last
  | none => do
    let segment ← parseA1RefSegment helper piece
    transformCellText helper axis edit segment

def joinPieces (pieces : List String) : String := ",".intercalate pieces

def transformA1Range (coordPart : String) : Result (Option String) :=
  if coordPart = "#REF!" then .ok (some coordPart)
  else do
    let transformed ← ((coordPart.toList.splitOn ',').map String.ofList).mapM
      (transformA1RangePiece helper axis edit)
    let kept := transformed.filterMap id
    pure (if kept = [] then none else some (joinPieces kept))

/-- In a formula. -/
def adjustRefCoordPart (coordPart : String) : Result String := do
  let transformed ← transformA1Range helper axis edit coordPart
  pure (transformed.getD "#REF!")

/-- The ranges of a data validation, each once. -/
def relocateValidation : List String → List String → Result (List String)
  | _, [] => pure []
  | seen, original :: rest => do
    let relocated ← transformA1Range helper axis edit original
    match relocated with
    | none => relocateValidation seen rest
    | some relocated =>
      if relocated ∈ seen then relocateValidation seen rest
      else do
        let others ← relocateValidation (relocated :: seen) rest
        pure (relocated :: others)

end Transform

/-! ### References -/

/-- A corner of a range: its column and row, where it has them, with their locks. -/
structure Corner where
  col : Option (Nat × Bool)
  row : Option (Nat × Bool)
  deriving DecidableEq

namespace Corner

def coordinate (corner : Corner) : StructureAxis → Option (Nat × Bool)
  | .row => corner.row
  | .col => corner.col

/-- On the grid, and not empty. -/
structure Inside (corner : Corner) : Prop where
  present : ¬(corner.col = none ∧ corner.row = none)
  bounded : ∀ axis value lock, corner.coordinate axis = some (value, lock) →
    1 ≤ value ∧ value ≤ axis.maxValue

def text (helper : CoordinateHelper) (corner : Corner) : String :=
  match corner.col, corner.row with
  | some (col, colLock), some (row, rowLock) =>
    helper.coordinateFromIndexWithLock col row colLock rowLock
  | some (col, lock), none => lockText lock ++ helper.stringFromColumnIndex col
  | none, some (row, lock) => lockText lock ++ toString row
  | none, none => ""

end Corner

/-- The library reads back what it writes, and writes letters, digits and dollar signs. -/
structure CoordinateHelper.Lawful (helper : CoordinateHelper) : Prop where
  index : ∀ corner : Corner, corner.Inside → helper.indexFromCoordinate (corner.text helper) =
    (corner.col.map Prod.fst, corner.row.map Prod.fst, corner.col.map Prod.snd,
      corner.row.map Prod.snd)
  plain : ∀ corner : Corner, corner.Inside → ∀ c ∈ (corner.text helper).toList,
    c ≠ ',' ∧ c ≠ ':' ∧ c ≠ '#'

/-- A single cell, or a range between two corners: cells in either order, whole rows or
whole columns. -/
inductive A1Piece where
  | single (cell : Corner)
  | range (first last : Corner)
  deriving DecidableEq

abbrev Cell := StructureAxis → Nat

def InGrid (axis : StructureAxis) (line : Nat) : Prop := 1 ≤ line ∧ line ≤ axis.maxValue

instance (axis : StructureAxis) (line : Nat) : Decidable (InGrid axis line) :=
  inferInstanceAs (Decidable (1 ≤ line ∧ line ≤ axis.maxValue))

namespace A1Piece

def text (helper : CoordinateHelper) : A1Piece → String
  | single cell => cell.text helper
  | range first last => first.text helper ++ ":" ++ last.text helper

def Readable : A1Piece → Prop
  | single cell => cell.Inside
  | range first last => first.Inside ∧ last.Inside

/-- A single cell has both coordinates; the corners of a range have the same ones. -/
def Valid : A1Piece → Prop
  | single cell => cell.Inside ∧ cell.col.isSome = true ∧ cell.row.isSome = true
  | range first last => (first.Inside ∧ last.Inside) ∧
      ∀ axis, (first.coordinate axis).isSome = (last.coordinate axis).isSome

/-- The ends of the piece on an axis it is bounded on. -/
def ends (piece : A1Piece) (axis : StructureAxis) : Option (Nat × Nat) :=
  match piece with
  | single cell => (cell.coordinate axis).map fun c => (c.1, c.1)
  | range first last =>
    match first.coordinate axis, last.coordinate axis with
    | some a, some b => some (a.1, b.1)
    | _, _ => none

def lines (piece : A1Piece) (axis : StructureAxis) : Set Nat :=
  { line | InGrid axis line ∧ ∀ a b, piece.ends axis = some (a, b) →
    min a b ≤ line ∧ line ≤ max a b }

def cells (piece : A1Piece) : Set Cell := { cell | ∀ axis, cell axis ∈ piece.lines axis }

end A1Piece

namespace StructureEdit

/-- Where an inserted line puts the others, which stop at the edge of the grid. -/
def shifted (axis : StructureAxis) (before count line : Nat) : Nat :=
  min (if before ≤ line then line + count else line) axis.maxValue

/-- What becomes of the lines from `lo` to `hi`: an insertion between them is theirs, and
the lines that survive a deletion are renumbered. -/
def image (axis : StructureAxis) (lo hi : Nat) : StructureEdit → Set Nat
  | insert before count =>
    { line | shifted axis before count lo ≤ line ∧ line ≤ shifted axis before count hi }
  | delete start count =>
    { line | ∃ old, (lo ≤ old ∧ old ≤ hi) ∧ ¬(start ≤ old ∧ old < start + count) ∧
      line = if old < start then old else old - count }

def Inside (axis : StructureAxis) : StructureEdit → Prop
  | insert before count => (1 ≤ before ∧ before ≤ axis.maxValue) ∧ 1 ≤ count ∧
      count ≤ axis.maxValue
  | delete start count => (1 ≤ start ∧ 1 ≤ count) ∧ start + count ≤ axis.maxValue + 1

def Takes (line : Nat) : StructureEdit → Prop
  | insert _ _ => False
  | delete start count => start ≤ line ∧ line < start + count

instance (axis : StructureAxis) : (edit : StructureEdit) → Decidable (edit.Inside axis)
  | insert _ _ => inferInstanceAs (Decidable ((_ ∧ _) ∧ _ ∧ _))
  | delete _ _ => inferInstanceAs (Decidable ((_ ∧ _) ∧ _))

instance (line : Nat) : (edit : StructureEdit) → Decidable (edit.Takes line)
  | insert _ _ => inferInstanceAs (Decidable False)
  | delete _ _ => inferInstanceAs (Decidable (_ ∧ _))

end StructureEdit

namespace A1Piece
variable (axis : StructureAxis) (edit : StructureEdit)

/-- What becomes of the lines of a piece, on the edited axis and on the other. -/
def movedLines (piece : A1Piece) (other : StructureAxis) : Set Nat :=
  if other = axis then
    { line | InGrid axis line ∧ ∀ a b, piece.ends axis = some (a, b) →
      line ∈ edit.image axis (min a b) (max a b) }
  else piece.lines other

def image (piece : A1Piece) : Set Cell :=
  { cell | ∀ other, cell other ∈ piece.movedLines axis edit other }

/-- The corners are the same up to their line on the axis. -/
def SameCorner (corner moved : Corner) : Prop :=
  (∀ other, other ≠ axis → moved.coordinate other = corner.coordinate other) ∧
    (moved.coordinate axis).map Prod.snd = (corner.coordinate axis).map Prod.snd

def SameOff : A1Piece → A1Piece → Prop
  | single cell, single moved => SameCorner axis cell moved
  | range first last, range first' last' =>
    SameCorner axis first first' ∧ SameCorner axis last last'
  | _, _ => False

def Removed : A1Piece → Prop
  | single cell => ∃ value lock, cell.coordinate axis = some (value, lock) ∧ edit.Takes value
  | range _ _ => False

/-- A range given from its far end that loses an end. -/
def Lost (piece : A1Piece) : Prop :=
  ∃ a b, piece.ends axis = some (a, b) ∧ b < a ∧ (edit.Takes a ∨ edit.Takes b)

end A1Piece

def referenceText (helper : CoordinateHelper) (pieces : List A1Piece) : String :=
  joinPieces (pieces.map (A1Piece.text helper))

def referenceCells (pieces : List A1Piece) : Set Cell := ⋃ piece ∈ pieces, piece.cells

def referenceImage (axis : StructureAxis) (edit : StructureEdit) (pieces : List A1Piece) :
    Set Cell :=
  ⋃ piece ∈ pieces, piece.image axis edit

end AgentSpreadsheet.Sheets
