import AgentSpreadsheet.Library.Guard
import AgentSpreadsheet.Library.Interval
import AgentSpreadsheet.Legacy.Store
import AgentSpreadsheet.Write

/-! Structural edits of an open workbook. Ranges come as parsed A1 text, and a
book is a list of named sheets over whatever part of a sheet is looked at. -/
namespace AgentSpreadsheet.Sheets
open Library

/-- An A1 range: two corner cells in either order, or whole columns. -/
inductive A1Range where
  | cells (first last : Position)
  | columns (first last : Nat)
  deriving DecidableEq, Repr

structure Bounds where
  cols : Interval
  rows : Interval
  deriving DecidableEq, Repr

def Bounds.Meets (a b : Bounds) : Prop := a.cols.Meets b.cols ∧ a.rows.Meets b.rows

instance (a b : Bounds) : Decidable (a.Meets b) := inferInstanceAs (Decidable (_ ∧ _))

/-- Whole columns have no rows to parse. -/
def parseRangeBounds : A1Range → Result Bounds
  | .cells first last => .ok ⟨.between first.1 last.1, .between first.2 last.2⟩
  | .columns _ _ => .error "Invalid cell reference"

inductive StructureOp where
  | mergeCells (sheetName : String) (targetRange : A1Range)
  | unmergeCells (sheetName : String) (targetRange : A1Range)
  | insertRows (sheetName : String) (atRow count : Nat) (expandAdjacentSums : Bool)
  | cloneRow (sheetName : String) (sourceRow insertAt count : Nat) (expandAdjacentSums : Bool)
  | deleteRows (sheetName : String) (startRow count : Nat)
  | insertCols (sheetName atCol : String) (count : Nat)
  | deleteCols (sheetName startCol : String) (count : Nat)
  | renameSheet (oldName newName : String)
  | createSheet (name : String) (position : Option Nat)
  | deleteSheet (name : String)
  | copyRange (sheetName : String) (destSheetName : Option String) (srcRange : A1Range)
      (destAnchor : Position) (includeStyles includeFormulas : Bool)
  | moveRange (sheetName : String) (destSheetName : Option String) (srcRange : A1Range)
      (destAnchor : Position) (includeStyles includeFormulas : Bool)
  deriving DecidableEq, Repr

def normalizeColLetters (col : String) : Result (List Char) := do
  let letters := (Legacy.trim col).toList.map Char.toUpper
  ensure (letters ≠ [] ∧ letters.all Char.isAlpha = true) ("invalid column reference: " ++ col)
  pure letters

/-- `A` is column 1. -/
def columnIndexFromString (letters : List Char) : Nat :=
  letters.foldl (fun index c => 26 * index + (c.toNat - 64)) 0

/-- A named sheet; `α` is what is looked at of it. -/
structure Sheet (α : Type) where
  name : String
  body : α

abbrev Book (α : Type) := List (Sheet α)

namespace Book
variable {α : Type}

def names (book : Book α) : List String := book.map Sheet.name

def sheetByName (name : String) : Book α → Option α
  | [] => none
  | sheet :: rest => if sheet.name = name then some sheet.body else sheetByName name rest

def sheetNotFound (name : String) : String := "sheet '" ++ name ++ "' not found"

def onSheet (name : String) (edit : α → Result α) : Book α → Result (Book α)
  | [] => .error (sheetNotFound name)
  | sheet :: rest =>
    if sheet.name = name then do
      let body ← edit sheet.body
      pure ({ sheet with body } :: rest)
    else do
      let rest ← onSheet name edit rest
      pure (sheet :: rest)

def setSheetName (oldName newName : String) : Book α → Book α
  | [] => []
  | sheet :: rest =>
    if sheet.name = oldName then { sheet with name := newName } :: rest
    else sheet :: setSheetName oldName newName rest

def renameSheet (oldName newName : String) (book : Book α) : Result (Book α) := do
  let oldName := Legacy.trim oldName
  let newName := Legacy.trim newName
  ensure (oldName ≠ "" ∧ newName ≠ "") "rename_sheet requires non-empty old_name and new_name"
  ensure (oldName ∈ book.names) (sheetNotFound oldName)
  ensure (newName ∉ book.names) ("failed to rename sheet '" ++ oldName ++ "'")
  pure (book.setSheetName oldName newName)

/-- A position past the end appends. -/
def createSheet (name : String) (position : Option Nat) (fresh : α) (book : Book α) :
    Result (Book α) := do
  let name := Legacy.trim name
  ensure (name ≠ "") "create_sheet requires non-empty name"
  ensure (name ∉ book.names) ("failed to create sheet '" ++ name ++ "'")
  match position with
  | none => pure (book ++ [⟨name, fresh⟩])
  | some position =>
    if book.length < position then pure (book ++ [⟨name, fresh⟩])
    else pure (book.insertIdx position ⟨name, fresh⟩)

def deleteSheet (name : String) (book : Book α) : Result (Book α) := do
  let name := Legacy.trim name
  ensure (name ≠ "") "delete_sheet requires non-empty name"
  ensure (1 < book.length) "cannot delete the last remaining sheet"
  ensure (name ∈ book.names) ("failed to delete sheet '" ++ name ++ "'")
  pure (book.eraseP fun sheet => sheet.name = name)

/-- What an edit of one sheet does to a property of all sheets. -/
theorem onSheet_spec {name : String} {edit : α → Result α} {book book' : Book α}
    (h : book.onSheet name edit = .ok book') :
    ∃ body body', book.sheetByName name = some body ∧ edit body = .ok body' ∧
      book'.sheetByName name = some body' ∧
      ∀ P : α → Prop, (∀ sheet ∈ book, P sheet.body) →
        ((∀ sheet ∈ book', P sheet.body) ↔ P body') := by
  induction book generalizing book' with
  | nil => contradiction
  | cons sheet rest ih =>
    unfold onSheet at h
    split at h
    next hname =>
      simp only [bind_eq_ok, pure_eq_ok] at h
      obtain ⟨body', hedit, rfl⟩ := h
      refine ⟨sheet.body, body', by simp [sheetByName, hname], hedit,
        by simp [sheetByName, hname], fun P hall => ?_⟩
      rw [List.forall_mem_cons] at hall
      rw [List.forall_mem_cons]
      exact and_iff_left hall.2
    next hname =>
      simp only [bind_eq_ok, pure_eq_ok] at h
      obtain ⟨rest', hrest, rfl⟩ := h
      obtain ⟨body, body', hbody, hedit, hbody', hall'⟩ := ih hrest
      refine ⟨body, body', by simp [sheetByName, hname, hbody], hedit,
        by simp [sheetByName, hname, hbody'], fun P hall => ?_⟩
      rw [List.forall_mem_cons] at hall
      rw [List.forall_mem_cons, hall' P hall.2]
      exact and_iff_right hall.1

end Book

/-- Whether the operations are classified as changing what formulas read. -/
def structureOpsRequireRecalc (ops : List StructureOp) : Bool :=
  ops.any fun
    | .insertRows .. | .deleteRows .. | .insertCols .. | .deleteCols .. => true
    | .renameSheet .. | .cloneRow .. => true
    | .copyRange _ _ _ _ _ includeFormulas => includeFormulas
    | .moveRange _ _ _ _ _ includeFormulas => includeFormulas
    | _ => false

end AgentSpreadsheet.Sheets
