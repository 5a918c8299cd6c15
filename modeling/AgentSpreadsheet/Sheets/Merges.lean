import AgentSpreadsheet.Library.Stepwise
import AgentSpreadsheet.Sheets.Structure
import Mathlib.Data.List.Pairwise

/-! Merged ranges under structural edits. Inserting and deleting lines never makes
two merged ranges overlap, but the edits that add one do not look at those that
are there. -/
namespace AgentSpreadsheet.Sheets
open Library

/-- A merged range; without rows it is whole columns. -/
structure MergedRange where
  cols : Interval
  rows : Option Interval
  deriving DecidableEq, Repr

abbrev Merges := List MergedRange

def rowsMeet : Option Interval → Option Interval → Prop
  | some a, some b => a.Meets b
  | _, _ => True

instance : (a b : Option Interval) → Decidable (rowsMeet a b)
  | some a, some b => inferInstanceAs (Decidable (a.Meets b))
  | some _, none => .isTrue trivial
  | none, _ => .isTrue trivial

namespace MergedRange

def Meets (a b : MergedRange) : Prop := a.cols.Meets b.cols ∧ rowsMeet a.rows b.rows

instance (a b : MergedRange) : Decidable (a.Meets b) := inferInstanceAs (Decidable (_ ∧ _))

/-- The range as text is parsed again for its bounds. -/
def bounds (m : MergedRange) : Option Bounds := m.rows.map fun rows => ⟨m.cols, rows⟩

end MergedRange

def A1Range.merged : A1Range → MergedRange
  | .cells first last => ⟨.between first.1 last.1, some (.between first.2 last.2)⟩
  | .columns first last => ⟨.between first last, none⟩

namespace Merges

/-- `add_merge_cells` appends. -/
def add (target : A1Range) (merges : Merges) : Merges := merges ++ [target.merged]

def unmerge (target : A1Range) (merges : Merges) : Merges :=
  match parseRangeBounds target with
  | .error _ => merges
  | .ok target => merges.filter fun m =>
    match m.bounds with
    | some bounds => !decide (bounds.Meets target)
    | none => true

def insertNewRow (row count : Nat) (merges : Merges) : Merges :=
  merges.map fun m => { m with rows := m.rows.map (Interval.grow row count) }

def insertNewColumn (col count : Nat) (merges : Merges) : Merges :=
  merges.map fun m => { m with cols := m.cols.grow col count }

def removeRow (row count : Nat) (merges : Merges) : Merges :=
  merges.filterMap fun m =>
    match m.rows with
    | none => some m
    | some rows => (rows.shrink row count).map fun rows => { m with rows := some rows }

def removeColumn (col count : Nat) (merges : Merges) : Merges :=
  merges.filterMap fun m => (m.cols.shrink col count).map fun cols => { m with cols }

end Merges

def applyStructureOp (op : StructureOp) (book : Book Merges) : Result (Book Merges) :=
  match op with
  | .mergeCells sheetName targetRange =>
    book.onSheet sheetName fun merges => .ok (merges.add targetRange)
  | .unmergeCells sheetName targetRange =>
    book.onSheet sheetName fun merges => .ok (merges.unmerge targetRange)
  | .insertRows sheetName atRow count _ => do
    ensure (atRow ≠ 0 ∧ count ≠ 0) "insert_rows requires at_row>=1 and count>=1"
    book.onSheet sheetName fun merges => .ok (merges.insertNewRow atRow count)
  | .cloneRow sheetName sourceRow insertAt count _ => do
    ensure (sourceRow ≠ 0 ∧ insertAt ≠ 0 ∧ count ≠ 0)
      "clone_row requires source_row>=1, insert_at>=1, and count>=1"
    book.onSheet sheetName fun merges => .ok (merges.insertNewRow insertAt count)
  | .deleteRows sheetName startRow count => do
    ensure (startRow ≠ 0 ∧ count ≠ 0) "delete_rows requires start_row>=1 and count>=1"
    book.onSheet sheetName fun merges => .ok (merges.removeRow startRow count)
  | .insertCols sheetName atCol count => do
    ensure (Legacy.trim atCol ≠ "" ∧ count ≠ 0) "insert_cols requires at_col and count>=1"
    let letters ← normalizeColLetters atCol
    book.onSheet sheetName fun merges =>
      .ok (merges.insertNewColumn (columnIndexFromString letters) count)
  | .deleteCols sheetName startCol count => do
    ensure (Legacy.trim startCol ≠ "" ∧ count ≠ 0) "delete_cols requires start_col and count>=1"
    let letters ← normalizeColLetters startCol
    book.onSheet sheetName fun merges =>
      .ok (merges.removeColumn (columnIndexFromString letters) count)
  | .renameSheet oldName newName => book.renameSheet oldName newName
  | .createSheet name position => book.createSheet name position []
  | .deleteSheet name => book.deleteSheet name
  | .copyRange sheetName destSheetName _ _ _ _ | .moveRange sheetName destSheetName _ _ _ _ => do
    let _ ← required (book.sheetByName sheetName) (Book.sheetNotFound sheetName)
    let _ ← required (book.sheetByName (destSheetName.getD sheetName))
      (Book.sheetNotFound (destSheetName.getD sheetName))
    pure book

def applyStructureOps (ops : List StructureOp) (book : Book Merges) : Result (Book Merges) :=
  ops.foldlM (fun book op => applyStructureOp op book) book

inductive CloneMergePolicy where
  | safe
  | strict
  deriving DecidableEq, Repr

/-- A merged range inside the source rows, by its offset from the first. -/
structure CloneMergeSpan where
  cols : Interval
  rows : Interval
  deriving DecidableEq, Repr

section Clone

def resolveCloneAnchor (before after insertAt : Option Nat) : Result Nat :=
  match before, after, insertAt with
  | some row, none, none => do
    ensure (row ≠ 0) "invalid argument: --before must be at least 1"
    pure row
  | none, some row, none => do
    ensure (row ≠ 0) "invalid argument: --after must be at least 1"
    pure (row + 1)
  | none, none, some row => do
    ensure (row ≠ 0) "invalid argument: --insert-at must be at least 1"
    pure row
  | _, _, _ => .error ("invalid argument: choose exactly one of --before <ROW>, " ++
      "--after <ROW>, or --insert-at <ROW>")

/-- The merged ranges inside the rows `first` to `last`. -/
def containedMerges (first last : Nat) (merges : Merges) : List CloneMergeSpan :=
  merges.filterMap fun m => m.rows.bind fun rows =>
    if first ≤ rows.lo ∧ rows.hi ≤ last then
      some ⟨m.cols, rows.lo - first, rows.hi - first, Nat.sub_le_sub_right rows.le first⟩
    else none

/-- Those that share rows with them but reach beyond. -/
def crossingMerges (first last : Nat) (merges : Merges) : List MergedRange :=
  merges.filter fun m =>
    match m.rows with
    | some rows => decide (¬(rows.hi < first ∨ last < rows.lo) ∧
        ¬(first ≤ rows.lo ∧ rows.hi ≤ last))
    | none => false

/-- The copies of the contained ranges, one block below the other. -/
def cloneCopies (insertAtRow height repeats : Nat) (contained : List CloneMergeSpan) : Merges :=
  (List.range repeats).flatMap fun block =>
    contained.map fun span => ⟨span.cols, some (span.rows.moveBy (insertAtRow + block * height))⟩

structure ClonePlan where
  sheetName : String
  insertAtRow : Nat
  height : Nat
  repeats : Nat
  containedMerges : List CloneMergeSpan

/-- Where a clone reads its rows and where it goes; `--before`, `--after` or
`--insert-at`. -/
structure CloneRequest where
  sheetName : String
  sourceFirst : Nat
  sourceLast : Nat
  before : Option Nat
  after : Option Nat
  insertAt : Option Nat
  repeats : Nat
  expandAdjacentSums : Bool
  mergePolicy : CloneMergePolicy
  deriving DecidableEq, Repr

/-- The part of a clone plan that both clones share. -/
def buildClonePlan (boundary : String) (request : CloneRequest) (book : Book Merges) :
    Result ClonePlan := do
  let insertAtRow ← resolveCloneAnchor request.before request.after request.insertAt
  let merges ← required (book.sheetByName request.sheetName)
    ("invalid argument: sheet '" ++ request.sheetName ++ "' was not found")
  ensure (request.mergePolicy = .strict →
    crossingMerges request.sourceFirst request.sourceLast merges = [])
    ("unsafe clone template: source " ++ boundary ++
      " merged ranges that cross the clone boundary")
  pure {
    sheetName := request.sheetName
    insertAtRow
    height := request.sourceLast - request.sourceFirst + 1
    repeats := request.repeats
    containedMerges := containedMerges request.sourceFirst request.sourceLast merges }

/-- One source row, `count` times. -/
def buildCloneTemplateRowPlan (request : CloneRequest) (book : Book Merges) :
    Result ClonePlan := do
  ensure (request.sourceFirst ≠ 0) "invalid argument: --source-row must be at least 1"
  ensure (request.repeats ≠ 0) "invalid argument: --count must be at least 1"
  buildClonePlan "row intersects" { request with sourceLast := request.sourceFirst } book

/-- Several source rows, `repeat` times. -/
def buildCloneRowBandPlan (request : CloneRequest) (book : Book Merges) : Result ClonePlan := do
  ensure (request.repeats ≠ 0) "invalid argument: --repeat must be at least 1"
  ensure (request.sourceFirst ≠ 0 ∧ request.sourceLast ≠ 0)
    "invalid argument: --source-rows values must both be at least 1"
  ensure (request.sourceFirst ≤ request.sourceLast)
    "invalid argument: --source-rows must be an ascending contiguous range like 12:14"
  buildClonePlan "rows intersect" request book

/-- The copies are added after the rows are inserted. -/
def ClonePlan.postprocess (plan : ClonePlan) (book : Book Merges) : Result (Book Merges) :=
  book.onSheet plan.sheetName fun merges =>
    .ok (merges ++ cloneCopies plan.insertAtRow plan.height plan.repeats plan.containedMerges)

def applyCloneRow (request : CloneRequest) (book : Book Merges) : Result (Book Merges) := do
  let plan ← buildCloneTemplateRowPlan request book
  let book ← applyStructureOps [.cloneRow plan.sheetName request.sourceFirst plan.insertAtRow
    plan.repeats request.expandAdjacentSums] book
  plan.postprocess book

def applyCloneRowBand (request : CloneRequest) (book : Book Merges) : Result (Book Merges) := do
  let plan ← buildCloneRowBandPlan request book
  let book ← applyStructureOps [.insertRows plan.sheetName plan.insertAtRow
    (plan.height * plan.repeats) request.expandAdjacentSums] book
  plan.postprocess book

end Clone

section Import

/-- A grid to import. `offsets` are the row and column offsets of its cells, and
`anchor` is the cell its own merged ranges are relative to. -/
structure GridPayload where
  anchor : Position
  merges : List A1Range
  offsets : List (Nat × Nat)
  deriving DecidableEq, Repr

structure ImportRequest where
  sheetName : String
  anchor : Position
  grid : GridPayload
  clearTarget : Bool
  deriving DecidableEq, Repr

def ImportRequest.footprint (request : ImportRequest) : A1Range :=
  .cells request.anchor
    (request.grid.offsets.foldl (fun col offset => max col (request.anchor.1 + offset.2))
      request.anchor.1,
    request.grid.offsets.foldl (fun row offset => max row (request.anchor.2 + offset.1))
      request.anchor.2)

/-- The fork tool takes the grid's merged ranges where they are. -/
def gridImport (request : ImportRequest) (book : Book Merges) : Result (Book Merges) := do
  let _ ← required (book.sheetByName request.sheetName) (Book.sheetNotFound request.sheetName)
  applyStructureOps
    (if request.grid.merges = [] then []
    else (if request.clearTarget then [.unmergeCells request.sheetName request.footprint] else []) ++
      request.grid.merges.map (.mergeCells request.sheetName)) book

/-- A canonical write moves them with the anchor. -/
def translateMerge (anchor source : Position) : A1Range → Result A1Range
  | .columns _ _ => .error "invalid cell reference"
  | .cells first last => do
    ensure (first.1 ≤ last.1 ∧ first.2 ≤ last.2) "range must be ascending"
    ensure (source.1 ≤ first.1 ∧ source.2 ≤ first.2)
      "grid merge begins before source anchor; cannot translate"
    pure (.cells (anchor.1 + first.1 - source.1, anchor.2 + first.2 - source.2)
      (anchor.1 + last.1 - source.1, anchor.2 + last.2 - source.2))

def clearFootprint (request : ImportRequest) (book : Book Merges) : Result (Book Merges) :=
  if request.clearTarget then
    applyStructureOps [.unmergeCells request.sheetName request.footprint] book
  else .ok book

def applyGrid (request : ImportRequest) (book : Book Merges) : Result (Book Merges) := do
  let book ← clearFootprint request book
  let targets ← request.grid.merges.mapM (translateMerge request.anchor request.grid.anchor)
  let book ← applyStructureOps (targets.map (.mergeCells request.sheetName)) book
  let _ ← required (book.sheetByName request.sheetName) (Book.sheetNotFound request.sheetName)
  pure book

end Import

inductive MergeEdit where
  | edit (op : StructureOp)
  | cloneRow (request : CloneRequest)
  | cloneRowBand (request : CloneRequest)
  | gridImport (request : ImportRequest)
  | importGrid (request : ImportRequest)

def MergeEdit.apply : MergeEdit → Book Merges → Result (Book Merges)
  | .edit op => applyStructureOp op
  | .cloneRow request => applyCloneRow request
  | .cloneRowBand request => applyCloneRowBand request
  | .gridImport request => Sheets.gridImport request
  | .importGrid request => applyGrid request

/-- A refused edit leaves the workbook as it was. -/
def MergeEdit.step (book : Book Merges) (edit : MergeEdit) : Book Merges :=
  match edit.apply book with
  | .ok book' => book'
  | .error _ => book

def Merges.Disjoint (merges : Merges) : Prop := merges.Pairwise fun a b => ¬a.Meets b

instance (merges : Merges) : Decidable merges.Disjoint :=
  inferInstanceAs (Decidable (merges.Pairwise _))

def Book.Disjoint (book : Book Merges) : Prop := ∀ sheet ∈ book, Merges.Disjoint sheet.body

instance (book : Book Merges) : Decidable (Book.Disjoint book) :=
  inferInstanceAs (Decidable (∀ sheet ∈ book, _))

/-! ### What each edit needs -/

/-- A structural edit may add a range only where there is none. -/
def StructureOp.Clear (book : Book Merges) : StructureOp → Prop
  | .mergeCells sheetName targetRange => ∀ merges, book.sheetByName sheetName = some merges →
    ∀ m ∈ merges, ¬m.Meets targetRange.merged
  | _ => True

/-- No range across the anchor of a clone shares a column with a cloned range. -/
def CloneRequest.Clear (request : CloneRequest) (last : Nat) (book : Book Merges) : Prop :=
  ∀ merges row, book.sheetByName request.sheetName = some merges →
    resolveCloneAnchor request.before request.after request.insertAt = .ok row →
    ∀ m ∈ merges, m.rows.any (fun rows => decide (rows.Across row)) = true →
      ∀ span ∈ containedMerges request.sourceFirst last merges, ¬m.cols.Meets span.cols

/-- Imported ranges are apart from each other and from the ranges that stay. -/
def Merges.Takes (merges : Merges) (targets : List A1Range) : Prop :=
  Merges.Disjoint (targets.map A1Range.merged) ∧
    ∀ m ∈ merges, ∀ target ∈ targets, ¬m.Meets target.merged

/-- The ranges that stay under an import. -/
def ImportRequest.kept (request : ImportRequest) (merges : Merges) : Merges :=
  if request.clearTarget then merges.unmerge request.footprint else merges

def MergeEdit.Clear (book : Book Merges) : MergeEdit → Prop
  | .edit op => op.Clear book
  | .cloneRow request => request.Clear request.sourceFirst book
  | .cloneRowBand request => request.Clear request.sourceLast book
  | .gridImport request => ∀ merges, book.sheetByName request.sheetName = some merges →
    (request.kept merges).Takes request.grid.merges
  | .importGrid request => ∀ merges targets, book.sheetByName request.sheetName = some merges →
    request.grid.merges.mapM (translateMerge request.anchor request.grid.anchor) = .ok targets →
    (request.kept merges).Takes targets

/-! ### Lines inserted and deleted -/

section Lines
variable {merges : Merges}

theorem rowsMeet_map {f : Interval → Interval} (hf : ∀ a b, (f a).Meets (f b) ↔ a.Meets b)
    (a b : Option Interval) : rowsMeet (a.map f) (b.map f) ↔ rowsMeet a b := by
  cases a <;> cases b <;> simp [rowsMeet, hf]

theorem rowsMeet_symm {a b : Option Interval} (h : rowsMeet a b) : rowsMeet b a := by
  cases a <;> cases b <;> simp_all [rowsMeet, Interval.Meets]

theorem MergedRange.Meets.symm {a b : MergedRange} (h : a.Meets b) : b.Meets a :=
  ⟨h.1.symm, rowsMeet_symm h.2⟩

instance : Std.Symm fun a b : MergedRange => ¬a.Meets b := ⟨fun _ _ hab hba => hab hba.symm⟩

theorem Merges.Disjoint.insertNewRow (h : merges.Disjoint) (row count : Nat) :
    Merges.Disjoint (merges.insertNewRow row count) := by
  apply List.pairwise_map.mpr
  apply h.imp
  intro a b hab hmeets
  apply hab
  exact ⟨hmeets.1, (rowsMeet_map (fun _ _ => Interval.grow_meets_grow) a.rows b.rows).mp hmeets.2⟩

theorem Merges.Disjoint.insertNewColumn (h : merges.Disjoint) (col count : Nat) :
    Merges.Disjoint (merges.insertNewColumn col count) := by
  apply List.pairwise_map.mpr
  apply h.imp
  intro a b hab hmeets
  exact hab ⟨Interval.grow_meets_grow.mp hmeets.1, hmeets.2⟩

theorem Merges.Disjoint.removeRow (h : merges.Disjoint) (row count : Nat) :
    Merges.Disjoint (merges.removeRow row count) := by
  apply List.pairwise_filterMap.mpr
  apply h.imp
  intro a b hab a' ha b' hb hmeets
  apply hab
  cases harows : a.rows with
  | none =>
    cases hbrows : b.rows with
    | none => simp_all [MergedRange.Meets, rowsMeet]
    | some brows =>
      simp only [harows, hbrows, Option.some.injEq, Option.map_eq_some_iff] at ha hb
      obtain ⟨_, _, rfl⟩ := hb
      subst ha
      exact ⟨hmeets.1, by simp [harows, rowsMeet]⟩
  | some arows =>
    simp only [harows, Option.map_eq_some_iff] at ha
    obtain ⟨arows', hashrink, rfl⟩ := ha
    cases hbrows : b.rows with
    | none =>
      simp only [hbrows, Option.some.injEq] at hb
      subst hb
      exact ⟨hmeets.1, by simp [hbrows, rowsMeet]⟩
    | some brows =>
      simp only [hbrows, Option.map_eq_some_iff] at hb
      obtain ⟨brows', hbshrink, rfl⟩ := hb
      refine ⟨hmeets.1, ?_⟩
      rw [harows, hbrows]
      exact Interval.meets_of_shrink hashrink hbshrink hmeets.2

theorem Merges.Disjoint.removeColumn (h : merges.Disjoint) (col count : Nat) :
    Merges.Disjoint (merges.removeColumn col count) := by
  apply List.pairwise_filterMap.mpr
  apply h.imp
  intro a b hab a' ha b' hb hmeets
  simp only [Option.map_eq_some_iff] at ha hb
  obtain ⟨acols, ha, rfl⟩ := ha
  obtain ⟨bcols, hb, rfl⟩ := hb
  exact hab ⟨Interval.meets_of_shrink ha hb hmeets.1, hmeets.2⟩

theorem Merges.Disjoint.unmerge (h : merges.Disjoint) (target : A1Range) :
    Merges.Disjoint (merges.unmerge target) := by
  unfold Merges.unmerge
  split
  · exact h
  · exact h.filter _

/-- Added ranges must be apart from each other and from those that are there. -/
theorem Merges.Disjoint.append (h : merges.Disjoint) (added : Merges) :
    Merges.Disjoint (merges ++ added) ↔
      added.Disjoint ∧ ∀ m ∈ merges, ∀ a ∈ added, ¬m.Meets a := by
  unfold Merges.Disjoint
  rw [List.pairwise_append]
  exact and_iff_right h

end Lines

section Copies
variable {merges : Merges} {first last insertAtRow repeats : Nat} {span : CloneMergeSpan}

theorem mem_containedMerges :
    span ∈ containedMerges first last merges ↔ ∃ m ∈ merges, ∃ rows, m.rows = some rows ∧
      first ≤ rows.lo ∧ rows.hi ≤ last ∧ m.cols = span.cols ∧
      span.rows.lo = rows.lo - first ∧ span.rows.hi = rows.hi - first := by
  unfold containedMerges
  rw [List.mem_filterMap]
  constructor
  · rintro ⟨m, hm, hspan⟩
    obtain ⟨rows, hrows, hspan⟩ := Option.bind_eq_some_iff.mp hspan
    split at hspan
    next hinside =>
      cases Option.some.inj hspan
      exact ⟨m, hm, rows, hrows, hinside.1, hinside.2, rfl, rfl, rfl⟩
    next => contradiction
  · rintro ⟨m, hm, rows, hrows, hlo, hhi, hcols, hspanlo, hspanhi⟩
    refine ⟨m, hm, Option.bind_eq_some_iff.mpr ⟨rows, hrows, ?_⟩⟩
    rw [if_pos ⟨hlo, hhi⟩]
    obtain ⟨cols, lo, hi, le⟩ := span
    dsimp only at hcols hspanlo hspanhi
    subst hcols hspanlo hspanhi
    rfl

theorem containedMerges_hi_lt (hspan : span ∈ containedMerges first last merges) :
    span.rows.hi < last - first + 1 := by
  obtain ⟨m, _, rows, _, hlo, hhi, _, _, hspanhi⟩ := mem_containedMerges.mp hspan
  omega

theorem containedMerges_pairwise (h : merges.Disjoint) :
    (containedMerges first last merges).Pairwise fun a b =>
      ¬(a.cols.Meets b.cols ∧ a.rows.Meets b.rows) := by
  apply List.pairwise_filterMap.mpr
  apply h.imp
  intro a b hab a' ha b' hb hmeets
  obtain ⟨arows, harows, ha⟩ := Option.bind_eq_some_iff.mp ha
  obtain ⟨brows, hbrows, hb⟩ := Option.bind_eq_some_iff.mp hb
  split at ha <;> split at hb <;> simp only [Option.some.injEq, reduceCtorEq] at ha hb
  next hainside hbinside =>
    subst ha hb
    apply hab
    refine ⟨hmeets.1, ?_⟩
    rw [harows, hbrows]
    obtain ⟨hle, hge⟩ := hmeets.2
    have := arows.le
    have := brows.le
    dsimp only at hle hge
    exact ⟨by omega, by omega⟩

theorem mem_cloneCopies {height : Nat} {contained : List CloneMergeSpan} {copy : MergedRange} :
    copy ∈ cloneCopies insertAtRow height repeats contained ↔ ∃ block < repeats,
      ∃ span ∈ contained, copy = ⟨span.cols,
        some (span.rows.moveBy (insertAtRow + block * height))⟩ := by
  simp only [cloneCopies, List.mem_flatMap, List.mem_range, List.mem_map, eq_comm]

/-- The copies of a clone are apart: two of one block as their sources are, two of
different blocks by their rows. -/
theorem cloneCopies_disjoint (h : merges.Disjoint) :
    Merges.Disjoint (cloneCopies insertAtRow (last - first + 1) repeats
      (containedMerges first last merges)) := by
  apply List.pairwise_flatMap.mpr
  constructor
  · intro block _
    apply List.pairwise_map.mpr
    apply (containedMerges_pairwise h).imp
    intro a b hab hmeets
    exact hab ⟨hmeets.1, Interval.moveBy_meets_moveBy.mp hmeets.2⟩
  · apply List.pairwise_lt_range.imp
    intro i j hij a ha b hb hmeets
    obtain ⟨x, hx, rfl⟩ := List.mem_map.mp ha
    obtain ⟨y, hy, rfl⟩ := List.mem_map.mp hb
    have hxhi := containedMerges_hi_lt hx
    have hblocks : (i + 1) * (last - first + 1) ≤ j * (last - first + 1) :=
      Nat.mul_le_mul_right _ hij
    rw [Nat.add_mul, Nat.one_mul] at hblocks
    obtain ⟨_, hle⟩ := hmeets.2
    dsimp only [Interval.moveBy] at hle
    omega

theorem copy_rows_inserted (insertAtRow : Nat) {height block : Nat} (hblock : block < repeats)
    (hspan : span.rows.hi < height) :
    insertAtRow ≤ (span.rows.moveBy (insertAtRow + block * height)).lo ∧
      (span.rows.moveBy (insertAtRow + block * height)).hi < insertAtRow + height * repeats := by
  have hblocks : (block + 1) * height ≤ repeats * height := Nat.mul_le_mul_right _ hblock
  rw [Nat.add_mul, Nat.one_mul, Nat.mul_comm repeats height] at hblocks
  dsimp only [Interval.moveBy]
  omega

/-- Inserted rows and copies keep ranges apart exactly when no range across the
insertion shares a column with a copied one. -/
theorem clone_disjoint_iff (h : merges.Disjoint) (hrepeats : repeats ≠ 0) :
    Merges.Disjoint (merges.insertNewRow insertAtRow ((last - first + 1) * repeats) ++
        cloneCopies insertAtRow (last - first + 1) repeats (containedMerges first last merges)) ↔
      ∀ m ∈ merges, m.rows.any (fun rows => decide (rows.Across insertAtRow)) = true →
        ∀ span ∈ containedMerges first last merges, ¬m.cols.Meets span.cols := by
  rw [(h.insertNewRow _ _).append, and_iff_right (cloneCopies_disjoint h)]
  constructor
  · intro hclear m hm hacross span hspan hcols
    obtain ⟨rows, hrows, hacross⟩ := Option.any_eq_true _ _ |>.mp hacross
    have hinserted := copy_rows_inserted insertAtRow
      (Nat.pos_of_ne_zero hrepeats) (containedMerges_hi_lt hspan)
    apply hclear _ (List.mem_map.mpr ⟨m, hm, rfl⟩) _
      (mem_cloneCopies.mpr ⟨0, Nat.pos_of_ne_zero hrepeats, span, hspan, rfl⟩)
    refine ⟨hcols, ?_⟩
    rw [hrows]
    exact (Interval.grow_meets_inserted hinserted.1 hinserted.2).mpr (of_decide_eq_true hacross)
  · intro hclear grown hgrown copy hcopy hmeets
    obtain ⟨m, hm, rfl⟩ := List.mem_map.mp hgrown
    obtain ⟨block, hblock, span, hspan, rfl⟩ := mem_cloneCopies.mp hcopy
    have hinserted := copy_rows_inserted insertAtRow hblock
      (containedMerges_hi_lt hspan)
    cases hrows : m.rows with
    | some rows =>
      rw [hrows] at hmeets
      have hacross := (Interval.grow_meets_inserted hinserted.1 hinserted.2).mp hmeets.2
      apply hclear m hm _ span hspan hmeets.1
      simp [hrows, hacross]
    | none =>
      -- Whole columns meet every range below them, so none of those was cloned.
      obtain ⟨source, hsource, sourceRows, hsourceRows, _, _, hcols, _⟩ :=
        mem_containedMerges.mp hspan
      have hne : m ≠ source := by
        intro heq
        rw [heq, hsourceRows] at hrows
        contradiction
      have hapart := h.forall hm hsource hne
      apply hapart
      exact ⟨hcols ▸ hmeets.1, by simp [hrows, rowsMeet]⟩

end Copies

/-! ### One edit -/

namespace Book
variable {α : Type}

theorem onSheet_onSheet (name : String) (edit more : α → α) (book : Book α) :
    (book.onSheet name (fun body => .ok (edit body)) >>= fun book =>
        book.onSheet name fun body => .ok (more body)) =
      book.onSheet name fun body => .ok (more (edit body)) := by
  induction book with
  | nil => rfl
  | cons sheet rest ih =>
    unfold onSheet
    by_cases hname : sheet.name = name
    · simp [hname, bind, Except.bind, pure, Except.pure]
    · simp only [if_neg hname]
      rw [← ih]
      cases onSheet name (fun body => .ok (edit body)) rest <;>
        simp [bind, Except.bind, pure, Except.pure, hname]

end Book

section Step
variable {book book' : Book Merges} {name : String}

theorem Book.Disjoint.sheet {merges : Merges} (h : Book.Disjoint book)
    (hsheet : book.sheetByName name = some merges) : merges.Disjoint := by
  induction book with
  | nil => contradiction
  | cons sheet rest ih =>
    unfold Book.sheetByName at hsheet
    split at hsheet
    · cases Option.some.inj hsheet
      exact h sheet List.mem_cons_self
    · exact ih (fun s hs => h s (List.mem_cons_of_mem _ hs)) hsheet

theorem Book.Disjoint.onSheet_iff {edit : Merges → Merges} (h : Book.Disjoint book)
    (hedit : book.onSheet name (fun merges => .ok (edit merges)) = .ok book') :
    ∃ merges, book.sheetByName name = some merges ∧
      (Book.Disjoint book' ↔ (edit merges).Disjoint) := by
  obtain ⟨merges, merges', hsheet, hok, _, hall⟩ := Book.onSheet_spec hedit
  cases Except.ok.inj hok
  exact ⟨merges, hsheet, hall _ h⟩

theorem Book.Disjoint.onSheet_keeps {edit : Merges → Merges} (h : Book.Disjoint book)
    (hkeeps : ∀ merges : Merges, merges.Disjoint → (edit merges).Disjoint)
    (hedit : book.onSheet name (fun merges => .ok (edit merges)) = .ok book') :
    Book.Disjoint book' := by
  obtain ⟨merges, hsheet, hiff⟩ := h.onSheet_iff hedit
  exact hiff.mpr (hkeeps merges (h.sheet hsheet))

theorem Book.Disjoint.setSheetName (h : Book.Disjoint book) (oldName newName : String) :
    Book.Disjoint (book.setSheetName oldName newName) := by
  induction book with
  | nil => exact h
  | cons sheet rest ih =>
    obtain ⟨hsheet, hrest⟩ := List.forall_mem_cons.mp h
    unfold Book.setSheetName
    split
    · exact List.forall_mem_cons.mpr ⟨hsheet, hrest⟩
    · exact List.forall_mem_cons.mpr ⟨hsheet, ih hrest⟩

theorem Book.Disjoint.createSheet {position : Option Nat} (h : Book.Disjoint book)
    (hcreate : book.createSheet name position [] = .ok book') : Book.Disjoint book' := by
  have hadded : ∀ sheet : Sheet Merges, sheet ∈ book ∨ sheet.body = [] →
      Merges.Disjoint sheet.body := by
    intro sheet hsheet
    rcases hsheet with hold | hfresh
    · exact h sheet hold
    · rw [hfresh]
      exact List.Pairwise.nil
  unfold Book.createSheet at hcreate
  simp only [bind_eq_ok, ensure_eq_ok] at hcreate
  obtain ⟨_, _, _, _, hcreate⟩ := hcreate
  cases position with
  | none =>
    cases Except.ok.inj hcreate
    intro sheet hsheet
    apply hadded
    rcases List.mem_append.mp hsheet with hold | hfresh
    · exact .inl hold
    · rw [List.mem_singleton.mp hfresh]
      exact .inr rfl
  | some position =>
    dsimp only at hcreate
    split at hcreate <;> cases Except.ok.inj hcreate <;> intro sheet hsheet <;> apply hadded
    · rcases List.mem_append.mp hsheet with hold | hfresh
      · exact .inl hold
      · rw [List.mem_singleton.mp hfresh]
        exact .inr rfl
    next hposition =>
      rcases (List.mem_insertIdx (by omega)).mp hsheet with hfresh | hold
      · rw [hfresh]
        exact .inr rfl
      · exact .inl hold

/-- A structural edit keeps merged ranges apart unless it merges over one. -/
theorem StructureOp.disjoint_iff {op : StructureOp} (h : Book.Disjoint book)
    (happly : applyStructureOp op book = .ok book') : Book.Disjoint book' ↔ op.Clear book := by
  cases op with
  | mergeCells sheetName targetRange =>
    obtain ⟨merges, hsheet, hiff⟩ := h.onSheet_iff happly
    rw [hiff, Merges.add, (h.sheet hsheet).append]
    simp [StructureOp.Clear, hsheet, Merges.Disjoint]
  | unmergeCells sheetName targetRange =>
    exact iff_of_true (h.onSheet_keeps (fun _ hm => hm.unmerge targetRange) happly) trivial
  | insertRows sheetName atRow count _ =>
    simp only [applyStructureOp, bind_eq_ok, ensure_eq_ok] at happly
    obtain ⟨_, _, happly⟩ := happly
    exact iff_of_true (h.onSheet_keeps (fun _ hm => hm.insertNewRow atRow count) happly) trivial
  | cloneRow sheetName sourceRow insertAt count _ =>
    simp only [applyStructureOp, bind_eq_ok, ensure_eq_ok] at happly
    obtain ⟨_, _, happly⟩ := happly
    exact iff_of_true (h.onSheet_keeps (fun _ hm => hm.insertNewRow insertAt count) happly) trivial
  | deleteRows sheetName startRow count =>
    simp only [applyStructureOp, bind_eq_ok, ensure_eq_ok] at happly
    obtain ⟨_, _, happly⟩ := happly
    exact iff_of_true (h.onSheet_keeps (fun _ hm => hm.removeRow startRow count) happly) trivial
  | insertCols sheetName atCol count =>
    simp only [applyStructureOp, bind_eq_ok, ensure_eq_ok] at happly
    obtain ⟨_, _, letters, _, happly⟩ := happly
    exact iff_of_true (h.onSheet_keeps (fun _ hm => hm.insertNewColumn _ count) happly) trivial
  | deleteCols sheetName startCol count =>
    simp only [applyStructureOp, bind_eq_ok, ensure_eq_ok] at happly
    obtain ⟨_, _, letters, _, happly⟩ := happly
    exact iff_of_true (h.onSheet_keeps (fun _ hm => hm.removeColumn _ count) happly) trivial
  | renameSheet oldName newName =>
    simp only [applyStructureOp, Book.renameSheet, bind_eq_ok, ensure_eq_ok, pure_eq_ok] at happly
    obtain ⟨_, _, _, _, _, _, rfl⟩ := happly
    exact iff_of_true (h.setSheetName _ _) trivial
  | createSheet name position => exact iff_of_true (h.createSheet happly) trivial
  | deleteSheet name =>
    simp only [applyStructureOp, Book.deleteSheet, bind_eq_ok, ensure_eq_ok, pure_eq_ok] at happly
    obtain ⟨_, _, _, _, _, _, rfl⟩ := happly
    exact iff_of_true (fun sheet hsheet => h sheet (List.mem_of_mem_eraseP hsheet)) trivial
  | copyRange | moveRange =>
    simp only [applyStructureOp, bind_eq_ok, pure_eq_ok] at happly
    obtain ⟨_, _, _, _, rfl⟩ := happly
    exact iff_of_true h trivial

@[simp] theorem applyStructureOps_nil : applyStructureOps [] book = .ok book := rfl

@[simp] theorem applyStructureOps_cons (op : StructureOp) (ops : List StructureOp) :
    applyStructureOps (op :: ops) book = applyStructureOp op book >>= applyStructureOps ops := by
  unfold applyStructureOps
  rw [List.foldlM_cons]

theorem buildClonePlan_eq_ok {boundary : String} {request : CloneRequest} {plan : ClonePlan}
    (h : buildClonePlan boundary request book = .ok plan) :
    resolveCloneAnchor request.before request.after request.insertAt = .ok plan.insertAtRow ∧
      ∃ merges, book.sheetByName request.sheetName = some merges ∧
        plan.sheetName = request.sheetName ∧
        plan.height = request.sourceLast - request.sourceFirst + 1 ∧
        plan.repeats = request.repeats ∧
        plan.containedMerges = containedMerges request.sourceFirst request.sourceLast merges := by
  simp only [buildClonePlan, bind_eq_ok, pure_eq_ok, required_eq_ok] at h
  obtain ⟨insertAtRow, hanchor, merges, hmerges, _, _, rfl⟩ := h
  exact ⟨hanchor, merges, hmerges, rfl, rfl, rfl, rfl⟩

theorem clone_step_iff {boundary : String} {request : CloneRequest} {plan : ClonePlan}
    {inserted : Book Merges} (h : Book.Disjoint book)
    (hplan : buildClonePlan boundary request book = .ok plan) (hrepeats : request.repeats ≠ 0)
    (hinserted : book.onSheet plan.sheetName (fun merges =>
      .ok (merges.insertNewRow plan.insertAtRow (plan.height * plan.repeats))) = .ok inserted)
    (hadded : plan.postprocess inserted = .ok book') :
    Book.Disjoint book' ↔ request.Clear request.sourceLast book := by
  obtain ⟨hanchor, merges, hmerges, hname, hheight, hcount, hcontained⟩ := buildClonePlan_eq_ok hplan
  have hboth := Book.onSheet_onSheet plan.sheetName
    (fun merges => Merges.insertNewRow plan.insertAtRow (plan.height * plan.repeats) merges)
    (fun merges => merges ++ cloneCopies plan.insertAtRow plan.height plan.repeats
      plan.containedMerges) book
  rw [hinserted] at hboth
  obtain ⟨merges', hmerges', hiff⟩ := h.onSheet_iff (hboth.symm.trans hadded)
  rw [hname, hmerges] at hmerges'
  cases Option.some.inj hmerges'
  rw [hiff, hheight, hcount, hcontained, clone_disjoint_iff (h.sheet hmerges) hrepeats]
  constructor
  · intro hclear merges' row hmerges' hrow
    rw [hmerges] at hmerges'
    rw [hanchor] at hrow
    cases Option.some.inj hmerges'
    cases Except.ok.inj hrow
    exact hclear
  · intro hclear
    exact hclear merges plan.insertAtRow hmerges hanchor

theorem applyCloneRow_iff {request : CloneRequest} (h : Book.Disjoint book)
    (happly : applyCloneRow request book = .ok book') :
    Book.Disjoint book' ↔ request.Clear request.sourceFirst book := by
  simp only [applyCloneRow, buildCloneTemplateRowPlan, bind_eq_ok, ensure_eq_ok,
    applyStructureOps_cons, applyStructureOps_nil, applyStructureOp] at happly
  obtain ⟨plan, ⟨_, _, _, hrepeats, hplan⟩, inserted, ⟨_, ⟨_, _, hinserted⟩, hrest⟩, hadded⟩ :=
    happly
  cases Except.ok.inj hrest
  have hheight := (buildClonePlan_eq_ok hplan).2.choose_spec.2.2.1
  dsimp only at hheight
  rw [Nat.sub_self, Nat.zero_add] at hheight
  apply clone_step_iff h hplan hrepeats _ hadded
  rw [hheight, Nat.one_mul]
  exact hinserted

theorem applyCloneRowBand_iff {request : CloneRequest} (h : Book.Disjoint book)
    (happly : applyCloneRowBand request book = .ok book') :
    Book.Disjoint book' ↔ request.Clear request.sourceLast book := by
  simp only [applyCloneRowBand, buildCloneRowBandPlan, bind_eq_ok, ensure_eq_ok,
    applyStructureOps_cons, applyStructureOps_nil, applyStructureOp] at happly
  obtain ⟨plan, ⟨_, hrepeats, _, _, _, _, hplan⟩, inserted, ⟨_, ⟨_, _, hinserted⟩, hrest⟩,
    hadded⟩ := happly
  cases Except.ok.inj hrest
  exact clone_step_iff h hplan hrepeats hinserted hadded

theorem applyStructureOps_merges {targets : List A1Range}
    (h : applyStructureOps (targets.map (.mergeCells name)) book = .ok book') :
    targets = [] ∧ book' = book ∨ book.onSheet name (fun merges =>
      .ok (merges ++ targets.map A1Range.merged)) = .ok book' := by
  induction targets generalizing book with
  | nil =>
    cases Except.ok.inj h
    exact .inl ⟨rfl, rfl⟩
  | cons target rest ih =>
    simp only [List.map_cons, applyStructureOps_cons, bind_eq_ok] at h
    obtain ⟨added, hadded, hrest⟩ := h
    right
    rcases ih hrest with ⟨rfl, rfl⟩ | hmore
    · exact hadded
    · have hboth := Book.onSheet_onSheet name (Merges.add target)
        (fun merges => merges ++ rest.map A1Range.merged) book
      change book.onSheet name (fun merges => .ok (merges.add target)) = .ok added at hadded
      rw [hadded] at hboth
      have hsame := hboth.symm.trans hmore
      simpa [Merges.add] using hsame

theorem merges_takes_iff {targets : List A1Range} {merges : Merges} (h : Book.Disjoint book)
    (hmerges : book.sheetByName name = some merges)
    (happly : applyStructureOps (targets.map (.mergeCells name)) book = .ok book') :
    Book.Disjoint book' ↔ merges.Takes targets := by
  rcases applyStructureOps_merges happly with ⟨rfl, rfl⟩ | hadded
  · exact iff_of_true h ⟨List.Pairwise.nil, by simp⟩
  · obtain ⟨merges', hmerges', hiff⟩ := h.onSheet_iff hadded
    rw [hmerges] at hmerges'
    cases Option.some.inj hmerges'
    rw [hiff, (h.sheet hmerges).append]
    simp [Merges.Takes]

theorem clear_kept {request : ImportRequest} {cleared : Book Merges} {merges : Merges}
    (h : Book.Disjoint book) (hmerges : book.sheetByName request.sheetName = some merges)
    (hclear : clearFootprint request book = .ok cleared) :
    Book.Disjoint cleared ∧ cleared.sheetByName request.sheetName = some (request.kept merges) := by
  unfold ImportRequest.kept
  unfold clearFootprint at hclear
  split at hclear
  next htarget =>
    rw [if_pos htarget]
    simp only [applyStructureOps_cons, applyStructureOps_nil, bind_eq_ok] at hclear
    obtain ⟨_, hunmerge, hrest⟩ := hclear
    cases Except.ok.inj hrest
    obtain ⟨merges', merges'', hmerges', hok, hafter, _⟩ := Book.onSheet_spec hunmerge
    rw [hmerges] at hmerges'
    cases Option.some.inj hmerges'
    cases Except.ok.inj hok
    exact ⟨h.onSheet_keeps (fun _ hm => hm.unmerge request.footprint) hunmerge, hafter⟩
  next htarget =>
    cases Except.ok.inj hclear
    rw [if_neg htarget]
    exact ⟨h, hmerges⟩

theorem gridImport_iff {request : ImportRequest} (h : Book.Disjoint book)
    (happly : gridImport request book = .ok book') :
    Book.Disjoint book' ↔ (MergeEdit.gridImport request).Clear book := by
  simp only [gridImport, bind_eq_ok, required_eq_ok] at happly
  obtain ⟨merges, hmerges, happly⟩ := happly
  have hclear : (MergeEdit.gridImport request).Clear book ↔
      (request.kept merges).Takes request.grid.merges := by
    simp [MergeEdit.Clear, hmerges]
  rw [hclear]
  split at happly
  next hnone =>
    cases Except.ok.inj happly
    rw [hnone]
    exact iff_of_true h ⟨List.Pairwise.nil, by simp⟩
  next =>
    unfold applyStructureOps at happly
    rw [List.foldlM_append, bind_eq_ok] at happly
    obtain ⟨cleared, hcleared, happly⟩ := happly
    have hfootprint : clearFootprint request book = .ok cleared := by
      rw [← hcleared]
      unfold clearFootprint
      split <;> rfl
    have hkept := clear_kept h hmerges hfootprint
    exact merges_takes_iff hkept.1 hkept.2 happly

theorem sheetByName_of_import {request : ImportRequest} {targets : List A1Range}
    {cleared written : Book Merges} {merges' : Merges}
    (hcleared : clearFootprint request book = .ok cleared)
    (hwritten : applyStructureOps (targets.map (.mergeCells request.sheetName)) cleared =
      .ok written)
    (hafter : written.sheetByName request.sheetName = some merges') :
    ∃ merges, book.sheetByName request.sheetName = some merges := by
  unfold clearFootprint at hcleared
  split at hcleared
  · simp only [applyStructureOps_cons, bind_eq_ok] at hcleared
    obtain ⟨_, hunmerge, _⟩ := hcleared
    obtain ⟨merges, _, hmerges, _⟩ := Book.onSheet_spec hunmerge
    exact ⟨merges, hmerges⟩
  · cases Except.ok.inj hcleared
    rcases applyStructureOps_merges hwritten with ⟨_, rfl⟩ | hadded
    · exact ⟨merges', hafter⟩
    · obtain ⟨merges, _, hmerges, _⟩ := Book.onSheet_spec hadded
      exact ⟨merges, hmerges⟩

theorem applyGrid_iff {request : ImportRequest} (h : Book.Disjoint book)
    (happly : applyGrid request book = .ok book') :
    Book.Disjoint book' ↔ (MergeEdit.importGrid request).Clear book := by
  simp only [applyGrid, bind_eq_ok, required_eq_ok, pure_eq_ok] at happly
  obtain ⟨cleared, hcleared, targets, htargets, written, hwritten, merges', hafter, rfl⟩ := happly
  obtain ⟨merges, hmerges⟩ := sheetByName_of_import hcleared hwritten hafter
  have hkept := clear_kept h hmerges hcleared
  rw [merges_takes_iff hkept.1 hkept.2 hwritten]
  simp [MergeEdit.Clear, hmerges, htargets]

/-- An edit keeps merged ranges apart exactly when it adds none over another. -/
theorem MergeEdit.disjoint_iff {edit : MergeEdit} (h : Book.Disjoint book)
    (happly : edit.apply book = .ok book') : Book.Disjoint book' ↔ edit.Clear book := by
  cases edit with
  | edit op => exact op.disjoint_iff h happly
  | cloneRow request => exact applyCloneRow_iff h happly
  | cloneRowBand request => exact applyCloneRowBand_iff h happly
  | gridImport request => exact gridImport_iff h happly
  | importGrid request => exact applyGrid_iff h happly

end Step

/-! ### Runs -/

def mergesAfter (book : Book Merges) (edits : List MergeEdit) (n : Nat) : Book Merges :=
  (edits.take n).foldl MergeEdit.step book

theorem MergeEdit.step_disjoint_iff {book : Book Merges} {edit : MergeEdit}
    (h : Book.Disjoint book) : Book.Disjoint (edit.step book) ↔
      ∀ next, edit.apply book = .ok next → edit.Clear book := by
  unfold MergeEdit.step
  split
  next next hnext =>
    rw [MergeEdit.disjoint_iff h hnext]
    simp [hnext]
  next error herror => simp [h, herror]

/-- From merged ranges that are pairwise apart, every state of a run keeps them
apart exactly when no accepted edit of the run adds a range over another: a merge
over a merged range, a clone inserted inside a merged range whose columns hold a
cloned one, or an import over ranges that stay. -/
theorem merged_ranges_disjoint_iff (book : Book Merges) (h : Book.Disjoint book)
    (edits : List MergeEdit) :
    (∀ n, Book.Disjoint (mergesAfter book edits n)) ↔
      ∀ (n : Nat) (edit : MergeEdit), edits[n]? = some edit →
        ∀ next, edit.apply (mergesAfter book edits n) = .ok next →
          edit.Clear (mergesAfter book edits n) := by
  change (∀ n, Book.Disjoint (stateAfter MergeEdit.step book edits n)) ↔
    AllSteps MergeEdit.step (fun book edit => ∀ next, edit.apply book = .ok next → edit.Clear book)
      book edits
  exact invariant_along_iff (fun _ _ => MergeEdit.step_disjoint_iff) h

/-- Ranges `A2:B2` and `A4:A6`. -/
def sampleMerges : Book Merges :=
  [⟨"Sheet1", [(A1Range.cells (1, 2) (2, 2)).merged, (A1Range.cells (1, 4) (1, 6)).merged]⟩]

/-- Row 2 cloned before row 4, which pushes `A4:A6` down, and `C4:D5` merged. -/
def sampleEdits : List MergeEdit :=
  [.cloneRow ⟨"Sheet1", 2, 2, some 4, none, none, 2, false, .safe⟩,
    .edit (.mergeCells "Sheet1" (.cells (3, 4) (4, 5)))]

theorem sampleEdits_disjoint : Book.Disjoint sampleMerges ∧
    ∀ n, Book.Disjoint (mergesAfter sampleMerges sampleEdits n) := by
  have hstart : Book.Disjoint sampleMerges := by decide
  apply And.intro hstart
  apply (merged_ranges_disjoint_iff sampleMerges hstart sampleEdits).mpr
  intro n edit hedit next _
  match n, hedit with
  | 0, hedit =>
    cases Option.some.inj hedit
    intro merges row hmerges hrow
    cases Option.some.inj hmerges
    cases Except.ok.inj hrow
    decide
  | 1, hedit =>
    cases Option.some.inj hedit
    intro merges hmerges
    cases Option.some.inj hmerges
    decide

/-- A merge over a merged range is accepted, and so is a clone of row 2 into the
middle of `A4:A6`: the range grows over the inserted row, and the copy of `A2:B2`
goes on top of it. -/
theorem accepted_edits_overlap :
    Book.Disjoint sampleMerges ∧
      (∃ book, MergeEdit.apply (.edit (.mergeCells "Sheet1" (.cells (2, 1) (3, 2)))) sampleMerges =
        .ok book ∧ ¬Book.Disjoint book) ∧
      ∃ book, MergeEdit.apply (.cloneRow ⟨"Sheet1", 2, 2, none, none, some 5, 1, false, .strict⟩)
        sampleMerges = .ok book ∧ ¬Book.Disjoint book :=
  ⟨by decide, ⟨_, rfl, by decide⟩, ⟨_, rfl, by decide⟩⟩

end AgentSpreadsheet.Sheets
