import AgentSpreadsheet.Analysis.FormulaGraph
import AgentSpreadsheet.Library.Guard

/-! The regions of a sheet. The occupied bounds are cut at runs of rows or columns that are nearly
blank, and what is left is trimmed. A subtraction below zero is an error. -/
namespace AgentSpreadsheet.Regions
open Library

structure Rect where
  startRow : Nat
  endRow : Nat
  startCol : Nat
  endCol : Nat
  deriving DecidableEq, Repr

def Rect.Has (rect : Rect) (row col : Nat) : Prop :=
  (rect.startRow ≤ row ∧ row ≤ rect.endRow) ∧ rect.startCol ≤ col ∧ col ≤ rect.endCol

/-- The occupied cells of a sheet, and their bounds. -/
structure Occupancy where
  occupied : Nat → Nat → Bool
  bounds : Rect
  placed : ∀ row col, occupied row col = true → bounds.Has row col

def detectMaxRows : Nat := 10000
def detectMaxCols : Nat := 500
def detectMaxArea : Nat := 5000000
def detectMaxCells : Nat := 200000
def detectMaxLeaves : Nat := 200
def detectMaxDepth : Nat := 12
def detectOutlierMinCells : Nat := 50

def checkedSub (a b : Nat) : Result Nat :=
  if b ≤ a then .ok (a - b) else .error "attempt to subtract with overflow"

def lines (first last : Nat) : Result Nat := (· + 1) <$> checkedSub last first

section Detect
variable (occupancy : Occupancy)

/-! ### Counts -/

def rowCount (row startCol width : Nat) : Nat :=
  (List.range width).countP fun i => occupancy.occupied row (startCol + i)

def colCount (col startRow height : Nat) : Nat :=
  (List.range height).countP fun i => occupancy.occupied (startRow + i) col

def rowColCounts (rect : Rect) : Result (List Nat × List Nat) := do
  let height ← lines rect.startRow rect.endRow
  let width ← lines rect.startCol rect.endCol
  pure ((List.range height).map fun i => rowCount occupancy (rect.startRow + i) rect.startCol width,
    (List.range width).map fun i => colCount occupancy (rect.startCol + i) rect.startRow height)

/-! ### Gutters -/

structure BlankRun where
  start : Nat := 0
  stop : Nat := 0
  len : Nat := 0
  deriving DecidableEq, Repr

/-- The best run so far, and where a run under way began. -/
structure BlankRuns where
  best : BlankRun := {}
  currentStart : Option Nat := none
  deriving DecidableEq, Repr

/-- A run counts when lines come before and after it. -/
def endRun (total start stop : Nat) (best : BlankRun) : Result BlankRun := do
  let len ← lines start stop
  pure (if best.len < len ∧ 0 < start ∧ stop + 1 < total then ⟨start, stop, len⟩ else best)

def isBlank (count span : Nat) : Bool := count == 0 || 20 * count < span

def blankRunStep (total span idx count : Nat) (runs : BlankRuns) : Result BlankRuns :=
  if isBlank count span then .ok { runs with currentStart := some (runs.currentStart.getD idx) }
  else
    match runs.currentStart with
    | none => .ok runs
    | some start => do
      let stop ← checkedSub idx 1
      let best ← endRun total start stop runs.best
      pure ⟨best, none⟩

def blankRunsFrom (total span : Nat) : Nat → List Nat → BlankRuns → Result BlankRuns
  | _, [], runs => .ok runs
  | idx, count :: counts, runs => do
    let runs ← blankRunStep total span idx count runs
    blankRunsFrom total span (idx + 1) counts runs

def lastRun (total : Nat) (runs : BlankRuns) : Result BlankRun :=
  match runs.currentStart with
  | none => .ok runs.best
  | some start => do
    let stop ← checkedSub total 1
    endRun total start stop runs.best

def findBlankRuns (counts : List Nat) (span : Nat) : Result (Option BlankRun) := do
  let runs ← blankRunsFrom counts.length span 0 counts {}
  let best ← lastRun counts.length runs
  pure (if 2 ≤ best.len then some best else none)

inductive Gutter where
  | row (start stop : Nat)
  | col (start stop : Nat)
  deriving DecidableEq, Repr

/-- The longer run; rows before columns. -/
def bestOf (rect : Rect) (rowRun colRun : Option BlankRun) : Option Gutter :=
  match rowRun, colRun with
  | none, none => none
  | some run, none => some (.row (rect.startRow + run.start) (rect.startRow + run.stop))
  | none, some run => some (.col (rect.startCol + run.start) (rect.startCol + run.stop))
  | some rowRun, some colRun =>
    if rowRun.len < colRun.len then
      some (.col (rect.startCol + colRun.start) (rect.startCol + colRun.stop))
    else some (.row (rect.startRow + rowRun.start) (rect.startRow + rowRun.stop))

def bestGutter (rect : Rect) : Result (Option Gutter) := do
  let counts ← rowColCounts occupancy rect
  let width ← lines rect.startCol rect.endCol
  let height ← lines rect.startRow rect.endRow
  let rowRun ← findBlankRuns counts.1 width
  let colRun ← findBlankRuns counts.2 height
  pure (bestOf rect rowRun colRun)

/-! ### Splits -/

/-- The limits of one detection; the time is not up. -/
structure DetectLimits where
  leaves : Nat := 0
  exceededLeaves : Bool := false
  deriving DecidableEq, Repr

def DetectLimits.shouldStop (limits : DetectLimits) : Bool := limits.exceededLeaves

def DetectLimits.noteLeaf (limits : DetectLimits) : DetectLimits where
  leaves := limits.leaves + 1
  exceededLeaves := limits.exceededLeaves || decide (detectMaxLeaves ≤ limits.leaves + 1)

structure Splitting where
  limits : DetectLimits := {}
  leaves : List Rect := []
  deriving DecidableEq, Repr

def Splitting.leaf (rect : Rect) (splitting : Splitting) : Splitting :=
  ⟨splitting.limits.noteLeaf, splitting.leaves ++ [rect]⟩

def findBestGutter (rect : Rect) (limits : DetectLimits) : Result (Option Gutter) :=
  if limits.shouldStop then .ok none else bestGutter occupancy rect

/-- `remaining` is what the depth lacks to its maximum. -/
def splitRect : (remaining : Nat) → Rect → Splitting → Result Splitting
  | 0, rect, splitting => .ok (splitting.leaf rect)
  | remaining + 1, rect, splitting =>
    if splitting.limits.shouldStop then .ok (splitting.leaf rect)
    else if rect.endRow ≤ rect.startRow ∧ rect.endCol ≤ rect.startCol then
      .ok (splitting.leaf rect)
    else do
      let gutter ← findBestGutter occupancy rect splitting.limits
      match gutter with
      | none => pure (splitting.leaf rect)
      | some (.row start stop) => do
        let splitting ← (if rect.startRow < start then
            checkedSub start 1 >>= fun endRow =>
              splitRect remaining { rect with endRow } splitting
          else .ok splitting)
        if stop < rect.endRow then
          splitRect remaining { rect with startRow := stop + 1 } splitting
        else pure splitting
      | some (.col start stop) => do
        let splitting ← (if rect.startCol < start then
            checkedSub start 1 >>= fun endCol =>
              splitRect remaining { rect with endCol } splitting
          else .ok splitting)
        if stop < rect.endCol then
          splitRect remaining { rect with startCol := stop + 1 } splitting
        else pure splitting

/-! ### Trimming -/

/-- Less than 10 in 100; a side without a line is not blank. -/
def sideBlank (count : Option Nat) (span : Nat) : Bool :=
  count.any fun count => count == 0 || 10 * count < span

def trimSides (top bottom left right : Bool) (rect : Rect) : Rect :=
  let rect := if top ∧ rect.startRow < rect.endRow then
    { rect with startRow := rect.startRow + 1 } else rect
  let rect := if bottom ∧ rect.startRow < rect.endRow then
    { rect with endRow := rect.endRow - 1 } else rect
  let rect := if left ∧ rect.startCol < rect.endCol then
    { rect with startCol := rect.startCol + 1 } else rect
  if right ∧ rect.startCol < rect.endCol then { rect with endCol := rect.endCol - 1 } else rect

def trimStep (rect : Rect) : Result Rect := do
  let counts ← rowColCounts occupancy rect
  let width ← lines rect.startCol rect.endCol
  let height ← lines rect.startRow rect.endRow
  pure (trimSides (sideBlank counts.1.head? width) (sideBlank counts.1.getLast? width)
    (sideBlank counts.2.head? height) (sideBlank counts.2.getLast? height) rect)

def Rect.extent (rect : Rect) : Nat := (rect.endRow - rect.startRow) + (rect.endCol - rect.startCol)

theorem trimSides_extent {top bottom left right : Bool} {rect : Rect}
    (h : trimSides top bottom left right rect ≠ rect) :
    (trimSides top bottom left right rect).extent < rect.extent := by
  unfold trimSides Rect.extent at *
  dsimp only at *
  split_ifs at * with htop hbottom hleft hright <;> first | (dsimp only at *; omega) | contradiction

theorem trimStep_extent {rect trimmed : Rect} (h : trimStep occupancy rect = .ok trimmed)
    (hne : trimmed ≠ rect) : trimmed.extent < rect.extent := by
  unfold trimStep at h
  simp only [bind_eq_ok, pure_eq_ok] at h
  obtain ⟨_, _, _, _, _, _, rfl⟩ := h
  exact trimSides_extent hne

def trimRect (limits : DetectLimits) (rect : Rect) : Result (Option Rect) :=
  if limits.shouldStop then .ok (some rect)
  else
    match h : trimStep occupancy rect with
    | .error e => .error e
    | .ok trimmed =>
      if hsame : trimmed = rect then .ok (some rect)
      else if trimmed.endRow < trimmed.startRow ∨ trimmed.endCol < trimmed.startCol then .ok none
      else trimRect limits trimmed
termination_by rect.extent
decreasing_by exact trimStep_extent occupancy h hsame

/-! ### Regions -/

structure SheetMetrics where
  rowCount : Nat
  columnCount : Nat
  deriving DecidableEq, Repr

structure DetectedRegion where
  id : Nat
  rect : Rect
  headerCount : Nat
  rowCount : Nat
  deriving DecidableEq, Repr

def DetectedRegion.bounds (region : DetectedRegion) : String :=
  Analysis.cellAddress region.rect.startCol region.rect.startRow ++ ":" ++
    Analysis.cellAddress region.rect.endCol region.rect.endRow

structure DetectRegionsResult where
  regions : List DetectedRegion := []
  notes : List String := []
  deriving DecidableEq, Repr

def buildRegion (rect : Rect) (id : Nat) : Result DetectedRegion := do
  let headerCount ← lines rect.startCol rect.endCol
  let rowCount ← lines rect.startRow rect.endRow
  pure ⟨id, rect, headerCount, rowCount⟩

def Occupancy.cellCount : Nat :=
  ((List.range (occupancy.bounds.endRow + 1)).map fun row =>
    rowCount occupancy row 0 (occupancy.bounds.endCol + 1)).sum

/-- The first line that is left when `trimCells` cells are trimmed from the front. -/
def trimFront (default : Nat) : (trimCells : Nat) → List (Nat × Nat) → Nat
  | _, [] => default
  | remaining, (line, count) :: rest =>
    if remaining < count then line else trimFront default (remaining - count) rest

def lineCounts (count : Nat → Nat) (first last : Nat) : List (Nat × Nat) :=
  (List.range' first (last + 1 - first)).filterMap fun line =>
    if count line = 0 then none else some (line, count line)

def trimBoundsByCells (entries : List (Nat × Nat)) (trimCells defaultStart defaultEnd : Nat) :
    Nat × Nat :=
  (trimFront defaultStart trimCells entries, trimFront defaultEnd trimCells entries.reverse)

/-- The bounds without the outer hundredth of the cells. -/
def denseBounds : Option Rect :=
  let bounds := occupancy.bounds
  let trimCells := (occupancy.cellCount + 50) / 100
  if occupancy.cellCount = 0 then none
  else if occupancy.cellCount < detectOutlierMinCells ∨ trimCells = 0 ∨
      occupancy.cellCount ≤ trimCells * 2 then
    some bounds
  else
    let rows := trimBoundsByCells (lineCounts (fun row =>
      rowCount occupancy row 0 (bounds.endCol + 1)) bounds.startRow bounds.endRow) trimCells
      bounds.startRow bounds.endRow
    let cols := trimBoundsByCells (lineCounts (fun col =>
      colCount occupancy col 0 (bounds.endRow + 1)) bounds.startCol bounds.endCol) trimCells
      bounds.startCol bounds.endCol
    if rows.2 < rows.1 ∨ cols.2 < cols.1 then some bounds
    else some ⟨rows.1, rows.2, cols.1, cols.2⟩

def buildFallbackRegion (rect : Rect) : Result DetectedRegion := buildRegion rect 0

def fallbackRegions : Result (List DetectedRegion) :=
  match denseBounds occupancy with
  | none => .ok []
  | some bounds => (fun region => [region]) <$> buildFallbackRegion bounds

/-- The regions of the leaves from the first on, until the limits say stop. -/
def collectRegions (limits : DetectLimits) : Nat → List Rect → Result (List DetectedRegion)
  | _, [] => .ok []
  | idx, rect :: leaves =>
    if limits.shouldStop then .ok []
    else do
      let trimmed ← trimRect occupancy limits rect
      let region ← trimmed.mapM fun rect => buildRegion rect idx
      let regions ← collectRegions limits (idx + 1) leaves
      pure (region.toList ++ regions)

def exceedsCaps (metrics : SheetMetrics) : Bool :=
  detectMaxRows < metrics.rowCount || detectMaxCols < metrics.columnCount ||
    detectMaxArea < metrics.rowCount * metrics.columnCount ||
    detectMaxCells < occupancy.cellCount

def splitBounds : Result Splitting :=
  splitRect occupancy detectMaxDepth occupancy.bounds {}

def detectionNotes (limits : DetectLimits) : List String :=
  if limits.exceededLeaves then ["Region detection truncated due to time/complexity caps."] else []

def withFallback (limits : DetectLimits) (regions : List DetectedRegion) :
    Result DetectRegionsResult :=
  if regions = [] then do
    let fallback ← fallbackRegions occupancy
    pure ⟨fallback, detectionNotes limits ++ if fallback = [] then [] else
      ["Region detection returned no regions; fallback bounds used."]⟩
  else .ok ⟨regions, detectionNotes limits⟩

def detectRegions (metrics : SheetMetrics) : Result DetectRegionsResult :=
  if metrics.rowCount = 0 ∨ metrics.columnCount = 0 ∨ occupancy.cellCount = 0 then .ok {}
  else if exceedsCaps occupancy metrics then do
    let regions ← fallbackRegions occupancy
    pure ⟨regions, ["Region detection capped: rows " ++ toString metrics.rowCount ++ ", cols " ++
      toString metrics.columnCount ++ ", occupied " ++ toString occupancy.cellCount ++ "."]⟩
  else do
    let splitting ← splitBounds occupancy
    let regions ← collectRegions occupancy splitting.limits 0 splitting.leaves
    withFallback occupancy splitting.limits regions

end Detect

end AgentSpreadsheet.Regions
