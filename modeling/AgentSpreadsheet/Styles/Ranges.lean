import AgentSpreadsheet.Analysis.Dependents
import AgentSpreadsheet.Library.Runs
import Mathlib.Data.Prod.Lex
import Mathlib.Data.Set.Card

/-! Cells as ranges. Columns that stand side by side in a row make a span, and a span that recurs
row by row makes a range; past a limit the ranges are cut off. -/
namespace AgentSpreadsheet.Styles
open Library
open Analysis (cellAddress cellAddress_inj cellAddress_plain)

structure CellRange where
  startCol : Nat
  endCol : Nat
  startRow : Nat
  endRow : Nat
  deriving DecidableEq, Repr

def formatRange (range : CellRange) : String :=
  let startAddr := cellAddress range.startCol range.startRow
  let endAddr := cellAddress range.endCol range.endRow
  if startAddr = endAddr then startAddr else startAddr ++ ":" ++ endAddr

section Compress
variable (positions : List (Nat × Nat)) (limit : Nat)

def rowColumns : List (Nat × List Nat) :=
  (grouped positions).map fun (row, cols) => (row, ascending cols)

def spansByCols : List ((Nat ×ₗ Nat) × List Nat) :=
  grouped ((rowColumns positions).flatMap fun (row, cols) =>
    (runs cols).map fun span => (toLex span, row))

def columnRanges : List CellRange :=
  (spansByCols positions).flatMap fun (span, rows) => (runs (ascending rows)).map fun run =>
    ⟨(ofLex span).1, (ofLex span).2, run.1, run.2⟩

structure Compression where
  ranges : List CellRange := []
  truncated : Bool := false

/-- Nothing is pushed after the limit is met. -/
def pushRange (out : Compression) (range : CellRange) : Compression :=
  if out.truncated then out
  else
    { ranges := out.ranges ++ [range]
      truncated := limit ≤ (out.ranges ++ [range]).length }

def compressPositionsToRanges : List String × Bool :=
  if positions = [] then ([], false)
  else
    let out := (columnRanges positions).foldl (pushRange limit) {}
    ((if out.truncated then out.ranges.take limit else out.ranges).map formatRange, out.truncated)

end Compress

/-! ### What a range denotes -/

def CellRange.Has (range : CellRange) (position : Nat × Nat) : Prop :=
  (range.startRow ≤ position.1 ∧ position.1 ≤ range.endRow) ∧
    range.startCol ≤ position.2 ∧ position.2 ≤ range.endCol

/-- A text denotes the cells of the range it is written for. -/
def Denotes (text : String) (position : Nat × Nat) : Prop :=
  ∃ range, formatRange range = text ∧ range.Has position

theorem colon_not_mem (col row : Nat) : ':' ∉ (cellAddress col row).toList := by
  intro h
  cases cellAddress_plain h with
  | inl h => exact absurd h (by decide)
  | inr h => exact absurd h (by decide)

theorem splitOnce_formatRange (range : CellRange) : Sheets.splitOnce ':' (formatRange range) =
    if cellAddress range.startCol range.startRow = cellAddress range.endCol range.endRow then none
    else some (cellAddress range.startCol range.startRow,
      cellAddress range.endCol range.endRow) := by
  unfold formatRange
  dsimp only
  split
  · exact Sheets.splitOnce_none (colon_not_mem _ _)
  · exact Sheets.splitOnce_append (colon_not_mem _ _)

theorem formatRange_inj {range range' : CellRange} (h : formatRange range = formatRange range') :
    range = range' := by
  have hends : cellAddress range.startCol range.startRow =
        cellAddress range'.startCol range'.startRow ∧
      cellAddress range.endCol range.endRow = cellAddress range'.endCol range'.endRow := by
    have hsplit := congrArg (Sheets.splitOnce ':') h
    rw [splitOnce_formatRange, splitOnce_formatRange] at hsplit
    unfold formatRange at h
    dsimp only at h
    by_cases hsingle : cellAddress range.startCol range.startRow =
        cellAddress range.endCol range.endRow
    · by_cases hsingle' : cellAddress range'.startCol range'.startRow =
          cellAddress range'.endCol range'.endRow
      · rw [if_pos hsingle, if_pos hsingle'] at h
        exact ⟨h, hsingle.symm.trans (h.trans hsingle')⟩
      · rw [if_pos hsingle, if_neg hsingle'] at hsplit
        contradiction
    · by_cases hsingle' : cellAddress range'.startCol range'.startRow =
          cellAddress range'.endCol range'.endRow
      · rw [if_neg hsingle, if_pos hsingle'] at hsplit
        contradiction
      · rw [if_neg hsingle, if_neg hsingle'] at hsplit
        exact Prod.mk.inj (Option.some.inj hsplit)
  obtain ⟨startCol, endCol, startRow, endRow⟩ := range
  obtain ⟨startCol', endCol', startRow', endRow'⟩ := range'
  obtain ⟨rfl, rfl⟩ := cellAddress_inj hends.1
  obtain ⟨rfl, rfl⟩ := cellAddress_inj hends.2
  rfl

theorem denotes_formatRange {range : CellRange} {position : Nat × Nat} :
    Denotes (formatRange range) position ↔ range.Has position := by
  constructor
  · intro h
    obtain ⟨range', hformat, hhas⟩ := h
    exact formatRange_inj hformat ▸ hhas
  · exact fun h => ⟨range, rfl, h⟩

/-- The ranges are apart and hold given cells only, at most `limit` many; they are truncated
when some given cell is left out and only then. -/
structure ExactRanges (positions : List (Nat × Nat)) (limit : Nat) (ranges : List String)
    (truncated : Bool) : Prop where
  disjoint : ranges.Pairwise fun a b => ∀ position, Denotes a position → ¬Denotes b position
  given : ∀ text ∈ ranges, ∀ position, Denotes text position → position ∈ positions
  limited : ranges.length ≤ limit
  covers : truncated = false → ∀ position ∈ positions, ∃ text ∈ ranges, Denotes text position
  cut : truncated = true ↔ ∃ position ∈ positions, ∀ text ∈ ranges, ¬Denotes text position

section Ranges
variable {positions : List (Nat × Nat)} {limit : Nat}

def Spans (positions : List (Nat × Nat)) (row first last : Nat) : Prop :=
  IsRun (fun col => (row, col) ∈ positions) first last

/-- A range starts where a span of a row is no span of the row above. -/
def StartsRange (positions : List (Nat × Nat)) (position : Nat × Nat) : Prop :=
  ∃ last, Spans positions position.1 position.2 last ∧
    ∀ row, row + 1 = position.1 → ¬Spans positions row position.2 last

theorem Spans.first_mem {row first last : Nat} (h : Spans positions row first last) :
    (row, first) ∈ positions := h.mem first (Nat.le_refl first) h.le

theorem mem_spans {row first last : Nat} :
    (toLex (first, last), row) ∈ (rowColumns positions).flatMap (fun (row, cols) =>
        (runs cols).map fun span => (toLex span, row)) ↔
      Spans positions row first last := by
  have hrow {cols : List Nat} (h : (row, cols) ∈ grouped positions) :
      (first, last) ∈ runs (ascending cols) ↔ Spans positions row first last := by
    rw [mem_runs (ascending_sorted cols)]
    have hsame : (· ∈ ascending cols) = fun col => (row, col) ∈ positions := by
      ext col
      rw [mem_ascending, mem_grouped h]
    rw [hsame]
    rfl
  constructor
  · intro h
    obtain ⟨⟨row', cols⟩, hcols, hspan⟩ := List.mem_flatMap.mp h
    obtain ⟨⟨row'', cols'⟩, hgroup, heq⟩ := List.mem_map.mp hcols
    obtain ⟨rfl, rfl⟩ := Prod.mk.inj heq
    obtain ⟨span, hrun, heq⟩ := List.mem_map.mp hspan
    obtain ⟨hlex, rfl⟩ := Prod.mk.inj heq
    obtain rfl := toLex_inj.mp hlex
    exact (hrow hgroup).mp hrun
  · intro h
    obtain ⟨cols, hgroup⟩ := exists_grouped h.first_mem
    refine List.mem_flatMap.mpr ⟨(row, ascending cols), List.mem_map.mpr ⟨_, hgroup, rfl⟩, ?_⟩
    exact List.mem_map.mpr ⟨_, (hrow hgroup).mpr h, rfl⟩

/-- The ranges are the runs of rows that have one and the same span. -/
theorem mem_columnRanges {range : CellRange} : range ∈ columnRanges positions ↔
    IsRun (fun row => Spans positions row range.startCol range.endCol) range.startRow
      range.endRow := by
  have hspan {rows : List Nat}
      (h : (toLex (range.startCol, range.endCol), rows) ∈ spansByCols positions) :
      (range.startRow, range.endRow) ∈ runs (ascending rows) ↔
        IsRun (fun row => Spans positions row range.startCol range.endCol) range.startRow
          range.endRow := by
    rw [mem_runs (ascending_sorted rows)]
    have hsame : (· ∈ ascending rows) =
        fun row => Spans positions row range.startCol range.endCol := by
      ext row
      rw [mem_ascending, mem_grouped h, mem_spans]
    rw [hsame]
  constructor
  · intro h
    obtain ⟨⟨span, rows⟩, hrows, hrange⟩ := List.mem_flatMap.mp h
    obtain ⟨run, hrun, rfl⟩ := List.mem_map.mp hrange
    exact (hspan hrows).mp hrun
  · intro h
    obtain ⟨rows, hgroup⟩ := exists_grouped
      (mem_spans.mpr (h.mem range.startRow (Nat.le_refl _) h.le))
    exact List.mem_flatMap.mpr ⟨_, hgroup, List.mem_map.mpr ⟨_, (hspan hgroup).mpr h, rfl⟩⟩

theorem nodup_columnRanges : (columnRanges positions).Nodup := by
  unfold columnRanges
  rw [List.nodup_flatMap]
  constructor
  · intro group _
    apply (nodup_runs (ascending_sorted _)).map
    intro run run' h
    injection h with _ _ hfirst hlast
    exact Prod.ext hfirst hlast
  · refine (List.pairwise_map.mp (nodup_grouped _)).imp fun hne range h h' => ?_
    obtain ⟨_, _, rfl⟩ := List.mem_map.mp h
    obtain ⟨_, _, heq⟩ := List.mem_map.mp h'
    injection heq with hfirst hlast _ _
    exact hne (Prod.ext hfirst.symm hlast.symm)

theorem columnRanges_eq {range range' : CellRange} (h : range ∈ columnRanges positions)
    (h' : range' ∈ columnRanges positions) {position : Nat × Nat} (hhas : range.Has position)
    (hhas' : range'.Has position) : range = range' := by
  have hrun := mem_columnRanges.mp h
  have hrun' := mem_columnRanges.mp h'
  obtain ⟨startCol, endCol, startRow, endRow⟩ := range
  obtain ⟨startCol', endCol', startRow', endRow'⟩ := range'
  obtain ⟨rfl, rfl⟩ := (hrun.mem _ hhas.1.1 hhas.1.2).eq_of_meet
    (hrun'.mem _ hhas'.1.1 hhas'.1.2) hhas.2 hhas'.2
  obtain ⟨rfl, rfl⟩ := hrun.eq_of_meet hrun' hhas.1 hhas'.1
  rfl

theorem mem_of_has {range : CellRange} (h : range ∈ columnRanges positions)
    {position : Nat × Nat} (hhas : range.Has position) : position ∈ positions :=
  ((mem_columnRanges.mp h).mem _ hhas.1.1 hhas.1.2).mem _ hhas.2.1 hhas.2.2

theorem rows_finite {first last row : Nat} (h : Spans positions row first last) :
    row ∈ positions.map Prod.fst := List.mem_map.mpr ⟨_, h.first_mem, rfl⟩

theorem exists_columnRange {position : Nat × Nat} (h : position ∈ positions) :
    ∃ range ∈ columnRanges positions, range.Has position := by
  obtain ⟨startCol, endCol, hspan, hcol⟩ := @exists_isRun (fun col => (position.1, col) ∈ positions)
    (positions.map Prod.snd) (fun col h => List.mem_map.mpr ⟨_, h, rfl⟩) position.2 h
  obtain ⟨startRow, endRow, hrun, hrow⟩ := @exists_isRun
    (fun row => Spans positions row startCol endCol) (positions.map Prod.fst)
    (fun _ => rows_finite) position.1 hspan
  exact ⟨⟨startCol, endCol, startRow, endRow⟩, mem_columnRanges.mpr hrun, hrow, hcol⟩

theorem foldl_pushRange (ranges : List CellRange) {out : Compression}
    (hopen : out.truncated = false) (hroom : out.ranges = [] ∨ out.ranges.length < limit) :
    let pushed := ranges.foldl (pushRange limit) out
    (pushed.truncated = true ↔ ranges ≠ [] ∧ limit ≤ (out.ranges ++ ranges).length) ∧
      (if pushed.truncated then pushed.ranges.take limit else pushed.ranges) =
        if pushed.truncated then (out.ranges ++ ranges).take limit else out.ranges ++ ranges := by
  induction ranges generalizing out with
  | nil =>
    dsimp only [List.foldl_nil]
    rw [hopen, List.append_nil]
    simp
  | cons range rest ih =>
    have hpush : pushRange limit out range =
        ⟨out.ranges ++ [range], limit ≤ (out.ranges ++ [range]).length⟩ := by
      unfold pushRange
      rw [hopen]
      rfl
    have happend : out.ranges ++ range :: rest = out.ranges ++ [range] ++ rest := by simp
    rw [List.foldl_cons, hpush, happend]
    by_cases hfull : limit ≤ (out.ranges ++ [range]).length
    · have hkept : rest.foldl (pushRange limit) ⟨out.ranges ++ [range], true⟩ =
          ⟨out.ranges ++ [range], true⟩ := List.foldl_fixed' (fun _ => rfl) rest
      rw [decide_eq_true hfull, hkept]
      refine ⟨⟨fun _ => ⟨by simp, ?_⟩, fun _ => rfl⟩, ?_⟩
      · rw [List.length_append]
        omega
      · exact (List.take_append_of_le_length hfull).symm
    · have hrest := @ih ⟨out.ranges ++ [range], false⟩ rfl (.inr (by dsimp only; omega))
      rw [decide_eq_false hfull]
      refine ⟨hrest.1.trans ?_, hrest.2⟩
      constructor
      · exact fun h => ⟨by simp, h.2⟩
      · intro h
        refine ⟨?_, h.2⟩
        rintro rfl
        rw [List.append_nil] at h
        exact hfull h.2

theorem compress_eq (hne : positions ≠ []) : compressPositionsToRanges positions limit =
    (((columnRanges positions).take limit).map formatRange,
      decide (limit ≤ (columnRanges positions).length)) := by
  have hsome : columnRanges positions ≠ [] := by
    obtain ⟨position, hposition⟩ := List.exists_mem_of_ne_nil _ hne
    obtain ⟨range, hrange, _⟩ := exists_columnRange hposition
    exact List.ne_nil_of_mem hrange
  obtain ⟨htruncated, hranges⟩ := @foldl_pushRange limit (columnRanges positions) {} rfl (.inl rfl)
  unfold compressPositionsToRanges
  rw [if_neg hne]
  dsimp only at htruncated hranges ⊢
  rw [hranges]
  rw [List.nil_append] at htruncated ⊢
  by_cases hfull : limit ≤ (columnRanges positions).length
  · rw [htruncated.mpr ⟨hsome, hfull⟩, decide_eq_true hfull]
    rfl
  · have hopen : ((columnRanges positions).foldl (pushRange limit) {}).truncated = false :=
      Bool.eq_false_iff.mpr fun h => hfull (htruncated.mp h).2
    rw [hopen, decide_eq_false hfull, List.take_of_length_le (by omega)]
    rfl

theorem length_columnRanges :
    Set.ncard {position | StartsRange positions position} = (columnRanges positions).length := by
  have hset : {position | StartsRange positions position} =
      ↑((columnRanges positions).map fun range => (range.startRow, range.startCol)).toFinset := by
    ext position
    rw [Set.mem_ofPred_eq, Finset.mem_coe, List.mem_toFinset, List.mem_map]
    constructor
    · intro h
      obtain ⟨last, hspan, habove⟩ := h
      obtain ⟨startRow, endRow, hrun, hrow⟩ := @exists_isRun
        (fun row => Spans positions row position.2 last) (positions.map Prod.fst)
        (fun _ => rows_finite) position.1 hspan
      have hstart : startRow = position.1 := by
        by_contra hne
        exact habove (position.1 - 1) (by omega) (hrun.mem _ (by omega) (by omega))
      exact ⟨⟨position.2, last, startRow, endRow⟩, mem_columnRanges.mpr hrun,
        Prod.ext hstart rfl⟩
    · intro h
      obtain ⟨range, hrange, rfl⟩ := h
      have hrun := mem_columnRanges.mp hrange
      exact ⟨range.endCol, hrun.mem _ (Nat.le_refl _) hrun.le, fun row hrow => hrun.below row hrow⟩
  have hcorner : ∀ range ∈ columnRanges positions, range.Has (range.startRow, range.startCol) := by
    intro range hrange
    have hrun := mem_columnRanges.mp hrange
    exact ⟨⟨Nat.le_refl _, hrun.le⟩, Nat.le_refl _, (hrun.mem _ (Nat.le_refl _) hrun.le).le⟩
  rw [hset, Set.ncard_coe_finset, List.toFinset_card_of_nodup, List.length_map]
  refine nodup_columnRanges.map_on fun range hrange range' hrange' h => ?_
  exact columnRanges_eq hrange hrange' (hcorner range hrange) (h ▸ hcorner range' hrange')

theorem denotes_columnRange {position : Nat × Nat} : position ∈ positions ↔
    ∃ text ∈ (columnRanges positions).map formatRange, Denotes text position := by
  simp only [List.mem_map, exists_exists_and_eq_and, denotes_formatRange]
  constructor
  · exact exists_columnRange
  · intro h
    obtain ⟨range, hrange, hhas⟩ := h
    exact mem_of_has hrange hhas

theorem columnRanges_apart : ((columnRanges positions).map formatRange).Pairwise fun a b =>
    ∀ position, Denotes a position → ¬Denotes b position := by
  rw [List.pairwise_map]
  refine nodup_columnRanges.imp_of_mem fun {range range'} hrange hrange' hne position hhas hhas' => ?_
  rw [denotes_formatRange] at hhas hhas'
  exact hne (columnRanges_eq hrange hrange' hhas hhas')

theorem compression_exact_iff (positions : List (Nat × Nat)) (limit : Nat) :
    ExactRanges positions limit (compressPositionsToRanges positions limit).1
        (compressPositionsToRanges positions limit).2 ↔
      Set.ncard {position | StartsRange positions position} ≠ limit ∨ positions = [] := by
  rw [length_columnRanges]
  by_cases hne : positions = []
  · subst hne
    refine iff_of_true ?_ (.inr rfl)
    exact ⟨.nil, by simp [compressPositionsToRanges], by simp [compressPositionsToRanges],
      by simp, by simp [compressPositionsToRanges]⟩
  · rw [compress_eq hne, or_iff_left hne]
    dsimp only
    constructor
    · intro hexact hlength
      obtain ⟨position, hposition, huncovered⟩ := hexact.cut.mp (decide_eq_true hlength.ge)
      rw [← hlength, List.take_length] at huncovered
      obtain ⟨text, htext, hdenotes⟩ := denotes_columnRange.mp hposition
      exact huncovered text htext hdenotes
    · intro hlength
      have hsublist : (((columnRanges positions).take limit).map formatRange).Sublist
          ((columnRanges positions).map formatRange) := (List.take_sublist _ _).map _
      have hcovers (hall : (columnRanges positions).length < limit) :
          ∀ position ∈ positions, ∃ text ∈ ((columnRanges positions).take limit).map formatRange,
            Denotes text position := by
        rw [List.take_of_length_le (Nat.le_of_lt hall)]
        exact fun position => denotes_columnRange.mp
      refine ⟨columnRanges_apart.sublist hsublist, ?_, ?_, ?_, ?_⟩
      · exact fun text htext position hdenotes =>
          denotes_columnRange.mpr ⟨text, hsublist.subset htext, hdenotes⟩
      · rw [List.length_map, List.length_take]
        omega
      · intro hopen
        exact hcovers (by simpa using hopen)
      · rw [decide_eq_true_eq]
        constructor
        · -- The first range that is cut off has a cell, and no range before it does.
          intro hfull
          have hlt : limit < (columnRanges positions).length := by omega
          have hsplit := List.take_append_drop limit ((columnRanges positions).map formatRange)
          rw [← List.map_take, List.drop_eq_getElem_cons (by rwa [List.length_map]),
            List.getElem_map] at hsplit
          have hrange := List.getElem_mem hlt
          have hrun := mem_columnRanges.mp hrange
          have hcorner : (columnRanges positions)[limit].Has ((columnRanges positions)[limit].startRow,
              (columnRanges positions)[limit].startCol) :=
            ⟨⟨Nat.le_refl _, hrun.le⟩, Nat.le_refl _, (hrun.mem _ (Nat.le_refl _) hrun.le).le⟩
          refine ⟨_, mem_of_has hrange hcorner, fun text htext hdenotes => ?_⟩
          have hapart := @columnRanges_apart positions
          rw [← hsplit, List.pairwise_append] at hapart
          exact hapart.2.2 text htext _ List.mem_cons_self _ hdenotes
            (denotes_formatRange.mpr hcorner)
        · intro h
          obtain ⟨position, hposition, huncovered⟩ := h
          by_contra hopen
          obtain ⟨text, htext, hdenotes⟩ := hcovers (by omega) position hposition
          exact huncovered text htext hdenotes

end Ranges

/-- One cell in one range, reported as cut off. -/
theorem full_not_exact : ¬ExactRanges [(1, 1)] 1 (compressPositionsToRanges [(1, 1)] 1).1
    (compressPositionsToRanges [(1, 1)] 1).2 := by
  have hout : compressPositionsToRanges [(1, 1)] 1 = ([formatRange ⟨1, 1, 1, 1⟩], true) := by
    decide
  rw [hout]
  intro h
  obtain ⟨position, hposition, huncovered⟩ := h.cut.mp rfl
  obtain rfl := List.mem_singleton.mp hposition
  refine huncovered _ List.mem_cons_self (denotes_formatRange.mpr ?_)
  exact ⟨⟨Nat.le_refl 1, Nat.le_refl 1⟩, Nat.le_refl 1, Nat.le_refl 1⟩

end AgentSpreadsheet.Styles
