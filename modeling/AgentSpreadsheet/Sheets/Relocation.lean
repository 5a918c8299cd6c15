import AgentSpreadsheet.Sheets.References
import Mathlib.Data.List.TakeWhile

/-! What relocation does to a reference, piece by piece, against the image of its cells.
A deleted single cell leaves its other coordinate behind, and a range given from its far
end is dropped as soon as one of its ends is deleted. -/
namespace AgentSpreadsheet.Sheets
open Library

/-! ### Lines -/

def StructureEdit.lineAt (axis : StructureAxis) : StructureEdit → Nat → Nat
  | insert before count, line => shifted axis before count line
  | delete start count, line => if line < start then line else line - count

section Lines
variable {axis : StructureAxis} {edit : StructureEdit} {before count start line a b x y : Nat}

theorem maxValue_le (axis : StructureAxis) : axis.maxValue ≤ 1048576 := by
  cases axis <;> decide

theorem adjustInsertBounded_eq (hcount : count ≤ axis.maxValue) (hline : line ≤ axis.maxValue) :
    adjustInsertBounded line before count axis.maxValue =
      StructureEdit.shifted axis before count line := by
  have hmax := maxValue_le axis
  unfold adjustInsertBounded adjustInsert saturatingAdd StructureEdit.shifted
  split <;> omega

theorem deletedEnd_eq (hcount : 1 ≤ count) (hend : start + count ≤ axis.maxValue + 1) :
    deletedEnd start count = start + count - 1 := by
  have hmax := maxValue_le axis
  unfold deletedEnd saturatingAdd
  omega

theorem adjustDelete_eq (hcount : 1 ≤ count) (hend : start + count ≤ axis.maxValue + 1) :
    adjustDelete line start count =
      if start ≤ line ∧ line < start + count then none
      else some (if line < start then line else line - count) := by
  unfold adjustDelete
  rw [deletedEnd_eq hcount hend]
  by_cases htaken : start ≤ line ∧ line < start + count
  · rw [if_pos (by omega), if_pos htaken]
  · rw [if_neg (by omega), if_neg htaken]
    by_cases hbefore : line < start
    · rw [if_neg (by omega), if_pos hbefore]
    · rw [if_pos (by omega), if_neg hbefore]

theorem transformA1Scalar_taken (hedit : edit.Inside axis) (h : edit.Takes line) :
    transformA1Scalar (some line) axis edit = none := by
  cases edit with
  | insert before count => exact h.elim
  | delete start count =>
    change adjustDelete line start count = none
    rw [adjustDelete_eq hedit.1.2 hedit.2]
    exact if_pos h

theorem transformA1Scalar_kept (hedit : edit.Inside axis) (hline : InGrid axis line)
    (h : ¬edit.Takes line) :
    transformA1Scalar (some line) axis edit = some (edit.lineAt axis line) := by
  cases edit with
  | insert before count =>
    change some (adjustInsertBounded line before count axis.maxValue) = _
    rw [adjustInsertBounded_eq hedit.2.2 hline.2]
    rfl
  | delete start count =>
    change adjustDelete line start count = _
    rw [adjustDelete_eq hedit.1.2 hedit.2]
    exact if_neg h

theorem lineAt_inGrid (hedit : edit.Inside axis) (hline : InGrid axis line)
    (h : ¬edit.Takes line) : InGrid axis (edit.lineAt axis line) := by
  unfold InGrid at hline ⊢
  cases edit with
  | insert before count =>
    simp only [StructureEdit.lineAt, StructureEdit.shifted]
    split <;> omega
  | delete start count =>
    simp only [StructureEdit.Inside] at hedit
    simp only [StructureEdit.Takes] at h
    simp only [StructureEdit.lineAt]
    split <;> omega

theorem lineAt_le (ha : ¬edit.Takes a) (hb : ¬edit.Takes b) (hab : a ≤ b) :
    edit.lineAt axis a ≤ edit.lineAt axis b := by
  cases edit with
  | insert before count =>
    simp only [StructureEdit.lineAt, StructureEdit.shifted]
    split <;> split <;> omega
  | delete start count =>
    simp only [StructureEdit.Takes] at ha hb
    simp only [StructureEdit.lineAt]
    split <;> split <;> omega

theorem mem_image_delete (hcount : 1 ≤ count) :
    line ∈ (StructureEdit.delete start count).image axis a b ↔
      (line < start ∧ a ≤ line ∧ line ≤ b) ∨
        (start ≤ line ∧ a ≤ line + count ∧ line + count ≤ b) := by
  simp only [StructureEdit.image, Set.mem_ofPred_eq]
  constructor
  · rintro ⟨old, hold, hkept, rfl⟩
    split <;> omega
  · rintro (hline | hline)
    · exact ⟨line, by omega, by omega, (if_pos hline.1).symm⟩
    · refine ⟨line + count, by omega, by omega, ?_⟩
      rw [if_neg (by omega)]
      omega

/-- Between two surviving lines everything survives, renumbered, or is inserted. -/
theorem mem_image_kept (hedit : edit.Inside axis) (ha : ¬edit.Takes a) (hb : ¬edit.Takes b) :
    line ∈ edit.image axis a b ↔ edit.lineAt axis a ≤ line ∧ line ≤ edit.lineAt axis b := by
  cases edit with
  | insert before count => exact Iff.rfl
  | delete start count =>
    simp only [StructureEdit.Inside] at hedit
    simp only [StructureEdit.Takes] at ha hb
    simp only [mem_image_delete hedit.1.2, StructureEdit.lineAt]
    split <;> split <;> omega

/-- The ends given for what becomes of the lines between two others are right. -/
def Covers (axis : StructureAxis) (edit : StructureEdit) (a b : Nat) :
    Option (Nat × Nat) → Prop
  | none => ∀ line, line ∉ edit.image axis (min a b) (max a b)
  | some (x, y) => (InGrid axis x ∧ InGrid axis y) ∧
      ∀ line, line ∈ edit.image axis (min a b) (max a b) ↔ min x y ≤ line ∧ line ≤ max x y

/-- An ascending interval is moved right, whatever of it is deleted. -/
theorem transformA1Interval_covers (hedit : edit.Inside axis) (ha : InGrid axis a)
    (hb : InGrid axis b) (hab : a ≤ b) :
    Covers axis edit a b (transformA1Interval a b axis edit) := by
  unfold Covers
  rw [min_eq_left hab, max_eq_right hab]
  cases edit with
  | insert before count =>
    have hle := @lineAt_le axis (.insert before count) a b id id hab
    simp only [transformA1Interval, adjustInsertBounded_eq hedit.2.2 ha.2,
      adjustInsertBounded_eq hedit.2.2 hb.2]
    refine ⟨⟨lineAt_inGrid hedit ha id, lineAt_inGrid hedit hb id⟩, fun line => ?_⟩
    have hkept := @mem_image_kept axis (.insert before count) line a b hedit id id
    simp only [StructureEdit.lineAt] at hle hkept
    rw [min_eq_left hle, max_eq_right hle]
    exact hkept
  | delete start count =>
    unfold InGrid at *
    simp only [StructureEdit.Inside] at hedit
    simp only [transformA1Interval, deletedEnd_eq hedit.1.2 hedit.2, mem_image_delete hedit.1.2]
    by_cases hbefore : b < start
    · rw [if_pos hbefore]
      exact ⟨⟨ha, hb⟩, fun line => by omega⟩
    rw [if_neg hbefore]
    by_cases hafter : start + count - 1 < a
    · rw [if_pos hafter]
      exact ⟨by omega, fun line => by omega⟩
    rw [if_neg hafter]
    by_cases hfirst : a < start <;> by_cases hlast : start + count - 1 < b
    all_goals simp only [hfirst, hlast, decide_true, decide_false]
    · exact ⟨by omega, fun line => by omega⟩
    · exact ⟨by omega, fun line => by omega⟩
    · exact ⟨by omega, fun line => by omega⟩
    · intro line
      omega

def movedEnds (axis : StructureAxis) (edit : StructureEdit) (a b : Nat) : Option (Nat × Nat) :=
  if a ≤ b then transformA1Interval a b axis edit
  else
    match transformA1Scalar (some a) axis edit, transformA1Scalar (some b) axis edit with
    | some x, some y => some (x, y)
    | _, _ => none

theorem movedEnds_covers (hedit : edit.Inside axis) (ha : InGrid axis a) (hb : InGrid axis b)
    (hkept : b < a → ¬(edit.Takes a ∨ edit.Takes b)) :
    Covers axis edit a b (movedEnds axis edit a b) := by
  unfold movedEnds
  by_cases hab : a ≤ b
  · rw [if_pos hab]
    exact transformA1Interval_covers hedit ha hb hab
  · have hba : b < a := by omega
    have hends := hkept hba
    rw [not_or] at hends
    rw [if_neg hab, transformA1Scalar_kept hedit ha hends.1, transformA1Scalar_kept hedit hb hends.2]
    unfold Covers
    refine ⟨⟨lineAt_inGrid hedit ha hends.1, lineAt_inGrid hedit hb hends.2⟩, fun line => ?_⟩
    have hle := @lineAt_le axis edit b a hends.2 hends.1 hba.le
    rw [min_eq_right hba.le, max_eq_left hba.le, min_eq_right hle, max_eq_left hle]
    exact mem_image_kept hedit hends.2 hends.1

theorem movedEnds_lost (hedit : edit.Inside axis) (hba : b < a)
    (htaken : edit.Takes a ∨ edit.Takes b) : movedEnds axis edit a b = none := by
  unfold movedEnds
  rw [if_neg (by omega)]
  rcases htaken with h | h
  · rw [transformA1Scalar_taken hedit h]
  · rw [transformA1Scalar_taken hedit h]
    cases transformA1Scalar (some a) axis edit <;> rfl

end Lines
/-! ### Texts -/

namespace Corner

def segment (corner : Corner) : A1RefSegment where
  col := corner.col.map Prod.fst
  row := corner.row.map Prod.fst
  colLock := (corner.col.map Prod.snd).getD false
  rowLock := (corner.row.map Prod.snd).getD false

/-- The corner with another line on the axis, if any; the lock stays. -/
def withLine (corner : Corner) (axis : StructureAxis) (line : Option Nat) : Corner :=
  match axis with
  | .row => { corner with row := line.bind fun value => corner.row.map fun c => (value, c.2) }
  | .col => { corner with col := line.bind fun value => corner.col.map fun c => (value, c.2) }

end Corner

def A1Piece.moved (axis : StructureAxis) (edit : StructureEdit) : A1Piece → Option A1Piece
  | single cell =>
    match cell.coordinate axis with
    | none => some (single cell)
    | some (line, _) =>
      let out := cell.withLine axis (transformA1Scalar (some line) axis edit)
      if out.col = none ∧ out.row = none then none else some (single out)
  | range first last =>
    match first.coordinate axis, last.coordinate axis with
    | some (a, _), some (b, _) => (movedEnds axis edit a b).map fun ends =>
        range (first.withLine axis (some ends.1)) (last.withLine axis (some ends.2))
    | _, _ => some (range first last)

section Texts
variable {helper : CoordinateHelper} {axis : StructureAxis} {edit : StructureEdit}
  {corner first last : Corner} {line : Nat} {lock : Bool}

theorem Corner.segment_value : corner.segment.value axis = (corner.coordinate axis).map Prod.fst := by
  cases axis <;> rfl

theorem parse_text (hlaw : helper.Lawful) (h : corner.Inside) :
    parseA1RefSegment helper (corner.text helper) = .ok corner.segment := by
  have hpresent := h.present
  unfold parseA1RefSegment
  rw [hlaw.index corner h]
  simp only [check_bind_eq_ok, ensure_eq_ok, pure_eq_ok]
  refine ⟨?_, rfl⟩
  simpa only [Option.map_eq_none_iff] using hpresent

theorem format_segment (h : ¬(corner.col = none ∧ corner.row = none)) :
    formatA1RefSegment helper corner.segment = .ok (corner.text helper) := by
  obtain ⟨col, row⟩ := corner
  cases col with
  | none =>
    cases row with
    | none => exact absurd ⟨rfl, rfl⟩ h
    | some row => rfl
  | some col => cases row <;> rfl

/-- The line of a segment is set as that of its corner; a lock without a line is not written. -/
theorem format_setValue {value : Option Nat} (hline : corner.coordinate axis = some (line, lock))
    (h : ¬((corner.withLine axis value).col = none ∧ (corner.withLine axis value).row = none)) :
    formatA1RefSegment helper (corner.segment.setValue axis value) =
      .ok ((corner.withLine axis value).text helper) := by
  obtain ⟨col, row⟩ := corner
  cases axis with
  | row =>
    obtain rfl : row = some (line, lock) := hline
    cases value with
    | some value => cases col <;> rfl
    | none =>
      cases col with
      | none => exact absurd ⟨rfl, rfl⟩ h
      | some col => rfl
  | col =>
    obtain rfl : col = some (line, lock) := hline
    cases value with
    | some value => cases row <;> rfl
    | none =>
      cases row with
      | none => exact absurd ⟨rfl, rfl⟩ h
      | some row => rfl

theorem withLine_present (hline : corner.coordinate axis = some (line, lock)) (value : Nat) :
    ¬((corner.withLine axis (some value)).col = none ∧
      (corner.withLine axis (some value)).row = none) := by
  obtain ⟨col, row⟩ := corner
  cases axis with
  | row =>
    obtain rfl : row = some (line, lock) := hline
    exact fun h => nomatch h.2
  | col =>
    obtain rfl : col = some (line, lock) := hline
    exact fun h => nomatch h.1

theorem corner_noColon (hlaw : helper.Lawful) (h : corner.Inside) :
    ':' ∉ (corner.text helper).toList :=
  fun hmem => (hlaw.plain corner h _ hmem).2.1 rfl

theorem splitOnce_range (hlaw : helper.Lawful) (h : first.Inside) :
    splitOnce ':' ((A1Piece.range first last).text helper) =
      some (first.text helper, last.text helper) :=
  splitOnce_append (corner_noColon hlaw h)

theorem splitOnce_single (hlaw : helper.Lawful) (h : corner.Inside) :
    splitOnce ':' ((A1Piece.single corner).text helper) = none :=
  splitOnce_none (corner_noColon hlaw h)

theorem setValue_none (hline : corner.coordinate axis = some (line, lock)) (value : Option Nat) :
    ((corner.segment.setValue axis value).col = none ∧
        (corner.segment.setValue axis value).row = none) ↔
      (corner.withLine axis value).col = none ∧ (corner.withLine axis value).row = none := by
  obtain ⟨col, row⟩ := corner
  cases axis with
  | row =>
    obtain rfl : row = some (line, lock) := hline
    cases value <;> simp [Corner.segment, Corner.withLine, A1RefSegment.setValue]
  | col =>
    obtain rfl : col = some (line, lock) := hline
    cases value <;> simp [Corner.segment, Corner.withLine, A1RefSegment.setValue]

theorem moved_single_text (hline : corner.coordinate axis = some (line, lock)) :
    transformCellText helper axis edit corner.segment =
      .ok (((A1Piece.single corner).moved axis edit).map (A1Piece.text helper)) := by
  have hvalue : corner.segment.value axis = some line := by
    rw [Corner.segment_value, hline]
    rfl
  unfold transformCellText
  simp only [A1Piece.moved, hline, hvalue]
  by_cases hnone : (corner.withLine axis (transformA1Scalar (some line) axis edit)).col = none ∧
      (corner.withLine axis (transformA1Scalar (some line) axis edit)).row = none
  · rw [if_pos ((setValue_none hline _).mpr hnone), if_pos hnone]
    rfl
  · rw [if_neg fun h => hnone ((setValue_none hline _).mp h), if_neg hnone,
      format_setValue hline hnone]
    rfl

theorem transformSegments_eq {b : Nat} {lock' : Bool}
    (hfirst : first.coordinate axis = some (line, lock))
    (hlast : last.coordinate axis = some (b, lock')) :
    transformSegments axis edit first.segment last.segment =
      (movedEnds axis edit line b).map fun ends =>
        (first.segment.setValue axis (some ends.1), last.segment.setValue axis (some ends.2)) := by
  have hfirst' : first.segment.value axis = some line := by
    rw [Corner.segment_value, hfirst]
    rfl
  have hlast' : last.segment.value axis = some b := by
    rw [Corner.segment_value, hlast]
    rfl
  unfold transformSegments movedEnds transformEnds
  simp only [hfirst', hlast']
  split
  · rfl
  · cases transformA1Scalar (some line) axis edit with
    | none => rfl
    | some x => cases transformA1Scalar (some b) axis edit <;> rfl

theorem moved_range_text (hfirst : first.Inside) (hlast : last.Inside)
    (hsame : (first.coordinate axis).isSome = (last.coordinate axis).isSome) :
    transformRangeText helper axis edit first.segment last.segment =
      .ok (((A1Piece.range first last).moved axis edit).map (A1Piece.text helper)) := by
  unfold transformRangeText
  simp only [A1Piece.moved]
  cases ha : first.coordinate axis with
  | none =>
    cases hb : last.coordinate axis with
    | some b =>
      rw [ha, hb] at hsame
      contradiction
    | none =>
      have hsegments : transformSegments axis edit first.segment last.segment =
          some (first.segment, last.segment) := by
        unfold transformSegments
        simp only [Corner.segment_value, ha, hb, Option.map_none]
      rw [hsegments]
      simp only [format_segment hfirst.present, format_segment hlast.present]
      rfl
  | some a =>
    cases hb : last.coordinate axis with
    | none =>
      rw [ha, hb] at hsame
      contradiction
    | some b =>
      rw [transformSegments_eq ha hb]
      dsimp only
      cases movedEnds axis edit a.1 b.1 with
      | none => rfl
      | some ends =>
        simp only [Option.map_some, format_setValue ha (withLine_present ha _),
          format_setValue hb (withLine_present hb _)]
        rfl

theorem transformA1RangePiece_text (hlaw : helper.Lawful) {piece : A1Piece} (h : piece.Valid) :
    transformA1RangePiece helper axis edit (piece.text helper) =
      .ok ((piece.moved axis edit).map (A1Piece.text helper)) := by
  unfold transformA1RangePiece
  cases piece with
  | single cell =>
    obtain ⟨hinside, hcol, hrow⟩ := h
    have hline : ∃ line lock, cell.coordinate axis = some (line, lock) := by
      cases axis with
      | row =>
        obtain ⟨⟨line, lock⟩, hline⟩ := Option.isSome_iff_exists.mp hrow
        exact ⟨line, lock, hline⟩
      | col =>
        obtain ⟨⟨line, lock⟩, hline⟩ := Option.isSome_iff_exists.mp hcol
        exact ⟨line, lock, hline⟩
    obtain ⟨line, lock, hline⟩ := hline
    rw [splitOnce_single hlaw hinside]
    change (parseA1RefSegment helper (cell.text helper) >>= _) = _
    rw [parse_text hlaw hinside]
    exact moved_single_text hline
  | range first last =>
    obtain ⟨⟨hfirst, hlast⟩, hsame⟩ := h
    rw [splitOnce_range hlaw hfirst]
    change (parseA1RefSegment helper (first.text helper) >>= _) = _
    rw [parse_text hlaw hfirst]
    change (parseA1RefSegment helper (last.text helper) >>= _) = _
    rw [parse_text hlaw hlast]
    exact moved_range_text hfirst hlast (hsame axis)

/-- The pieces of a reference that are left, moved. -/
def movedPieces (axis : StructureAxis) (edit : StructureEdit) (pieces : List A1Piece) :
    List A1Piece :=
  pieces.filterMap (A1Piece.moved axis edit)

theorem piece_plain (hlaw : helper.Lawful) {piece : A1Piece} (h : piece.Readable) :
    ∀ c ∈ (piece.text helper).toList, c ≠ ',' ∧ c ≠ '#' := by
  intro c hc
  cases piece with
  | single cell => exact ⟨(hlaw.plain cell h c hc).1, (hlaw.plain cell h c hc).2.2⟩
  | range first last =>
    have hmem : c ∈ (first.text helper).toList ∨ c = ':' ∨ c ∈ (last.text helper).toList := by
      simpa [A1Piece.text] using hc
    rcases hmem with hmem | rfl | hmem
    · exact ⟨(hlaw.plain first h.1 c hmem).1, (hlaw.plain first h.1 c hmem).2.2⟩
    · decide
    · exact ⟨(hlaw.plain last h.2 c hmem).1, (hlaw.plain last h.2 c hmem).2.2⟩

theorem referenceText_toList (pieces : List A1Piece) :
    (referenceText helper pieces).toList =
      [','].intercalate (pieces.map fun piece => (piece.text helper).toList) := by
  unfold referenceText joinPieces
  rw [String.toList_intercalate, List.map_map]
  rfl

theorem splitOn_referenceText (hlaw : helper.Lawful) {pieces : List A1Piece}
    (hne : pieces ≠ []) (h : ∀ piece ∈ pieces, piece.Readable) :
    ((referenceText helper pieces).toList.splitOn ',').map String.ofList =
      pieces.map (A1Piece.text helper) := by
  rw [referenceText_toList, List.splitOn_intercalate]
  · simp [List.map_map, Function.comp_def]
  · intro text htext hcomma
    obtain ⟨piece, hpiece, rfl⟩ := List.mem_map.mp htext
    exact (piece_plain hlaw (h piece hpiece) _ hcomma).1 rfl
  · simpa using hne

theorem mem_joined {c : Char} (hc : c ≠ ',') : ∀ texts : List (List Char),
    (∀ text ∈ texts, c ∉ text) → c ∉ [','].intercalate texts
  | [], _ => List.not_mem_nil
  | [text], h => by
    rw [List.intercalate_singleton]
    exact h text (List.mem_singleton.mpr rfl)
  | text :: next :: rest, h => by
    have htext := h text List.mem_cons_self
    have hrest := mem_joined hc (next :: rest) fun other hother =>
      h other (List.mem_cons_of_mem _ hother)
    rw [List.intercalate_cons_of_ne_nil (List.cons_ne_nil next rest)]
    intro hmem
    rcases List.mem_append.mp hmem with hmem | hmem
    · rcases List.mem_append.mp hmem with hmem | hmem
      · exact htext hmem
      · exact hc (List.mem_singleton.mp hmem)
    · exact hrest hmem

theorem referenceText_plain (hlaw : helper.Lawful) {pieces : List A1Piece}
    (h : ∀ piece ∈ pieces, piece.Readable) : '#' ∉ (referenceText helper pieces).toList := by
  rw [referenceText_toList]
  apply mem_joined (by decide)
  intro text htext hmem
  obtain ⟨piece, hpiece, rfl⟩ := List.mem_map.mp htext
  exact (piece_plain hlaw (h piece hpiece) _ hmem).2 rfl

theorem A1Piece.Valid.readable {piece : A1Piece} (h : piece.Valid) : piece.Readable := by
  cases piece with
  | single cell => exact h.1
  | range first last => exact h.1

theorem mapM_pieces (hlaw : helper.Lawful) : ∀ pieces : List A1Piece,
    (∀ piece ∈ pieces, piece.Valid) →
      (pieces.map (A1Piece.text helper)).mapM (transformA1RangePiece helper axis edit) =
        .ok (pieces.map fun piece => (piece.moved axis edit).map (A1Piece.text helper))
  | [], _ => rfl
  | piece :: rest, h => by
    have hrest := mapM_pieces hlaw rest fun other hother => h other (List.mem_cons_of_mem _ hother)
    rw [List.map_cons, List.mapM_cons, transformA1RangePiece_text hlaw (h piece List.mem_cons_self),
      hrest]
    rfl

theorem transformA1Range_text (hlaw : helper.Lawful) {pieces : List A1Piece} (hne : pieces ≠ [])
    (h : ∀ piece ∈ pieces, piece.Valid) :
    transformA1Range helper axis edit (referenceText helper pieces) =
      .ok (if movedPieces axis edit pieces = [] then none
        else some (referenceText helper (movedPieces axis edit pieces))) := by
  have hreadable : ∀ piece ∈ pieces, piece.Readable := fun piece hpiece => (h piece hpiece).readable
  have hplain : referenceText helper pieces ≠ "#REF!" := by
    intro htext
    have hmem := referenceText_plain hlaw hreadable
    rw [htext] at hmem
    exact hmem (by decide)
  have hkept : (pieces.map fun piece => (piece.moved axis edit).map (A1Piece.text helper)).filterMap
      id = (movedPieces axis edit pieces).map (A1Piece.text helper) := by
    unfold movedPieces
    rw [List.filterMap_map, List.map_filterMap]
    rfl
  unfold transformA1Range
  rw [if_neg hplain, splitOn_referenceText hlaw hne hreadable, mapM_pieces hlaw pieces h]
  change Except.ok (if List.filterMap id _ = [] then none else some (joinPieces _)) = _
  rw [hkept]
  simp only [List.map_eq_nil_iff]
  rfl

/-! ### Reading a reference back -/

theorem corner_text_injective (hlaw : helper.Lawful) {other : Corner} (hfirst : corner.Inside)
    (hsecond : other.Inside) (h : corner.text helper = other.text helper) : corner = other := by
  have hindex := hlaw.index corner hfirst
  rw [h, hlaw.index other hsecond] at hindex
  obtain ⟨col, row⟩ := corner
  obtain ⟨col', row'⟩ := other
  simp only [Prod.mk.injEq] at hindex
  obtain ⟨hcol, hrow, hcolLock, hrowLock⟩ := hindex
  have hcols : col = col' := by
    cases col <;> cases col' <;> simp_all [Prod.ext_iff]
  have hrows : row = row' := by
    cases row <;> cases row' <;> simp_all [Prod.ext_iff]
  rw [hcols, hrows]

theorem piece_text_injective (hlaw : helper.Lawful) {piece other : A1Piece} (hfirst : piece.Readable)
    (hsecond : other.Readable) (h : piece.text helper = other.text helper) : piece = other := by
  have hsplit := congrArg (splitOnce ':') h
  cases piece with
  | single cell =>
    rw [splitOnce_single hlaw hfirst] at hsplit
    cases other with
    | single cell' => exact congrArg A1Piece.single (corner_text_injective hlaw hfirst hsecond h)
    | range first last =>
      rw [splitOnce_range hlaw hsecond.1] at hsplit
      contradiction
  | range first last =>
    rw [splitOnce_range hlaw hfirst.1] at hsplit
    cases other with
    | single cell =>
      rw [splitOnce_single hlaw hsecond] at hsplit
      contradiction
    | range first' last' =>
      rw [splitOnce_range hlaw hsecond.1] at hsplit
      injection hsplit with hsplit
      injection hsplit with hfirsts hlasts
      rw [corner_text_injective hlaw hfirst.1 hsecond.1 hfirsts,
        corner_text_injective hlaw hfirst.2 hsecond.2 hlasts]

theorem referenceText_injective (hlaw : helper.Lawful) {pieces others : List A1Piece}
    (hne : pieces ≠ []) (hne' : others ≠ []) (h : ∀ piece ∈ pieces, piece.Readable)
    (h' : ∀ piece ∈ others, piece.Readable)
    (htext : referenceText helper pieces = referenceText helper others) : pieces = others := by
  have htexts : pieces.map (A1Piece.text helper) = others.map (A1Piece.text helper) := by
    rw [← splitOn_referenceText hlaw hne h, ← splitOn_referenceText hlaw hne' h', htext]
  clear htext hne hne'
  induction pieces generalizing others with
  | nil =>
    cases others with
    | nil => rfl
    | cons other rest => contradiction
  | cons piece rest ih =>
    cases others with
    | nil => contradiction
    | cons other rest' =>
      injection htexts with hhead htail
      rw [piece_text_injective hlaw (h piece List.mem_cons_self) (h' other List.mem_cons_self) hhead,
        ih (fun p hp => h p (List.mem_cons_of_mem _ hp))
          (fun p hp => h' p (List.mem_cons_of_mem _ hp)) htail]

end Texts

/-! ### Cells -/

section Cells
variable {axis other : StructureAxis} {edit : StructureEdit} {corner first last : Corner}
  {line : Nat} {lock : Bool} {piece moved : A1Piece}

theorem coordinate_withLine (corner : Corner) (value : Option Nat) :
    (corner.withLine axis value).coordinate axis =
      value.bind fun line => (corner.coordinate axis).map fun c => (line, c.2) := by
  cases axis <;> rfl

theorem coordinate_withLine_other (hother : other ≠ axis) (value : Option Nat) :
    (corner.withLine axis value).coordinate other = corner.coordinate other := by
  cases axis <;> cases other
  · exact absurd rfl hother
  · rfl
  · rfl
  · exact absurd rfl hother

theorem inside_withLine {value : Option Nat} (h : corner.Inside)
    (hvalue : ∀ line, value = some line → InGrid axis line)
    (hpresent : ¬((corner.withLine axis value).col = none ∧
      (corner.withLine axis value).row = none)) : (corner.withLine axis value).Inside := by
  refine ⟨hpresent, fun other line lock hline => ?_⟩
  by_cases hother : other = axis
  · subst hother
    rw [coordinate_withLine, Option.bind_eq_some_iff] at hline
    obtain ⟨line', hsome, hline⟩ := hline
    obtain ⟨c, -, hc⟩ := Option.map_eq_some_iff.mp hline
    injection hc with hc _
    rw [← hc]
    exact hvalue line' hsome
  · rw [coordinate_withLine_other hother] at hline
    exact h.bounded other line lock hline

theorem sameCorner_withLine (hline : (corner.coordinate axis).isSome = true) (line : Nat) :
    A1Piece.SameCorner axis corner (corner.withLine axis (some line)) := by
  constructor
  · intro other hother
    exact coordinate_withLine_other hother _
  · rw [coordinate_withLine]
    obtain ⟨c, hc⟩ := Option.isSome_iff_exists.mp hline
    rw [hc]
    rfl

theorem Corner.Inside.inGrid (h : corner.Inside) (hline : corner.coordinate axis = some (line, lock)) :
    InGrid axis line := h.bounded axis line lock hline

theorem cells_eq_image (hother : ∀ other, other ≠ axis → moved.ends other = piece.ends other)
    (hnone : piece.ends axis = none → moved.ends axis = none)
    (hends : ∀ a b, piece.ends axis = some (a, b) →
      ∃ x y, moved.ends axis = some (x, y) ∧ Covers axis edit a b (some (x, y))) :
    moved.cells = piece.image axis edit := by
  ext cell
  apply forall_congr'
  intro other
  by_cases hsame : other = axis
  · subst hsame
    simp only [A1Piece.movedLines, if_true, A1Piece.lines, Set.mem_ofPred_eq]
    apply and_congr_right
    intro hgrid
    cases hpiece : piece.ends other with
    | none => simp [hnone hpiece]
    | some ab =>
      obtain ⟨a, b⟩ := ab
      obtain ⟨x, y, hmoved, -, hcovers⟩ := hends a b hpiece
      rw [hmoved]
      constructor
      · intro hline a' b' hends
        injection hends with hends
        injection hends with ha hb
        rw [← ha, ← hb]
        exact (hcovers _).mpr (hline x y rfl)
      · intro hline x' y' hends
        injection hends with hends
        injection hends with hx hy
        rw [← hx, ← hy]
        exact (hcovers _).mp (hline a b rfl)
  · simp only [A1Piece.movedLines, if_neg hsame, A1Piece.lines, hother other hsame]

theorem image_empty {a b : Nat} (hends : piece.ends axis = some (a, b))
    (hcovers : Covers axis edit a b none) : piece.image axis edit = ∅ := by
  rw [Set.eq_empty_iff_forall_notMem]
  intro cell hcell
  have hlines := hcell axis
  unfold A1Piece.movedLines at hlines
  rw [if_pos rfl] at hlines
  exact hcovers _ (hlines.2 a b hends)

theorem ends_withLine {x y : Nat} (hfirst : (first.coordinate axis).isSome = true)
    (hlast : (last.coordinate axis).isSome = true) :
    (A1Piece.range (first.withLine axis (some x)) (last.withLine axis (some y))).ends axis =
      some (x, y) := by
  obtain ⟨a, ha⟩ := Option.isSome_iff_exists.mp hfirst
  obtain ⟨b, hb⟩ := Option.isSome_iff_exists.mp hlast
  simp only [A1Piece.ends, coordinate_withLine, ha, hb, Option.bind_some, Option.map_some]

theorem ends_withLine_other {x y : Nat} (hother : other ≠ axis) :
    (A1Piece.range (first.withLine axis (some x)) (last.withLine axis (some y))).ends other =
      (A1Piece.range first last).ends other := by
  simp only [A1Piece.ends, coordinate_withLine_other hother]

theorem isSome_withLine (h : ∀ other, (first.coordinate other).isSome = (last.coordinate other).isSome)
    (x y : Nat) (other : StructureAxis) :
    ((first.withLine axis (some x)).coordinate other).isSome =
      ((last.withLine axis (some y)).coordinate other).isSome := by
  by_cases hother : other = axis
  · subst hother
    simp only [coordinate_withLine, Option.bind_some, Option.isSome_map, h other]
  · simp only [coordinate_withLine_other hother, h other]

/-- What a piece is moved to is right: it has the cells that are left, if there are any. -/
def MovedTo (axis : StructureAxis) (edit : StructureEdit) (piece : A1Piece) : Option A1Piece → Prop
  | none => piece.image axis edit = ∅
  | some moved => moved.Valid ∧ moved.cells = piece.image axis edit ∧ piece.SameOff axis moved

theorem coordinate_of_both (hcol : corner.col.isSome = true) (hrow : corner.row.isSome = true)
    (axis : StructureAxis) : ∃ line lock, corner.coordinate axis = some (line, lock) := by
  cases axis with
  | row =>
    obtain ⟨⟨line, lock⟩, hline⟩ := Option.isSome_iff_exists.mp hrow
    exact ⟨line, lock, hline⟩
  | col =>
    obtain ⟨⟨line, lock⟩, hline⟩ := Option.isSome_iff_exists.mp hcol
    exact ⟨line, lock, hline⟩

theorem withLine_both (hcol : corner.col.isSome = true) (hrow : corner.row.isSome = true) (line : Nat) :
    (corner.withLine axis (some line)).col.isSome = true ∧
      (corner.withLine axis (some line)).row.isSome = true := by
  cases axis with
  | row => exact ⟨hcol, by simpa [Corner.withLine] using hrow⟩
  | col => exact ⟨by simpa [Corner.withLine] using hcol, hrow⟩

theorem moved_single (hedit : edit.Inside axis) (hvalid : (A1Piece.single corner).Valid)
    (hkept : ¬(A1Piece.single corner).Removed axis edit) :
    MovedTo axis edit (.single corner) ((A1Piece.single corner).moved axis edit) := by
  obtain ⟨hinside, hcol, hrow⟩ := hvalid
  obtain ⟨line, lock, hline⟩ := coordinate_of_both hcol hrow axis
  have hgrid : InGrid axis line := hinside.inGrid hline
  have htakes : ¬edit.Takes line := fun h => hkept ⟨line, lock, hline, h⟩
  have hsome : (corner.coordinate axis).isSome = true := by
    rw [hline]
    rfl
  simp only [A1Piece.moved, hline, transformA1Scalar_kept hedit hgrid htakes]
  rw [if_neg (withLine_present hline _)]
  refine ⟨⟨inside_withLine hinside ?_ (withLine_present hline _), withLine_both hcol hrow _⟩, ?_,
    sameCorner_withLine hsome _⟩
  · intro value hvalue
    injection hvalue with hvalue
    rw [← hvalue]
    exact lineAt_inGrid hedit hgrid htakes
  · apply cells_eq_image
    · intro other hother
      simp only [A1Piece.ends, coordinate_withLine_other hother]
    · intro hnone
      rw [A1Piece.ends, hline] at hnone
      contradiction
    · intro a b hends
      rw [A1Piece.ends, hline] at hends
      injection hends with hends
      injection hends with ha hb
      subst ha
      subst hb
      refine ⟨_, _, by simp only [A1Piece.ends, coordinate_withLine, hline]; rfl,
        ⟨lineAt_inGrid hedit hgrid htakes, lineAt_inGrid hedit hgrid htakes⟩, fun line' => ?_⟩
      rw [min_self, max_self, min_self, max_self]
      exact mem_image_kept hedit htakes htakes

theorem moved_range (hedit : edit.Inside axis) (hvalid : (A1Piece.range first last).Valid)
    (hkept : ¬(A1Piece.range first last).Lost axis edit) :
    MovedTo axis edit (.range first last) ((A1Piece.range first last).moved axis edit) := by
  obtain ⟨⟨hfirst, hlast⟩, hsame⟩ := hvalid
  simp only [A1Piece.moved]
  cases ha : first.coordinate axis with
  | none =>
    have hb := hsame axis
    rw [ha] at hb
    have hnone : last.coordinate axis = none := Option.isSome_eq_false_iff.mp hb.symm |> Option.isNone_iff_eq_none.mp
    refine ⟨⟨⟨hfirst, hlast⟩, hsame⟩, ?_, ⟨fun _ _ => rfl, rfl⟩, fun _ _ => rfl, rfl⟩
    apply cells_eq_image (fun _ _ => rfl) id
    intro a b hends
    simp only [A1Piece.ends, ha] at hends
    contradiction
  | some a =>
    have hb := hsame axis
    rw [ha] at hb
    obtain ⟨b, hb⟩ := Option.isSome_iff_exists.mp hb.symm
    have hends : (A1Piece.range first last).ends axis = some (a.1, b.1) := by
      simp only [A1Piece.ends, ha, hb]
    have hcovers : Covers axis edit a.1 b.1 (movedEnds axis edit a.1 b.1) :=
      movedEnds_covers hedit (hfirst.inGrid ha) (hlast.inGrid hb) fun hba htakes =>
        hkept ⟨a.1, b.1, hends, hba, htakes⟩
    simp only [hb]
    cases hmoved : movedEnds axis edit a.1 b.1 with
    | none =>
      rw [hmoved] at hcovers
      exact image_empty hends hcovers
    | some xy =>
      obtain ⟨x, y⟩ := xy
      rw [hmoved] at hcovers
      have ha' : (first.coordinate axis).isSome = true := by
        rw [ha]
        rfl
      have hb' : (last.coordinate axis).isSome = true := by
        rw [hb]
        rfl
      have hx : ∀ value, some x = some value → InGrid axis value := by
        intro value hvalue
        injection hvalue with hvalue
        exact hvalue ▸ hcovers.1.1
      have hy : ∀ value, some y = some value → InGrid axis value := by
        intro value hvalue
        injection hvalue with hvalue
        exact hvalue ▸ hcovers.1.2
      refine ⟨⟨⟨inside_withLine hfirst hx (withLine_present ha _),
        inside_withLine hlast hy (withLine_present hb _)⟩, isSome_withLine hsame x y⟩, ?_,
        sameCorner_withLine ha' _, sameCorner_withLine hb' _⟩
      apply cells_eq_image
      · intro other hother
        exact ends_withLine_other hother
      · intro hnone
        rw [hends] at hnone
        contradiction
      · intro a' b' hends'
        rw [hends] at hends'
        injection hends' with hends'
        injection hends' with ha hb
        subst ha
        subst hb
        exact ⟨x, y, ends_withLine ha' hb', hcovers⟩

/-- A piece that is neither a deleted cell nor a range that loses an end is moved right. -/
theorem moved_exact (hedit : edit.Inside axis) (hvalid : piece.Valid)
    (hremoved : ¬piece.Removed axis edit) (hlost : ¬piece.Lost axis edit) :
    MovedTo axis edit piece (piece.moved axis edit) := by
  cases piece with
  | single cell => exact moved_single hedit hvalid hremoved
  | range first last => exact moved_range hedit hvalid hlost

end Cells

end AgentSpreadsheet.Sheets
