import AgentSpreadsheet.Sheets.Relocation
import AgentSpreadsheet.Sheets.Format
import AgentSpreadsheet.Library.Chars

/-! When relocation is exact: what it returns denotes the cells that are left, and nothing
is returned when none are. -/
namespace AgentSpreadsheet.Sheets
open Library

section Exact
variable {helper : CoordinateHelper} {axis : StructureAxis} {edit : StructureEdit}
  {piece moved : A1Piece} {pieces : List A1Piece}

theorem moved_lost (hedit : edit.Inside axis) (hlost : piece.Lost axis edit) :
    piece.moved axis edit = none := by
  obtain ⟨a, b, hends, hba, htakes⟩ := hlost
  cases piece with
  | single cell =>
    obtain ⟨c, -, hc⟩ := Option.map_eq_some_iff.mp hends
    injection hc with ha hb
    omega
  | range first last =>
    cases ha : first.coordinate axis with
    | none =>
      simp only [A1Piece.ends, ha] at hends
      contradiction
    | some a' =>
      cases hb : last.coordinate axis with
      | none =>
        simp only [A1Piece.ends, ha, hb] at hends
        contradiction
      | some b' =>
        simp only [A1Piece.ends, ha, hb] at hends
        injection hends with hends
        injection hends with haa hbb
        subst haa
        subst hbb
        simp only [A1Piece.moved, ha, hb, movedEnds_lost hedit hba htakes]
        rfl

theorem moved_removed (hedit : edit.Inside axis) (hvalid : piece.Valid)
    (hremoved : piece.Removed axis edit) :
    ∃ moved, piece.moved axis edit = some moved ∧ moved.Readable ∧ ¬moved.Valid := by
  cases piece with
  | range first last => exact hremoved.elim
  | single cell =>
    obtain ⟨line, lock, hline, htakes⟩ := hremoved
    obtain ⟨hinside, hcol, hrow⟩ := hvalid
    have hpresent : ¬((cell.withLine axis none).col = none ∧ (cell.withLine axis none).row = none) := by
      intro h
      cases axis with
      | row => exact Option.isSome_iff_ne_none.mp hcol h.1
      | col => exact Option.isSome_iff_ne_none.mp hrow h.2
    refine ⟨.single (cell.withLine axis none), ?_, inside_withLine hinside (by simp) hpresent, ?_⟩
    · simp only [A1Piece.moved, hline, transformA1Scalar_taken hedit htakes]
      exact if_neg hpresent
    · intro h
      obtain ⟨-, hcol', hrow'⟩ := h
      cases axis with
      | row => cases hrow'
      | col => cases hcol'

theorem moved_readable (hedit : edit.Inside axis) (hvalid : piece.Valid)
    (hmoved : piece.moved axis edit = some moved) : moved.Readable := by
  by_cases hremoved : piece.Removed axis edit
  · obtain ⟨other, hother, hreadable, -⟩ := moved_removed hedit hvalid hremoved
    rw [hmoved] at hother
    injection hother with hother
    exact hother ▸ hreadable
  · by_cases hlost : piece.Lost axis edit
    · rw [moved_lost hedit hlost] at hmoved
      contradiction
    · have hexact := moved_exact hedit hvalid hremoved hlost
      rw [hmoved] at hexact
      exact hexact.1.readable

theorem A1Piece.Valid.cells_nonempty (h : piece.Valid) : piece.cells.Nonempty := by
  have hline : ∀ axis, ∃ line, line ∈ piece.lines axis := by
    intro axis
    cases hends : piece.ends axis with
    | none =>
      refine ⟨1, ⟨le_refl 1, by cases axis <;> decide⟩, fun a b hab => ?_⟩
      rw [hends] at hab
      contradiction
    | some ab =>
      obtain ⟨a, b⟩ := ab
      have hgrid : InGrid axis a := by
        cases piece with
        | single cell =>
          obtain ⟨c, hc, heq⟩ := Option.map_eq_some_iff.mp hends
          injection heq with heq
          rw [← heq]
          exact h.1.inGrid hc
        | range first last =>
          simp only [A1Piece.ends] at hends
          split at hends
          · rename_i c d hc hd
            injection hends with hends
            injection hends with ha hb
            rw [← ha]
            exact h.1.1.inGrid hc
          · contradiction
      refine ⟨a, hgrid, fun a' b' hab => ?_⟩
      rw [hends] at hab
      injection hab with hab
      injection hab with ha hb
      omega
  choose cell hcell using hline
  exact ⟨cell, hcell⟩

/-- The text denotes the cells that are left of the reference. -/
structure RelocatedTo (helper : CoordinateHelper) (axis : StructureAxis) (edit : StructureEdit)
    (pieces out : List A1Piece) : Prop where
  result : transformA1Range helper axis edit (referenceText helper pieces) =
    .ok (if out = [] then none else some (referenceText helper out))
  valid : ∀ piece ∈ out, piece.Valid
  cells : referenceCells out = referenceImage axis edit pieces
  removed : out = [] ↔ referenceImage axis edit pieces = ∅
  formula : adjustRefCoordPart helper axis edit (referenceText helper pieces) = .ok "#REF!" ↔
    referenceImage axis edit pieces = ∅
  validation : relocateValidation helper axis edit [] [referenceText helper pieces] = .ok [] ↔
    referenceImage axis edit pieces = ∅
  off : ∃ kept : List A1Piece, kept.Sublist pieces ∧ List.Forall₂ (A1Piece.SameOff axis) kept out

def Relocated (helper : CoordinateHelper) (axis : StructureAxis) (edit : StructureEdit)
    (pieces : List A1Piece) : Prop :=
  ∃ out, RelocatedTo helper axis edit pieces out

/-- No cell of the reference is dropped: what is left of a dropped range is in the others. -/
def KeepsCells (axis : StructureAxis) (edit : StructureEdit) (pieces : List A1Piece) : Prop :=
  ∀ piece ∈ pieces, piece.Lost axis edit → piece.image axis edit ⊆
    ⋃ other ∈ pieces, ⋃ _ : ¬other.Lost axis edit, other.image axis edit

theorem mem_movedPieces : moved ∈ movedPieces axis edit pieces ↔
    ∃ piece ∈ pieces, piece.moved axis edit = some moved := List.mem_filterMap

theorem mem_referenceCells {cell : Cell} :
    cell ∈ referenceCells pieces ↔ ∃ piece ∈ pieces, cell ∈ piece.cells := by
  simp [referenceCells]

theorem mem_referenceImage {cell : Cell} :
    cell ∈ referenceImage axis edit pieces ↔ ∃ piece ∈ pieces, cell ∈ piece.image axis edit := by
  simp [referenceImage]

/-- The pieces that are left are exact when no deleted cell and no dropped range is among
the pieces. -/
theorem movedPieces_exact (hedit : edit.Inside axis) (hvalid : ∀ piece ∈ pieces, piece.Valid)
    (hremoved : ∀ piece ∈ pieces, ¬piece.Removed axis edit)
    (hmoved : moved ∈ movedPieces axis edit pieces) :
    ∃ piece ∈ pieces, ¬piece.Lost axis edit ∧ MovedTo axis edit piece (some moved) := by
  obtain ⟨piece, hpiece, hsome⟩ := mem_movedPieces.mp hmoved
  have hlost : ¬piece.Lost axis edit := by
    intro hlost
    rw [moved_lost hedit hlost] at hsome
    contradiction
  have hexact := moved_exact hedit (hvalid piece hpiece) (hremoved piece hpiece) hlost
  rw [hsome] at hexact
  exact ⟨piece, hpiece, hlost, hexact⟩

theorem movedPieces_cells (hedit : edit.Inside axis) (hvalid : ∀ piece ∈ pieces, piece.Valid)
    (hremoved : ∀ piece ∈ pieces, ¬piece.Removed axis edit) :
    referenceCells (movedPieces axis edit pieces) =
      ⋃ piece ∈ pieces, ⋃ _ : ¬piece.Lost axis edit, piece.image axis edit := by
  ext cell
  simp only [mem_referenceCells, Set.mem_iUnion, exists_prop]
  constructor
  · intro hcell
    obtain ⟨moved, hmoved, hcell⟩ := hcell
    obtain ⟨piece, hpiece, hlost, -, hcells, -⟩ := movedPieces_exact hedit hvalid hremoved hmoved
    rw [hcells] at hcell
    exact ⟨piece, hpiece, hlost, hcell⟩
  · intro hcell
    obtain ⟨piece, hpiece, hlost, hcell⟩ := hcell
    have hexact := moved_exact hedit (hvalid piece hpiece) (hremoved piece hpiece) hlost
    cases hmoved : piece.moved axis edit with
    | none =>
      rw [hmoved] at hexact
      exact absurd hcell (Set.eq_empty_iff_forall_notMem.mp hexact cell)
    | some moved =>
      rw [hmoved] at hexact
      rw [← hexact.2.1] at hcell
      exact ⟨moved, mem_movedPieces.mpr ⟨piece, hpiece, hmoved⟩, hcell⟩

theorem movedPieces_forall₂ {R : A1Piece → A1Piece → Prop} : ∀ pieces : List A1Piece,
    (∀ piece ∈ pieces, ∀ moved, piece.moved axis edit = some moved → R piece moved) →
      ∃ kept : List A1Piece, kept.Sublist pieces ∧
        List.Forall₂ R kept (movedPieces axis edit pieces)
  | [], _ => ⟨[], List.Sublist.refl [], List.Forall₂.nil⟩
  | piece :: rest, h => by
    obtain ⟨kept, hsub, hkept⟩ := movedPieces_forall₂ rest fun other hother =>
      h other (List.mem_cons_of_mem _ hother)
    unfold movedPieces
    cases hmoved : piece.moved axis edit with
    | none =>
      rw [List.filterMap_cons_none hmoved]
      exact ⟨kept, hsub.cons piece, hkept⟩
    | some moved =>
      rw [List.filterMap_cons_some hmoved]
      exact ⟨piece :: kept, hsub.cons_cons piece,
        .cons (h piece List.mem_cons_self moved hmoved) hkept⟩

theorem reference_empty {out : List A1Piece} (hvalid : ∀ piece ∈ out, piece.Valid) :
    out = [] ↔ referenceCells out = ∅ := by
  constructor
  · intro hout
    subst hout
    simp [referenceCells]
  · intro hempty
    rw [List.eq_nil_iff_forall_not_mem]
    intro piece hpiece
    obtain ⟨cell, hcell⟩ := (hvalid piece hpiece).cells_nonempty
    exact Set.eq_empty_iff_forall_notMem.mp hempty cell (mem_referenceCells.mpr ⟨piece, hpiece, hcell⟩)

theorem referenceText_ne_removed (hlaw : helper.Lawful) (h : ∀ piece ∈ pieces, piece.Readable) :
    referenceText helper pieces ≠ "#REF!" := by
  intro htext
  have hmem := referenceText_plain hlaw h
  rw [htext] at hmem
  exact hmem (by decide)

theorem adjustRefCoordPart_removed {text : String} {out : List A1Piece} (hlaw : helper.Lawful)
    (h : ∀ piece ∈ out, piece.Readable)
    (hresult : transformA1Range helper axis edit text =
      .ok (if out = [] then none else some (referenceText helper out))) :
    adjustRefCoordPart helper axis edit text = .ok "#REF!" ↔ out = [] := by
  unfold adjustRefCoordPart
  rw [hresult]
  by_cases hout : out = []
  · rw [if_pos hout]
    exact iff_of_true rfl hout
  · rw [if_neg hout]
    refine iff_of_false (fun hok => ?_) hout
    injection hok with hok
    exact referenceText_ne_removed hlaw h hok

theorem relocateValidation_removed {text : String} {out : List A1Piece}
    (hresult : transformA1Range helper axis edit text =
      .ok (if out = [] then none else some (referenceText helper out))) :
    relocateValidation helper axis edit [] [text] = .ok [] ↔ out = [] := by
  unfold relocateValidation
  rw [hresult]
  by_cases hout : out = []
  · rw [if_pos hout]
    exact iff_of_true rfl hout
  · rw [if_neg hout]
    exact iff_of_false (fun hok => nomatch hok) hout

theorem relocatedTo_movedPieces (hlaw : helper.Lawful) (hedit : edit.Inside axis)
    (hne : pieces ≠ []) (hvalid : ∀ piece ∈ pieces, piece.Valid)
    (hremoved : ∀ piece ∈ pieces, ¬piece.Removed axis edit)
    (hkeeps : KeepsCells axis edit pieces) :
    RelocatedTo helper axis edit pieces (movedPieces axis edit pieces) := by
  have hresult := @transformA1Range_text helper axis edit hlaw pieces hne hvalid
  have hvalid' : ∀ piece ∈ movedPieces axis edit pieces, piece.Valid := by
    intro moved hmoved
    obtain ⟨piece, -, -, hexact⟩ := movedPieces_exact hedit hvalid hremoved hmoved
    exact hexact.1
  have hcells : referenceCells (movedPieces axis edit pieces) = referenceImage axis edit pieces := by
    rw [movedPieces_cells hedit hvalid hremoved]
    apply Set.Subset.antisymm
    · intro cell hcell
      simp only [Set.mem_iUnion, exists_prop] at hcell
      obtain ⟨piece, hpiece, -, hcell⟩ := hcell
      exact mem_referenceImage.mpr ⟨piece, hpiece, hcell⟩
    · intro cell hcell
      obtain ⟨piece, hpiece, hcell⟩ := mem_referenceImage.mp hcell
      by_cases hlost : piece.Lost axis edit
      · exact hkeeps piece hpiece hlost hcell
      · simp only [Set.mem_iUnion, exists_prop]
        exact ⟨piece, hpiece, hlost, hcell⟩
  have hempty : movedPieces axis edit pieces = [] ↔ referenceImage axis edit pieces = ∅ := by
    rw [← hcells]
    exact reference_empty hvalid'
  have hoff : ∀ piece ∈ pieces, ∀ moved, piece.moved axis edit = some moved →
      piece.SameOff axis moved := by
    intro piece hpiece moved hmoved
    have hlost : ¬piece.Lost axis edit := by
      intro hlost
      rw [moved_lost hedit hlost] at hmoved
      contradiction
    have hexact := moved_exact hedit (hvalid piece hpiece) (hremoved piece hpiece) hlost
    rw [hmoved] at hexact
    exact hexact.2.2
  exact {
    result := hresult
    valid := hvalid'
    cells := hcells
    removed := hempty
    formula := (adjustRefCoordPart_removed hlaw (fun p hp => (hvalid' p hp).readable) hresult).trans hempty
    validation := (relocateValidation_removed hresult).trans hempty
    off := movedPieces_forall₂ pieces hoff }

theorem relocatedTo_eq (hlaw : helper.Lawful) (hedit : edit.Inside axis) (hne : pieces ≠ [])
    (hvalid : ∀ piece ∈ pieces, piece.Valid) {out : List A1Piece}
    (h : RelocatedTo helper axis edit pieces out) : out = movedPieces axis edit pieces := by
  have hresult := h.result
  rw [transformA1Range_text hlaw hne hvalid] at hresult
  injection hresult with hresult
  by_cases hout : out = []
  · rw [if_pos hout] at hresult
    by_cases hmoved : movedPieces axis edit pieces = []
    · rw [hout, hmoved]
    · rw [if_neg hmoved] at hresult
      contradiction
  · rw [if_neg hout] at hresult
    by_cases hmoved : movedPieces axis edit pieces = []
    · rw [if_pos hmoved] at hresult
      contradiction
    · rw [if_neg hmoved] at hresult
      injection hresult with htext
      refine referenceText_injective hlaw hout hmoved (fun p hp => (h.valid p hp).readable) ?_ htext.symm
      intro moved hmem
      obtain ⟨piece, hpiece, hsome⟩ := mem_movedPieces.mp hmem
      exact moved_readable hedit (hvalid piece hpiece) hsome

/-- Relocation is exact unless it deletes a cell that is referred to on its own, or an end
of a range given from its far end whose other cells are referred to nowhere else. -/
theorem transformA1Range_exact_iff (hlaw : helper.Lawful) (hedit : edit.Inside axis)
    (hne : pieces ≠ []) (hvalid : ∀ piece ∈ pieces, piece.Valid) :
    Relocated helper axis edit pieces ↔
      (∀ piece ∈ pieces, ¬piece.Removed axis edit) ∧ KeepsCells axis edit pieces := by
  constructor
  · intro h
    obtain ⟨out, hout⟩ := h
    have heq := relocatedTo_eq hlaw hedit hne hvalid hout
    subst heq
    have hremoved : ∀ piece ∈ pieces, ¬piece.Removed axis edit := by
      intro piece hpiece hremoved
      obtain ⟨moved, hmoved, -, hinvalid⟩ := moved_removed hedit (hvalid piece hpiece) hremoved
      exact hinvalid (hout.valid moved (mem_movedPieces.mpr ⟨piece, hpiece, hmoved⟩))
    refine ⟨hremoved, fun piece hpiece _ cell hcell => ?_⟩
    rw [← movedPieces_cells hedit hvalid hremoved, hout.cells]
    exact mem_referenceImage.mpr ⟨piece, hpiece, hcell⟩
  · intro h
    exact ⟨_, relocatedTo_movedPieces hlaw hedit hne hvalid h.1 h.2⟩

end Exact

/-! ### Letters and digits -/

def columnIndex (letters : List Char) : Nat :=
  letters.foldl (fun value c => value * 26 + (c.toNat - 'A'.toNat + 1)) 0

theorem columnLetter (digit : Nat) (h : digit < 26) :
    (Char.ofNat ('A'.toNat + digit)).toNat = 'A'.toNat + digit ∧
      (Char.ofNat ('A'.toNat + digit)).isUpper = true := by
  have hall : ∀ d : Fin 26, (Char.ofNat ('A'.toNat + d.val)).toNat = 'A'.toNat + d.val ∧
      (Char.ofNat ('A'.toNat + d.val)).isUpper = true := by
    decide
  exact hall ⟨digit, h⟩

theorem columnName_upper (fuel index : Nat) : ∀ c ∈ columnName fuel index, c.isUpper = true := by
  induction fuel generalizing index with
  | zero => exact fun c hc => absurd hc List.not_mem_nil
  | succ fuel ih =>
    unfold columnName
    split
    · exact fun c hc => absurd hc List.not_mem_nil
    · intro c hc
      rcases List.mem_append.mp hc with hc | hc
      · exact ih _ c hc
      · rw [List.mem_singleton.mp hc]
        exact (columnLetter _ (Nat.mod_lt _ (by decide))).2

theorem columnIndex_columnName (fuel index : Nat) (h : index < 26 ^ fuel) :
    columnIndex (columnName fuel index) = index := by
  induction fuel generalizing index with
  | zero =>
    have hzero : index = 0 := by
      rw [pow_zero] at h
      omega
    subst hzero
    rfl
  | succ fuel ih =>
    unfold columnName
    by_cases hzero : index = 0
    · rw [if_pos hzero, hzero]
      rfl
    · rw [pow_succ] at h
      have hdiv : (index - 1) / 26 < 26 ^ fuel := by omega
      have hletter := (columnLetter ((index - 1) % 26) (Nat.mod_lt _ (by decide))).1
      have hprefix := ih _ hdiv
      unfold columnIndex at hprefix ⊢
      rw [if_neg hzero, List.foldl_append, hprefix, List.foldl_cons, List.foldl_nil, hletter]
      omega

def readLock : List Char → Bool × List Char
  | '$' :: rest => (true, rest)
  | text => (false, text)

/-- The coordinates of a text of letters and digits with dollar signs before either. -/
def readCoordinate (text : String) : Option Nat × Option Nat × Option Bool × Option Bool :=
  let (lock, rest) := readLock text.toList
  match rest.span Char.isUpper with
  | ([], digits) => (none, some (Nat.ofDigitChars 10 digits 0), none, some lock)
  | (letters, []) => (some (columnIndex letters), none, some lock, none)
  | (letters, rest) =>
    let (rowLock, digits) := readLock rest
    (some (columnIndex letters), some (Nat.ofDigitChars 10 digits 0), some lock, some rowLock)

/-- The coordinate functions on letters and digits. -/
def a1Coordinates : CoordinateHelper where
  indexFromCoordinate := readCoordinate
  coordinateFromIndexWithLock col row colLock rowLock :=
    lockText colLock ++ String.ofList (columnName 8 col) ++ lockText rowLock ++ toString row
  stringFromColumnIndex col := String.ofList (columnName 8 col)

theorem readLock_lock {rest : List Char} (lock : Bool) (h : rest.head? ≠ some '$') :
    readLock ((lockText lock).toList ++ rest) = (lock, rest) := by
  cases lock with
  | true => rfl
  | false =>
    change readLock rest = (false, rest)
    unfold readLock
    split
    · exact absurd rfl h
    · rfl

theorem span_letters {letters rest : List Char} (h : ∀ c ∈ letters, c.isUpper = true)
    (hrest : ∀ c ∈ rest, c.isUpper = false) :
    (letters ++ rest).span Char.isUpper = (letters, rest) := by
  rw [List.span_eq_takeWhile_dropWhile, List.takeWhile_append_of_pos h,
    List.dropWhile_append_of_pos h]
  cases rest with
  | nil => simp
  | cons c rest =>
    have hc := hrest c List.mem_cons_self
    simp [hc]

theorem digits_plain (row : Nat) : ∀ c ∈ Nat.toDigits 10 row, c.isUpper = false ∧ c ≠ '$' ∧
    c ≠ ',' ∧ c ≠ ':' ∧ c ≠ '#' := by
  intro c hc
  have hdigit : c.isDigit = true := Nat.isDigit_of_mem_toDigits (by decide) (by decide) hc
  refine ⟨?_, ?_, ?_, ?_, ?_⟩
  · exact not_isUpper_of_isDigit hdigit
  all_goals
    rintro rfl
    exact absurd hdigit (by decide)

theorem upper_plain {c : Char} (h : c.isUpper = true) :
    c ≠ '$' ∧ c ≠ ',' ∧ c ≠ ':' ∧ c ≠ '#' := by
  refine ⟨?_, ?_, ?_, ?_⟩
  all_goals
    rintro rfl
    exact absurd h (by decide)

theorem columnName_letters {col : Nat} (h : 1 ≤ col) (hcol : col ≤ StructureAxis.col.maxValue) :
    ∃ c letters, columnName 8 col = c :: letters ∧ columnIndex (c :: letters) = col ∧
      ∀ d ∈ c :: letters, d.isUpper = true := by
  have hindex := columnIndex_columnName 8 col (lt_of_le_of_lt hcol (by decide))
  have hupper := columnName_upper 8 col
  cases hname : columnName 8 col with
  | nil =>
    rw [hname] at hindex
    change 0 = col at hindex
    omega
  | cons c letters =>
    rw [hname] at hindex hupper
    exact ⟨c, letters, rfl, hindex, hupper⟩

theorem digits_head (row : Nat) : (Nat.toDigits 10 row).head? ≠ some '$' := by
  intro h
  exact (digits_plain row _ (List.mem_of_mem_head? h)).2.1 rfl

theorem readCoordinate_row {text : String} {row : Nat} {lock : Bool}
    (h : text.toList = (lockText lock).toList ++ Nat.toDigits 10 row) :
    readCoordinate text = (none, some row, none, some lock) := by
  have hspan := @span_letters [] (Nat.toDigits 10 row) nofun fun c hc => (digits_plain row c hc).1
  rw [List.nil_append] at hspan
  unfold readCoordinate
  rw [h, readLock_lock lock (digits_head row)]
  simp only [hspan, Nat.ofDigitChars_ten_toDigits]

theorem readCoordinate_col {text : String} {col : Nat} {lock : Bool} (hpos : 1 ≤ col)
    (hcol : col ≤ StructureAxis.col.maxValue)
    (h : text.toList = (lockText lock).toList ++ columnName 8 col) :
    readCoordinate text = (some col, none, some lock, none) := by
  obtain ⟨c, letters, hname, hindex, hupper⟩ := columnName_letters hpos hcol
  have hhead : (c :: letters).head? ≠ some '$' := by
    intro hc
    exact (upper_plain (hupper _ (List.mem_of_mem_head? hc))).1 rfl
  have hspan := @span_letters (c :: letters) [] hupper nofun
  rw [List.append_nil] at hspan
  unfold readCoordinate
  rw [h, hname, readLock_lock lock hhead]
  simp only [hspan, hindex]

theorem readCoordinate_cell {text : String} {col row : Nat} {colLock rowLock : Bool}
    (hpos : 1 ≤ col) (hcol : col ≤ StructureAxis.col.maxValue)
    (h : text.toList = (lockText colLock).toList ++ (columnName 8 col ++
      ((lockText rowLock).toList ++ Nat.toDigits 10 row))) :
    readCoordinate text = (some col, some row, some colLock, some rowLock) := by
  obtain ⟨c, letters, hname, hindex, hupper⟩ := columnName_letters hpos hcol
  have hrest : ∀ d ∈ (lockText rowLock).toList ++ Nat.toDigits 10 row, d.isUpper = false := by
    intro d hd
    rcases List.mem_append.mp hd with hd | hd
    · cases rowLock with
      | true =>
        rw [List.mem_singleton.mp hd]
        decide
      | false => exact absurd hd List.not_mem_nil
    · exact (digits_plain row d hd).1
  have hhead : (c :: letters ++ ((lockText rowLock).toList ++ Nat.toDigits 10 row)).head? ≠
      some '$' := by
    intro hc
    injection hc with hc
    exact (upper_plain (hupper _ List.mem_cons_self)).1 hc
  have hspan := span_letters hupper hrest
  unfold readCoordinate
  rw [h, hname, readLock_lock colLock hhead]
  simp only [hspan]
  cases htail : (lockText rowLock).toList ++ Nat.toDigits 10 row with
  | nil => exact absurd (List.append_eq_nil_iff.mp htail).2 Nat.toDigits_ne_nil
  | cons d rest =>
    simp only
    rw [← htail, readLock_lock rowLock (digits_head row), hindex, Nat.ofDigitChars_ten_toDigits]

theorem lock_plain {lock : Bool} {c : Char} (h : c ∈ (lockText lock).toList) :
    c ≠ ',' ∧ c ≠ ':' ∧ c ≠ '#' := by
  cases lock with
  | true =>
    rw [List.mem_singleton.mp h]
    decide
  | false => exact absurd h List.not_mem_nil

theorem a1Coordinates_lawful : a1Coordinates.Lawful := by
  constructor
  · intro corner hcorner
    obtain ⟨col, row⟩ := corner
    cases col with
    | none =>
      cases row with
      | none => exact absurd ⟨rfl, rfl⟩ hcorner.present
      | some row =>
        apply readCoordinate_row
        simp [Corner.text]
    | some col =>
      have hbounds := hcorner.bounded .col col.1 col.2 rfl
      cases row with
      | none =>
        apply readCoordinate_col hbounds.1 hbounds.2
        simp [Corner.text, a1Coordinates]
      | some row =>
        apply readCoordinate_cell hbounds.1 hbounds.2
        simp [Corner.text, a1Coordinates]
  · intro corner _ c hc
    obtain ⟨col, row⟩ := corner
    have hname : ∀ index, c ∈ columnName 8 index → c ≠ ',' ∧ c ≠ ':' ∧ c ≠ '#' :=
      fun index hmem => (upper_plain (columnName_upper 8 index c hmem)).2
    have hdigits : ∀ line, c ∈ Nat.toDigits 10 line → c ≠ ',' ∧ c ≠ ':' ∧ c ≠ '#' :=
      fun line hmem => (digits_plain line c hmem).2.2
    cases col with
    | none =>
      cases row with
      | none => exact absurd hc List.not_mem_nil
      | some row =>
        have hmem : c ∈ (lockText row.2).toList ∨ c ∈ Nat.toDigits 10 row.1 := by
          simpa [Corner.text] using hc
        exact hmem.elim lock_plain (hdigits _)
    | some col =>
      cases row with
      | none =>
        have hmem : c ∈ (lockText col.2).toList ∨ c ∈ columnName 8 col.1 := by
          simpa [Corner.text, a1Coordinates] using hc
        exact hmem.elim lock_plain (hname _)
      | some row =>
        have hmem : c ∈ (lockText col.2).toList ∨ c ∈ columnName 8 col.1 ∨
            c ∈ (lockText row.2).toList ∨ c ∈ Nat.toDigits 10 row.1 := by
          simpa [Corner.text, a1Coordinates] using hc
        rcases hmem with hmem | hmem | hmem | hmem
        · exact lock_plain hmem
        · exact hname _ hmem
        · exact lock_plain hmem
        · exact hdigits _ hmem

def cellCorner (col row : Nat) : Corner := ⟨some (col, false), some (row, false)⟩

theorem cellCorner_inside {col row : Nat} (hcol : InGrid .col col) (hrow : InGrid .row row) :
    (cellCorner col row).Inside := by
  refine ⟨fun h => (nomatch h.1), fun axis value lock hline => ?_⟩
  cases axis with
  | row =>
    injection hline with hline
    injection hline with hline _
    exact hline ▸ hrow
  | col =>
    injection hline with hline
    injection hline with hline _
    exact hline ▸ hcol

theorem cellCorner_range_valid {col row col' row' : Nat} (hcol : InGrid .col col)
    (hrow : InGrid .row row) (hcol' : InGrid .col col') (hrow' : InGrid .row row') :
    (A1Piece.range (cellCorner col row) (cellCorner col' row')).Valid := by
  refine ⟨⟨cellCorner_inside hcol hrow, cellCorner_inside hcol' hrow'⟩, fun axis => ?_⟩
  cases axis <;> rfl

/-- Rows 4 to 6 are deleted within `A3:B9`, and `C8` moves. -/
theorem transformA1Range_exact_delete : Relocated a1Coordinates .row (.delete 4 3)
    [.range (cellCorner 1 3) (cellCorner 2 9), .single (cellCorner 3 8)] := by
  refine (transformA1Range_exact_iff a1Coordinates_lawful (by decide) (List.cons_ne_nil _ _)
    ?_).mpr ⟨?_, ?_⟩
  · intro piece hpiece
    rcases List.mem_pair.mp hpiece with rfl | rfl
    · exact cellCorner_range_valid (by decide) (by decide) (by decide) (by decide)
    · exact ⟨cellCorner_inside (by decide) (by decide), rfl, rfl⟩
  · intro piece hpiece hremoved
    rcases List.mem_pair.mp hpiece with rfl | rfl
    · exact hremoved
    · obtain ⟨value, lock, hline, htakes⟩ := hremoved
      injection hline with hline
      injection hline with hline _
      subst hline
      exact absurd htakes (by decide)
  · intro piece hpiece hlost
    obtain ⟨a, b, hends, hba, -⟩ := hlost
    rcases List.mem_pair.mp hpiece with rfl | rfl
    · injection hends with hends
      injection hends with ha hb
      subst ha
      subst hb
      exact absurd hba (by decide)
    · injection hends with hends
      injection hends with ha hb
      subst ha
      subst hb
      exact absurd hba (by decide)

/-- Row 5 is deleted under `A5`, which becomes `A`. -/
theorem transformA1Range_removed_not_exact :
    transformA1Range a1Coordinates .row (.delete 5 1) "A5" = .ok (some "A") ∧
      referenceText a1Coordinates [.single (cellCorner 1 5)] = "A5" ∧
      ¬Relocated a1Coordinates .row (.delete 5 1) [.single (cellCorner 1 5)] := by
  refine ⟨by decide +kernel, by decide +kernel, fun h => ?_⟩
  obtain ⟨out, hout⟩ := h
  have hvalid : ∀ piece ∈ [A1Piece.single (cellCorner 1 5)], piece.Valid := by
    intro piece hpiece
    rw [List.mem_singleton.mp hpiece]
    exact ⟨cellCorner_inside (by decide) (by decide), rfl, rfl⟩
  have heq := relocatedTo_eq a1Coordinates_lawful (by decide) (List.cons_ne_nil _ _) hvalid hout
  have hmem : A1Piece.single ⟨some (1, false), none⟩ ∈ out := by
    rw [heq]
    exact List.mem_singleton.mpr rfl
  exact nomatch (hout.valid _ hmem).2.2

end AgentSpreadsheet.Sheets
