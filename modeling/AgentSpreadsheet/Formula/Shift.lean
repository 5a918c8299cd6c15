import AgentSpreadsheet.Formula.Walk
import AgentSpreadsheet.Sheets.Format

/-! Shifts of formulas. They add up and leave all else as it was, but a reference can leave the
worksheet at its far end. -/
namespace AgentSpreadsheet.Formula
open Library

/-! ### Values -/

def Moves (abs : Bool) (delta : Int) : Prop := abs = false ∧ delta ≠ 0

instance (abs : Bool) (delta : Int) : Decidable (Moves abs delta) := inferInstanceAs (Decidable (_ ∧ _))

/-- The sum in 32 bits. -/
def moved (value : UInt32) (delta : Int) : UInt32 := UInt32.ofNat ((value.toNat : Int) + delta).toNat

section Values
variable {value value' value'' : UInt32} {abs : Bool} {delta delta' : Int}

theorem not_moves : ¬Moves abs delta ↔ abs = true ∨ delta = 0 := by
  unfold Moves
  cases abs <;> simp

theorem shiftU32_stays (h : ¬Moves abs delta) : shiftU32 value abs delta = .ok value :=
  if_pos (not_moves.mp h)

theorem shiftU32_moves (h : Moves abs delta) : shiftU32 value abs delta = .ok value' ↔
    1 ≤ (value.toNat : Int) + delta ∧ value' = moved value delta := by
  have hnot : ¬(abs = true ∨ delta = 0) := fun hstays => not_moves.mpr hstays h
  unfold shiftU32 moved
  rw [if_neg hnot]
  by_cases hlow : (value.toNat : Int) + delta < 1
  · rw [if_pos hlow]
    constructor
    · intro herror
      cases herror
    · intro hok
      omega
  · rw [if_neg hlow, Except.ok.injEq]
    constructor
    · intro hvalue
      exact ⟨by omega, hvalue.symm⟩
    · intro hok
      exact hok.2.symm

theorem toNat_moved : (moved value delta).toNat = ((value.toNat : Int) + delta).toNat % 2 ^ 32 :=
  UInt32.toNat_ofNat'

/-- The sum in between may wrap. -/
theorem moved_moved (h : 1 ≤ (value.toNat : Int) + delta)
    (h' : 1 ≤ ((moved value delta).toNat : Int) + delta') :
    1 ≤ (value.toNat : Int) + (delta + delta') ∧
      moved (moved value delta) delta' = moved value (delta + delta') := by
  rw [toNat_moved] at h'
  constructor
  · omega
  · apply UInt32.toNat_inj.mp
    rw [toNat_moved, toNat_moved, toNat_moved]
    omega

theorem shiftU32_add (h : shiftU32 value abs delta = .ok value')
    (h' : shiftU32 value' abs delta' = .ok value'') :
    shiftU32 value abs (delta + delta') = .ok value'' := by
  by_cases hmoves : Moves abs delta
  · have hfirst := (shiftU32_moves hmoves).mp h
    by_cases hmoves' : Moves abs delta'
    · have hsecond := (shiftU32_moves hmoves').mp h'
      rw [hfirst.2] at hsecond
      have hsum := moved_moved hfirst.1 hsecond.1
      by_cases hboth : Moves abs (delta + delta')
      · exact (shiftU32_moves hboth).mpr ⟨hsum.1, hsecond.2.trans hsum.2⟩
      · have hzero : delta + delta' = 0 := by
          have habs := hmoves.1
          simpa [habs] using not_moves.mp hboth
        rw [shiftU32_stays hboth, hsecond.2, hsum.2, hzero]
        simp [moved]
    · rw [shiftU32_stays hmoves'] at h'
      have hzero : delta' = 0 := by
        have habs := hmoves.1
        simpa [habs] using not_moves.mp hmoves'
      rw [hzero, Int.add_zero, h, h']
  · rw [shiftU32_stays hmoves] at h
    rw [← Except.ok.inj h] at h'
    rcases not_moves.mp hmoves with habs | hzero
    · have hstays : ∀ delta, ¬Moves abs delta := fun delta => not_moves.mpr (.inl habs)
      rw [shiftU32_stays (hstays _)] at h' ⊢
      exact h'
    · rw [hzero, Int.zero_add]
      exact h'

end Values

/-! ### Coordinates -/

section Coordinates
variable {delta delta' : Int} {c c' c'' : Coordinate} {b b' b'' : Bound}

/-- The same end, open where the other is, with the value kept where it is absolute. -/
structure Bound.Keeps (b b' : Bound) : Prop where
  abs : b'.abs = b.abs
  opens : b'.value.isSome = b.value.isSome
  fixed : b.abs = true → b'.value = b.value

structure Coordinate.Keeps (c c' : Coordinate) : Prop where
  abs : c'.abs = c.abs
  fixed : c.abs = true → c'.value = c.value

@[simp] theorem Coordinate.freeze_false : c.freeze false = c := by
  simp [freeze]

@[simp] theorem Bound.freeze_false : b.freeze false = b := by
  simp [freeze]

theorem Coordinate.shift_eq_ok : c.shift delta = .ok c' ↔
    c'.abs = c.abs ∧ shiftU32 c.value c.abs delta = .ok c'.value := by
  unfold shift
  rw [map_eq_ok]
  constructor
  · intro ⟨value, hvalue, hc⟩
    rw [← hc]
    exact ⟨rfl, hvalue⟩
  · intro ⟨habs, hvalue⟩
    refine ⟨c'.value, hvalue, ?_⟩
    rw [← habs]

theorem Coordinate.shift_zero : c.shift 0 = .ok c :=
  shift_eq_ok.mpr ⟨rfl, shiftU32_stays (not_moves.mpr (.inr rfl))⟩

theorem Coordinate.shift_add (h : c.shift delta = .ok c') (h' : c'.shift delta' = .ok c'') :
    c.shift (delta + delta') = .ok c'' := by
  rw [shift_eq_ok] at h h' ⊢
  rw [h.1] at h'
  exact ⟨h'.1, shiftU32_add h.2 h'.2⟩

theorem Coordinate.shift_keeps (h : c.shift delta = .ok c') : c.Keeps c' := by
  have hvalue := shift_eq_ok.mp h
  refine ⟨hvalue.1, fun habs => ?_⟩
  rw [shiftU32_stays (not_moves.mpr (.inl habs))] at hvalue
  exact (Except.ok.inj hvalue.2).symm

theorem Bound.shift_eq_ok : b.shift delta = .ok b' ↔ b'.abs = b.abs ∧
    (b.value = none ∧ b'.value = none ∨ ∃ value value', b.value = some value ∧
      b'.value = some value' ∧ shiftU32 value b.abs delta = .ok value') := by
  obtain ⟨value, abs⟩ := b
  obtain ⟨value', abs'⟩ := b'
  unfold shift
  rw [map_eq_ok]
  cases value with
  | none => simp [shiftOptU32, eq_comm, and_comm]
  | some value =>
    simp only [shiftOptU32, map_eq_ok, Bound.mk.injEq, Option.some.injEq, reduceCtorEq, false_and,
      false_or]
    constructor
    · rintro ⟨_, ⟨shifted, hshift, hsome⟩, hvalue, habs⟩
      exact ⟨habs.symm, value, shifted, rfl, (hsome.trans hvalue).symm, hshift⟩
    · rintro ⟨habs, _, shifted, hvalue, hshifted, hshift⟩
      rw [← hvalue] at hshift
      exact ⟨some shifted, ⟨shifted, hshift, rfl⟩, hshifted.symm, habs.symm⟩

theorem Bound.shift_zero : b.shift 0 = .ok b := by
  rw [shift_eq_ok]
  apply And.intro rfl
  cases b.value with
  | none => exact .inl ⟨rfl, rfl⟩
  | some value => exact .inr ⟨value, value, rfl, rfl, shiftU32_stays (not_moves.mpr (.inr rfl))⟩

theorem Bound.shift_add (h : b.shift delta = .ok b') (h' : b'.shift delta' = .ok b'') :
    b.shift (delta + delta') = .ok b'' := by
  rw [shift_eq_ok] at h h' ⊢
  apply And.intro (h'.1.trans h.1)
  rcases h.2 with hopen | ⟨value, value', hvalue, hvalue', hshift⟩
  · rcases h'.2 with hopen' | ⟨value, _, hvalue, _⟩
    · exact .inl ⟨hopen.1, hopen'.2⟩
    · exact absurd hvalue (by rw [hopen.2]; exact nofun)
  · rcases h'.2 with hopen' | ⟨between, value'', hbetween, hvalue'', hshift'⟩
    · exact absurd hvalue' (by rw [hopen'.1]; exact nofun)
    · rw [hvalue'] at hbetween
      rw [h.1, ← Option.some.inj hbetween] at hshift'
      exact .inr ⟨value, value'', hvalue, hvalue'', shiftU32_add hshift hshift'⟩

theorem Bound.shift_keeps (h : b.shift delta = .ok b') : b.Keeps b' := by
  have hshift := shift_eq_ok.mp h
  rcases hshift.2 with hopen | ⟨value, value', hvalue, hvalue', hmove⟩
  · exact ⟨hshift.1, by rw [hopen.1, hopen.2], fun _ => by rw [hopen.1, hopen.2]⟩
  · refine ⟨hshift.1, by rw [hvalue, hvalue']; rfl, fun habs => ?_⟩
    rw [shiftU32_stays (not_moves.mpr (.inl habs))] at hmove
    rw [hvalue, hvalue', Except.ok.inj hmove]

def Bound.coordinates (axis : Axis) (b : Bound) : List (Axis × Coordinate) :=
  (b.value.map fun value => (axis, ⟨value, b.abs⟩)).toList

end Coordinates

/-! ### References -/

def ReferenceType.coordinates : ReferenceType → List (Axis × Coordinate)
  | .cell _ row col => [(.col, col), (.row, row)]
  | .range _ startRow startCol endRow endCol =>
    startCol.coordinates .col ++ endCol.coordinates .col ++ startRow.coordinates .row ++
      endRow.coordinates .row
  | .cell3D _ _ row col => [(.col, col), (.row, row)]
  | .range3D _ _ startRow startCol endRow endCol =>
    startCol.coordinates .col ++ endCol.coordinates .col ++ startRow.coordinates .row ++
      endRow.coordinates .row
  | _ => []

def along (deltaCol deltaRow : Int) : Axis → Int
  | .row => deltaRow
  | .col => deltaCol

section References
variable {deltaCol deltaRow deltaCol' deltaRow' : Int} {r r' r'' : ReferenceType}

inductive ReferenceType.Shifted (deltaCol deltaRow : Int) : ReferenceType → ReferenceType → Prop
  | cell {sheet : Option String} {row col row' col' : Coordinate} :
      col.shift deltaCol = .ok col' → row.shift deltaRow = .ok row' →
      Shifted deltaCol deltaRow (.cell sheet row col) (.cell sheet row' col')
  | range {sheet : Option String}
      {startRow startCol endRow endCol startRow' startCol' endRow' endCol' : Bound} :
      startCol.shift deltaCol = .ok startCol' → endCol.shift deltaCol = .ok endCol' →
      startRow.shift deltaRow = .ok startRow' → endRow.shift deltaRow = .ok endRow' →
      Shifted deltaCol deltaRow (.range sheet startRow startCol endRow endCol)
        (.range sheet startRow' startCol' endRow' endCol')
  | table (text : String) : Shifted deltaCol deltaRow (.table text) (.table text)
  | namedRange (name : String) : Shifted deltaCol deltaRow (.namedRange name) (.namedRange name)
  | external (text : String) : Shifted deltaCol deltaRow (.external text) (.external text)
  | cell3D {firstSheet lastSheet : String} {row col row' col' : Coordinate} :
      col.shift deltaCol = .ok col' → row.shift deltaRow = .ok row' →
      Shifted deltaCol deltaRow (.cell3D firstSheet lastSheet row col)
        (.cell3D firstSheet lastSheet row' col')
  | range3D {firstSheet lastSheet : String}
      {startRow startCol endRow endCol startRow' startCol' endRow' endCol' : Bound} :
      startCol.shift deltaCol = .ok startCol' → endCol.shift deltaCol = .ok endCol' →
      startRow.shift deltaRow = .ok startRow' → endRow.shift deltaRow = .ok endRow' →
      Shifted deltaCol deltaRow (.range3D firstSheet lastSheet startRow startCol endRow endCol)
        (.range3D firstSheet lastSheet startRow' startCol' endRow' endCol')

theorem shiftPlace_eq_ok {row col row' col' : Coordinate} :
    shiftPlace deltaCol deltaRow .excel row col = .ok (row', col') ↔
      col.shift deltaCol = .ok col' ∧ row.shift deltaRow = .ok row' := by
  have hcols : (RelativeMode.excel == .absCols) = false := rfl
  have hrows : (RelativeMode.excel == .absRows) = false := rfl
  simp [shiftPlace, hcols, hrows]

theorem shiftBounds_eq_ok
    {startRow startCol endRow endCol startRow' startCol' endRow' endCol' : Bound} :
    shiftBounds deltaCol deltaRow .excel startRow startCol endRow endCol =
        .ok (startRow', startCol', endRow', endCol') ↔
      startCol.shift deltaCol = .ok startCol' ∧ endCol.shift deltaCol = .ok endCol' ∧
        startRow.shift deltaRow = .ok startRow' ∧ endRow.shift deltaRow = .ok endRow' := by
  have hcols : (RelativeMode.excel == .absCols) = false := rfl
  have hrows : (RelativeMode.excel == .absRows) = false := rfl
  simp [shiftBounds, hcols, hrows]

theorem shiftReferenceType_eq_ok : shiftReferenceType deltaCol deltaRow .excel r = .ok r' ↔
    r.Shifted deltaCol deltaRow r' := by
  constructor
  · intro h
    cases r with
    | cell sheet row col =>
      obtain ⟨place, hplace, rfl⟩ := map_eq_ok.mp h
      have hmoves := shiftPlace_eq_ok.mp hplace
      exact .cell hmoves.1 hmoves.2
    | range sheet startRow startCol endRow endCol =>
      obtain ⟨bounds, hbounds, rfl⟩ := map_eq_ok.mp h
      have hmoves := shiftBounds_eq_ok.mp hbounds
      exact .range hmoves.1 hmoves.2.1 hmoves.2.2.1 hmoves.2.2.2
    | table text =>
      rw [← Except.ok.inj h]
      exact .table text
    | namedRange name =>
      rw [← Except.ok.inj h]
      exact .namedRange name
    | external text =>
      rw [← Except.ok.inj h]
      exact .external text
    | cell3D firstSheet lastSheet row col =>
      obtain ⟨place, hplace, rfl⟩ := map_eq_ok.mp h
      have hmoves := shiftPlace_eq_ok.mp hplace
      exact .cell3D hmoves.1 hmoves.2
    | range3D firstSheet lastSheet startRow startCol endRow endCol =>
      obtain ⟨bounds, hbounds, rfl⟩ := map_eq_ok.mp h
      have hmoves := shiftBounds_eq_ok.mp hbounds
      exact .range3D hmoves.1 hmoves.2.1 hmoves.2.2.1 hmoves.2.2.2
  · intro h
    cases h with
    | cell hcol hrow => exact map_eq_ok.mpr ⟨_, shiftPlace_eq_ok.mpr ⟨hcol, hrow⟩, rfl⟩
    | range hstartCol hendCol hstartRow hendRow =>
      exact map_eq_ok.mpr
        ⟨_, shiftBounds_eq_ok.mpr ⟨hstartCol, hendCol, hstartRow, hendRow⟩, rfl⟩
    | table | namedRange | external => rfl
    | cell3D hcol hrow => exact map_eq_ok.mpr ⟨_, shiftPlace_eq_ok.mpr ⟨hcol, hrow⟩, rfl⟩
    | range3D hstartCol hendCol hstartRow hendRow =>
      exact map_eq_ok.mpr
        ⟨_, shiftBounds_eq_ok.mpr ⟨hstartCol, hendCol, hstartRow, hendRow⟩, rfl⟩

theorem ReferenceType.Shifted.zero (r : ReferenceType) : r.Shifted 0 0 r := by
  cases r with
  | cell => exact .cell Coordinate.shift_zero Coordinate.shift_zero
  | range => exact .range Bound.shift_zero Bound.shift_zero Bound.shift_zero Bound.shift_zero
  | table text => exact .table text
  | namedRange name => exact .namedRange name
  | external text => exact .external text
  | cell3D => exact .cell3D Coordinate.shift_zero Coordinate.shift_zero
  | range3D => exact .range3D Bound.shift_zero Bound.shift_zero Bound.shift_zero Bound.shift_zero

theorem ReferenceType.Shifted.add (h : r.Shifted deltaCol deltaRow r')
    (h' : r'.Shifted deltaCol' deltaRow' r'') :
    r.Shifted (deltaCol + deltaCol') (deltaRow + deltaRow') r'' := by
  cases h with
  | cell hcol hrow =>
    cases h' with
    | cell hcol' hrow' =>
      exact .cell (Coordinate.shift_add hcol hcol') (Coordinate.shift_add hrow hrow')
  | range hstartCol hendCol hstartRow hendRow =>
    cases h' with
    | range hstartCol' hendCol' hstartRow' hendRow' =>
      exact .range (Bound.shift_add hstartCol hstartCol') (Bound.shift_add hendCol hendCol')
        (Bound.shift_add hstartRow hstartRow') (Bound.shift_add hendRow hendRow')
  | table text =>
    cases h'
    exact .table text
  | namedRange name =>
    cases h'
    exact .namedRange name
  | external text =>
    cases h'
    exact .external text
  | cell3D hcol hrow =>
    cases h' with
    | cell3D hcol' hrow' =>
      exact .cell3D (Coordinate.shift_add hcol hcol') (Coordinate.shift_add hrow hrow')
  | range3D hstartCol hendCol hstartRow hendRow =>
    cases h' with
    | range3D hstartCol' hendCol' hstartRow' hendRow' =>
      exact .range3D (Bound.shift_add hstartCol hstartCol') (Bound.shift_add hendCol hendCol')
        (Bound.shift_add hstartRow hstartRow') (Bound.shift_add hendRow hendRow')

/-- The same reference, but for the values of relative coordinates. -/
inductive ReferenceType.Keeps : ReferenceType → ReferenceType → Prop
  | cell {sheet : Option String} {row col row' col' : Coordinate} : row.Keeps row' →
      col.Keeps col' → Keeps (.cell sheet row col) (.cell sheet row' col')
  | range {sheet : Option String}
      {startRow startCol endRow endCol startRow' startCol' endRow' endCol' : Bound} :
      startRow.Keeps startRow' → startCol.Keeps startCol' → endRow.Keeps endRow' →
      endCol.Keeps endCol' → Keeps (.range sheet startRow startCol endRow endCol)
        (.range sheet startRow' startCol' endRow' endCol')
  | table (text : String) : Keeps (.table text) (.table text)
  | namedRange (name : String) : Keeps (.namedRange name) (.namedRange name)
  | external (text : String) : Keeps (.external text) (.external text)
  | cell3D {firstSheet lastSheet : String} {row col row' col' : Coordinate} : row.Keeps row' →
      col.Keeps col' → Keeps (.cell3D firstSheet lastSheet row col)
        (.cell3D firstSheet lastSheet row' col')
  | range3D {firstSheet lastSheet : String}
      {startRow startCol endRow endCol startRow' startCol' endRow' endCol' : Bound} :
      startRow.Keeps startRow' → startCol.Keeps startCol' → endRow.Keeps endRow' →
      endCol.Keeps endCol' → Keeps (.range3D firstSheet lastSheet startRow startCol endRow endCol)
        (.range3D firstSheet lastSheet startRow' startCol' endRow' endCol')

theorem ReferenceType.Shifted.keeps (h : r.Shifted deltaCol deltaRow r') : r.Keeps r' := by
  cases h with
  | cell hcol hrow => exact .cell (Coordinate.shift_keeps hrow) (Coordinate.shift_keeps hcol)
  | range hstartCol hendCol hstartRow hendRow =>
    exact .range (Bound.shift_keeps hstartRow) (Bound.shift_keeps hstartCol)
      (Bound.shift_keeps hendRow) (Bound.shift_keeps hendCol)
  | table text => exact .table text
  | namedRange name => exact .namedRange name
  | external text => exact .external text
  | cell3D hcol hrow => exact .cell3D (Coordinate.shift_keeps hrow) (Coordinate.shift_keeps hcol)
  | range3D hstartCol hendCol hstartRow hendRow =>
    exact .range3D (Bound.shift_keeps hstartRow) (Bound.shift_keeps hstartCol)
      (Bound.shift_keeps hendRow) (Bound.shift_keeps hendCol)

def ShiftedAt (deltaCol deltaRow : Int) (x y : Axis × Coordinate) : Prop :=
  y.1 = x.1 ∧ x.2.shift (along deltaCol deltaRow x.1) = .ok y.2

theorem Bound.shift_coordinates {axis : Axis} {b b' : Bound}
    (h : b.shift (along deltaCol deltaRow axis) = .ok b') :
    List.Forall₂ (ShiftedAt deltaCol deltaRow) (b.coordinates axis) (b'.coordinates axis) := by
  have hshift := shift_eq_ok.mp h
  unfold coordinates
  rcases hshift.2 with hopen | ⟨value, value', hvalue, hvalue', hmove⟩
  · rw [hopen.1, hopen.2]
    exact .nil
  · rw [hvalue, hvalue']
    exact .cons ⟨rfl, Coordinate.shift_eq_ok.mpr ⟨hshift.1, hmove⟩⟩ .nil

theorem Bound.shift_ends
    {startRow startCol endRow endCol startRow' startCol' endRow' endCol' : Bound}
    (hstartCol : startCol.shift deltaCol = .ok startCol') (hendCol : endCol.shift deltaCol = .ok endCol')
    (hstartRow : startRow.shift deltaRow = .ok startRow')
    (hendRow : endRow.shift deltaRow = .ok endRow') :
    List.Forall₂ (ShiftedAt deltaCol deltaRow)
      (startCol.coordinates .col ++ endCol.coordinates .col ++ startRow.coordinates .row ++
        endRow.coordinates .row)
      (startCol'.coordinates .col ++ endCol'.coordinates .col ++ startRow'.coordinates .row ++
        endRow'.coordinates .row) := by
  have hcol {b b' : Bound} : b.shift deltaCol = .ok b' → List.Forall₂ (ShiftedAt deltaCol deltaRow)
      (b.coordinates .col) (b'.coordinates .col) := @shift_coordinates deltaCol deltaRow .col b b'
  have hrow {b b' : Bound} : b.shift deltaRow = .ok b' → List.Forall₂ (ShiftedAt deltaCol deltaRow)
      (b.coordinates .row) (b'.coordinates .row) := @shift_coordinates deltaCol deltaRow .row b b'
  apply List.rel_append _ (hrow hendRow)
  apply List.rel_append _ (hrow hstartRow)
  exact List.rel_append (hcol hstartCol) (hcol hendCol)

theorem ReferenceType.Shifted.coordinates (h : r.Shifted deltaCol deltaRow r') :
    List.Forall₂ (ShiftedAt deltaCol deltaRow) r.coordinates r'.coordinates := by
  cases h with
  | cell hcol hrow => exact .cons ⟨rfl, hcol⟩ (.cons ⟨rfl, hrow⟩ .nil)
  | range hstartCol hendCol hstartRow hendRow =>
    exact Bound.shift_ends hstartCol hendCol hstartRow hendRow
  | table | namedRange | external => exact .nil
  | cell3D hcol hrow => exact .cons ⟨rfl, hcol⟩ (.cons ⟨rfl, hrow⟩ .nil)
  | range3D hstartCol hendCol hstartRow hendRow =>
    exact Bound.shift_ends hstartCol hendCol hstartRow hendRow

/-- A coordinate that a shift would take before the first row or column. -/
def Rejected (deltaCol deltaRow : Int) (x : Axis × Coordinate) : Prop :=
  Moves x.2.abs (along deltaCol deltaRow x.1) ∧
    (x.2.value.toNat : Int) + along deltaCol deltaRow x.1 < 1

theorem exists_shiftedAt {x : Axis × Coordinate} (h : ¬Rejected deltaCol deltaRow x) :
    ∃ c', x.2.shift (along deltaCol deltaRow x.1) = .ok c' := by
  by_cases hmoves : Moves x.2.abs (along deltaCol deltaRow x.1)
  · have hlow : 1 ≤ (x.2.value.toNat : Int) + along deltaCol deltaRow x.1 :=
      Int.not_lt.mp fun hlow => h ⟨hmoves, hlow⟩
    exact ⟨⟨moved x.2.value (along deltaCol deltaRow x.1), x.2.abs⟩,
      Coordinate.shift_eq_ok.mpr ⟨rfl, (shiftU32_moves hmoves).mpr ⟨hlow, rfl⟩⟩⟩
  · exact ⟨x.2, Coordinate.shift_eq_ok.mpr ⟨rfl, shiftU32_stays hmoves⟩⟩

theorem not_rejected {x y : Axis × Coordinate} (h : ShiftedAt deltaCol deltaRow x y) :
    ¬Rejected deltaCol deltaRow x := by
  intro hrejected
  have hlow := ((shiftU32_moves hrejected.1).mp (Coordinate.shift_eq_ok.mp h.2).2).1
  have hbefore := hrejected.2
  omega

theorem Bound.exists_shift {axis : Axis} {b : Bound}
    (h : ∀ x ∈ b.coordinates axis, ¬Rejected deltaCol deltaRow x) :
    ∃ b', b.shift (along deltaCol deltaRow axis) = .ok b' := by
  cases hvalue : b.value with
  | none => exact ⟨b, shift_eq_ok.mpr ⟨rfl, .inl ⟨hvalue, hvalue⟩⟩⟩
  | some value =>
    obtain ⟨c, hc⟩ := exists_shiftedAt (h (axis, ⟨value, b.abs⟩) (by simp [coordinates, hvalue]))
    have hshift := Coordinate.shift_eq_ok.mp hc
    exact ⟨⟨some c.value, b.abs⟩,
      shift_eq_ok.mpr ⟨rfl, .inr ⟨value, c.value, hvalue, rfl, hshift.2⟩⟩⟩

/-- A reference is shifted unless one of its coordinates is rejected. -/
theorem ReferenceType.exists_shifted
    (h : ∀ x ∈ r.coordinates, ¬Rejected deltaCol deltaRow x) :
    ∃ r', r.Shifted deltaCol deltaRow r' := by
  cases r with
  | cell sheet row col =>
    obtain ⟨col', hcol⟩ := exists_shiftedAt (h (.col, col) (by simp [coordinates]))
    obtain ⟨row', hrow⟩ := exists_shiftedAt (h (.row, row) (by simp [coordinates]))
    exact ⟨_, .cell hcol hrow⟩
  | range sheet startRow startCol endRow endCol =>
    simp only [coordinates, List.forall_mem_append] at h
    obtain ⟨startCol', hstartCol⟩ := Bound.exists_shift h.1.1.1
    obtain ⟨endCol', hendCol⟩ := Bound.exists_shift h.1.1.2
    obtain ⟨startRow', hstartRow⟩ := Bound.exists_shift h.1.2
    obtain ⟨endRow', hendRow⟩ := Bound.exists_shift h.2
    exact ⟨_, .range hstartCol hendCol hstartRow hendRow⟩
  | table text => exact ⟨_, .table text⟩
  | namedRange name => exact ⟨_, .namedRange name⟩
  | external text => exact ⟨_, .external text⟩
  | cell3D firstSheet lastSheet row col =>
    obtain ⟨col', hcol⟩ := exists_shiftedAt (h (.col, col) (by simp [coordinates]))
    obtain ⟨row', hrow⟩ := exists_shiftedAt (h (.row, row) (by simp [coordinates]))
    exact ⟨_, .cell3D hcol hrow⟩
  | range3D firstSheet lastSheet startRow startCol endRow endCol =>
    simp only [coordinates, List.forall_mem_append] at h
    obtain ⟨startCol', hstartCol⟩ := Bound.exists_shift h.1.1.1
    obtain ⟨endCol', hendCol⟩ := Bound.exists_shift h.1.1.2
    obtain ⟨startRow', hstartRow⟩ := Bound.exists_shift h.1.2
    obtain ⟨endRow', hendRow⟩ := Bound.exists_shift h.2
    exact ⟨_, .range3D hstartCol hendCol hstartRow hendRow⟩

end References

/-! ### The grid -/

section Grid
variable (deltaCol deltaRow : Int)

def OnGrid (axis : Axis) (value : UInt32) : Prop := 1 ≤ value.toNat ∧ value.toNat ≤ axis.limit

def ReferenceType.InGrid (r : ReferenceType) : Prop := ∀ x ∈ r.coordinates, OnGrid x.1 x.2.value

def ReferenceType.IsShifted (r : ReferenceType) : Prop :=
  ∃ x ∈ r.coordinates, Moves x.2.abs (along deltaCol deltaRow x.1)

def landing (x : Axis × Coordinate) : UInt32 :=
  if Moves x.2.abs (along deltaCol deltaRow x.1) then
    moved x.2.value (along deltaCol deltaRow x.1)
  else x.2.value

/-- A coordinate is taken before the first row or column, or all references that are changed are
taken to places of the grid. -/
def StaysOnGrid (ast : ASTNode) : Prop :=
  (∃ leaf ∈ ast.leaves, ∃ x ∈ leaf.reference.coordinates, Rejected deltaCol deltaRow x) ∨
    ∀ leaf ∈ ast.leaves, leaf.reference.IsShifted deltaCol deltaRow →
      ∀ x ∈ leaf.reference.coordinates, OnGrid x.1 (landing deltaCol deltaRow x)

variable {deltaCol deltaRow}

theorem ShiftedAt.landing {x y : Axis × Coordinate} (h : ShiftedAt deltaCol deltaRow x y) :
    y.2.value = landing deltaCol deltaRow x := by
  have hshift := (Coordinate.shift_eq_ok.mp h.2).2
  unfold Formula.landing
  by_cases hmoves : Moves x.2.abs (along deltaCol deltaRow x.1)
  · rw [if_pos hmoves]
    exact ((shiftU32_moves hmoves).mp hshift).2
  · rw [if_neg hmoves]
    rw [shiftU32_stays hmoves] at hshift
    exact (Except.ok.inj hshift).symm

/-- A shifted reference is in the grid exactly when its coordinates land there. -/
theorem ReferenceType.Shifted.inGrid_iff {r r' : ReferenceType}
    (h : r.Shifted deltaCol deltaRow r') :
    r'.InGrid ↔ ∀ x ∈ r.coordinates, OnGrid x.1 (Formula.landing deltaCol deltaRow x) := by
  have hsame {x y : Axis × Coordinate} (hxy : ShiftedAt deltaCol deltaRow x y) :
      OnGrid y.1 y.2.value ↔ OnGrid x.1 (Formula.landing deltaCol deltaRow x) := by
    rw [hxy.1, hxy.landing]
  have hcoordinates := h.coordinates
  unfold InGrid
  generalize r.coordinates = xs at hcoordinates
  generalize r'.coordinates = ys at hcoordinates
  induction hcoordinates with
  | nil => simp
  | cons hxy _ ih =>
    rw [List.forall_mem_cons, List.forall_mem_cons, hsame hxy]
    exact and_congr_right' ih

end Grid

/-! ### Formulas -/

/-- A shift does what a translation does: nothing by nothing, the sum by two in a row, nothing to
all but the relative coordinates, and no reference leaves the grid. -/
structure ShiftsAsTranslation (printer : Printer) (ast : ASTNode)
    (deltaCol deltaRow deltaCol' deltaRow' : Int) : Prop where
  zero : ∃ ast', shiftRefsInPlace printer 0 0 .excel ast = .ok ast' ∧
    ASTNode.Related (fun leaf leaf' => leaf'.reference = leaf.reference) ast ast'
  zeroText : shiftFormulaAst printer ast 0 0 .excel = .ok (printer.canonicalFormula ast)
  add : ∀ ast' ast'', shiftRefsInPlace printer deltaCol deltaRow .excel ast = .ok ast' →
    shiftRefsInPlace printer deltaCol' deltaRow' .excel ast' = .ok ast'' →
    shiftRefsInPlace printer (deltaCol + deltaCol') (deltaRow + deltaRow') .excel ast = .ok ast''
  keeps : ∀ ast', shiftRefsInPlace printer deltaCol deltaRow .excel ast = .ok ast' →
    ASTNode.Related (fun leaf leaf' => leaf.reference.Keeps leaf'.reference) ast ast'
  grid : ∀ ast', shiftRefsInPlace printer deltaCol deltaRow .excel ast = .ok ast' →
    List.Forall₂ (fun leaf leaf' => leaf.reference.IsShifted deltaCol deltaRow →
      leaf'.reference.InGrid) ast.leaves ast'.leaves

section Formulas
variable {printer : Printer} {ast ast' : ASTNode} {deltaCol deltaRow deltaCol' deltaRow' : Int}

theorem shiftReferenceInPlace_eq_ok {display : ReferenceType → String} {leaf leaf' : Leaf} :
    shiftReferenceInPlace deltaCol deltaRow .excel display leaf = .ok leaf' ↔
      leaf.reference.Shifted deltaCol deltaRow leaf'.reference ∧
        leaf'.original = display leaf'.reference := by
  unfold shiftReferenceInPlace
  rw [map_eq_ok]
  constructor
  · intro ⟨reference, hreference, hleaf⟩
    rw [← hleaf]
    exact ⟨shiftReferenceType_eq_ok.mp hreference, rfl⟩
  · intro ⟨hreference, horiginal⟩
    refine ⟨leaf'.reference, shiftReferenceType_eq_ok.mpr hreference, ?_⟩
    rw [← horiginal]

theorem shiftRefsInPlace_eq_ok : shiftRefsInPlace printer deltaCol deltaRow .excel ast = .ok ast' ↔
    ASTNode.Related (fun leaf leaf' => leaf.reference.Shifted deltaCol deltaRow leaf'.reference ∧
      leaf'.original = printer.display leaf'.reference) ast ast' := by
  unfold shiftRefsInPlace
  rw [ASTNode.walk_eq_ok]
  constructor
  · intro h
    exact h.imp fun _ _ => shiftReferenceInPlace_eq_ok.mp
  · intro h
    exact h.imp fun _ _ => shiftReferenceInPlace_eq_ok.mpr

/-- Only the texts of the references can change. -/
theorem shift_zero (printer : Printer) (ast : ASTNode) :
    ∃ ast', shiftRefsInPlace printer 0 0 .excel ast = .ok ast' ∧
      ast.walk (fun leaf => .ok ⟨printer.display leaf.reference, leaf.reference⟩) = .ok ast' := by
  have hvisit : shiftReferenceInPlace 0 0 .excel printer.display =
      fun leaf => .ok ⟨printer.display leaf.reference, leaf.reference⟩ := by
    funext leaf
    exact shiftReferenceInPlace_eq_ok.mpr ⟨ReferenceType.Shifted.zero _, rfl⟩
  unfold shiftRefsInPlace
  rw [hvisit]
  obtain ⟨ast', hast⟩ := @ASTNode.exists_related (fun leaf leaf' =>
    (.ok ⟨printer.display leaf.reference, leaf.reference⟩ : Except String Leaf) = .ok leaf') ast
    fun leaf _ => ⟨_, rfl⟩
  exact ⟨ast', ASTNode.walk_eq_ok.mpr hast, ASTNode.walk_eq_ok.mpr hast⟩

theorem shift_grid_iff : (∀ ast', shiftRefsInPlace printer deltaCol deltaRow .excel ast = .ok ast' →
    List.Forall₂ (fun leaf leaf' => leaf.reference.IsShifted deltaCol deltaRow →
      leaf'.reference.InGrid) ast.leaves ast'.leaves) ↔ StaysOnGrid deltaCol deltaRow ast := by
  constructor
  · intro h
    by_cases hrejected : ∃ leaf ∈ ast.leaves, ∃ x ∈ leaf.reference.coordinates,
        Rejected deltaCol deltaRow x
    · exact .inl hrejected
    · have hall : ∀ leaf ∈ ast.leaves, ∃ leaf' : Leaf,
          leaf.reference.Shifted deltaCol deltaRow leaf'.reference ∧
            leaf'.original = printer.display leaf'.reference := by
        intro leaf hleaf
        obtain ⟨r', hr⟩ := @ReferenceType.exists_shifted deltaCol deltaRow leaf.reference
          fun x hx hx' => hrejected ⟨leaf, hleaf, x, hx, hx'⟩
        exact ⟨⟨printer.display r', r'⟩, hr, rfl⟩
      obtain ⟨ast', hast⟩ := ASTNode.exists_related hall
      right
      intro leaf hleaf hshifted
      obtain ⟨leaf', _, hmoved, hgrid⟩ :=
        forall₂_partner (forall₂_both hast.leaves (h ast' (shiftRefsInPlace_eq_ok.mpr hast))) hleaf
      exact hmoved.1.inGrid_iff.mp (hgrid hshifted)
  · intro h ast' hast
    have hrelated := (shiftRefsInPlace_eq_ok.mp hast).leaves
    apply forall₂_imp_mem hrelated
    intro leaf hleaf leaf' _ hmoved hshifted
    rcases h with ⟨rejected, hrejected, x, hx, hlow⟩ | hland
    · obtain ⟨_, _, hother⟩ := forall₂_partner hrelated hrejected
      obtain ⟨_, _, hat⟩ := forall₂_partner hother.1.coordinates hx
      exact absurd hlow (not_rejected hat)
    · exact hmoved.1.inGrid_iff.mpr (hland leaf hleaf hshifted)

/-- Shifts of a formula are translations exactly when no changed reference leaves the grid. -/
theorem shift_translation_iff (printer : Printer) (ast : ASTNode)
    (deltaCol deltaRow deltaCol' deltaRow' : Int) :
    ShiftsAsTranslation printer ast deltaCol deltaRow deltaCol' deltaRow' ↔
      StaysOnGrid deltaCol deltaRow ast := by
  constructor
  · intro h
    exact shift_grid_iff.mp h.grid
  · intro h
    obtain ⟨shifted, hshifted, hrelabel⟩ := shift_zero printer ast
    exact {
      zero := by
        refine ⟨shifted, hshifted, (ASTNode.walk_eq_ok.mp hrelabel).imp fun leaf leaf' hleaf => ?_⟩
        rw [← Except.ok.inj hleaf]
      zeroText := by
        unfold shiftFormulaAst
        rw [hshifted]
        exact congrArg Except.ok (printer.unread _ _ _ hrelabel)
      add := by
        intro ast' ast'' h h'
        apply shiftRefsInPlace_eq_ok.mpr
        apply (shiftRefsInPlace_eq_ok.mp h).trans (shiftRefsInPlace_eq_ok.mp h')
        intro x y z hxy hyz
        exact ⟨hxy.1.add hyz.1, hyz.2⟩
      keeps := fun ast' h => (shiftRefsInPlace_eq_ok.mp h).imp fun _ _ hleaf => hleaf.1.keeps
      grid := shift_grid_iff.mpr h }

end Formulas

section Samples

def dollar (abs : Bool) : String := if abs then "$" else ""

/-- The text of a reference to a cell of the formula's own sheet. -/
def cellText : ReferenceType → String
  | .cell none row col =>
    dollar col.abs ++ String.ofList (Sheets.columnName 7 col.value.toNat) ++ dollar row.abs ++
      toString row.value.toNat
  | _ => ""

def samplePrinter : Printer where
  display := cellText
  canonicalFormula
    | .reference leaf => "=" ++ cellText leaf.reference
    | _ => ""
  unread text ast ast' h := by
    cases ASTNode.walk_eq_ok.mp h with
    | reference hleaf => rw [← Except.ok.inj hleaf]
    | unaryOp | binaryOp | function | call | omitted | array | literal => rfl

/-- The last row, one row further down. -/
theorem last_row_shifted :
    shiftFormulaAst samplePrinter
        (.reference ⟨"A1048576", .cell none ⟨1048576, false⟩ ⟨1, false⟩⟩) 0 1 .excel =
      .ok "=A1048577" ∧
    ¬∀ (printer : Printer) (ast : ASTNode) (deltaCol deltaRow deltaCol' deltaRow' : Int),
      ShiftsAsTranslation printer ast deltaCol deltaRow deltaCol' deltaRow' := by
  apply And.intro rfl
  intro hall
  have hgrid := (hall samplePrinter
    (.reference ⟨"A1048576", .cell none ⟨1048576, false⟩ ⟨1, false⟩⟩) 0 1 0 0).grid _ rfl
  cases hgrid with
  | cons hleaf _ =>
    have hin := hleaf ⟨(.row, ⟨1048576, false⟩), by decide, by decide⟩
    exact absurd (hin (.row, ⟨1048577, false⟩) (by decide)).2 (by decide)

end Samples

end AgentSpreadsheet.Formula
