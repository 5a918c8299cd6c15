import AgentSpreadsheet.Render.Extract

/-! The planned cells of a range never overlap. A merged range is covered only when its top-left cell
is planned, so not when that cell is outside the range or in a hidden column. -/
namespace AgentSpreadsheet.Render
open Library

/-! ### Sizes -/

theorem roundHalfUpPt_nonneg {value : ℚ} (h : 0 ≤ value) : 0 ≤ roundHalfUpPt value := by
  unfold roundHalfUpPt
  exact_mod_cast Int.floor_nonneg.mpr (by linarith)

theorem columnUnitPt_nonneg (normal : NormalFont) : 0 ≤ columnUnitPt normal := by
  have hadvance : 0 ≤ (referenceDigitAdvanceEm normal.family).getD (506836 / 1000000) := by
    unfold referenceDigitAdvanceEm
    split <;> norm_num
  exact roundHalfUpPt_nonneg (mul_nonneg hadvance normal.positive.le)

theorem pxPerPt_pos : 0 < pxPerPt := by
  unfold pxPerPt
  norm_num

section Sizes
variable {sheet : Sheet} {normal : NormalFont} {scale : ℚ}

theorem defaultColumnWidthPt_nonneg {declared : Option ℚ} {base : Option Nat} {unitPt : ℚ}
    (hdeclared : ∀ width ∈ declared, 0 ≤ width) (hunit : 0 ≤ unitPt) :
    0 ≤ defaultColumnWidthPt declared base unitPt := by
  unfold defaultColumnWidthPt
  split
  · exact roundHalfUpPt_nonneg (mul_nonneg (hdeclared _ rfl) hunit)
  · positivity

theorem columnSize_nonneg (hscale : 0 < scale) (col : Nat) :
    0 ≤ columnSize sheet normal scale col := by
  have hunit := columnUnitPt_nonneg normal
  have hdefault := @defaultColumnWidthPt_nonneg
    (if 0 < sheet.defaultColumnWidth then some sheet.defaultColumnWidth else none)
    (if 0 < sheet.baseColumnWidth then some sheet.baseColumnWidth else none) _ (by
      intro width hwidth
      split at hwidth
      · rename_i hpos
        rw [← Option.some.inj hwidth]
        exact hpos.le
      · contradiction) hunit
  unfold columnSize
  dsimp only
  split
  · exact le_refl 0
  · apply mul_nonneg (mul_nonneg _ pxPerPt_pos.le) hscale.le
    split
    · split
      · rename_i hwidth
        exact roundHalfUpPt_nonneg (mul_nonneg hwidth.le hunit)
      · exact hdefault
    · exact hdefault

theorem le_foldl_max (f : CellPlan → ℚ) (plans : List CellPlan) (base : ℚ) :
    base ≤ plans.foldl (fun needed plan => max needed (f plan)) base := by
  induction plans generalizing base with
  | nil => exact le_refl base
  | cons plan rest ih => exact le_trans (le_max_left _ _) (ih _)

theorem rowSize_nonneg {tools : PlanTools} {columns : List Track} {plans : List CellPlan}
    (hscale : 0 < scale) (row : Nat) : 0 ≤ rowSize tools sheet columns plans scale row := by
  have hpoints : 0 ≤ (((sheet.rowDimension row).map RowDimension.height).filter (0 < ·)).getD
      (if 0 < sheet.defaultRowHeight then sheet.defaultRowHeight else 15) := by
    cases hrecorded : ((sheet.rowDimension row).map RowDimension.height).filter (0 < ·) with
    | some height =>
      have hpos := (Option.filter_eq_some_iff.mp hrecorded).2
      exact (of_decide_eq_true hpos).le
    | none =>
      rw [Option.getD_none]
      split
      · rename_i hpos
        exact hpos.le
      · norm_num
  have hbase := mul_nonneg (mul_nonneg hpoints pxPerPt_pos.le) hscale.le
  unfold rowSize
  dsimp only
  split
  · exact le_refl 0
  · split
    · exact hbase
    · exact le_trans hbase (le_foldl_max _ _ _)

end Sizes

/-! ### Tracks -/

section Tracks
variable {size : Nat → ℚ} {hidden : Nat → Bool}

theorem findTrack_tracksFrom (offset : ℚ) {first count index : Nat} (hlo : first ≤ index)
    (hhi : index < first + count) :
    findTrack (tracksFrom size hidden offset (List.range' first count)) index =
      some ⟨index, offset + start size first index, size index, hidden index⟩ := by
  induction count generalizing first offset with
  | zero => omega
  | succ count ih =>
    rw [List.range'_succ, tracksFrom]
    unfold findTrack
    by_cases hfirst : first = index
    · rw [List.find?_cons_of_pos (by simpa using hfirst), hfirst, start_self, add_zero]
    · rw [List.find?_cons_of_neg (by simpa using hfirst)]
      have hrest := ih (offset + size first) (by omega : first + 1 ≤ index) (by omega)
      unfold findTrack at hrest
      rw [hrest, start_head size (by omega : first < index), add_assoc]

theorem extent_tracksFrom (offset : ℚ) (first count : Nat) (hcount : 0 < count) :
    extent (tracksFrom size hidden offset (List.range' first count)) =
      offset + start size first (first + count) := by
  induction count generalizing first offset with
  | zero => omega
  | succ count ih =>
    rw [List.range'_succ, tracksFrom]
    by_cases hlast : count = 0
    · rw [hlast, List.range'_zero, tracksFrom, start_succ size (Nat.le_refl _), start_self, zero_add]
      rfl
    · have hrest := ih (offset + size first) (first + 1) (Nat.pos_of_ne_zero hlast)
      unfold extent at hrest ⊢
      have hcons : tracksFrom size hidden (offset + size first) (List.range' (first + 1) count) ≠ [] := by
        obtain ⟨more, rfl⟩ := Nat.exists_eq_succ_of_ne_zero hlast
        rw [List.range'_succ, tracksFrom]
        exact List.cons_ne_nil _ _
      rw [List.getLast?_cons_of_ne_nil hcons, hrest, start_head size (by omega : first < _), add_assoc]
      congr 3
      omega

theorem mem_indices {first last index : Nat} : index ∈ indices first last ↔ first ≤ index ∧ index ≤ last := by
  unfold indices
  rw [List.mem_range'_1]
  omega

end Tracks

/-! ### Planned cells -/

def RangeBounds.Has (bounds : RangeBounds) (col row : Nat) : Prop :=
  (bounds.firstCol ≤ col ∧ col ≤ bounds.lastCol) ∧ bounds.firstRow ≤ row ∧ row ≤ bounds.lastRow

/-- A cell with something to show: a fill, borders and a text. -/
def Shown (fill : Option Rgba) (edges : Edges) (text : String) : Prop :=
  fill ≠ none ∨ edges.isEmpty = false ∨ text ≠ ""

theorem contains_iff {merge : Merge} {col row : Nat} :
    merge.contains col row = true ↔ (merge.firstCol ≤ col ∧ col ≤ merge.lastCol) ∧
      merge.firstRow ≤ row ∧ row ≤ merge.lastRow := by
  unfold Merge.contains
  simp only [Bool.and_eq_true, decide_eq_true_eq]
  omega

section Plans
variable {tools : PlanTools} {sheet : Sheet} {columns : List Track} {normal : NormalFont} {scale : ℚ}
  {bounds : RangeBounds} {col row : Nat} {plan : CellPlan}

theorem planCell_eq_some :
    planCell tools sheet columns normal scale col row = some plan →
      (findTrack columns col).any Track.hidden = false ∧
      (plan.col = col ∧ plan.row = row ∧
        plan.merge = (merges sheet).find? (·.contains col row)) ∧
      (∀ merge ∈ plan.merge, merge.firstCol = col ∧ merge.firstRow = row) ∧
      ∃ cell, sheet.cell col row = some cell ∧
        Shown (cellFill cell) (match plan.merge with
          | some merge => mergedRangeBorder sheet merge scale
          | none => cellBorders cell scale) (renderValue tools cell).1 := by
  intro h
  unfold planCell at h
  split at h
  · contradiction
  · rename_i hvisible
    dsimp only at h
    split at h
    · contradiction
    · rename_i hanchor
      obtain ⟨cell, hcell, h⟩ := Option.bind_eq_some_iff.mp h
      obtain ⟨hshown, h⟩ := Option.ite_none_left_eq_some.mp h
      have hplan := Option.some.inj h
      subst hplan
      refine ⟨Bool.eq_false_iff.mpr hvisible, ⟨rfl, rfl, rfl⟩, ?_, cell, hcell, ?_⟩
      · intro merge hmerge
        have hfound : (merges sheet).find? (·.contains col row) = some merge := hmerge
        rw [hfound, Option.any_some] at hanchor
        simpa using hanchor
      · unfold Shown
        by_contra hnone
        rw [not_or, not_or, not_not, not_not, Bool.not_eq_false] at hnone
        apply hshown
        dsimp only at hnone
        rw [hnone.1, hnone.2.2]
        simp only [Option.isNone_none, Bool.true_and, decide_true, Bool.and_true]
        exact hnone.2.1

/-- The top-left cell of a merged range is planned when it is visible and has something to show. -/
theorem planCell_anchor {merge : Merge} {cell : Cell}
    (hvisible : (findTrack columns merge.firstCol).any Track.hidden = false)
    (hmerge : (merges sheet).find? (·.contains merge.firstCol merge.firstRow) = some merge)
    (hcell : sheet.cell merge.firstCol merge.firstRow = some cell)
    (hshown : Shown (cellFill cell) (mergedRangeBorder sheet merge scale) (renderValue tools cell).1) :
    ∃ plan, planCell tools sheet columns normal scale merge.firstCol merge.firstRow = some plan ∧
      plan.merge = some merge := by
  unfold planCell
  simp only [hvisible, Bool.false_eq_true, if_false, hmerge, Option.any_some, ne_eq, not_true_eq_false,
    decide_false, Bool.or_self, hcell, Option.bind_eq_bind, Option.bind_some]
  rw [if_neg]
  · exact ⟨_, rfl, rfl⟩
  · intro hempty
    simp only [Bool.and_eq_true, Option.isNone_iff_eq_none, decide_eq_true_eq] at hempty
    rcases hshown with hfill | hedges | htext
    · exact hfill hempty.1.1
    · rw [hempty.1.2] at hedges
      contradiction
    · exact htext hempty.2

theorem mem_planCells : plan ∈ planCells tools sheet columns bounds normal scale ↔
    ∃ col row, bounds.Has col row ∧ planCell tools sheet columns normal scale col row = some plan := by
  unfold planCells RangeBounds.Has
  simp only [List.mem_flatMap, List.mem_filterMap, mem_indices]
  constructor
  · rintro ⟨row, hrow, col, hcol, hplan⟩
    exact ⟨col, row, ⟨hcol, hrow⟩, hplan⟩
  · rintro ⟨col, row, ⟨hcol, hrow⟩, hplan⟩
    exact ⟨row, hrow, col, hcol, hplan⟩

theorem indices_pairwise (first last : Nat) : (indices first last).Pairwise (· ≠ ·) := by
  unfold indices
  exact List.nodup_range'

theorem planCells_pairwise {R : CellPlan → CellPlan → Prop}
    (h : ∀ col row col' row' plan plan', bounds.Has col row → bounds.Has col' row' →
      (col, row) ≠ (col', row') → planCell tools sheet columns normal scale col row = some plan →
      planCell tools sheet columns normal scale col' row' = some plan' → R plan plan') :
    (planCells tools sheet columns bounds normal scale).Pairwise R := by
  unfold planCells
  rw [List.pairwise_flatMap]
  constructor
  · intro row hrow
    rw [List.pairwise_filterMap]
    have hcols := List.Pairwise.and_mem.mp (indices_pairwise bounds.firstCol bounds.lastCol)
    apply hcols.imp
    rintro col col' ⟨hcol, hcol', hne⟩ plan hplan plan' hplan'
    apply h col row col' row plan plan' ⟨mem_indices.mp hcol, mem_indices.mp hrow⟩
      ⟨mem_indices.mp hcol', mem_indices.mp hrow⟩ _ hplan hplan'
    exact fun heq => hne (congrArg Prod.fst heq)
  · have hrows := List.Pairwise.and_mem.mp (indices_pairwise bounds.firstRow bounds.lastRow)
    apply hrows.imp
    rintro row row' ⟨hrow, hrow', hne⟩ plan hplan plan' hplan'
    obtain ⟨col, hcol, hplan⟩ := List.mem_filterMap.mp hplan
    obtain ⟨col', hcol', hplan'⟩ := List.mem_filterMap.mp hplan'
    apply h col row col' row' plan plan' ⟨mem_indices.mp hcol, mem_indices.mp hrow⟩
      ⟨mem_indices.mp hcol', mem_indices.mp hrow'⟩ _ hplan hplan'
    exact fun heq => hne (congrArg Prod.snd heq)

end Plans

/-! ### Merged ranges -/

section Merges
variable {tools : PlanTools} {sheet : Sheet} {columns : List Track} {normal : NormalFont} {scale : ℚ}

def Owns (plan : CellPlan) (col row : Nat) : Prop :=
  match plan.merge with
  | some merge => merge.contains col row = true
  | none => col = plan.col ∧ row = plan.row

def DisjointMerges (sheet : Sheet) : Prop :=
  (merges sheet).Pairwise fun merge other => ∀ col row,
    ¬ (merge.contains col row = true ∧ other.contains col row = true)

theorem DisjointMerges.unique (hdisjoint : DisjointMerges sheet) {merge other : Merge}
    (hmerge : merge ∈ merges sheet) (hother : other ∈ merges sheet) {col row : Nat}
    (hcontains : merge.contains col row = true) (hcontains' : other.contains col row = true) :
    merge = other := by
  by_contra hne
  have hsymm : Std.Symm fun merge other : Merge => ∀ col row,
      ¬ (merge.contains col row = true ∧ other.contains col row = true) :=
    ⟨fun _ _ hapart col row hboth => hapart col row hboth.symm⟩
  exact hdisjoint.forall hmerge hother hne col row ⟨hcontains, hcontains'⟩

theorem DisjointMerges.find (hdisjoint : DisjointMerges sheet) {merge : Merge}
    (hmerge : merge ∈ merges sheet) {col row : Nat} (hcontains : merge.contains col row = true) :
    (merges sheet).find? (·.contains col row) = some merge := by
  cases hfound : (merges sheet).find? (·.contains col row) with
  | none =>
    have hnone := List.find?_eq_none.mp hfound merge hmerge
    exact absurd hcontains hnone
  | some other =>
    have hholds : other.contains col row = true := by simpa using List.find?_some hfound
    rw [hdisjoint.unique hmerge (List.mem_of_find?_eq_some hfound) hcontains hholds]

theorem owns_apart (hdisjoint : DisjointMerges sheet) {plan plan' : CellPlan}
    {col row col' row' : Nat} (hne : (col, row) ≠ (col', row'))
    (hplan : planCell tools sheet columns normal scale col row = some plan)
    (hplan' : planCell tools sheet columns normal scale col' row' = some plan')
    {c r : Nat} (howns : Owns plan c r) : ¬ Owns plan' c r := by
  intro howns'
  obtain ⟨_, ⟨hcol, hrow, hmerge⟩, hanchor, _⟩ := planCell_eq_some hplan
  obtain ⟨_, ⟨hcol', hrow', hmerge'⟩, hanchor', _⟩ := planCell_eq_some hplan'
  have hfree {merge : Merge} {col row : Nat} (hmem : merge ∈ merges sheet)
      (hnone : none = (merges sheet).find? (·.contains col row)) : ¬ merge.contains col row = true :=
    List.find?_eq_none.mp hnone.symm merge hmem
  have hmem {merge : Merge} {col row : Nat}
      (hfound : some merge = (merges sheet).find? (·.contains col row)) : merge ∈ merges sheet :=
    List.mem_of_find?_eq_some hfound.symm
  unfold Owns at howns howns'
  cases hfound : plan.merge with
  | some merge =>
    rw [hfound] at howns hmerge hanchor
    cases hfound' : plan'.merge with
    | some merge' =>
      rw [hfound'] at howns' hmerge' hanchor'
      have hsame := hdisjoint.unique (hmem hmerge) (hmem hmerge') howns howns'
      have hcorner := hanchor merge rfl
      have hcorner' := hanchor' merge' rfl
      apply hne
      rw [← hcorner.1, ← hcorner.2, ← hcorner'.1, ← hcorner'.2, hsame]
    | none =>
      rw [hfound'] at howns' hmerge'
      rw [howns'.1, howns'.2, hcol', hrow'] at howns
      exact hfree (hmem hmerge) hmerge' howns
  | none =>
    rw [hfound] at howns hmerge
    rw [howns.1, howns.2, hcol, hrow] at howns'
    cases hfound' : plan'.merge with
    | some merge' =>
      rw [hfound'] at howns' hmerge'
      exact hfree (hmem hmerge') hmerge howns'
    | none =>
      rw [hfound', hcol', hrow'] at howns'
      apply hne
      rw [howns'.1, howns'.2]

end Merges

/-- The top-left cell is in the range and in a column that is shown, and there is a fill or a text in
it or a border along the edges of the merged range. -/
structure Anchored (tools : PlanTools) (sheet : Sheet) (bounds : RangeBounds) (scale : ℚ)
    (merge : Merge) : Prop where
  corner : bounds.Has merge.firstCol merge.firstRow
  column : columnHidden sheet merge.firstCol = false
  shown : ∃ cell, sheet.cell merge.firstCol merge.firstRow = some cell ∧
    Shown (cellFill cell) (mergedRangeBorder sheet merge scale) (renderValue tools cell).1

/-! ### The grid of a range -/

section Extracted
variable {tools : PlanTools} {sheet : Sheet} {normal : NormalFont} {bounds : RangeBounds}
  {options : RenderOptions} {layout : Layout}

structure Extracted (tools : PlanTools) (sheet : Sheet) (normal : NormalFont) (bounds : RangeBounds)
    (options : RenderOptions) (layout : Layout) : Prop where
  cols : bounds.firstCol ≤ bounds.lastCol
  rows : bounds.firstRow ≤ bounds.lastRow
  scale : 0 < options.scale
  bounds_eq : layout.bounds = bounds
  columns_eq : layout.columns = buildColumnTracks sheet bounds normal options.scale
  plans_eq : layout.plans =
    planCells tools sheet layout.columns bounds normal options.scale
  rows_eq : layout.rows =
    buildRowTracks tools sheet bounds layout.columns layout.plans options.scale

theorem extract_ok (h : extract tools sheet normal bounds options = .ok layout) :
    Extracted tools sheet normal bounds options layout := by
  unfold extract at h
  split at h
  · contradiction
  · split at h
    · contradiction
    · rename_i hordered
      split at h
      · contradiction
      · rename_i hscale
        rw [← Except.ok.inj h]
        rw [not_or, not_lt, not_lt] at hordered
        exact ⟨hordered.1, hordered.2, not_not.mp hscale, rfl, rfl, rfl, rfl⟩

def Extracted.grid (h : Extracted tools sheet normal bounds options layout) : Grid ℚ where
  originX := layout.originX
  originY := layout.originY
  firstCol := bounds.firstCol
  firstRow := bounds.firstRow
  colSize := columnSize sheet normal options.scale
  rowSize := rowSize tools sheet layout.columns layout.plans options.scale
  colSize_nonneg := columnSize_nonneg h.scale
  rowSize_nonneg := rowSize_nonneg h.scale

variable (h : Extracted tools sheet normal bounds options layout)
include h

theorem Extracted.findColumn {col : Nat} (hcol : bounds.firstCol ≤ col ∧ col ≤ bounds.lastCol) :
    findTrack layout.columns col =
      some ⟨col, h.grid.left col, columnSize sheet normal options.scale col, columnHidden sheet col⟩ := by
  rw [h.columns_eq]
  unfold buildColumnTracks indices
  rw [findTrack_tracksFrom _ hcol.1 (by omega), zero_add]
  rfl

theorem Extracted.findRow {row : Nat} (hrow : bounds.firstRow ≤ row ∧ row ≤ bounds.lastRow) :
    findTrack layout.rows row = some ⟨row, h.grid.top row,
      rowSize tools sheet layout.columns layout.plans options.scale row, rowHidden sheet row⟩ := by
  rw [h.rows_eq]
  unfold buildRowTracks indices
  rw [findTrack_tracksFrom _ hrow.1 (by omega), zero_add]
  rfl

theorem Extracted.left_succ {col : Nat} (hcol : bounds.firstCol ≤ col) :
    h.grid.left (col + 1) = h.grid.left col + columnSize sheet normal options.scale col :=
  start_succ _ hcol

theorem Extracted.top_succ {row : Nat} (hrow : bounds.firstRow ≤ row) :
    h.grid.top (row + 1) = h.grid.top row +
      rowSize tools sheet layout.columns layout.plans options.scale row :=
  start_succ _ hrow

/-- Rectangles between tracks are the areas of blocks. -/
theorem Extracted.rectBetween_eq (block : Block) (hlo : bounds.Has block.cols.lo block.rows.lo)
    (hhi : bounds.Has block.cols.hi block.rows.hi) :
    layout.rectBetween block.cols.lo block.rows.lo block.cols.hi block.rows.hi =
      some (h.grid.area block) := by
  unfold Layout.rectBetween
  rw [h.findColumn hlo.1, h.findRow hlo.2, h.findColumn hhi.1, h.findRow hhi.2]
  simp only [Option.bind_eq_bind, Option.bind_some]
  rw [← h.left_succ hhi.1.1, ← h.top_succ hhi.2.1]
  rfl

theorem Extracted.gridRect_eq :
    layout.gridRect =
      h.grid.area ⟨⟨bounds.firstCol, bounds.lastCol, h.cols⟩, ⟨bounds.firstRow, bounds.lastRow, h.rows⟩⟩ := by
  have hcols := h.cols
  have hrows := h.rows
  have hcolumns : bounds.firstCol + (bounds.lastCol + 1 - bounds.firstCol) = bounds.lastCol + 1 := by
    omega
  have hlines : bounds.firstRow + (bounds.lastRow + 1 - bounds.firstRow) = bounds.lastRow + 1 := by
    omega
  have hleft : h.grid.left bounds.firstCol = 0 := start_self _ _
  have htop : h.grid.top bounds.firstRow = 0 := start_self _ _
  unfold Layout.gridRect Grid.area
  dsimp only
  rw [hleft, htop, h.columns_eq, h.rows_eq]
  unfold buildColumnTracks buildRowTracks indices
  rw [extent_tracksFrom _ _ _ (by omega), extent_tracksFrom _ _ _ (by omega), hcolumns, hlines]
  simp only [zero_add, add_zero, sub_zero]
  rfl

theorem Extracted.cellRect_eq {plan : CellPlan} {col row : Nat} (hbounds : bounds.Has col row)
    (hplan : planCell tools sheet layout.columns normal options.scale col row = some plan) :
    ∃ block : Block, layout.cellRect plan = some (h.grid.area block) ∧
      ∀ col row, block.Has col row ↔ bounds.Has col row ∧ Owns plan col row := by
  obtain ⟨_, ⟨hcol, hrow, hmerge⟩, hanchor, _⟩ := planCell_eq_some hplan
  unfold Layout.cellRect Owns
  cases hfound : plan.merge with
  | some merge =>
    rw [hfound] at hmerge hanchor
    obtain ⟨hfirstCol, hfirstRow⟩ := hanchor merge rfl
    have hholds := List.find?_some hmerge.symm
    rw [contains_iff] at hholds
    unfold RangeBounds.Has at hbounds
    have hcols : merge.firstCol ≤ min merge.lastCol bounds.lastCol := by omega
    have hrows : merge.firstRow ≤ min merge.lastRow bounds.lastRow := by omega
    refine ⟨⟨⟨_, _, hcols⟩, ⟨_, _, hrows⟩⟩, ?_, ?_⟩
    · dsimp only
      rw [h.bounds_eq]
      apply h.rectBetween_eq ⟨⟨_, _, hcols⟩, ⟨_, _, hrows⟩⟩
      · unfold RangeBounds.Has
        dsimp only
        omega
      · unfold RangeBounds.Has
        dsimp only
        omega
    · intro col' row'
      dsimp only
      rw [contains_iff]
      unfold Block.Has Interval.Has RangeBounds.Has
      dsimp only
      omega
  | none =>
    refine ⟨⟨⟨col, col, Nat.le_refl _⟩, ⟨row, row, Nat.le_refl _⟩⟩, ?_, ?_⟩
    · dsimp only
      rw [hcol, hrow, h.findColumn hbounds.1, h.findRow hbounds.2]
      unfold Grid.area
      dsimp only
      rw [h.left_succ hbounds.1.1, h.top_succ hbounds.2.1]
      simp only [Option.bind_eq_bind, Option.bind_some, add_sub_cancel_left]
      rfl
    · intro col' row'
      dsimp only
      rw [hcol, hrow]
      unfold Block.Has Interval.Has
      dsimp only
      constructor
      · rintro ⟨hc, hr⟩
        have hc' : col' = col := by omega
        have hr' : row' = row := by omega
        rw [hc', hr']
        exact ⟨hbounds, rfl, rfl⟩
      · rintro ⟨_, rfl, rfl⟩
        omega

theorem Extracted.inside {plan : CellPlan} (hmem : plan ∈ layout.plans) :
    ∃ rect, layout.cellRect plan = some rect ∧ rect.Within layout.gridRect := by
  rw [h.plans_eq, mem_planCells] at hmem
  obtain ⟨col, row, hbounds, hplan⟩ := hmem
  obtain ⟨block, hrect, hhas⟩ := h.cellRect_eq hbounds hplan
  refine ⟨h.grid.area block, hrect, ?_⟩
  rw [h.gridRect_eq]
  have hlo := ((hhas block.cols.lo block.rows.lo).mp
    ⟨⟨Nat.le_refl _, block.cols.le⟩, Nat.le_refl _, block.rows.le⟩).1
  have hhi := ((hhas block.cols.hi block.rows.hi).mp
    ⟨⟨block.cols.le, Nat.le_refl _⟩, block.rows.le, Nat.le_refl _⟩).1
  exact Grid.area_within ⟨hlo.1.1, hhi.1.2⟩ ⟨hlo.2.1, hhi.2.2⟩

theorem Extracted.apart (hdisjoint : DisjointMerges sheet) :
    layout.plans.Pairwise fun plan other => ∀ rect rect',
      layout.cellRect plan = some rect → layout.cellRect other = some rect' → rect.Apart rect' := by
  rw [h.plans_eq]
  apply planCells_pairwise
  intro col row col' row' plan plan' hbounds hbounds' hne hplan hplan' rect rect' hrect hrect'
  obtain ⟨block, hblock, hhas⟩ := h.cellRect_eq hbounds hplan
  obtain ⟨block', hblock', hhas'⟩ := h.cellRect_eq hbounds' hplan'
  rw [hrect] at hblock
  rw [hrect'] at hblock'
  rw [Option.some.inj hblock, Option.some.inj hblock']
  apply Grid.area_apart
  intro c r hcell hcell'
  exact owns_apart hdisjoint hne hplan hplan' ((hhas c r).mp hcell).2 ((hhas' c r).mp hcell').2

theorem Extracted.planned_iff (hdisjoint : DisjointMerges sheet) {merge : Merge}
    (hmerge : merge ∈ merges sheet) {col row : Nat} (hcontains : merge.contains col row = true) :
    (∃ plan ∈ layout.plans, plan.merge = some merge) ↔
      Anchored tools sheet bounds options.scale merge := by
  have hcorner : merge.contains merge.firstCol merge.firstRow = true := by
    rw [contains_iff] at hcontains ⊢
    omega
  constructor
  · rintro ⟨plan, hmem, hplanMerge⟩
    rw [h.plans_eq, mem_planCells] at hmem
    obtain ⟨col, row, hbounds, hplan⟩ := hmem
    obtain ⟨hvisible, _, hanchor, cell, hcell, hshown⟩ := planCell_eq_some hplan
    obtain ⟨rfl, rfl⟩ := hanchor merge hplanMerge
    rw [h.findColumn hbounds.1, Option.any_some] at hvisible
    rw [hplanMerge] at hshown
    exact ⟨hbounds, hvisible, cell, hcell, hshown⟩
  · rintro ⟨hbounds, hcolumn, cell, hcell, hshown⟩
    have hvisible : (findTrack layout.columns merge.firstCol).any Track.hidden = false := by
      rw [h.findColumn hbounds.1, Option.any_some]
      exact hcolumn
    obtain ⟨plan, hplan, hplanMerge⟩ :=
      planCell_anchor hvisible (hdisjoint.find hmerge hcorner) hcell hshown
    refine ⟨plan, ?_, hplanMerge⟩
    rw [h.plans_eq, mem_planCells]
    exact ⟨_, _, hbounds, hplan⟩

theorem Extracted.covers {plan : CellPlan} {merge : Merge} (hmem : plan ∈ layout.plans)
    (hmerge : plan.merge = some merge) {col row : Nat} (hbounds : bounds.Has col row)
    (hcontains : merge.contains col row = true) : ∃ rect own, layout.cellRect plan = some rect ∧
      layout.rectBetween col row col row = some own ∧ own.Within rect := by
  rw [h.plans_eq, mem_planCells] at hmem
  obtain ⟨_, _, hplanBounds, hplan⟩ := hmem
  obtain ⟨block, hrect, hhas⟩ := h.cellRect_eq hplanBounds hplan
  have howns : Owns plan col row := by
    unfold Owns
    rw [hmerge]
    exact hcontains
  obtain ⟨hcol, hrow⟩ := (hhas col row).mpr ⟨hbounds, howns⟩
  have hown := h.rectBetween_eq ⟨⟨col, col, Nat.le_refl _⟩, ⟨row, row, Nat.le_refl _⟩⟩ hbounds hbounds
  exact ⟨_, _, hrect, hown, Grid.area_within hcol hrow⟩

end Extracted

/-! ### Tiling -/

/-- A position of the range in a column and a row that are shown. -/
def Visible (sheet : Sheet) (bounds : RangeBounds) (col row : Nat) : Prop :=
  bounds.Has col row ∧ columnHidden sheet col = false ∧ rowHidden sheet row = false

/-- The top-left cell of a merged range has a fill, a border or a text. -/
def CornerShows (tools : PlanTools) (sheet : Sheet) (scale : ℚ) (merge : Merge) : Prop :=
  ∃ cell, sheet.cell merge.firstCol merge.firstRow = some cell ∧
    Shown (cellFill cell) (cellBorders cell scale) (renderValue tools cell).1

/-- The rectangles of the planned cells lie in the grid and do not overlap, and each visible position
of a merged range with something to show lies in the rectangle of that range. -/
structure Tiles (tools : PlanTools) (sheet : Sheet) (scale : ℚ) (layout : Layout) : Prop where
  inside : ∀ plan ∈ layout.plans, ∃ rect, layout.cellRect plan = some rect ∧
    rect.Within layout.gridRect
  apart : layout.plans.Pairwise fun plan other => ∀ rect rect',
    layout.cellRect plan = some rect → layout.cellRect other = some rect' → rect.Apart rect'
  covered : ∀ merge ∈ merges sheet, ∀ col row, Visible sheet layout.bounds col row →
    merge.contains col row = true → CornerShows tools sheet scale merge →
    ∃ plan ∈ layout.plans, plan.merge = some merge ∧ ∃ rect own, layout.cellRect plan = some rect ∧
      layout.rectBetween col row col row = some own ∧ own.Within rect

section Tiling
variable {tools : PlanTools} {sheet : Sheet} {normal : NormalFont} {bounds : RangeBounds}
  {options : RenderOptions} {layout : Layout}

/-- The planned cells tile the range exactly when every merged range with something to show that is
seen in the range is anchored in it. -/
theorem cells_tile_iff (hextract : extract tools sheet normal bounds options = .ok layout)
    (hdisjoint : DisjointMerges sheet) :
    Tiles tools sheet options.scale layout ↔ ∀ merge ∈ merges sheet,
      (∃ col row, Visible sheet bounds col row ∧ merge.contains col row = true) →
      CornerShows tools sheet options.scale merge →
      Anchored tools sheet bounds options.scale merge := by
  have h := extract_ok hextract
  constructor
  · rintro htiles merge hmerge ⟨col, row, hvisible, hcontains⟩ hshows
    rw [← h.planned_iff hdisjoint hmerge hcontains]
    rw [← h.bounds_eq] at hvisible
    obtain ⟨plan, hmem, hplanMerge, _⟩ := htiles.covered merge hmerge col row hvisible hcontains hshows
    exact ⟨plan, hmem, hplanMerge⟩
  · intro hanchored
    refine ⟨fun plan hmem => h.inside hmem, h.apart hdisjoint, ?_⟩
    intro merge hmerge col row hvisible hcontains hshows
    rw [h.bounds_eq] at hvisible
    obtain ⟨plan, hmem, hplanMerge⟩ := (h.planned_iff hdisjoint hmerge hcontains).mpr
      (hanchored merge hmerge ⟨col, row, hvisible, hcontains⟩ hshows)
    exact ⟨plan, hmem, hplanMerge, h.covers hmem hplanMerge hvisible.1 hcontains⟩

/-! ### A merged heading -/

def samplePlanTools : PlanTools where
  general _ := ['0']
  renderScientific _ _ _ := none
  formattedValue _ := ""
  wrapLines _ _ _ _ := 1

/-- `A1:B2` is merged and has a text; one column is hidden. -/
def headingSheet (hiddenCol : Nat) : Sheet where
  defaultColumnWidth := 0
  baseColumnWidth := 8
  defaultRowHeight := 15
  columnDimension col := if col = hiddenCol then some ⟨10, true⟩ else none
  rowDimension _ := none
  mergeCells := [⟨some 1, some 1, some 2, some 2⟩]
  cell col row :=
    if col = 1 ∧ row = 1 then some ⟨.other "Total", "", none, none, none, none⟩ else none

def calibri : NormalFont := ⟨"Calibri", 11, by norm_num⟩

theorem headingSheet_extracts (hiddenCol : Nat) : ∃ layout,
    extract samplePlanTools (headingSheet hiddenCol) calibri ⟨1, 3, 1, 3⟩ ⟨1, false⟩ = .ok layout := by
  unfold extract
  rw [if_neg (by decide), if_neg (by decide), if_neg (by norm_num)]
  exact ⟨_, rfl⟩

theorem headingSheet_disjoint (hiddenCol : Nat) : DisjointMerges (headingSheet hiddenCol) :=
  List.pairwise_singleton _ _

theorem headingSheet_shown (edges : Edges) :
    Shown (cellFill ⟨.other "Total", "", none, none, none, none⟩) edges
      (renderValue samplePlanTools ⟨.other "Total", "", none, none, none, none⟩).1 := by
  right
  right
  simp [renderValue]

/-- With the fourth column hidden the heading is anchored. -/
theorem headingSheet_tiles : ∃ layout,
    extract samplePlanTools (headingSheet 4) calibri ⟨1, 3, 1, 3⟩ ⟨1, false⟩ = .ok layout ∧
      Tiles samplePlanTools (headingSheet 4) 1 layout := by
  obtain ⟨layout, hextract⟩ := headingSheet_extracts 4
  refine ⟨layout, hextract, (cells_tile_iff hextract (headingSheet_disjoint 4)).mpr ?_⟩
  intro merge hmerge _ _
  rw [List.mem_singleton.mp hmerge]
  exact ⟨by unfold RangeBounds.Has; decide, rfl, _, rfl, headingSheet_shown _⟩

/-- A heading whose first column is hidden is not drawn over its second. -/
theorem hidden_heading_uncovered : ¬ ∀ (tools : PlanTools) (sheet : Sheet) (normal : NormalFont)
    (bounds : RangeBounds) (options : RenderOptions) (layout : Layout),
    extract tools sheet normal bounds options = .ok layout → DisjointMerges sheet →
    Tiles tools sheet options.scale layout := by
  intro hall
  obtain ⟨layout, hextract⟩ := headingSheet_extracts 1
  have htiles := hall _ _ _ _ _ _ hextract (headingSheet_disjoint 1)
  have h := extract_ok hextract
  have hvisible : Visible (headingSheet 1) layout.bounds 2 1 := by
    rw [h.bounds_eq]
    exact ⟨by unfold RangeBounds.Has; decide, rfl, rfl⟩
  obtain ⟨plan, hmem, hmerge, _⟩ := htiles.covered ⟨1, 1, 2, 2⟩ List.mem_cons_self 2 1 hvisible
    (by decide) ⟨_, rfl, headingSheet_shown _⟩
  have hanchored := (h.planned_iff (headingSheet_disjoint 1) List.mem_cons_self
    (by decide : Merge.contains ⟨1, 1, 2, 2⟩ 2 1 = true)).mp ⟨plan, hmem, hmerge⟩
  have hcolumn := hanchored.column
  contradiction

end Tiling

end AgentSpreadsheet.Render
