import AgentSpreadsheet.Clone.Formula
import AgentSpreadsheet.Clone.RowsAgree

/-! A cloned row beside an inserted and copied one. The clone takes its formulas and the texts of
its values from before the insertion, the copy takes the cells themselves from after it. -/
namespace AgentSpreadsheet.Clone
open Library
open Sheets (Book OpenWorkbook formulaCell valueCell)

/-- `parse` reads a formula and `canonicalFormula` writes one. -/
structure FormulaTools extends RowTools where
  parse : String → Result ASTNode
  canonicalFormula : ASTNode → String

/-- The shift of a formula is that of its references. -/
def FormulaTools.engine (tools : FormulaTools) : RowTools :=
  { tools.toRowTools with
    shiftFormula := fun formula deltaCol deltaRow => do
      let ast ← tools.parse formula
      let shifted ← ast.shift deltaCol deltaRow
      pure (tools.canonicalFormula shifted) }

/-- A shifted formula reads back; rows count from 1. Inserting rows adjusts the references to the
formula's own sheet and leaves the text of others alone. -/
structure FormulaTools.Lawful (tools : FormulaTools) (name : String) : Prop where
  reads : ∀ formula ast delta shifted, tools.parse formula = .ok ast →
    ast.shift 0 delta = .ok shifted →
      tools.parse (stripEquals (tools.canonicalFormula shifted)) = .ok shifted
  rows : ∀ formula ast, tools.parse formula = .ok ast → ∀ mark ∈ ast.marks name, 1 ≤ mark.row
  inserts : ∀ line count formula ast, tools.parse formula = .ok ast →
    tools.parse (tools.adjustFormula line count formula) = .ok (ast.insertRows name line count)
  keeps : ∀ line count formula ast, tools.parse formula = .ok ast →
    ast.insertRows name line count = ast → tools.adjustFormula line count formula = formula
  unread : ∀ line count formula error, tools.parse formula = .error error →
    ∃ error', tools.parse (tools.adjustFormula line count formula) = .error error'

/-! ### One formula -/

section Travel
variable (tools : FormulaTools) (name : String) (sourceRow insertAt count destRow : Nat)

def movedRow : Nat := Interval.inserted insertAt count sourceRow

/-- A relative row keeps its distance from the source row, an absolute one its place. -/
def RowMark.Travels (mark : RowMark) : Prop :=
  if mark.abs then mark.inserted insertAt count = mark.row
  else mark.inserted insertAt count + sourceRow = mark.row + movedRow sourceRow insertAt count

/-- The row can be shifted from where the insertion puts it. -/
def RowMark.CopyShifts (mark : RowMark) : Prop :=
  (mark.renumber (RowMark.inserted insertAt count)).Shifts
    (destRow - movedRow sourceRow insertAt count)

instance (mark : RowMark) : Decidable (mark.CopyShifts sourceRow insertAt count destRow) :=
  inferInstanceAs (Decidable (RowMark.Shifts _ _))

/-- A formula comes to the same row by both ways: its references travel with it; or it cannot be
shifted and names no row that the insertion moves; or only its copy cannot be shifted, the shift
moves each row as the insertion does, and the formula is written as the engine writes it. -/
def FormulaTravels (formula : String) : Prop :=
  match tools.parse formula with
  | .error _ => tools.adjustFormula insertAt count formula = formula
  | .ok ast =>
    if ∀ mark ∈ ast.marks name, mark.Shifts (destRow - sourceRow) then
      (∀ mark ∈ ast.marks name, mark.Travels sourceRow insertAt count) ∨
        (∃ mark ∈ ast.marks name, ¬mark.CopyShifts sourceRow insertAt count destRow) ∧
        (∀ mark ∈ ast.marks name,
          mark.shifted (destRow - sourceRow) = mark.inserted insertAt count) ∧
        stripEquals (tools.canonicalFormula (ast.insertRows name insertAt count)) =
          tools.adjustFormula insertAt count formula
    else ∀ mark ∈ ast.marks name, mark.inserted insertAt count = mark.row

end Travel

section Formula
variable {tools : FormulaTools} {name : String} {sourceRow insertAt count destRow : Nat}

theorem shiftedTemplate_error {formula : String} {error : String} {delta : Int}
    (h : tools.parse formula = .error error) :
    shiftedTemplate tools.engine formula delta = formula := by
  unfold shiftedTemplate FormulaTools.engine
  dsimp only
  rw [h]
  rfl

theorem shiftedTemplate_ok {formula : String} {ast : ASTNode} {delta : Int}
    (h : tools.parse formula = .ok ast) :
    shiftedTemplate tools.engine formula delta =
      if ∀ mark ∈ ast.marks name, mark.Shifts delta then
        stripEquals (tools.canonicalFormula (ast.mapRows name (RowMark.shifted delta)))
      else formula := by
  have hengine : tools.engine.shiftFormula formula 0 delta =
      (ast.shift 0 delta).map tools.canonicalFormula := by
    change (tools.parse formula >>= _) = _
    rw [h]
    change (ast.shift 0 delta >>= _) = _
    cases ast.shift 0 delta <;> rfl
  unfold shiftedTemplate
  rw [hengine]
  by_cases hall : ∀ mark ∈ ast.marks name, mark.Shifts delta
  · rw [if_pos hall, (ASTNode.shift_eq_ok ast).mpr ⟨hall, rfl⟩]
    rfl
  · rw [if_neg hall]
    cases hshift : ast.shift 0 delta with
    | error e => rfl
    | ok shifted => exact absurd ((ASTNode.shift_eq_ok ast).mp hshift).1 hall

theorem copyShifts_of_travels {mark : RowMark} (hrow : 1 ≤ mark.row)
    (hshifts : mark.Shifts (destRow - sourceRow)) (h : mark.Travels sourceRow insertAt count) :
    mark.CopyShifts sourceRow insertAt count destRow := by
  unfold RowMark.Travels at h
  unfold RowMark.CopyShifts RowMark.Shifts RowMark.renumber
  unfold RowMark.Shifts at hshifts
  cases habs : mark.abs with
  | true => exact Or.inl rfl
  | false =>
    rw [habs] at h hshifts
    simp only [Bool.false_eq_true, if_false, false_or] at h hshifts
    right
    right
    dsimp only
    omega

theorem travels_iff {mark : RowMark} (hshifts : mark.Shifts (destRow - sourceRow))
    (hcopy : mark.CopyShifts sourceRow insertAt count destRow) :
    mark.shifted (destRow - sourceRow) =
        (mark.renumber (RowMark.inserted insertAt count)).shifted
          (destRow - movedRow sourceRow insertAt count) ↔
      mark.Travels sourceRow insertAt count := by
  unfold RowMark.CopyShifts RowMark.Shifts RowMark.renumber at hcopy
  unfold RowMark.Shifts at hshifts
  unfold RowMark.shifted RowMark.Travels RowMark.renumber
  cases habs : mark.abs with
  | true =>
    simp only [if_true]
    exact eq_comm
  | false =>
    rw [habs] at hshifts hcopy
    simp only [Bool.false_eq_true, if_false, false_or] at hshifts hcopy ⊢
    omega

/-- A row that the clone cannot shift the copy cannot shift either. -/
theorem not_copyShifts {mark : RowMark} (hdest : insertAt ≤ destRow)
    (h : ¬mark.Shifts (destRow - sourceRow)) :
    ¬mark.CopyShifts sourceRow insertAt count destRow := by
  have hmoved : mark.inserted insertAt count ≤ mark.row + count := by
    unfold RowMark.inserted Sheets.adjustInsertBounded Sheets.adjustInsert Sheets.saturatingAdd
    split
    · split <;> omega
    · omega
  unfold RowMark.CopyShifts RowMark.Shifts RowMark.renumber movedRow Interval.inserted
  unfold RowMark.Shifts at h
  intro hcopy
  dsimp only at hcopy
  apply h
  cases habs : mark.abs with
  | true => exact Or.inl rfl
  | false =>
    rw [habs] at hcopy h
    simp only [Bool.false_eq_true, false_or] at hcopy h ⊢
    split at hcopy <;> omega

theorem adjustedTemplate_ok (hlaw : tools.Lawful name) {formula : String} {ast : ASTNode}
    (h : tools.parse formula = .ok ast) :
    shiftedTemplate tools.engine (tools.adjustFormula insertAt count formula)
        (destRow - movedRow sourceRow insertAt count) =
      if ∀ mark ∈ ast.marks name, mark.CopyShifts sourceRow insertAt count destRow then
        stripEquals (tools.canonicalFormula (ast.mapRows name fun mark =>
          (mark.renumber (RowMark.inserted insertAt count)).shifted
            (destRow - movedRow sourceRow insertAt count)))
      else tools.adjustFormula insertAt count formula := by
  rw [@shiftedTemplate_ok tools name _ _ _ (hlaw.inserts insertAt count formula ast h)]
  unfold ASTNode.insertRows
  rw [ASTNode.marks_mapRows, ASTNode.mapRows_mapRows]
  simp only [List.forall_mem_map]
  rfl

theorem adjusted_reads (hlaw : tools.Lawful name) {formula : String} {ast : ASTNode}
    (h : tools.parse formula = .ok ast)
    (hcopy : ∀ mark ∈ ast.marks name, mark.CopyShifts sourceRow insertAt count destRow) :
    tools.parse (stripEquals (tools.canonicalFormula (ast.mapRows name fun mark =>
        (mark.renumber (RowMark.inserted insertAt count)).shifted
          (destRow - movedRow sourceRow insertAt count)))) =
      .ok (ast.mapRows name fun mark => (mark.renumber (RowMark.inserted insertAt count)).shifted
        (destRow - movedRow sourceRow insertAt count)) := by
  refine hlaw.reads _ _ (destRow - movedRow sourceRow insertAt count) _
    (hlaw.inserts insertAt count formula ast h) ((@ASTNode.shift_eq_ok name _ _ _).mpr ?_)
  unfold ASTNode.insertRows
  rw [ASTNode.marks_mapRows, ASTNode.mapRows_mapRows]
  exact ⟨List.forall_mem_map.mpr hcopy, rfl⟩

theorem adjusts_iff (hlaw : tools.Lawful name) {formula : String} {ast : ASTNode}
    (h : tools.parse formula = .ok ast) :
    formula = tools.adjustFormula insertAt count formula ↔
      ∀ mark ∈ ast.marks name, mark.inserted insertAt count = mark.row := by
  rw [← ASTNode.mapRows_eq_iff, ASTNode.mapRows_row]
  constructor
  · intro hsame
    have hinserts := hlaw.inserts insertAt count formula ast h
    rw [← hsame, h] at hinserts
    exact (Except.ok.inj hinserts).symm
  · exact fun hkeep => (hlaw.keeps insertAt count formula ast h hkeep).symm

theorem formulaTravels_iff (hlaw : tools.Lawful name) (hdest : insertAt ≤ destRow)
    (formula : String) :
    shiftedTemplate tools.engine formula (destRow - sourceRow) =
        shiftedTemplate tools.engine (tools.adjustFormula insertAt count formula)
          (destRow - movedRow sourceRow insertAt count) ↔
      FormulaTravels tools name sourceRow insertAt count destRow formula := by
  unfold FormulaTravels
  cases hparse : tools.parse formula with
  | error e =>
    obtain ⟨e', hparse'⟩ := hlaw.unread insertAt count formula e hparse
    rw [shiftedTemplate_error hparse, shiftedTemplate_error hparse']
    exact eq_comm
  | ok ast =>
    rw [@shiftedTemplate_ok tools name _ _ _ hparse, adjustedTemplate_ok hlaw hparse]
    dsimp only
    by_cases hshifts : ∀ mark ∈ ast.marks name, mark.Shifts (destRow - sourceRow)
    · rw [if_pos hshifts, if_pos hshifts]
      have hread := hlaw.reads formula ast (destRow - sourceRow) _ hparse
        ((@ASTNode.shift_eq_ok name _ ast _).mpr ⟨hshifts, rfl⟩)
      by_cases hcopy : ∀ mark ∈ ast.marks name, mark.CopyShifts sourceRow insertAt count destRow
      · rw [if_pos hcopy]
        have hread' := adjusted_reads hlaw hparse hcopy
        have htravels : ast.mapRows name (RowMark.shifted (destRow - sourceRow)) =
            ast.mapRows name (fun mark => (mark.renumber (RowMark.inserted insertAt count)).shifted
              (destRow - movedRow sourceRow insertAt count)) ↔
            ∀ mark ∈ ast.marks name, mark.Travels sourceRow insertAt count := by
          rw [ASTNode.mapRows_eq_iff]
          exact forall₂_congr fun mark hmark =>
            travels_iff (hshifts mark hmark) (hcopy mark hmark)
        constructor
        · intro htext
          rw [htext, hread'] at hread
          exact Or.inl (htravels.mp (Except.ok.inj hread).symm)
        · intro h
          cases h with
          | inl h => rw [htravels.mpr h]
          | inr h =>
            obtain ⟨⟨mark, hmark, hnot⟩, _⟩ := h
            exact absurd (hcopy mark hmark) hnot
      · rw [if_neg hcopy]
        have hsame : ast.mapRows name (RowMark.shifted (destRow - sourceRow)) =
            ast.insertRows name insertAt count ↔ ∀ mark ∈ ast.marks name,
              mark.shifted (destRow - sourceRow) = mark.inserted insertAt count :=
          ASTNode.mapRows_eq_iff ast
        constructor
        · intro htext
          have hadjusted := hlaw.inserts insertAt count formula ast hparse
          rw [← htext, hread] at hadjusted
          have hequal := Except.ok.inj hadjusted
          rw [hequal] at htext
          exact Or.inr ⟨by simpa using hcopy, hsame.mp hequal, htext⟩
        · intro h
          cases h with
          | inl h =>
            exact absurd (fun mark hmark => copyShifts_of_travels
              (hlaw.rows formula ast hparse mark hmark) (hshifts mark hmark) (h mark hmark)) hcopy
          | inr h => rw [hsame.mpr h.2.1, h.2.2]
    · rw [if_neg hshifts, if_neg hshifts]
      have hcopy : ¬∀ mark ∈ ast.marks name,
          mark.CopyShifts sourceRow insertAt count destRow := by
        intro hall
        apply hshifts
        intro mark hmark
        by_contra hnot
        exact not_copyShifts hdest hnot (hall mark hmark)
      rw [if_neg hcopy]
      exact adjusts_iff hlaw hparse

end Formula

/-! ### Copied rows -/

def openBook (book : Book CloneSheet) : OpenWorkbook where
  sheets := book.names
  cells key := (book.sheetByName key.1).bind fun sheet => sheet.grid.cell key.2
  format _ := {}
  definedNames := []

section Copies
variable (tools : RowTools) (name : String)

/-- Copy the first columns of a row, formulas and styles with them. -/
def copyRowTo (width sourceRow destRow : Nat) (book : OpenWorkbook) : Result OpenWorkbook :=
  Sheets.copyOrMoveRange tools.toEditTools .warn name name
    (.cells (1, sourceRow) (width, sourceRow)) (1, destRow) true true false book

/-- Insert rows, and copy the source row from where it is then into each of them. -/
def insertAndCopy (sourceRow insertAt count width : Nat) (book : Book CloneSheet) :
    Result OpenWorkbook := do
  let book ← applyInsertRows tools name insertAt count false book
  (List.range count).foldlM (fun book copy =>
    copyRowTo tools name width (movedRow sourceRow insertAt count) (insertAt + copy) book)
    (openBook book)

/-- What a copy makes of a cell, whatever stood at its target. -/
def copyOf (delta : Int) (cell : Cell) : Cell :=
  match cell.formula with
  | some formula =>
    formulaCell tools.toEditTools (shiftedTemplate tools formula delta) cell
  | none => cell

def stampOf (delta : Int) (cell : Cell) : Cell :=
  match cell.formula with
  | some formula =>
    formulaCell tools.toEditTools (shiftedTemplate tools formula delta) cell
  | none => valueCell tools.toEditTools (tools.cellText cell.value) cell

end Copies

section CopyCells
variable {tools : RowTools} {name : String} {book : OpenWorkbook}

theorem copyCell_eq {copy : Sheets.RangeCopy} (hstyles : copy.includeStyles = true)
    (hformulas : copy.includeFormulas = true) (hcols : copy.dest.1 = copy.src.1)
    (offset : Nat × Nat) :
    copy.copyCell tools.toEditTools .warn book offset = .ok (book.setCell (copy.destKey offset)
      ((book.cells (copy.srcKey offset)).map (copyOf tools (copy.dest.2 - copy.src.2)))) := by
  have hshifted (formula : String) : copy.shifted tools.toEditTools .warn formula =
      .ok (shiftedTemplate tools formula (copy.dest.2 - copy.src.2)) := by
    unfold Sheets.RangeCopy.shifted shiftedTemplate
    rw [hcols, Int.sub_self]
    cases tools.shiftFormula formula 0 (copy.dest.2 - copy.src.2) <;> rfl
  unfold Sheets.RangeCopy.copyCell
  cases book.cells (copy.srcKey offset) with
  | none => rfl
  | some source =>
    obtain ⟨value, formula, style⟩ := source
    unfold Sheets.RangeCopy.copiedCell
    rw [hstyles, hformulas]
    cases formula with
    | none => rfl
    | some formula =>
      dsimp only
      rw [hshifted]
      rfl

theorem copyCells_ok {copy : Sheets.RangeCopy} (hstyles : copy.includeStyles = true)
    (hformulas : copy.includeFormulas = true) (hcols : copy.dest.1 = copy.src.1)
    (hapart : ∀ a ∈ copy.offsets, ∀ b ∈ copy.offsets, copy.srcKey a ≠ copy.destKey b)
    {offsets : List (Nat × Nat)} (hoffsets : ∀ offset ∈ offsets, offset ∈ copy.offsets) :
    ∃ copied, offsets.foldlM (copy.copyCell tools.toEditTools .warn) book = .ok copied ∧
      copied.sheets = book.sheets ∧
      (∀ offset ∈ offsets, copied.cells (copy.destKey offset) =
        (book.cells (copy.srcKey offset)).map (copyOf tools (copy.dest.2 - copy.src.2))) ∧
      ∀ key, (∀ offset ∈ offsets, key ≠ copy.destKey offset) →
        copied.cells key = book.cells key := by
  induction offsets generalizing book with
  | nil => exact ⟨book, rfl, rfl, by simp, fun _ _ => rfl⟩
  | cons first rest ih =>
    have hfirst := hoffsets first List.mem_cons_self
    have hrest : ∀ offset ∈ rest, offset ∈ copy.offsets :=
      fun offset hoffset => hoffsets offset (List.mem_cons_of_mem _ hoffset)
    obtain ⟨copied, hcopied, hsheets, htargets, hothers⟩ :=
      @ih (book.setCell (copy.destKey first)
        ((book.cells (copy.srcKey first)).map (copyOf tools (copy.dest.2 - copy.src.2)))) hrest
    refine ⟨copied, ?_, hsheets, ?_, ?_⟩
    · rw [List.foldlM_cons, copyCell_eq hstyles hformulas hcols]
      exact hcopied
    · intro offset hoffset
      by_cases hmem : offset ∈ rest
      · rw [htargets offset hmem]
        unfold OpenWorkbook.setCell
        dsimp only
        rw [Function.update_of_ne (hapart offset (hrest offset hmem) first hfirst)]
      · obtain rfl : offset = first := by
          cases List.mem_cons.mp hoffset with
          | inl h => exact h
          | inr h => contradiction
        rw [hothers]
        · exact Function.update_self _ _ _
        · intro other hother h
          exact hmem (Sheets.RangeCopy.destKey_injective h ▸ hother)
    · intro key hkey
      rw [hothers key fun offset hoffset => hkey offset (List.mem_cons_of_mem _ hoffset)]
      exact Function.update_of_ne (hkey first List.mem_cons_self) _ _

theorem copyRowTo_ok {width sourceRow destRow : Nat} (hname : name ∈ book.sheets)
    (hwidth : 1 ≤ width ∧ width < 2 ^ 32) (hdest : destRow < 2 ^ 32) (hne : sourceRow ≠ destRow) :
    ∃ copied, copyRowTo tools name width sourceRow destRow book = .ok copied ∧
      copied.sheets = book.sheets ∧ ∀ key, copied.cells key =
        if key.1 = name ∧ (1 ≤ key.2.1 ∧ key.2.1 ≤ width) ∧ key.2.2 = destRow then
          (book.cells (name, key.2.1, sourceRow)).map (copyOf tools (destRow - sourceRow))
        else book.cells key := by
  let copy := Sheets.rangeCopy name name ⟨.between 1 width, .between sourceRow sourceRow⟩
    (1, destRow) true true
  have hsize : copy.src = (1, sourceRow) ∧ copy.dest = (1, destRow) ∧ copy.width = width ∧
      copy.height = 1 := by
    unfold copy Sheets.rangeCopy Interval.between
    simp [hwidth.1]
  have hmem (offset : Nat × Nat) : offset ∈ copy.offsets ↔ offset.1 < width ∧ offset.2 = 0 := by
    rw [Sheets.RangeCopy.mem_offsets, hsize.2.2.1, hsize.2.2.2]
    omega
  have hsrc (offset : Nat × Nat) :
      copy.srcKey offset = (name, 1 + offset.1, sourceRow + offset.2) := by
    unfold Sheets.RangeCopy.srcKey
    rw [hsize.1]
    rfl
  have htarget (offset : Nat × Nat) :
      copy.destKey offset = (name, 1 + offset.1, destRow + offset.2) := by
    unfold Sheets.RangeCopy.destKey
    rw [hsize.2.1]
    rfl
  have hapart : ∀ a ∈ copy.offsets, ∀ b ∈ copy.offsets, copy.srcKey a ≠ copy.destKey b := by
    intro a ha b hb h
    rw [hsrc, htarget, Prod.mk.injEq, Prod.mk.injEq, ((hmem a).mp ha).2, ((hmem b).mp hb).2] at h
    exact hne h.2.2
  obtain ⟨copied, hcopied, hsheets, htargets, hothers⟩ := @copyCells_ok tools book copy rfl rfl
    (by rw [hsize.1, hsize.2.1]) hapart copy.offsets fun _ h => h
  refine ⟨copied, ?_, hsheets, fun key => ?_⟩
  · unfold copyRowTo Sheets.copyOrMoveRange
    simp only [Sheets.parseRangeBounds, bind_eq_ok, ensure_eq_ok, Except.ok.injEq, exists_eq_left',
      OpenWorkbook.requireSheet, pure_eq_ok]
    refine ⟨(), ?_, (), ?_, (), ?_, (), hname, (), hname, copied, hcopied, rfl⟩
    · simp only [Sheets.Bounds.movedTo, Interval.between]
      omega
    · simp only [Sheets.Bounds.movedTo, Interval.between]
      omega
    · simp only [Sheets.Bounds.Meets, Sheets.Bounds.movedTo, Interval.Meets, Interval.between]
      omega
  · obtain ⟨sheet, col, row⟩ := key
    by_cases hkey : sheet = name ∧ (1 ≤ col ∧ col ≤ width) ∧ row = destRow
    · rw [if_pos hkey]
      obtain ⟨rfl, hcol, rfl⟩ := hkey
      have hoffset := htargets (col - 1, 0) ((hmem _).mpr ⟨by dsimp only; omega, rfl⟩)
      rw [hsrc, htarget, hsize.1, hsize.2.1] at hoffset
      dsimp only [Nat.add_zero] at hoffset
      rw [Nat.add_sub_cancel' hcol.1] at hoffset
      exact hoffset
    · rw [if_neg hkey]
      apply hothers
      intro offset hoffset h
      rw [htarget, Prod.mk.injEq, Prod.mk.injEq] at h
      have := (hmem offset).mp hoffset
      apply hkey
      refine ⟨h.1, ?_, ?_⟩
      · omega
      · omega

theorem copyRows_ok {width sourceRow insertAt : Nat} (hname : name ∈ book.sheets)
    (hwidth : 1 ≤ width ∧ width < 2 ^ 32) {count : Nat} (hdest : insertAt + count ≤ 2 ^ 32)
    (hapart : ¬(insertAt ≤ sourceRow ∧ sourceRow < insertAt + count)) :
    ∃ copied, (List.range count).foldlM (fun book copy =>
        copyRowTo tools name width sourceRow (insertAt + copy) book) book = .ok copied ∧
      copied.sheets = book.sheets ∧ ∀ key, copied.cells key =
        if key.1 = name ∧ (1 ≤ key.2.1 ∧ key.2.1 ≤ width) ∧
            insertAt ≤ key.2.2 ∧ key.2.2 < insertAt + count then
          (book.cells (name, key.2.1, sourceRow)).map (copyOf tools (key.2.2 - sourceRow))
        else book.cells key := by
  induction count with
  | zero =>
    refine ⟨book, rfl, rfl, fun key => ?_⟩
    rw [if_neg]
    omega
  | succ count ih =>
    obtain ⟨copied, hcopied, hsheets, hcells⟩ := ih (by omega) (by omega)
    obtain ⟨copied', hcopied', hsheets', hcells'⟩ := @copyRowTo_ok tools name copied width sourceRow
      (insertAt + count) (hsheets ▸ hname) hwidth (by omega) (by omega)
    refine ⟨copied', ?_, hsheets'.trans hsheets, fun key => ?_⟩
    · rw [List.range_succ, List.foldlM_append, hcopied]
      change copyRowTo tools name width sourceRow (insertAt + count) copied >>= pure = _
      rw [hcopied']
      rfl
    · obtain ⟨sheet, col, row⟩ := key
      have hsource : copied.cells (name, col, sourceRow) = book.cells (name, col, sourceRow) := by
        rw [hcells, if_neg]
        intro h
        exact hapart ⟨h.2.2.1, Nat.lt_succ_of_lt h.2.2.2⟩
      rw [hcells', hsource, hcells]
      dsimp only
      by_cases hrow : row = insertAt + count
      · subst hrow
        by_cases hplace : sheet = name ∧ 1 ≤ col ∧ col ≤ width
        · rw [if_pos ⟨hplace.1, hplace.2, rfl⟩, if_pos ⟨hplace.1, hplace.2, by omega, by omega⟩]
        · rw [if_neg fun h => hplace ⟨h.1, h.2.1⟩, if_neg fun h => hplace ⟨h.1, h.2.1⟩,
            if_neg fun h => hplace ⟨h.1, h.2.1⟩]
      · rw [if_neg fun h => hrow h.2.2]
        have hrows : insertAt ≤ row ∧ row < insertAt + count ↔
            insertAt ≤ row ∧ row < insertAt + (count + 1) := by omega
        exact if_congr (and_congr_right fun _ => and_congr_right fun _ => hrows) rfl rfl

end CopyCells

/-! ### Stamped rows -/

section Stamped
variable {tools : RowTools} {source grid : Grid} {sourceRow : Nat}

theorem stampCell_eq (col : Nat) (cell target : Cell) (delta : Int) :
    stampCell tools ⟨col, tools.cellText cell.value, cell.formula, cell.style⟩ delta target =
      stampOf tools delta cell := by
  obtain ⟨value, formula, style⟩ := cell
  cases formula <;> rfl

theorem stampColumns_cell (columns : List Nat) (destRow : Nat) (position : Position) :
    (stampRow tools (columns.filterMap fun col => (source.cell (col, sourceRow)).map fun cell =>
        ⟨col, tools.cellText cell.value, cell.formula, cell.style⟩) sourceRow destRow grid).cell
        position =
      if position.1 ∈ columns ∧ position.2 = destRow then
        ((source.cell (position.1, sourceRow)).map (stampOf tools (destRow - sourceRow))).or
          (grid.cell position)
      else grid.cell position := by
  unfold stampRow
  induction columns generalizing grid with
  | nil => simp
  | cons col rest ih =>
    cases hcell : source.cell (col, sourceRow) with
    | none =>
      rw [List.filterMap_cons_none (by rw [hcell]; rfl), ih]
      by_cases hcol : position.1 = col
      · rw [hcol, hcell, Option.map_none, Option.none_or, ite_self, ite_self]
      · simp only [List.mem_cons, hcol, false_or]
    | some cell =>
      rw [List.filterMap_cons_some (by rw [hcell]; rfl), List.foldl_cons, ih]
      by_cases hplace : position = (col, destRow)
      · subst hplace
        have hself : (grid.setCell tools.toCloneTools (col, destRow) (stampCell tools
            ⟨col, tools.cellText cell.value, cell.formula, cell.style⟩ (destRow - sourceRow)
              ((grid.cell (col, destRow)).getD {}))).cell (col, destRow) =
            some (stampOf tools (destRow - sourceRow) cell) := by
          rw [stampCell_eq]
          exact Function.update_self _ _ _
        rw [hself, hcell, Option.map_some, Option.some_or, Option.some_or, ite_self,
          if_pos ⟨List.mem_cons_self, rfl⟩]
      · have hother : (grid.setCell tools.toCloneTools (col, destRow) (stampCell tools
            ⟨col, tools.cellText cell.value, cell.formula, cell.style⟩ (destRow - sourceRow)
              ((grid.cell (col, destRow)).getD {}))).cell position = grid.cell position :=
          Function.update_of_ne hplace _ _
        rw [hother]
        apply if_congr _ rfl rfl
        rw [List.mem_cons]
        constructor
        · exact fun h => ⟨Or.inr h.1, h.2⟩
        · intro h
          cases h.1 with
          | inl hcol => exact absurd (Prod.ext hcol h.2) hplace
          | inr hrest => exact ⟨hrest, h.2⟩

theorem stampTemplateRows_cell {insertAt : Nat} (count : Nat) (position : Position) :
    (stampTemplateRows tools (captureRowTemplate tools source sourceRow) sourceRow insertAt count
        grid).cell position =
      if position.1 ∈ source.columns ∧ insertAt ≤ position.2 ∧ position.2 < insertAt + count then
        ((source.cell (position.1, sourceRow)).map (stampOf tools (position.2 - sourceRow))).or
          (grid.cell position)
      else grid.cell position := by
  have htemplate : captureRowTemplate tools source sourceRow =
      source.columns.filterMap fun col => (source.cell (col, sourceRow)).map fun cell =>
        ⟨col, tools.cellText cell.value, cell.formula, cell.style⟩ := by
    unfold captureRowTemplate Grid.rowCells
    rw [List.map_filterMap]
    apply List.filterMap_congr
    intro col _
    rw [Option.map_map]
    rfl
  rw [htemplate]
  unfold stampTemplateRows
  induction count with
  | zero =>
    rw [if_neg]
    · rfl
    · omega
  | succ count ih =>
    obtain ⟨col, row⟩ := position
    rw [List.range_succ, List.foldl_append, List.foldl_cons, List.foldl_nil, stampColumns_cell, ih]
    dsimp only
    by_cases hrow : row = insertAt + count
    · subst hrow
      have hinner : ¬(col ∈ source.columns ∧ insertAt ≤ insertAt + count ∧
          insertAt + count < insertAt + count) := by omega
      rw [if_neg hinner]
      apply if_congr _ rfl rfl
      exact and_congr_right fun _ => by omega
    · rw [if_neg fun h => hrow h.2]
      apply if_congr _ rfl rfl
      exact and_congr_right fun _ => by omega

end Stamped

/-! ### Both ways -/

section Agreement
variable (tools : FormulaTools) (name : String) (sourceRow insertAt count : Nat)

/-- A row that comes out the same by both ways. -/
def RowTravels (source : Grid) : Prop :=
  ∀ col cell, 1 ≤ col → source.cell (col, sourceRow) = some cell →
    match cell.formula with
    | some formula => ∀ copy < count,
      FormulaTravels tools name sourceRow insertAt count (insertAt + copy) formula
    | none => tools.guessTypedData (tools.cellText cell.value) = cell.value

/-- A clone leaves what an insertion and copies leave. -/
def ClonesByCopying (width : Nat) (book cloned : Book CloneSheet) : Prop :=
  ∃ copied, insertAndCopy tools.engine name sourceRow insertAt count width book = .ok copied ∧
    ∀ key, (openBook cloned).stored key = copied.stored key

variable {tools name sourceRow insertAt count} {book cloned : Book CloneSheet}

theorem mem_names {sheet : CloneSheet} (h : book.sheetByName name = some sheet) :
    name ∈ book.names := by
  induction book with
  | nil => contradiction
  | cons first rest ih =>
    unfold Book.sheetByName at h
    by_cases hname : first.name = name
    · exact List.mem_cons.mpr (Or.inl hname.symm)
    · rw [if_neg hname] at h
      exact List.mem_cons_of_mem _ (ih h)

theorem onSheet_others {edit : CloneSheet → Result CloneSheet}
    (h : book.onSheet name edit = .ok cloned) : cloned.names = book.names ∧
      ∀ other, other ≠ name → cloned.sheetByName other = book.sheetByName other := by
  induction book generalizing cloned with
  | nil => contradiction
  | cons first rest ih =>
    unfold Book.onSheet at h
    by_cases hname : first.name = name
    · rw [if_pos hname, bind_eq_ok] at h
      obtain ⟨body, _, hcloned⟩ := h
      rw [← pure_eq_ok.mp hcloned]
      refine ⟨rfl, fun other hother => ?_⟩
      unfold Book.sheetByName
      rw [if_neg (hname ▸ Ne.symm hother), if_neg (hname ▸ Ne.symm hother)]
    · rw [if_neg hname, bind_eq_ok] at h
      obtain ⟨rest', hrest, hcloned⟩ := h
      obtain ⟨hnames, hothers⟩ := ih hrest
      rw [← pure_eq_ok.mp hcloned]
      refine ⟨congrArg (first.name :: ·) hnames, fun other hother => ?_⟩
      unfold Book.sheetByName
      rw [hothers other hother]

theorem cloned_cells {tools : RowTools} {source : CloneSheet}
    (hsheet : book.sheetByName name = some source)
    (h : applyCloneRow tools name sourceRow insertAt count false book = .ok cloned) :
    (sourceRow ≠ 0 ∧ insertAt ≠ 0 ∧ count ≠ 0) ∧
    ∃ inserted body, insertedBook tools name insertAt count book = .ok inserted ∧
      inserted.sheetByName name = some body ∧
      body.grid = source.grid.insertNewRow tools.toCloneTools insertAt count ∧
      cloned.names = inserted.names ∧
      ∀ key, (openBook cloned).cells key =
        if key.1 = name ∧ key.2.1 ∈ source.grid.columns ∧
            insertAt ≤ key.2.2 ∧ key.2.2 < insertAt + count then
          (source.grid.cell (key.2.1, sourceRow)).map (stampOf tools (key.2.2 - sourceRow))
        else (openBook inserted).cells key := by
  unfold applyCloneRow at h
  simp only [bind_eq_ok, ensure_eq_ok, required_eq_ok] at h
  obtain ⟨_, hpositive, source', hsource', inserted, hinserted, stamped, hstamped, hcloned⟩ := h
  obtain rfl := Option.some.inj (hsheet.symm.trans hsource')
  obtain ⟨body, hbody, hgrid⟩ := insertedBook_grid hsheet hinserted
  obtain ⟨edited, hedited, hfound⟩ := @onSheet_found name inserted body (fun sheet => { sheet with
    grid := stampTemplateRows tools (captureRowTemplate tools source.grid sourceRow) sourceRow
      insertAt count sheet.grid }) hbody
  obtain rfl := Except.ok.inj (hedited.symm.trans hstamped)
  obtain rfl := Except.ok.inj ((onSheet_id hfound).symm.trans hcloned)
  obtain ⟨hnames, hothers⟩ := onSheet_others hstamped
  refine ⟨by omega, inserted, body, hinserted, hbody, hgrid, hnames, fun key => ?_⟩
  obtain ⟨sheet, col, row⟩ := key
  unfold openBook
  dsimp only
  by_cases hname : sheet = name
  · subst hname
    rw [hfound, hbody]
    change (stampTemplateRows tools (captureRowTemplate tools source.grid sourceRow) sourceRow
      insertAt count body.grid).cell (col, row) = _
    rw [stampTemplateRows_cell]
    by_cases hplace : col ∈ source.grid.columns ∧ insertAt ≤ row ∧ row < insertAt + count
    · have hblank : body.grid.cell (col, row) = none := by
        rw [hgrid]
        unfold Grid.insertNewRow Grid.origin
        dsimp only
        rw [if_neg (by omega), if_pos hplace.2.2]
        rfl
      rw [if_pos hplace, if_pos ⟨rfl, hplace⟩, hblank, Option.or_none]
    · rw [if_neg hplace, if_neg fun h => hplace h.2]
      rfl
  · rw [if_neg fun h => hname h.1, hothers sheet hname]

theorem copied_cells {tools : RowTools} {source : CloneSheet} {inserted : Book CloneSheet}
    {body : CloneSheet} {width : Nat} (hinsert : insertAt ≠ 0 ∧ count ≠ 0)
    (hinserted : insertedBook tools name insertAt count book = .ok inserted)
    (hbody : inserted.sheetByName name = some body)
    (hgrid : body.grid = source.grid.insertNewRow tools.toCloneTools insertAt count)
    (hwidth : 1 ≤ width ∧ width < 2 ^ 32) (hrows : insertAt + count ≤ 2 ^ 32) :
    ∃ copied, insertAndCopy tools name sourceRow insertAt count width book = .ok copied ∧
      copied.sheets = inserted.names ∧ ∀ key, copied.cells key =
        if key.1 = name ∧ (1 ≤ key.2.1 ∧ key.2.1 ≤ width) ∧
            insertAt ≤ key.2.2 ∧ key.2.2 < insertAt + count then
          (source.grid.cell (key.2.1, sourceRow)).map fun cell =>
            copyOf tools (key.2.2 - movedRow sourceRow insertAt count)
              (Grid.adjusted tools.toCloneTools insertAt count cell)
        else (openBook inserted).cells key := by
  have hname : name ∈ (openBook inserted).sheets := mem_names hbody
  have hmoved : Grid.origin insertAt count (movedRow sourceRow insertAt count) =
      some sourceRow := by
    unfold Grid.origin movedRow Interval.inserted
    by_cases habove : sourceRow < insertAt
    · rw [if_pos habove, if_pos habove]
    · rw [if_neg habove, if_neg (by omega), if_neg (by omega), Nat.add_sub_cancel]
  have hapart : ¬(insertAt ≤ movedRow sourceRow insertAt count ∧
      movedRow sourceRow insertAt count < insertAt + count) := by
    unfold movedRow Interval.inserted
    split <;> omega
  obtain ⟨copied, hcopied, hsheets, hcells⟩ := @copyRows_ok tools name (openBook inserted) width
    (movedRow sourceRow insertAt count) insertAt hname hwidth count hrows hapart
  refine ⟨copied, ?_, hsheets, fun key => ?_⟩
  · unfold insertAndCopy applyInsertRows
    rw [ensure_pos (by omega)]
    change ((insertedBook tools name insertAt count book >>= fun book => _) >>= fun book => _) = _
    rw [hinserted]
    change (inserted.onSheet name (fun body => .ok body) >>= fun book => _) = _
    rw [onSheet_id hbody]
    exact hcopied
  · rw [hcells]
    apply if_congr Iff.rfl _ rfl
    unfold openBook
    dsimp only
    rw [hbody, Option.bind_some, hgrid]
    unfold Grid.insertNewRow
    dsimp only
    rw [hmoved, Option.bind_some, Option.map_map]
    rfl

theorem storedCell_iff {tools : FormulaTools} (hlaw : tools.Lawful name) {destRow : Nat}
    (hdest : insertAt ≤ destRow) (cell : Cell) :
    Sheets.storedCell (some (stampOf tools.engine (destRow - sourceRow) cell)) =
        Sheets.storedCell (some (copyOf tools.engine (destRow - movedRow sourceRow insertAt count)
          (Grid.adjusted tools.toCloneTools insertAt count cell))) ↔
      match cell.formula with
      | some formula => FormulaTravels tools name sourceRow insertAt count destRow formula
      | none => tools.guessTypedData (tools.cellText cell.value) = cell.value := by
  obtain ⟨value, formula, style⟩ := cell
  cases formula with
  | none =>
    change (none, _) = (none, _) ↔ _
    rw [Prod.mk.injEq]
    exact and_iff_right rfl
  | some formula =>
    dsimp only
    rw [← formulaTravels_iff hlaw hdest]
    change (some _, _) = (some _, _) ↔ _
    rw [Prod.mk.injEq, Option.some.injEq]
    exact and_iff_left rfl

theorem clones_by_copying_iff {source : CloneSheet} {width : Nat} (hlaw : tools.Lawful name)
    (hsheet : book.sheetByName name = some source)
    (hclone : applyCloneRow tools.engine name sourceRow insertAt count false book = .ok cloned)
    (hwidth : source.grid.highestColumn ≤ width ∧ 1 ≤ width ∧ width < 2 ^ 32)
    (hrows : insertAt + count ≤ 2 ^ 32) :
    ClonesByCopying tools name sourceRow insertAt count width book cloned ↔
      RowTravels tools name sourceRow insertAt count source.grid := by
  obtain ⟨⟨_, hinsert⟩, inserted, body, hinserted, hbody, hgrid, hnames, hcells⟩ :=
    cloned_cells hsheet hclone
  obtain ⟨copied, hcopied, hsheets, hcells'⟩ := @copied_cells name sourceRow insertAt count book
    tools.engine source inserted body width hinsert hinserted hbody hgrid hwidth.2 hrows
  have hname : name ∈ inserted.names := mem_names hbody
  have hnames' : (openBook cloned).sheets = inserted.names := hnames
  have hstored : ClonesByCopying tools name sourceRow insertAt count width book cloned ↔
      ∀ key, (openBook cloned).stored key = copied.stored key := by
    constructor
    · intro h
      obtain ⟨copied', hcopied', hsame⟩ := h
      obtain rfl := Except.ok.inj (hcopied.symm.trans hcopied')
      exact hsame
    · exact fun h => ⟨copied, hcopied, h⟩
  rw [hstored]
  constructor
  · intro hsame col cell hcol hcell
    have hplaced : col ≤ source.grid.highestColumn :=
      source.grid.placed (col, sourceRow) (by rw [hcell]; rfl)
    have hcopies (copy : Nat) (hcopy : copy < count) :=
      (storedCell_iff hlaw (Nat.le_add_right insertAt copy) cell).mp (by
        have hkey := hsame (name, col, insertAt + copy)
        unfold OpenWorkbook.stored at hkey
        rw [hnames', hsheets, if_pos hname, if_pos hname, hcells, hcells',
          if_pos ⟨rfl, mem_columns.mpr ⟨hcol, hplaced⟩, by dsimp only; omega⟩,
          if_pos ⟨rfl, by dsimp only; omega⟩] at hkey
        dsimp only at hkey
        rw [hcell] at hkey
        exact hkey)
    cases hformula : cell.formula with
    | some formula =>
      intro copy hcopy
      have hcopy := hcopies copy hcopy
      rw [hformula] at hcopy
      exact hcopy
    | none =>
      have hfirst := hcopies 0 (by omega)
      rw [hformula] at hfirst
      exact hfirst
  · intro htravels key
    obtain ⟨sheet, col, row⟩ := key
    unfold OpenWorkbook.stored
    rw [hnames', hsheets, hcells, hcells']
    apply if_congr Iff.rfl _ rfl
    dsimp only
    by_cases hplace : sheet = name ∧ 1 ≤ col ∧ insertAt ≤ row ∧ row < insertAt + count
    · obtain ⟨rfl, hcol, hrow⟩ := hplace
      by_cases hplaced : col ≤ source.grid.highestColumn
      · rw [if_pos ⟨rfl, mem_columns.mpr ⟨hcol, hplaced⟩, hrow⟩, if_pos ⟨rfl, by omega, hrow⟩]
        cases hcell : source.grid.cell (col, sourceRow) with
        | none => rfl
        | some cell =>
          apply (storedCell_iff hlaw hrow.1 cell).mpr
          have hcell := htravels col cell hcol hcell
          cases hformula : cell.formula with
          | none =>
            rw [hformula] at hcell
            exact hcell
          | some formula =>
            rw [hformula] at hcell
            have hcopy := hcell (row - insertAt) (by omega)
            rw [Nat.add_sub_cancel' hrow.1] at hcopy
            exact hcopy
      · -- Right of the last column the source row and the inserted rows are blank.
        have hsource : source.grid.cell (col, sourceRow) = none := by
          by_contra hfound
          exact hplaced (source.grid.placed (col, sourceRow) (Option.isSome_iff_ne_none.mpr hfound))
        have hblank : (openBook inserted).cells (sheet, col, row) = none := by
          unfold openBook
          dsimp only
          rw [hbody, Option.bind_some, hgrid]
          unfold Grid.insertNewRow Grid.origin
          dsimp only
          rw [if_neg (by omega), if_pos hrow.2]
          rfl
        rw [if_neg fun h => hplaced (mem_columns.mp h.2.1).2, hsource, hblank, Option.map_none,
          ite_self]
    · rw [if_neg fun h => hplace ⟨h.1, (mem_columns.mp h.2.1).1, h.2.2⟩,
        if_neg fun h => hplace ⟨h.1, h.2.1.1, h.2.2⟩]

end Agreement

/-! ### Rows of references to column A -/

def columnReference (row : Nat) : ASTNode :=
  .reference (.cell none ⟨some row, some 1, false, false⟩)

def parseColumnReference (text : String) : Result ASTNode :=
  match text.toList with
  | 'A' :: digits =>
    if (digits ≠ [] ∧ digits.all Char.isDigit) ∧ 1 ≤ Nat.ofDigitChars 10 digits 0 then
      .ok (columnReference (Nat.ofDigitChars 10 digits 0))
    else .error "invalid reference"
  | _ => .error "invalid reference"

def writeColumnReference : ASTNode → String
  | .reference (.cell none ⟨some row, _, _, _⟩) => "A" ++ toString row
  | _ => ""

/-- A formula that need not change keeps its text. -/
def adjustColumnReference (line count : Nat) (formula : String) : String :=
  match parseColumnReference formula with
  | .ok ast =>
    if writeColumnReference (ast.insertRows "S" line count) = writeColumnReference ast then formula
    else writeColumnReference (ast.insertRows "S" line count)
  | .error _ => formula

/-- Digits become a number and nothing becomes a blank. -/
def typeText (text : String) : ResidentMaterializedValue :=
  if text = "" then .empty
  else if text.toList.all Char.isDigit then .number (Nat.ofDigitChars 10 text.toList 0)
  else .string text

def columnTools : FormulaTools where
  toRowTools := { sampleRowTools with
    guessTypedData := typeText
    cellText := fun
      | .string text => text
      | .number n => toString n
      | _ => ""
    adjustFormula := adjustColumnReference }
  parse := parseColumnReference
  canonicalFormula := writeColumnReference

theorem parse_written {row : Nat} (h : 1 ≤ row) :
    parseColumnReference (writeColumnReference (columnReference row)) =
      .ok (columnReference row) := by
  have hdigits : ∀ c ∈ Nat.toDigits 10 row, c.isDigit = true :=
    fun c hc => Nat.isDigit_of_mem_toDigits (by decide) (by decide) hc
  unfold parseColumnReference writeColumnReference columnReference
  dsimp only
  rw [String.toList_append, Analysis.toString_digits]
  change (if (Nat.toDigits 10 row ≠ [] ∧ (Nat.toDigits 10 row).all Char.isDigit = true) ∧
      1 ≤ Nat.ofDigitChars 10 (Nat.toDigits 10 row) 0 then
    Except.ok (columnReference (Nat.ofDigitChars 10 (Nat.toDigits 10 row) 0)) else _) = _
  rw [Nat.ofDigitChars_ten_toDigits,
    if_pos ⟨⟨Nat.toDigits_ne_nil, List.all_eq_true.mpr hdigits⟩, h⟩]
  rfl

theorem parse_columnReference {text : String} {ast : ASTNode}
    (h : parseColumnReference text = .ok ast) : ∃ row, 1 ≤ row ∧ ast = columnReference row := by
  unfold parseColumnReference at h
  split at h
  · split at h
    · next hrow => exact ⟨_, hrow.2, (Except.ok.inj h).symm⟩
    · contradiction
  · contradiction

theorem insert_columnReference (line count row : Nat) :
    (columnReference row).insertRows "S" line count =
      columnReference (RowMark.inserted line count ⟨true, row, false⟩) := rfl

theorem inserted_pos {line count row : Nat} (h : 1 ≤ row) :
    1 ≤ RowMark.inserted line count ⟨true, row, false⟩ := by
  unfold RowMark.inserted Sheets.adjustInsertBounded Sheets.adjustInsert Sheets.saturatingAdd
    Sheets.StructureAxis.maxValue
  dsimp only
  split
  · split <;> omega
  · omega

theorem adjusted_parses {formula : String} {ast : ASTNode} (line count : Nat)
    (h : parseColumnReference formula = .ok ast) :
    parseColumnReference (adjustColumnReference line count formula) =
        .ok (ast.insertRows "S" line count) ∧
      (ast.insertRows "S" line count = ast → adjustColumnReference line count formula = formula) := by
  obtain ⟨row, hrow, rfl⟩ := parse_columnReference h
  have hinserted := @parse_written _ (@inserted_pos line count row hrow)
  rw [← insert_columnReference] at hinserted
  unfold adjustColumnReference
  rw [h]
  dsimp only
  by_cases hsame : writeColumnReference ((columnReference row).insertRows "S" line count) =
      writeColumnReference (columnReference row)
  · rw [if_pos hsame]
    rw [hsame, parse_written hrow] at hinserted
    exact ⟨h.trans hinserted, fun _ => rfl⟩
  · rw [if_neg hsame]
    exact ⟨hinserted, fun hkeep => absurd (congrArg writeColumnReference hkeep) hsame⟩

theorem shifted_parses {row : Nat} {delta : Int} {shifted : ASTNode}
    (h : (columnReference row).shift 0 delta = .ok shifted) (hrow : 1 ≤ row) :
    parseColumnReference (stripEquals (writeColumnReference shifted)) = .ok shifted := by
  obtain ⟨hshifts, rfl⟩ := (@ASTNode.shift_eq_ok "S" _ _ _).mp h
  have hmark := hshifts ⟨true, row, false⟩ List.mem_cons_self
  have hrow' : 1 ≤ RowMark.shifted delta ⟨true, row, false⟩ := by
    unfold RowMark.Shifts at hmark
    unfold RowMark.shifted
    simp only [Bool.false_eq_true, false_or, if_false] at hmark ⊢
    omega
  have hstrip : stripEquals (writeColumnReference
      (columnReference (RowMark.shifted delta ⟨true, row, false⟩))) =
      writeColumnReference (columnReference (RowMark.shifted delta ⟨true, row, false⟩)) := by
    unfold writeColumnReference columnReference stripEquals
    dsimp only
    rw [String.toList_append]
    rfl
  change parseColumnReference (stripEquals (writeColumnReference
    (columnReference (RowMark.shifted delta ⟨true, row, false⟩)))) = _
  rw [hstrip]
  exact parse_written hrow'

theorem columnTools_lawful : columnTools.Lawful "S" where
  reads formula ast delta shifted hparse hshift := by
    obtain ⟨row, hrow, rfl⟩ := parse_columnReference hparse
    exact shifted_parses hshift hrow
  rows formula ast hparse mark hmark := by
    obtain ⟨row, hrow, rfl⟩ := parse_columnReference hparse
    obtain rfl := List.mem_singleton.mp hmark
    exact hrow
  inserts line count formula ast hparse := (adjusted_parses line count hparse).1
  keeps line count formula ast hparse := (adjusted_parses line count hparse).2
  unread line count formula error hparse := by
    have hkept : adjustColumnReference line count formula = formula := by
      have hparse' : parseColumnReference formula = .error error := hparse
      unfold adjustColumnReference
      rw [hparse']
    exact ⟨error, (congrArg parseColumnReference hkept).trans hparse⟩

def columnSheet (cell : Cell) : Grid where
  cell position := if position = (1, 2) then some cell else none
  row _ := none
  highestColumn := 1
  placed position h := by
    by_cases hplace : position = (1, 2)
    · simp [hplace]
    · simp [hplace] at h

theorem columnSheet_cell {cell found : Cell} {col : Nat}
    (h : (columnSheet cell).cell (col, 2) = some found) : col = 1 ∧ cell = found := by
  unfold columnSheet at h
  dsimp only at h
  by_cases hcol : (col, 2) = (1, 2)
  · rw [if_pos hcol] at h
    exact ⟨congrArg Prod.fst hcol, Option.some.inj h⟩
  · rw [if_neg hcol] at h
    contradiction

def columnBook (cell : Cell) : Book CloneSheet := [⟨"S", columnSheet cell, [], none⟩]

/-- A reference to the row above. -/
theorem reference_clones_by_copying : ∃ cloned,
    applyCloneRow columnTools.engine "S" 2 3 1 false (columnBook { formula := some "A1" }) =
      .ok cloned ∧
    ClonesByCopying columnTools "S" 2 3 1 1 (columnBook { formula := some "A1" }) cloned := by
  refine ⟨_, rfl, (@clones_by_copying_iff columnTools "S" 2 3 1 _ _ _ 1 columnTools_lawful rfl rfl
    (by decide) (by decide)).mpr ?_⟩
  intro col cell _ hcell
  obtain ⟨_, rfl⟩ := columnSheet_cell hcell
  intro copy hcopy
  have hparse : columnTools.parse "A1" = .ok (columnReference 1) := rfl
  unfold FormulaTravels
  rw [hparse]
  dsimp only
  have hshifts : ∀ mark ∈ (columnReference 1).marks "S",
      mark.Shifts ((3 + copy : Nat) - (2 : Nat)) := by
    intro mark hmark
    obtain rfl := List.mem_singleton.mp hmark
    exact Or.inr (Or.inr (by dsimp only; omega))
  rw [if_pos hshifts]
  left
  intro mark hmark
  obtain rfl := List.mem_singleton.mp hmark
  change RowMark.inserted 3 1 ⟨true, 1, false⟩ + 2 = 1 + movedRow 2 3 1
  decide

/-- Text of digits is copied as text and cloned as a number. -/
theorem digits_not_cloned_by_copying : ∃ cloned,
    applyCloneRow columnTools.engine "S" 2 3 1 false (columnBook { value := .string "007" }) =
      .ok cloned ∧
    ¬ClonesByCopying columnTools "S" 2 3 1 1 (columnBook { value := .string "007" }) cloned := by
  refine ⟨_, rfl, fun h => ?_⟩
  obtain ⟨copied, hcopied, hsame⟩ := h
  have hkey := hsame ("S", 1, 3)
  have hstored : (Except.map (fun copied => copied.stored ("S", 1, 3)) (insertAndCopy
      columnTools.engine "S" 2 3 1 1 (columnBook { value := .string "007" }))) =
      .ok (none, .string "007") := by
    rfl
  rw [hcopied] at hstored
  have hcopy : copied.stored ("S", 1, 3) = (none, .string "007") := Except.ok.inj hstored
  rw [hcopy] at hkey
  change (none, ResidentMaterializedValue.number (Nat.ofDigitChars 10 "007".toList 0 : Nat)) =
    ((none : Option String), ResidentMaterializedValue.string "007") at hkey
  simp at hkey

end AgentSpreadsheet.Clone
