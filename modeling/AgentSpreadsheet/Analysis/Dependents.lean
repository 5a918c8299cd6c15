import AgentSpreadsheet.Analysis.FormulaGraph
import AgentSpreadsheet.Library.Chars

/-! What the dependents of a cell are. The index by text and the test of ranges complement one
another, but a cell qualified with the sheet's own name is indexed under another text. -/
namespace AgentSpreadsheet.Analysis
open Library

/-! ### Addresses -/

theorem toString_digits (row : Nat) : (toString row).toList = Nat.toDigits 10 row := by
  change (Nat.repr row).toList = _
  rw [Nat.repr, String.toList_ofList]

theorem cellAddress_toList (col row : Nat) :
    (cellAddress col row).toList = Sheets.columnName col col ++ Nat.toDigits 10 row := by
  unfold cellAddress columnNumberToName
  rw [String.toList_append, String.toList_ofList, toString_digits]

theorem columnIndex_self (col : Nat) : Sheets.columnIndex (Sheets.columnName col col) = col :=
  Sheets.columnIndex_columnName col col (Nat.lt_pow_self (by decide))

theorem cellAddress_inj {col row col' row' : Nat} (h : cellAddress col row = cellAddress col' row') :
    col = col' ∧ row = row' := by
  have hlist := congrArg String.toList h
  rw [cellAddress_toList, cellAddress_toList] at hlist
  have hspan (col row : Nat) := @Sheets.span_letters (Sheets.columnName col col)
    (Nat.toDigits 10 row) (Sheets.columnName_upper col col)
    fun c hc => (Sheets.digits_plain row c hc).1
  have hparts := congrArg (List.span Char.isUpper) hlist
  rw [hspan, hspan] at hparts
  have hcol := congrArg Sheets.columnIndex (congrArg Prod.fst hparts)
  have hrow := congrArg (fun digits => Nat.ofDigitChars 10 digits 0) (congrArg Prod.snd hparts)
  dsimp only at hcol hrow
  rw [columnIndex_self, columnIndex_self] at hcol
  rw [Nat.ofDigitChars_ten_toDigits, Nat.ofDigitChars_ten_toDigits] at hrow
  exact ⟨hcol, hrow⟩

theorem cellAddress_plain {col row : Nat} {c : Char} (h : c ∈ (cellAddress col row).toList) :
    c.isAlpha = true ∨ c.isDigit = true := by
  rw [cellAddress_toList, List.mem_append] at h
  rcases h with h | h
  · exact .inl (isAlpha_of_isUpper (Sheets.columnName_upper col col c h))
  · exact .inr (Nat.isDigit_of_mem_toDigits (by decide) (by decide) h)

theorem exclamation_not_mem (col row : Nat) : '!' ∉ (cellAddress col row).toList := by
  intro h
  rcases cellAddress_plain h with h | h
  · exact absurd h (by decide)
  · exact absurd h (by decide)

theorem formatCellAddress_eq {sheet : Option String} {row col row' col' : Nat} :
    formatCellAddress sheet row col = cellAddress col' row' ↔
      sheet = none ∧ row = row' ∧ col = col' := by
  constructor
  · intro h
    cases sheet with
    | none =>
      have hboth := cellAddress_inj h
      exact ⟨rfl, hboth.2, hboth.1⟩
    | some s =>
      have hmem : '!' ∈ (formatCellAddress (some s) row col).toList := by
        simp [formatCellAddress]
      rw [h] at hmem
      exact absurd hmem (exclamation_not_mem col' row')
  · intro ⟨hsheet, hrow, hcol⟩
    rw [hsheet, hrow, hcol]
    rfl

theorem splitSheetPrefix_cell (col row : Nat) :
    splitSheetPrefix (cellAddress col row) = (none, cellAddress col row) := by
  unfold splitSheetPrefix
  rw [if_neg (exclamation_not_mem col row)]

theorem readCellPart_letters {letters read : List Char} (h : ∀ c ∈ letters, c.isUpper = true) :
    letters.foldl readCellPart (read, []) = (read ++ letters, []) := by
  induction letters generalizing read with
  | nil => simp
  | cons c rest ih =>
    have hc := h c List.mem_cons_self
    have hdollar : c ≠ '$' := (Sheets.upper_plain hc).1
    have hstep : readCellPart (read, []) c = (read ++ [c], []) := by
      simp [readCellPart, hdollar, isAlpha_of_isUpper hc, toUpper_of_isUpper hc]
    rw [List.foldl_cons, hstep, ih fun d hd => h d (List.mem_cons_of_mem _ hd)]
    simp

theorem readCellPart_digits {digits letters read : List Char} (h : ∀ c ∈ digits, c.isDigit = true) :
    digits.foldl readCellPart (letters, read) = (letters, read ++ digits) := by
  induction digits generalizing read with
  | nil => simp
  | cons c rest ih =>
    have hc := h c List.mem_cons_self
    have hdollar : c ≠ '$' := by
      rintro rfl
      exact absurd hc (by decide)
    have hstep : readCellPart (letters, read) c = (letters, read ++ [c]) := by
      simp [readCellPart, hdollar, not_isAlpha_of_isDigit hc, hc]
    rw [List.foldl_cons, hstep, ih fun d hd => h d (List.mem_cons_of_mem _ hd)]
    simp

theorem columnNameToNumber_mod (letters : List Char) :
    columnNameToNumber letters = Sheets.columnIndex letters % 2 ^ 32 := by
  unfold columnNameToNumber Sheets.columnIndex
  have hfold (start start' : Nat) (h : start = start' % 2 ^ 32) :
      letters.foldl (fun result ch => (result * 26 + (ch.toNat - 'A'.toNat + 1)) % 2 ^ 32) start =
        letters.foldl (fun value c => value * 26 + (c.toNat - 'A'.toNat + 1)) start' % 2 ^ 32 := by
    induction letters generalizing start start' with
    | nil => exact h
    | cons c rest ih =>
      apply ih
      dsimp only
      omega
  exact hfold 0 0 rfl

theorem parseCellAddress_cell {col row : Nat} (hcol : 0 < col) (hcol' : col < 2 ^ 32)
    (hrow : row < 2 ^ 32) : parseCellAddress (cellAddress col row) = some (row, col) := by
  have hdigits : ∀ c ∈ Nat.toDigits 10 row, c.isDigit = true :=
    fun c hc => Nat.isDigit_of_mem_toDigits (by decide) (by decide) hc
  have hparse : parseU32 (Nat.toDigits 10 row) = some row := by
    simpa [parseU32, Nat.toDigits_ne_nil, Nat.ofDigitChars_ten_toDigits] using ⟨hdigits, hrow⟩
  have hletters : Sheets.columnName col col ≠ [] := by
    intro hnil
    have hindex := columnIndex_self col
    rw [hnil] at hindex
    change 0 = col at hindex
    omega
  have hstart : (cellAddress col row).toList.dropWhile (· == '$') = (cellAddress col row).toList := by
    rw [List.dropWhile_eq_self_iff]
    intro hpos hdollar
    have hplain := cellAddress_plain (List.getElem_mem hpos)
    rw [eq_of_beq hdollar] at hplain
    exact absurd hplain (by decide)
  have hread : (cellAddress col row).toList.foldl readCellPart ([], []) =
      (Sheets.columnName col col, Nat.toDigits 10 row) := by
    rw [cellAddress_toList, List.foldl_append,
      readCellPart_letters (Sheets.columnName_upper col col), List.nil_append,
      readCellPart_digits hdigits, List.nil_append]
  have hnumber : columnNameToNumber (Sheets.columnName col col) = col := by
    rw [columnNameToNumber_mod, columnIndex_self, Nat.mod_eq_of_lt hcol']
  unfold parseCellAddress
  rw [splitSheetPrefix_cell]
  dsimp only
  rw [hstart, hread]
  dsimp only
  rw [hparse, hnumber]
  simp [hletters, Nat.toDigits_ne_nil]

/-! ### What the graph is built from -/

def ReferenceType.large : ReferenceType → Bool
  | .range _ startRow startCol endRow endCol _ =>
    isLargeOrInfiniteRange startRow startCol endRow endCol
  | _ => false

/-- Every reference put into the graph is there, under its own text, and nothing else is. -/
structure FormulaGraph.Indexed (pairs : List (String × ReferenceType)) (graph : FormulaGraph) :
    Prop where
  direct : ∀ key a, a ∈ graph.dependents key ↔
    ∃ sheet row col, (a, .cell sheet row col) ∈ pairs ∧ formatCellAddress sheet row col = key
  nodup : ∀ key, (graph.dependents key).Nodup
  keyed : ∀ e ∈ graph.rangeDependents, e.reference.large = true ∧ e.rangeKey = e.reference.text ∧
    ∃ a, (a, e.reference) ∈ pairs
  ranged : ∀ e ∈ graph.rangeDependents, ∀ a ∈ e.dependents,
    ∃ r, (a, r) ∈ pairs ∧ r.large = true ∧ r.text = e.rangeKey
  entered : ∀ a r, (a, r) ∈ pairs → r.large = true →
    ∃ e ∈ graph.rangeDependents, e.rangeKey = r.text ∧ a ∈ e.dependents

section Index
variable {graph : FormulaGraph} {pairs : List (String × ReferenceType)} {address : String}
  {entries : List RangeDependentEntry} {reference : ReferenceType}

theorem mem_insertUnder {sets : String → List String} {key key' value a : String} :
    a ∈ insertUnder key value sets key' ↔ a ∈ sets key' ∨ key' = key ∧ a = value := by
  unfold insertUnder
  by_cases hkey : key' = key
  · subst hkey
    rw [Function.update_self, List.mem_insert_iff]
    simp [or_comm]
  · rw [Function.update_of_ne hkey]
    simp [hkey]

theorem nodup_insertUnder {sets : String → List String} {key value : String}
    (h : ∀ key, (sets key).Nodup) (key' : String) : (insertUnder key value sets key').Nodup := by
  unfold insertUnder
  by_cases hkey : key' = key
  · subst hkey
    rw [Function.update_self]
    exact (h key').insert
  · rw [Function.update_of_ne hkey]
    exact h key'

/-- The entry of a range is found, or is new at the end. -/
theorem mem_insertRange {key : String} {e : RangeDependentEntry} :
    e ∈ insertRange key reference address entries →
      e ∈ entries ∨ e = ⟨key, reference, [address]⟩ ∨
        ∃ old ∈ entries, old.rangeKey = key ∧
          e = { old with dependents := old.dependents.insert address } := by
  induction entries with
  | nil =>
    intro h
    exact .inr (.inl (List.mem_singleton.mp h))
  | cons entry rest ih =>
    unfold insertRange
    split
    · rename_i hkey
      intro h
      rcases List.mem_cons.mp h with rfl | h
      · exact .inr (.inr ⟨entry, List.mem_cons_self, hkey, rfl⟩)
      · exact .inl (List.mem_cons_of_mem _ h)
    · intro h
      rcases List.mem_cons.mp h with rfl | h
      · exact .inl List.mem_cons_self
      · rcases ih h with hold | hnew | ⟨old, hmem, hkey, heq⟩
        · exact .inl (List.mem_cons_of_mem _ hold)
        · exact .inr (.inl hnew)
        · exact .inr (.inr ⟨old, List.mem_cons_of_mem _ hmem, hkey, heq⟩)

theorem insertRange_keeps {key : String} {e : RangeDependentEntry} (h : e ∈ entries) :
    ∃ e' ∈ insertRange key reference address entries, e'.rangeKey = e.rangeKey ∧
      ∀ a ∈ e.dependents, a ∈ e'.dependents := by
  induction entries with
  | nil => exact absurd h List.not_mem_nil
  | cons entry rest ih =>
    unfold insertRange
    split
    · rcases List.mem_cons.mp h with rfl | h
      · exact ⟨_, List.mem_cons_self, rfl, fun a ha => List.mem_insert_of_mem ha⟩
      · exact ⟨e, List.mem_cons_of_mem _ h, rfl, fun _ ha => ha⟩
    · rcases List.mem_cons.mp h with rfl | h
      · exact ⟨e, List.mem_cons_self, rfl, fun _ ha => ha⟩
      · obtain ⟨e', hmem, hkept⟩ := ih h
        exact ⟨e', List.mem_cons_of_mem _ hmem, hkept⟩

theorem insertRange_enters (key : String) :
    ∃ e ∈ insertRange key reference address entries, e.rangeKey = key ∧ address ∈ e.dependents := by
  induction entries with
  | nil => exact ⟨_, List.mem_singleton_self _, rfl, List.mem_singleton_self _⟩
  | cons entry rest ih =>
    unfold insertRange
    split
    · rename_i hkey
      exact ⟨_, List.mem_cons_self, hkey, List.mem_insert_self⟩
    · obtain ⟨e, hmem, hentered⟩ := ih
      exact ⟨e, List.mem_cons_of_mem _ hmem, hentered⟩

theorem FormulaGraph.Indexed.addReference (h : graph.Indexed pairs) (address : String)
    (reference : ReferenceType) :
    (graph.addReference address reference).Indexed (pairs ++ [(address, reference)]) := by
  have hkept (hlarge : reference.large = false)
      (hranges : (graph.addReference address reference).rangeDependents = graph.rangeDependents) :
      (∀ e ∈ (graph.addReference address reference).rangeDependents, e.reference.large = true ∧
        e.rangeKey = e.reference.text ∧ ∃ a, (a, e.reference) ∈ pairs ++ [(address, reference)]) ∧
      (∀ e ∈ (graph.addReference address reference).rangeDependents, ∀ a ∈ e.dependents,
        ∃ r, (a, r) ∈ pairs ++ [(address, reference)] ∧ r.large = true ∧ r.text = e.rangeKey) ∧
      ∀ a r, (a, r) ∈ pairs ++ [(address, reference)] → r.large = true →
        ∃ e ∈ (graph.addReference address reference).rangeDependents, e.rangeKey = r.text ∧
          a ∈ e.dependents := by
    rw [hranges]
    refine ⟨fun e he => ?_, fun e he a ha => ?_, fun a r hmem hr => ?_⟩
    · obtain ⟨hl, hkey, a, ha⟩ := h.keyed e he
      exact ⟨hl, hkey, a, List.mem_append_left _ ha⟩
    · obtain ⟨r, hr, hrest⟩ := h.ranged e he a ha
      exact ⟨r, List.mem_append_left _ hr, hrest⟩
    · rcases List.mem_append.mp hmem with hmem | hmem
      · exact h.entered a r hmem hr
      · rw [List.mem_singleton, Prod.mk.injEq] at hmem
        rw [hmem.2, hlarge] at hr
        contradiction
  have hdirect (hdependents : (graph.addReference address reference).dependents = graph.dependents)
      (hcell : ∀ sheet row col, reference ≠ .cell sheet row col) (key a : String) :
      a ∈ (graph.addReference address reference).dependents key ↔
        ∃ sheet row col, (a, .cell sheet row col) ∈ pairs ++ [(address, reference)] ∧
          formatCellAddress sheet row col = key := by
    rw [hdependents, h.direct]
    constructor
    · intro ⟨sheet, row, col, hmem, hkey⟩
      exact ⟨sheet, row, col, List.mem_append_left _ hmem, hkey⟩
    · intro ⟨sheet, row, col, hmem, hkey⟩
      rcases List.mem_append.mp hmem with hmem | hmem
      · exact ⟨sheet, row, col, hmem, hkey⟩
      · rw [List.mem_singleton, Prod.mk.injEq] at hmem
        exact absurd hmem.2.symm (hcell sheet row col)
  cases reference with
  | cell sheet row col =>
    obtain ⟨hkeyed, hranged, hentered⟩ := hkept rfl rfl
    refine ⟨fun key a => ?_, nodup_insertUnder h.nodup, hkeyed, hranged, hentered⟩
    change a ∈ insertUnder (formatCellAddress sheet row col) address graph.dependents key ↔ _
    rw [mem_insertUnder, h.direct]
    constructor
    · rintro (⟨sheet', row', col', hmem, hkey⟩ | ⟨rfl, rfl⟩)
      · exact ⟨sheet', row', col', List.mem_append_left _ hmem, hkey⟩
      · exact ⟨sheet, row, col, by simp, rfl⟩
    · intro ⟨sheet', row', col', hmem, hkey⟩
      rcases List.mem_append.mp hmem with hmem | hmem
      · exact .inl ⟨sheet', row', col', hmem, hkey⟩
      · rw [List.mem_singleton, Prod.mk.injEq] at hmem
        injection hmem.2 with hs hr hc
        rw [hs, hr, hc] at hkey
        exact .inr ⟨hkey.symm, hmem.1⟩
  | range sheet startRow startCol endRow endCol text =>
    cases hlarge : isLargeOrInfiniteRange startRow startCol endRow endCol with
    | false =>
      obtain ⟨hkeyed, hranged, hentered⟩ := hkept hlarge (by
        simp [FormulaGraph.addReference, hlarge])
      exact ⟨hdirect rfl nofun, h.nodup, hkeyed, hranged, hentered⟩
    | true =>
      have hranges : (graph.addReference address
          (.range sheet startRow startCol endRow endCol text)).rangeDependents =
          insertRange text (.range sheet startRow startCol endRow endCol text) address
            graph.rangeDependents := by
        simp [FormulaGraph.addReference, hlarge]
      refine ⟨hdirect rfl nofun, h.nodup, ?_, ?_, ?_⟩
      · intro e he
        rw [hranges] at he
        rcases mem_insertRange he with hold | rfl | ⟨old, hold, _, rfl⟩
        · obtain ⟨hl, hkey, a, ha⟩ := h.keyed e hold
          exact ⟨hl, hkey, a, List.mem_append_left _ ha⟩
        · exact ⟨hlarge, rfl, address, by simp⟩
        · obtain ⟨hl, hkey, a, ha⟩ := h.keyed old hold
          exact ⟨hl, hkey, a, List.mem_append_left _ ha⟩
      · intro e he a ha
        rw [hranges] at he
        rcases mem_insertRange he with hold | rfl | ⟨old, hold, hkey, rfl⟩
        · obtain ⟨r, hr, hrest⟩ := h.ranged e hold a ha
          exact ⟨r, List.mem_append_left _ hr, hrest⟩
        · rw [List.mem_singleton] at ha
          exact ⟨.range sheet startRow startCol endRow endCol text, by rw [ha]; simp, hlarge, rfl⟩
        · rcases List.mem_insert_iff.mp ha with rfl | ha
          · exact ⟨.range sheet startRow startCol endRow endCol text, by simp, hlarge, hkey.symm⟩
          · obtain ⟨r, hr, hrest⟩ := h.ranged old hold a ha
            exact ⟨r, List.mem_append_left _ hr, hrest⟩
      · intro a r hmem hr
        rw [hranges]
        rcases List.mem_append.mp hmem with hmem | hmem
        · obtain ⟨e, he, hkey, ha⟩ := h.entered a r hmem hr
          obtain ⟨e', he', hkey', hall⟩ := insertRange_keeps he
          exact ⟨e', he', hkey'.trans hkey, hall a ha⟩
        · rw [List.mem_singleton, Prod.mk.injEq] at hmem
          obtain ⟨rfl, rfl⟩ := hmem
          exact insertRange_enters text
  | namedRange name =>
    obtain ⟨hkeyed, hranged, hentered⟩ := hkept rfl rfl
    exact ⟨hdirect rfl nofun, h.nodup, hkeyed, hranged, hentered⟩
  | table text =>
    obtain ⟨hkeyed, hranged, hentered⟩ := hkept rfl rfl
    exact ⟨hdirect rfl nofun, h.nodup, hkeyed, hranged, hentered⟩
  | external text =>
    obtain ⟨hkeyed, hranged, hentered⟩ := hkept rfl rfl
    exact ⟨hdirect rfl nofun, h.nodup, hkeyed, hranged, hentered⟩
  | cell3D text =>
    obtain ⟨hkeyed, hranged, hentered⟩ := hkept rfl rfl
    exact ⟨hdirect rfl nofun, h.nodup, hkeyed, hranged, hentered⟩
  | range3D text =>
    obtain ⟨hkeyed, hranged, hentered⟩ := hkept rfl rfl
    exact ⟨hdirect rfl nofun, h.nodup, hkeyed, hranged, hentered⟩

theorem FormulaGraph.Indexed.foldl (h : graph.Indexed pairs) (address : String)
    (references : List ReferenceType) :
    (references.foldl (FormulaGraph.addReference address) graph).Indexed
      (pairs ++ references.map fun reference => (address, reference)) := by
  induction references generalizing graph pairs with
  | nil => simpa using h
  | cons reference rest ih =>
    have hrest := ih (h.addReference address reference)
    rwa [List.append_assoc] at hrest

theorem FormulaGraph.indexed_empty (sheetName : String) :
    (FormulaGraph.empty sheetName).Indexed [] := by
  constructor <;> simp [FormulaGraph.empty]

end Index

section Build
variable {Ast : Type} (parser : FormulaParser Ast)

def SheetCell.ast (cell : SheetCell) : Option Ast :=
  if !cell.isFormula || cell.formula == "" then none
  else (parser.parse (FormulaGraph.withPrefix cell.formula)).toOption

def SheetCell.references (cell : SheetCell) : List ReferenceType :=
  ((cell.ast parser).map parser.written).getD []

def SheetCell.collected (cell : SheetCell) : List ReferenceType :=
  ((cell.ast parser).map parser.collectReferences).getD []

/-- Every reference collected on the sheet, with the cell that has it. -/
def collectedPairs (cells : List SheetCell) : List (String × ReferenceType) :=
  cells.flatMap fun cell => (cell.collected parser).map fun reference => (cell.address, reference)

variable {parser} {cell : SheetCell} {sheetName : String} {policy : FormulaParsePolicy}
  {built built' : FormulaGraph × List FormulaParseRecord} {pairs : List (String × ReferenceType)}

theorem FormulaGraph.Indexed.addCell (h : built.1.Indexed pairs)
    (hcell : FormulaGraph.addCell parser sheetName policy built cell = .ok built') :
    built'.1.Indexed (pairs ++ (cell.collected parser).map fun reference =>
      (cell.address, reference)) ∧ built'.1.sheetName = built.1.sheetName := by
  unfold FormulaGraph.addCell at hcell
  unfold SheetCell.collected SheetCell.ast
  split at hcell
  · rename_i hskip
    rw [if_pos hskip]
    injection hcell with hcell
    subst hcell
    simpa using h
  · rename_i hformula
    rw [if_neg hformula]
    cases hparse : parser.parse (FormulaGraph.withPrefix cell.formula) with
    | ok ast =>
      rw [hparse] at hcell
      injection hcell with hcell
      subst hcell
      have hgrouped : ({ built.1 with
          groups := FormulaGraph.addGroup parser cell ast built.1.groups } :
            FormulaGraph).Indexed pairs := ⟨h.direct, h.nodup, h.keyed, h.ranged, h.entered⟩
      refine ⟨hgrouped.foldl cell.address (parser.collectReferences ast), ?_⟩
      have hname (graph : FormulaGraph) (references : List ReferenceType) :
          (references.foldl (FormulaGraph.addReference cell.address) graph).sheetName =
            graph.sheetName := by
        induction references generalizing graph with
        | nil => rfl
        | cons reference rest ih =>
          rw [List.foldl_cons, ih]
          cases reference <;> rfl
      exact hname _ _
    | error e =>
      rw [hparse] at hcell
      cases policy with
      | off =>
        injection hcell with hcell
        subst hcell
        simpa [Except.toOption] using h
      | warn =>
        injection hcell with hcell
        subst hcell
        simpa [Except.toOption] using h
      | fail => contradiction

/-- The run: the graph of a sheet has all references of its formulas. -/
theorem FormulaGraph.indexed_build {sheet : Worksheet}
    (h : FormulaGraph.build parser sheet policy = .ok built) :
    built.1.Indexed (collectedPairs parser sheet.cells) ∧ built.1.sheetName = sheet.name := by
  have hrun : ∀ (cells : List SheetCell) (start : FormulaGraph × List FormulaParseRecord)
      (pairs : List (String × ReferenceType)), start.1.Indexed pairs →
      cells.foldlM (FormulaGraph.addCell parser sheet.name policy) start = .ok built →
      built.1.Indexed (pairs ++ collectedPairs parser cells) ∧
        built.1.sheetName = start.1.sheetName := by
    intro cells
    induction cells with
    | nil =>
      intro start pairs hstart hfold
      rw [List.foldlM_nil, pure_eq_ok] at hfold
      subst hfold
      simpa [collectedPairs] using hstart
    | cons cell rest ih =>
      intro start pairs hstart hfold
      rw [List.foldlM_cons, bind_eq_ok] at hfold
      obtain ⟨next, hcell, hrest⟩ := hfold
      have hstep := hstart.addCell hcell
      have hall := ih next _ hstep.1 hrest
      rw [List.append_assoc] at hall
      exact ⟨hall.1, hall.2.trans hstep.2⟩
  have hall := hrun sheet.cells _ [] (FormulaGraph.indexed_empty sheet.name) h
  exact ⟨hall.1, hall.2⟩

theorem addReference_groups (address : String) (references : List ReferenceType)
    (graph : FormulaGraph) :
    (references.foldl (FormulaGraph.addReference address) graph).groups = graph.groups := by
  induction references generalizing graph with
  | nil => rfl
  | cons reference rest ih =>
    rw [List.foldl_cons, ih]
    cases reference <;> rfl

theorem groups_invariant {P : List (String × FormulaGroupAccumulator) → Prop} {sheet : Worksheet}
    (hempty : P [])
    (hadd : ∀ cell ∈ sheet.cells, ∀ ast, cell.ast parser = some ast → ∀ groups, P groups →
      P (FormulaGraph.addGroup parser cell ast groups))
    (h : FormulaGraph.build parser sheet policy = .ok built) : P built.1.groups := by
  have hstep : ∀ cell ∈ sheet.cells, ∀ start next : FormulaGraph × List FormulaParseRecord,
      FormulaGraph.addCell parser sheet.name policy start cell = .ok next → P start.1.groups →
        P next.1.groups := by
    intro cell hcell start next hnext hstart
    have hast := hadd cell hcell
    unfold FormulaGraph.addCell at hnext
    unfold SheetCell.ast at hast
    split at hnext
    · rw [← Except.ok.inj hnext]
      exact hstart
    · rename_i hformula
      rw [if_neg hformula] at hast
      cases hparse : parser.parse (FormulaGraph.withPrefix cell.formula) with
      | ok ast =>
        rw [hparse] at hnext hast
        rw [← Except.ok.inj hnext]
        dsimp only
        rw [addReference_groups]
        exact hast ast rfl _ hstart
      | error e =>
        rw [hparse] at hnext
        cases policy with
        | off =>
          rw [← Except.ok.inj hnext]
          exact hstart
        | warn =>
          rw [← Except.ok.inj hnext]
          exact hstart
        | fail => contradiction
  have hrun : ∀ (cells : List SheetCell) (start : FormulaGraph × List FormulaParseRecord),
      (∀ cell ∈ cells, cell ∈ sheet.cells) → P start.1.groups →
      cells.foldlM (FormulaGraph.addCell parser sheet.name policy) start = .ok built →
        P built.1.groups := by
    intro cells
    induction cells with
    | nil =>
      intro start _ hstart hfold
      rw [List.foldlM_nil, pure_eq_ok] at hfold
      exact hfold ▸ hstart
    | cons cell rest ih =>
      intro start hcells hstart hfold
      rw [List.foldlM_cons, bind_eq_ok] at hfold
      obtain ⟨next, hcell, hrest⟩ := hfold
      have hkept := hstep cell (hcells cell List.mem_cons_self) start next hcell hstart
      exact ih next (fun c hc => hcells c (List.mem_cons_of_mem _ hc)) hkept hrest
  exact hrun sheet.cells _ (fun _ hcell => hcell) hempty h

end Build

end AgentSpreadsheet.Analysis
