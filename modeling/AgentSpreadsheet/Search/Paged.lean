import AgentSpreadsheet.Search.Values

/-! Which searches are paged exactly. The limit is one of each sheet, and an offset counts
candidates where the page before counted matches. -/
namespace AgentSpreadsheet.Search
open Library

/-- The order of the sheets that are searched, and on a sheet row by row. -/
def CellOrder (names : List String) (a b : String × String) : Prop :=
  names.idxOf a.1 < names.idxOf b.1 ∨
    a.1 = b.1 ∧ ∃ col row col' row', a.2 = Analysis.cellAddress col row ∧
      b.2 = Analysis.cellAddress col' row' ∧ (row < row' ∨ row = row' ∧ col < col')

section Searches
variable {ν : Type} (tools : ValueTools ν) (book : WorkbookContext)

def FindValueMatch.place (found : FindValueMatch ν) : String × String :=
  (found.sheetName, found.address)

def FindFormulaMatch.place (found : FindFormulaMatch ν) : String × String :=
  (found.sheetName, found.address)

def FindValueParams.sheets (params : FindValueParams) : Except String (List String) := do
  let table ← tableTarget book params
  pure (targetSheets book table params.sheetName)

def valueGroups (params : FindValueParams) :
    Except String (List (List (Option (FindValueMatch ν)))) := do
  let table ← tableTarget book params
  (targetSheets book table params.sheetName).mapM (valueGroup tools book params table)

def formulaGroups (params : FindFormulaParams) :
    Except String (List (List (Option (FindFormulaMatch ν)))) :=
  (targetSheets book none params.sheetName).mapM (formulaGroup tools book params)

variable {tools book}

theorem findValueSemantic_page {params : FindValueParams} (hlimit : 0 < params.limit)
    {groups : List (List (Option (FindValueMatch ν)))}
    (hgroups : valueGroups tools book params = .ok groups) (offset : Nat) :
    ∃ page, findValueSemantic tools book { params with offset := some offset } = .ok page ∧
      page.results = (scan params.limit (dropItems offset groups)).1 ∧
      page.nextOffset = if (scan params.limit (dropItems offset groups)).2 then
        some (offset + page.results.length) else none := by
  unfold valueGroups at hgroups
  rw [bind_eq_ok] at hgroups
  obtain ⟨table, htable, hgroups⟩ := hgroups
  have hpage := collectGroups_skips hlimit hgroups (Nat.zero_le offset)
  have htable' : tableTarget book { params with offset := some offset } = .ok table := htable
  rw [findValueSemantic_eq htable']
  change ∃ page, (collectGroups params.limit (valueGroup tools book params table) offset
    (targetSheets book table params.sheetName) [] 0).map _ = .ok page ∧ _
  rw [hpage]
  exact ⟨_, rfl, rfl, rfl⟩

theorem formulaLimit_pos (params : FindFormulaParams) : 0 < formulaLimit params := by
  unfold formulaLimit Analysis.clamp
  omega

theorem findFormula_page {params : FindFormulaParams}
    {groups : List (List (Option (FindFormulaMatch ν)))}
    (hgroups : formulaGroups tools book params = .ok groups) (offset : Nat) :
    ∃ page, findFormula tools book { params with offset := offset } = .ok page ∧
      page.results = (scan (formulaLimit params) (dropItems offset groups)).1 ∧
      page.nextOffset = if (scan (formulaLimit params) (dropItems offset groups)).2 then
        some (offset + page.results.length) else none := by
  have hpage := collectGroups_skips (formulaLimit_pos params) hgroups (Nat.zero_le offset)
  rw [findFormula_eq]
  change ∃ page, (collectGroups (formulaLimit params) (formulaGroup tools book params) offset
    (targetSheets book none params.sheetName) [] 0).map _ = .ok page ∧ _
  rw [hpage]
  exact ⟨_, rfl, rfl, rfl⟩

variable (tools book)

/-- The value search is paged exactly: all of `delivered`, at most `limit` on a page. -/
def ValuesPaged (params : FindValueParams) (delivered : List (FindValueMatch ν))
    (before : FindValueMatch ν → FindValueMatch ν → Prop) : Prop :=
  PagedExactly (fun offset => findValueSemantic tools book { params with offset := some offset })
    FindValueResponse.nextOffset FindValueResponse.results params.limit delivered before

def FormulasPaged (params : FindFormulaParams) (delivered : List (FindFormulaMatch ν))
    (before : FindFormulaMatch ν → FindFormulaMatch ν → Prop) : Prop :=
  PagedExactly (fun offset => findFormula tools book { params with offset := offset })
    FindFormulaResponse.nextOffset FindFormulaResponse.results params.limit delivered before

variable {tools book}

theorem valuesPaged_iff {params : FindValueParams} (hlimit : 0 < params.limit)
    {groups : List (List (Option (FindValueMatch ν)))}
    (hgroups : valueGroups tools book params = .ok groups)
    (before : FindValueMatch ν → FindValueMatch ν → Prop) :
    ValuesPaged tools book params groups.flatten.reduceOption before ↔
      Pageable params.limit params.limit [] groups ∧
        groups.flatten.reduceOption.Pairwise before :=
  pagedExactly_iff hlimit (findValueSemantic_page hlimit hgroups) before

theorem formulasPaged_iff {params : FindFormulaParams}
    {groups : List (List (Option (FindFormulaMatch ν)))}
    (hgroups : formulaGroups tools book params = .ok groups)
    (before : FindFormulaMatch ν → FindFormulaMatch ν → Prop) :
    FormulasPaged tools book params groups.flatten.reduceOption before ↔
      Pageable (formulaLimit params) params.limit [] groups ∧
        groups.flatten.reduceOption.Pairwise before :=
  pagedExactly_iff (formulaLimit_pos params) (findFormula_page hgroups) before

theorem pairwise_true (items : List α) : items.Pairwise fun _ _ => True :=
  List.pairwise_of_forall fun _ _ => trivial

end Searches

/-- A search is paged exactly where its sheets can be paged: in the order in which the cells are
listed, and in that of sheets and cells where they are listed so. -/
theorem searches_paged_iff {ν : Type} (tools : ValueTools ν) (book : WorkbookContext) :
    (∀ (params : FindValueParams) (names : List String)
        (groups : List (List (Option (FindValueMatch ν)))), 1 ≤ params.limit →
      params.sheets book = .ok names → valueGroups tools book params = .ok groups →
      (ValuesPaged tools book params groups.flatten.reduceOption
          (fun a b => CellOrder names a.place b.place) ↔
        Pageable params.limit params.limit [] groups ∧
          groups.flatten.reduceOption.Pairwise fun a b => CellOrder names a.place b.place) ∧
      (ValuesPaged tools book params groups.flatten.reduceOption (fun _ _ => True) ↔
        Pageable params.limit params.limit [] groups)) ∧
    (∀ (params : FindFormulaParams) (groups : List (List (Option (FindFormulaMatch ν)))),
      1 ≤ params.limit → formulaGroups tools book params = .ok groups →
      (FormulasPaged tools book params groups.flatten.reduceOption
          (fun a b => CellOrder (targetSheets book none params.sheetName) a.place b.place) ↔
        Pageable (formulaLimit params) params.limit [] groups ∧
          groups.flatten.reduceOption.Pairwise fun a b =>
            CellOrder (targetSheets book none params.sheetName) a.place b.place) ∧
      (FormulasPaged tools book params groups.flatten.reduceOption (fun _ _ => True) ↔
        Pageable (formulaLimit params) params.limit [] groups)) := by
  constructor
  · intro params names groups hlimit _ hgroups
    apply And.intro (valuesPaged_iff hlimit hgroups _)
    rw [valuesPaged_iff hlimit hgroups, and_iff_left (pairwise_true _)]
  · intro params groups _ hgroups
    apply And.intro (formulasPaged_iff hgroups _)
    rw [formulasPaged_iff hgroups, and_iff_left (pairwise_true _)]

/-! ### Two sheets, and a label without a value -/

def digitTools : ValueTools Nat where
  parse text := if text.toList.all Reads.isAsciiDigit ∧ text ≠ "" then
      some (Reads.digitsValue text.toList) else none
  display := toString
  excelSerialToIso := toString
  regex _ := none

def plainCell (col row : Nat) (value : String) : StoredCell := { col, row, value }

def totalSheet (name : String) : Worksheet where
  name
  cells := [{ col := 1, row := 1, value := "Total", formula := some "SUM(B1:B9)" }]
  distinct := by simp
  placed := by simp

def twoSheets : WorkbookContext where
  sheets := [totalSheet "One", totalSheet "Two"]
  distinct := by decide
  namedItems := []
  detectedRegion _ _ := none

def labelSheet : Worksheet where
  name := "One"
  cells := [plainCell 1 1 "Total", plainCell 1 3 "Total", plainCell 2 3 "5",
    plainCell 1 5 "Total", plainCell 2 5 "6"]
  distinct := by decide
  placed := by decide

def labelBook : WorkbookContext where
  sheets := [labelSheet]
  distinct := by decide
  namedItems := []
  detectedRegion _ _ := none

def totalValue (name : String) : FindValueMatch Nat :=
  ⟨"A1", name, some (.text "Total"), none, none, none⟩

def totalFormula (name : String) : FindFormulaMatch Nat :=
  ⟨"A1", name, "SUM(B1:B9)", some (.text "Total"), []⟩

def totalLabel (label : String) (value : Nat) : FindValueMatch Nat :=
  ⟨label, "One", some (.number value), none, none, some ⟨label, "Total"⟩⟩

theorem twoSheets_values : valueGroups digitTools twoSheets { query := "total", limit := 1 } =
    .ok [[some (totalValue "One")], [some (totalValue "Two")]] := by
  decide +kernel

theorem twoSheets_formulas : formulaGroups digitTools twoSheets { query := "SUM(", limit := 1 } =
    .ok [[some (totalFormula "One")], [some (totalFormula "Two")]] := by
  decide +kernel

theorem labelBook_values : valueGroups digitTools labelBook
    { query := "", label := some "total", limit := 1 } =
    .ok [[none, some (totalLabel "A3" 5), some (totalLabel "A5" 6)]] := by
  decide +kernel

theorem pageable_sheets {β : Type} (a b : β) : Pageable 2 2 [] [[some a], [some b]] := by
  simp [Pageable, Overruns, List.reduceOption]

theorem twoSheets_paged :
    (ValuesPaged digitTools twoSheets { query := "total", limit := 2 }
      [totalValue "One", totalValue "Two"] fun a b => CellOrder ["One", "Two"] a.place b.place) ∧
    FormulasPaged digitTools twoSheets { query := "SUM(", limit := 2 }
      [totalFormula "One", totalFormula "Two"] fun a b =>
        CellOrder ["One", "Two"] a.place b.place := by
  have hpaged := searches_paged_iff digitTools twoSheets
  have hvalues := (hpaged.1 { query := "total", limit := 2 } ["One", "Two"]
    [[some (totalValue "One")], [some (totalValue "Two")]] (by decide) (by decide +kernel)
    (by decide +kernel)).1
  have hformulas := (hpaged.2 { query := "SUM(", limit := 2 }
    [[some (totalFormula "One")], [some (totalFormula "Two")]] (by decide) (by decide +kernel)).1
  have horder : CellOrder ["One", "Two"] ("One", "A1") ("Two", "A1") := Or.inl (by decide)
  exact ⟨hvalues.mpr ⟨pageable_sheets _ _, List.pairwise_pair.mpr horder⟩,
    hformulas.mpr ⟨pageable_sheets _ _, List.pairwise_pair.mpr horder⟩⟩

theorem not_pageable_sheets {β : Type} (a b : β) : ¬ Pageable 1 1 [] [[some a], [some b]] := by
  simp [Pageable, Overruns, List.reduceOption]

theorem not_pageable_label {β : Type} (a b : β) : ¬ Pageable 1 1 [] [[none, some a, some b]] := by
  intro h
  have hover : Overruns 1 [none, some a, some b] := by simp [Overruns, List.reduceOption]
  cases h with
  | inl h => exact h.1 hover
  | inr h =>
    obtain ⟨_, _, _, full, _, hmatched, hends, _⟩ := h
    cases full with
    | zero => exact hends hover
    | succ full => exact absurd (hmatched none (by simp)) (by simp)

theorem searches_mispaged :
    (¬ ValuesPaged digitTools twoSheets { query := "total", limit := 1 }
      [totalValue "One", totalValue "Two"] fun _ _ => True) ∧
    (¬ FormulasPaged digitTools twoSheets { query := "SUM(", limit := 1 }
      [totalFormula "One", totalFormula "Two"] fun _ _ => True) ∧
    ¬ ValuesPaged digitTools labelBook { query := "", label := some "total", limit := 1 }
      [totalLabel "A3" 5, totalLabel "A5" 6] fun _ _ => True := by
  refine ⟨fun h => ?_, fun h => ?_, fun h => ?_⟩
  · exact not_pageable_sheets _ _ ((valuesPaged_iff (by decide) twoSheets_values _).mp h).1
  · exact not_pageable_sheets _ _ ((formulasPaged_iff twoSheets_formulas _).mp h).1
  · exact not_pageable_label _ _ ((valuesPaged_iff (by decide) labelBook_values _).mp h).1

end AgentSpreadsheet.Search
