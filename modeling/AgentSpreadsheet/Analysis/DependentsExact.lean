import AgentSpreadsheet.Analysis.Dependents

/-! The dependents of a cell against the references that formulas have to it. -/
namespace AgentSpreadsheet.Analysis
open Library

/-! ### Lists cut at a limit -/

section Limits
variable {limit : Option Nat} {result addresses : List String} {address : String}

theorem pushNew_none (result addresses : List String) : ∃ new,
    pushNew none result addresses = result ++ new := by
  induction addresses generalizing result with
  | nil => exact ⟨[], (List.append_nil _).symm⟩
  | cons a rest ih =>
    unfold pushNew
    split
    · exact ih result
    · obtain ⟨new, hnew⟩ := ih (result ++ [a])
      refine ⟨a :: new, ?_⟩
      change (if false = true then _ else pushNew none (result ++ [a]) rest) = _
      rw [if_neg (by decide), hnew, List.append_assoc]
      rfl

theorem mem_pushNew : address ∈ pushNew none result addresses ↔
    address ∈ result ∨ address ∈ addresses := by
  induction addresses generalizing result with
  | nil => simp [pushNew]
  | cons a rest ih =>
    unfold pushNew
    split
    · rename_i hmem
      rw [ih, List.mem_cons]
      constructor
      · rintro (h | h)
        · exact .inl h
        · exact .inr (.inr h)
      · rintro (h | rfl | h)
        · exact .inl h
        · exact .inl hmem
        · exact .inr h
    · change address ∈ (if false = true then _ else pushNew none (result ++ [a]) rest) ↔ _
      rw [if_neg (by decide), ih]
      rw [List.mem_append, List.mem_singleton, List.mem_cons]
      exact or_assoc

theorem nodup_pushNew (h : result.Nodup) : (pushNew none result addresses).Nodup := by
  induction addresses generalizing result with
  | nil => exact h
  | cons a rest ih =>
    unfold pushNew
    split
    · exact ih h
    · rename_i hnew
      change (if false = true then _ else pushNew none (result ++ [a]) rest).Nodup
      rw [if_neg (by decide)]
      exact ih (h.append (List.nodup_singleton a) (by simpa using hnew))

theorem pushNew_limit {n : Nat} (h : result.length < n) :
    pushNew (some n) result addresses = (pushNew none result addresses).take n := by
  induction addresses generalizing result with
  | nil =>
    change result = result.take n
    rw [List.take_of_length_le (by omega)]
  | cons a rest ih =>
    unfold pushNew
    split
    · exact ih h
    · change (if reached (some n) (result.length + 1) = true then _ else _) =
        (if false = true then _ else pushNew none (result ++ [a]) rest).take n
      rw [if_neg (c := false = true) (by decide)]
      by_cases hfull : n ≤ result.length + 1
      · rw [if_pos (by simpa [reached] using hfull)]
        obtain ⟨new, hnew⟩ := pushNew_none (result ++ [a]) rest
        have hlength : (result ++ [a]).length = n := by
          rw [List.length_append, List.length_singleton]
          omega
        rw [hnew, ← hlength, List.take_left]
      · rw [if_neg (by simpa [reached] using hfull)]
        apply ih
        rw [List.length_append, List.length_singleton]
        omega

theorem allDependents_eq (graph : FormulaGraph) (address : String) :
    graph.allDependents address =
      pushNew none (graph.dependents address) (graph.rangeHits address) := rfl

theorem dependentsLimited_eq (graph : FormulaGraph) (address : String) (n : Nat) :
    graph.dependentsLimited address (some n) =
      ((graph.allDependents address).take n,
        decide (n ≤ (graph.allDependents address).length)) := by
  obtain ⟨new, hnew⟩ := pushNew_none (graph.dependents address) (graph.rangeHits address)
  rw [allDependents_eq]
  unfold FormulaGraph.dependentsLimited
  dsimp only
  by_cases hdirect : n ≤ (graph.dependents address).length
  · rw [if_pos (by simpa [reached] using hdirect), hnew]
    apply Prod.ext
    · exact (List.take_append_of_le_length hdirect).symm
    · simp only [List.length_append]
      exact (decide_eq_true (by omega)).symm
  · rw [if_neg (by simpa [reached] using hdirect), pushNew_limit (not_le.mp hdirect)]
    apply Prod.ext
    · rfl
    · simp [reached]

end Limits

/-! ### References to a cell -/

/-- How sheet names in different letter cases are told to be one; ASCII letters are part of it. -/
structure SheetNames where
  fold : String → String
  ascii : ∀ a b, Sheets.eqIgnoreAsciiCase a b = true → fold a = fold b

def Between (low high : Option Nat) (value : Nat) : Prop :=
  (∀ l, low = some l → l ≤ value) ∧ ∀ h, high = some h → value ≤ h

theorem withinBounds_iff {low high : Option Nat} {value : Nat} :
    withinBounds low high value = true ↔ Between low high value := by
  unfold withinBounds Between
  cases low <;> cases high <;> simp

instance {low high : Option Nat} {value : Nat} : Decidable (Between low high value) :=
  decidable_of_iff _ withinBounds_iff

namespace ReferenceType

def qualifier : ReferenceType → Option String
  | .cell sheet _ _ => sheet
  | .range sheet _ _ _ _ _ => sheet
  | _ => none

/-- The cell is the one referred to, or is in the range. -/
def Covers (row col : Nat) : ReferenceType → Prop
  | .cell _ r c => r = row ∧ c = col
  | .range _ startRow startCol endRow endCol _ =>
    Between startRow endRow row ∧ Between startCol endCol col
  | _ => False

instance (row col : Nat) : DecidablePred (Covers row col)
  | .cell _ r c => inferInstanceAs (Decidable (r = row ∧ c = col))
  | .range _ startRow startCol endRow endCol _ =>
    inferInstanceAs (Decidable (Between startRow endRow row ∧ Between startCol endCol col))
  | .namedRange _ => inferInstanceAs (Decidable False)
  | .table _ => inferInstanceAs (Decidable False)
  | .external _ => inferInstanceAs (Decidable False)
  | .cell3D _ => inferInstanceAs (Decidable False)
  | .range3D _ => inferInstanceAs (Decidable False)

/-- The reference names a cell of its own sheet, without a qualifier or with the sheet's name in
any letter case. -/
def Names (names : SheetNames) (own : String) (row col : Nat) (reference : ReferenceType) : Prop :=
  reference.Covers row col ∧
    (reference.qualifier.all fun sheet => names.fold sheet = names.fold own) = true

instance (names : SheetNames) (own : String) (row col : Nat) :
    DecidablePred (Names names own row col) :=
  fun _ => inferInstanceAs (Decidable (_ ∧ _))

/-- It names it without a qualifier, or through a range that is kept, with the sheet's name up to
ASCII case. -/
def Seen (own : String) (row col : Nat) (reference : ReferenceType) : Prop :=
  reference.Covers row col ∧ (reference.qualifier = none ∨ reference.large = true ∧
    (reference.qualifier.all fun sheet => Sheets.eqIgnoreAsciiCase sheet own) = true)

instance (own : String) (row col : Nat) : DecidablePred (Seen own row col) :=
  fun _ => inferInstanceAs (Decidable (_ ∧ _))

end ReferenceType

section Cells
variable {Ast : Type} (parser : FormulaParser Ast) (names : SheetNames) (own : String)
  (row col : Nat)

def SheetCell.RefersTo (cell : SheetCell) : Prop :=
  ∃ reference ∈ cell.references parser, reference.Names names own row col

instance : DecidablePred (SheetCell.RefersTo parser names own row col) :=
  fun cell => inferInstanceAs (Decidable (∃ reference ∈ cell.references parser, _))

/-- Whenever a formula names the cell, it also has a reference to it that is seen. -/
def SheetCell.SeenIfNamed (cell : SheetCell) : Prop :=
  cell.RefersTo parser names own row col →
    ∃ reference ∈ cell.references parser, reference.Seen own row col

instance : DecidablePred (SheetCell.SeenIfNamed parser names own row col) :=
  fun cell => inferInstanceAs (Decidable (cell.RefersTo parser names own row col →
    ∃ reference ∈ cell.references parser, reference.Seen own row col))

/-- The formula cells of a sheet that reference a cell of it. -/
def Worksheet.referencing (sheet : Worksheet) : List String :=
  (sheet.cells.filter fun cell => cell.RefersTo parser names sheet.name row col).map
    SheetCell.address

end Cells

section Exact
variable {Ast : Type} {parser : FormulaParser Ast} {names : SheetNames} {own : String}
  {row col : Nat} {cell : SheetCell} {sheet : Worksheet}

theorem eqIgnoreAsciiCase_refl (text : String) : Sheets.eqIgnoreAsciiCase text text = true := by
  simp [Sheets.eqIgnoreAsciiCase]

theorem mem_expandRange {sheet : Option String} {sr sc er ec : Nat} {reference : ReferenceType} :
    reference ∈ expandRange sheet sr sc er ec ↔ ∃ r c, reference = .cell sheet r c ∧
      (sr ≤ r ∧ r ≤ er) ∧ sc ≤ c ∧ c ≤ ec := by
  unfold expandRange
  simp only [List.mem_flatMap, List.mem_map, List.mem_range'_1]
  constructor
  · intro ⟨r, hr, c, hc, heq⟩
    exact ⟨r, c, heq.symm, by omega, by omega⟩
  · intro ⟨r, c, heq, hr, hc⟩
    exact ⟨r, by omega, c, by omega, heq.symm⟩

/-- A range that is kept is collected as it is written. -/
theorem expand_large {w reference : ReferenceType} (h : reference ∈ w.expand)
    (hlarge : reference.large = true) : reference = w := by
  cases w with
  | range sheet sr sc er ec text =>
    cases sr <;> cases sc <;> cases er <;> cases ec <;>
      simp only [ReferenceType.expand, List.mem_singleton] at h
    case some.some.some.some =>
      split at h
      · obtain ⟨r, c, rfl, _⟩ := mem_expandRange.mp h
        contradiction
      · exact List.mem_singleton.mp h
    all_goals exact h
  | _ => exact List.mem_singleton.mp h

theorem large_expand {w : ReferenceType} (hlarge : w.large = true) : w ∈ w.expand := by
  cases w with
  | range sheet sr sc er ec text =>
    cases sr <;> cases sc <;> cases er <;> cases ec <;> simp only [ReferenceType.expand,
      List.mem_singleton]
    case some.some.some.some =>
      have hsize : ¬ (_ : Nat) ≤ rangeExpansionLimit :=
        not_le.mpr (of_decide_eq_true hlarge)
      rw [if_neg hsize]
      exact List.mem_singleton_self _
  | _ => contradiction

theorem expand_cell {w : ReferenceType} : ReferenceType.cell none row col ∈ w.expand ↔
    w.Covers row col ∧ w.qualifier = none ∧ w.large = false := by
  cases w with
  | cell sheet r c =>
    simp only [ReferenceType.expand, List.mem_singleton, ReferenceType.Covers,
      ReferenceType.qualifier, ReferenceType.large, ReferenceType.cell.injEq]
    constructor
    · intro ⟨hs, hr, hc⟩
      exact ⟨⟨hr.symm, hc.symm⟩, hs.symm, trivial⟩
    · intro ⟨⟨hr, hc⟩, hs, _⟩
      exact ⟨hs.symm, hr.symm, hc.symm⟩
  | range sheet sr sc er ec text =>
    have hopen (h : isLargeOrInfiniteRange sr sc er ec = true)
        (hexpand : (ReferenceType.range sheet sr sc er ec text).expand =
          [.range sheet sr sc er ec text]) :
        ReferenceType.cell none row col ∈ (ReferenceType.range sheet sr sc er ec text).expand ↔
          (ReferenceType.range sheet sr sc er ec text).Covers row col ∧
            (ReferenceType.range sheet sr sc er ec text).qualifier = none ∧
              (ReferenceType.range sheet sr sc er ec text).large = false := by
      rw [hexpand, ReferenceType.large, h]
      simp
    match sr, sc, er, ec with
    | some sr, some sc, some er, some ec =>
      by_cases hsize : (er - sr + 1) * (ec - sc + 1) ≤ rangeExpansionLimit
      · have hlarge : isLargeOrInfiniteRange (some sr) (some sc) (some er) (some ec) = false :=
          decide_eq_false (not_lt.mpr hsize)
        simp only [ReferenceType.expand]
        rw [if_pos hsize, mem_expandRange]
        simp only [ReferenceType.Covers, ReferenceType.qualifier, ReferenceType.large, hlarge,
          Between, Option.some.injEq, forall_eq', and_true]
        constructor
        · intro ⟨r, c, heq, hr, hc⟩
          injection heq with hs hr' hc'
          rw [hr', hc']
          exact ⟨⟨hr, hc⟩, hs.symm⟩
        · intro ⟨⟨hr, hc⟩, hs⟩
          exact ⟨row, col, by rw [hs], hr, hc⟩
      · apply hopen (decide_eq_true (not_le.mp hsize))
        simp only [ReferenceType.expand]
        rw [if_neg hsize]
    | none, _, _, _ => exact hopen rfl rfl
    | some _, none, _, _ => exact hopen rfl rfl
    | some _, some _, none, _ => exact hopen rfl rfl
    | some _, some _, some _, none => exact hopen rfl rfl
  | _ => simp [ReferenceType.expand, ReferenceType.Covers]

theorem rangeContainsCell_iff {r : ReferenceType} (hlarge : r.large = true) :
    rangeContainsCell r none own row col = true ↔ r.Seen own row col := by
  cases r with
  | range sheet sr sc er ec text =>
    simp only [rangeContainsCell, Bool.and_eq_true, withinBounds_iff, ReferenceType.Seen,
      ReferenceType.Covers, ReferenceType.qualifier, hlarge, true_and]
    cases sheet with
    | none => simp [eqIgnoreAsciiCase_refl]
    | some s => simp [and_comm]
  | _ => contradiction

theorem rangeContainsCell_region {r r' : ReferenceType} (h : r.region = r'.region)
    (hr : r.region ≠ none) : rangeContainsCell r none own row col =
      rangeContainsCell r' none own row col := by
  cases r with
  | range sheet sr sc er ec text =>
    cases r' with
    | range sheet' sr' sc' er' ec' text' =>
      simp only [ReferenceType.region, Option.some.injEq, Prod.mk.injEq, List.cons.injEq,
        and_true] at h
      obtain ⟨rfl, rfl, rfl, rfl, rfl⟩ := h
      rfl
    | _ => contradiction
  | _ => contradiction

theorem region_of_large {r : ReferenceType} (h : r.large = true) : r.region ≠ none := by
  cases r with
  | range => exact nofun
  | _ => contradiction

/-- What is collected of a cell's formula shows the query exactly where a reference is seen. -/
theorem seen_iff_collected : (∃ w ∈ cell.references parser, w.Seen own row col) ↔
    ∃ r ∈ cell.collected parser, r = .cell none row col ∨
      r.large = true ∧ rangeContainsCell r none own row col = true := by
  unfold SheetCell.references SheetCell.collected
  cases cell.ast parser with
  | none => simp
  | some ast =>
    simp only [Option.map_some, Option.getD_some]
    constructor
    · intro ⟨w, hw, hseen⟩
      by_cases hlarge : w.large = true
      · exact ⟨w, (parser.mem_collect ast w).mpr ⟨w, hw, large_expand hlarge⟩,
          .inr ⟨hlarge, (rangeContainsCell_iff hlarge).mpr hseen⟩⟩
      · rcases hseen.2 with hnone | hrange
        · have hmem := expand_cell.mpr ⟨hseen.1, hnone, Bool.eq_false_iff.mpr hlarge⟩
          exact ⟨_, (parser.mem_collect ast _).mpr ⟨w, hw, hmem⟩, .inl rfl⟩
        · exact absurd hrange.1 hlarge
    · intro ⟨r, hr, hshown⟩
      obtain ⟨w, hw, hmem⟩ := (parser.mem_collect ast r).mp hr
      rcases hshown with rfl | ⟨hlarge, hcontains⟩
      · obtain ⟨hcovers, hnone, _⟩ := expand_cell.mp hmem
        exact ⟨w, hw, hcovers, .inl hnone⟩
      · rw [expand_large hmem hlarge] at hcontains hlarge
        exact ⟨w, hw, (rangeContainsCell_iff hlarge).mp hcontains⟩

theorem names_of_seen {w : ReferenceType} (h : w.Seen own row col) : w.Names names own row col := by
  refine ⟨h.1, ?_⟩
  rcases h.2 with hnone | ⟨_, hsame⟩
  · rw [hnone]
    rfl
  · cases hsheet : w.qualifier with
    | none => rfl
    | some s =>
      rw [hsheet] at hsame
      exact decide_eq_true (names.ascii s own hsame)

/-! ### The graph -/

structure FormulaGraph.Reordered (graph graph' : FormulaGraph) : Prop where
  sheetName : graph'.sheetName = graph.sheetName
  dependents : ∀ key, (graph'.dependents key).Perm (graph.dependents key)
  ranges : ∃ entries, entries.Perm graph.rangeDependents ∧
    List.Forall₂ (fun e e' => e'.rangeKey = e.rangeKey ∧ e'.reference = e.reference ∧
      List.Perm e'.dependents e.dependents) entries graph'.rangeDependents

theorem forall₂_mem_right {α β : Type} {R : α → β → Prop} {xs : List α} {ys : List β}
    (h : List.Forall₂ R xs ys) {y : β} (hy : y ∈ ys) : ∃ x ∈ xs, R x y := by
  induction h with
  | nil => exact absurd hy List.not_mem_nil
  | @cons x y' xs ys hxy _ ih =>
    rcases List.mem_cons.mp hy with rfl | hy
    · exact ⟨x, List.mem_cons_self, hxy⟩
    · obtain ⟨x', hx', hR⟩ := ih hy
      exact ⟨x', List.mem_cons_of_mem _ hx', hR⟩

theorem FormulaGraph.Indexed.reordered {graph graph' : FormulaGraph}
    {pairs : List (String × ReferenceType)} (h : graph.Indexed pairs)
    (horder : graph.Reordered graph') : graph'.Indexed pairs := by
  obtain ⟨entries, hperm, halike⟩ := horder.ranges
  constructor
  · intro key a
    rw [(horder.dependents key).mem_iff]
    exact h.direct key a
  · intro key
    exact (horder.dependents key).nodup_iff.mpr (h.nodup key)
  · intro e' he'
    obtain ⟨e, he, hkey, hreference, _⟩ := forall₂_mem_right halike he'
    rw [hkey, hreference]
    exact h.keyed e (hperm.mem_iff.mp he)
  · intro e' he' a ha
    obtain ⟨e, he, hkey, _, hsame⟩ := forall₂_mem_right halike he'
    rw [hkey]
    exact h.ranged e (hperm.mem_iff.mp he) a (hsame.mem_iff.mp ha)
  · intro a r hmem hlarge
    obtain ⟨e, he, hkey, ha⟩ := h.entered a r hmem hlarge
    obtain ⟨e', he', hkey', _, hsame⟩ := forall₂_mem_right halike.flip (hperm.mem_iff.mpr he)
    exact ⟨e', he', hkey'.trans hkey, hsame.mem_iff.mpr ha⟩

theorem mem_collectedPairs {cells : List SheetCell} {a : String} {r : ReferenceType} :
    (a, r) ∈ collectedPairs parser cells ↔
      ∃ cell ∈ cells, cell.address = a ∧ r ∈ cell.collected parser := by
  unfold collectedPairs
  simp only [List.mem_flatMap, List.mem_map, Prod.mk.injEq]
  constructor
  · intro ⟨cell, hcell, r', hr', ha, heq⟩
    exact ⟨cell, hcell, ha, heq ▸ hr'⟩
  · intro ⟨cell, hcell, ha, hr⟩
    exact ⟨cell, hcell, r, hr, ha, rfl⟩

theorem region_of_pairs {cells : List SheetCell} {a a' : String} {r r' : ReferenceType}
    (h : (a, r) ∈ collectedPairs parser cells) (h' : (a', r') ∈ collectedPairs parser cells)
    (hr : r.large = true) (hr' : r'.large = true) (htext : r.text = r'.text) :
    r.region = r'.region := by
  have hwritten {a : String} {r : ReferenceType} (h : (a, r) ∈ collectedPairs parser cells)
      (hr : r.large = true) : ∃ ast, r ∈ parser.written ast := by
    obtain ⟨cell, _, _, hmem⟩ := mem_collectedPairs.mp h
    unfold SheetCell.collected at hmem
    cases hast : cell.ast parser with
    | none => simp [hast] at hmem
    | some ast =>
      rw [hast] at hmem
      obtain ⟨w, hw, hexpand⟩ := (parser.mem_collect ast r).mp hmem
      exact ⟨ast, expand_large hexpand hr ▸ hw⟩
  obtain ⟨ast, hw⟩ := hwritten h hr
  obtain ⟨ast', hw'⟩ := hwritten h' hr'
  exact parser.region_text ast ast' r hw r' hw' (region_of_large hr) (region_of_large hr') htext

theorem mem_allDependents {graph : FormulaGraph} {cells : List SheetCell} {a : String}
    (h : graph.Indexed (collectedPairs parser cells)) (hcol : 0 < col) (hcol' : col < 2 ^ 32)
    (hrow : row < 2 ^ 32) : a ∈ graph.allDependents (cellAddress col row) ↔
      ∃ cell ∈ cells, cell.address = a ∧
        ∃ w ∈ cell.references parser, w.Seen graph.sheetName row col := by
  have hhits : a ∈ graph.rangeHits (cellAddress col row) ↔ ∃ e ∈ graph.rangeDependents,
      rangeContainsCell e.reference none graph.sheetName row col = true ∧ a ∈ e.dependents := by
    unfold FormulaGraph.rangeHits
    rw [parseCellAddress_cell hcol hcol' hrow, splitSheetPrefix_cell]
    simp only [List.mem_flatMap, List.mem_filter]
    constructor
    · intro ⟨e, ⟨he, hcontains⟩, ha⟩
      exact ⟨e, he, hcontains, ha⟩
    · intro ⟨e, he, hcontains, ha⟩
      exact ⟨e, ⟨he, hcontains⟩, ha⟩
  rw [allDependents_eq, mem_pushNew, hhits, h.direct]
  simp only [seen_iff_collected]
  constructor
  · rintro (⟨sheet, r, c, hmem, hkey⟩ | ⟨e, he, hcontains, ha⟩)
    · obtain ⟨rfl, rfl, rfl⟩ := formatCellAddress_eq.mp hkey
      obtain ⟨cell, hcell, haddress, hr⟩ := mem_collectedPairs.mp hmem
      exact ⟨cell, hcell, haddress, _, hr, .inl rfl⟩
    · obtain ⟨hlarge, hkey, a', ha'⟩ := h.keyed e he
      obtain ⟨r, hmem, hr, htext⟩ := h.ranged e he a ha
      have hregion := region_of_pairs ha' hmem hlarge hr (hkey.symm.trans htext.symm)
      rw [rangeContainsCell_region hregion (region_of_large hlarge)] at hcontains
      obtain ⟨cell, hcell, haddress, hcollected⟩ := mem_collectedPairs.mp hmem
      exact ⟨cell, hcell, haddress, r, hcollected, .inr ⟨hr, hcontains⟩⟩
  · intro ⟨cell, hcell, haddress, r, hr, hshown⟩
    have hmem := mem_collectedPairs.mpr ⟨cell, hcell, haddress, hr⟩
    rcases hshown with rfl | ⟨hlarge, hcontains⟩
    · exact .inl ⟨none, row, col, hmem, formatCellAddress_eq.mpr ⟨rfl, rfl, rfl⟩⟩
    · obtain ⟨e, he, hkey, ha⟩ := h.entered a r hmem hlarge
      obtain ⟨hlarge', hkey', a', ha'⟩ := h.keyed e he
      have hregion := region_of_pairs hmem ha' hlarge hlarge' (hkey.symm.trans hkey')
      rw [rangeContainsCell_region hregion (region_of_large hlarge)] at hcontains
      exact .inr ⟨e, he, hcontains, ha⟩

theorem allDependents_nodup {graph : FormulaGraph} {pairs : List (String × ReferenceType)}
    (h : graph.Indexed pairs) (address : String) : (graph.allDependents address).Nodup := by
  rw [allDependents_eq]
  exact nodup_pushNew (h.nodup address)

theorem referencing_nodup (parser : FormulaParser Ast) (names : SheetNames) (sheet : Worksheet)
    (row col : Nat) : (sheet.referencing parser names row col).Nodup := by
  unfold Worksheet.referencing
  have hplaces : (sheet.cells.map SheetCell.address).Nodup := by
    have hmap : sheet.cells.map SheetCell.address =
        (sheet.cells.map fun cell => (cell.col, cell.row)).map fun place =>
          cellAddress place.1 place.2 := by
      rw [List.map_map]
      rfl
    rw [hmap]
    apply sheet.distinct.map
    intro place place' heq
    have hboth := cellAddress_inj heq
    exact Prod.ext hboth.1 hboth.2
  exact hplaces.sublist ((List.filter_sublist (l := sheet.cells)).map _)

end Exact

/-! ### The result -/

section Result
variable {Ast : Type} (parser : FormulaParser Ast) (names : SheetNames) (sheet : Worksheet)
  (row col n : Nat) (graph : FormulaGraph)

/-- The dependents are the referencing cells, each once; with a limit there are as many of them
as fit, and the cut is reported exactly when there are more. -/
structure DependentsExact : Prop where
  whole : (graph.allDependents (cellAddress col row)).Perm
    (sheet.referencing parser names row col)
  count : (graph.dependentsLimited (cellAddress col row) (some n)).1.length =
    min n (sheet.referencing parser names row col).length
  among : (graph.dependentsLimited (cellAddress col row) (some n)).1.Subperm
    (sheet.referencing parser names row col)
  truncated : (graph.dependentsLimited (cellAddress col row) (some n)).2 = true ↔
    n < (sheet.referencing parser names row col).length

/-- The dependents of a cell are exact, at a limit, exactly when every formula that names the cell
has a reference to it that is seen, and the limit is not the number of formulas that do. -/
theorem dependents_exact_iff {policy : FormulaParsePolicy}
    {built : FormulaGraph × List FormulaParseRecord}
    (hbuild : FormulaGraph.build parser sheet policy = .ok built)
    (horder : built.1.Reordered graph) (hcol : 0 < col) (hcol' : col < 2 ^ 32)
    (hrow : row < 2 ^ 32) : DependentsExact parser names sheet row col n graph ↔
      (∀ cell ∈ sheet.cells, cell.SeenIfNamed parser names sheet.name row col) ∧
        n ≠ (sheet.referencing parser names row col).length := by
  obtain ⟨hindexed, hname⟩ := FormulaGraph.indexed_build hbuild
  have hindexed' := hindexed.reordered horder
  have hsheet : graph.sheetName = sheet.name := horder.sheetName.trans hname
  have hmem (a : String) := @mem_allDependents _ parser row col graph sheet.cells a hindexed' hcol
    hcol' hrow
  rw [hsheet] at hmem
  have hreferencing (a : String) : a ∈ sheet.referencing parser names row col ↔
      ∃ cell ∈ sheet.cells, cell.address = a ∧ cell.RefersTo parser names sheet.name row col := by
    unfold Worksheet.referencing
    simp only [List.mem_map, List.mem_filter, decide_eq_true_eq]
    constructor
    · intro ⟨cell, ⟨hcell, hrefers⟩, ha⟩
      exact ⟨cell, hcell, ha, hrefers⟩
    · intro ⟨cell, hcell, ha, hrefers⟩
      exact ⟨cell, ⟨hcell, hrefers⟩, ha⟩
  constructor
  · intro h
    constructor
    · intro cell hcell hrefers
      have ha := h.whole.mem_iff.mpr ((hreferencing _).mpr ⟨cell, hcell, rfl, hrefers⟩)
      obtain ⟨cell', hcell', haddress, hseen⟩ := (hmem _).mp ha
      have hsame : cell' = cell := by
        have hplace := cellAddress_inj haddress
        exact List.inj_on_of_nodup_map sheet.distinct hcell' hcell (Prod.ext hplace.1 hplace.2)
      exact hsame ▸ hseen
    · intro hn
      have hcut := h.truncated
      rw [dependentsLimited_eq, h.whole.length_eq] at hcut
      simp only [decide_eq_true_eq] at hcut
      omega
  · intro ⟨hseen, hn⟩
    have hwhole : (graph.allDependents (cellAddress col row)).Perm
        (sheet.referencing parser names row col) := by
      rw [List.perm_ext_iff_of_nodup (allDependents_nodup hindexed' _)
        (referencing_nodup parser names sheet row col)]
      intro a
      rw [hmem, hreferencing]
      constructor
      · intro ⟨cell, hcell, ha, w, hw, hshown⟩
        exact ⟨cell, hcell, ha, w, hw, names_of_seen hshown⟩
      · intro ⟨cell, hcell, ha, hrefers⟩
        exact ⟨cell, hcell, ha, hseen cell hcell hrefers⟩
    constructor
    · exact hwhole
    · rw [dependentsLimited_eq, List.length_take, hwhole.length_eq]
    · rw [dependentsLimited_eq]
      exact (List.take_sublist _ _).subperm.trans hwhole.subperm
    · rw [dependentsLimited_eq, hwhole.length_eq, decide_eq_true_eq]
      omega

end Result

/-! ### A sheet -/

inductive SampleFormula where
  | plain
  | qualified
  | wide

def SampleFormula.written : SampleFormula → List ReferenceType
  | .plain => [.cell none 1 1]
  | .qualified => [.cell (some "Model") 1 1]
  | .wide => [.range none (some 1) (some 1) (some 900) (some 1) "A1:A900"]

def sampleParser : FormulaParser SampleFormula where
  parse := fun text =>
    if text = "=A1+1" then .ok .plain
    else if text = "=Model!A1" then .ok .qualified
    else if text = "=SUM(A1:A900)" then .ok .wide
    else .error "unexpected token"
  fingerprint
    | .plain => "1"
    | .qualified => "2"
    | .wide => "3"
  canonical
    | .plain => "A1+1"
    | .qualified => "Model!A1"
    | .wide => "SUM(A1:A900)"
  containsVolatile := fun _ => false
  written := SampleFormula.written
  collectReferences := fun ast => ast.written.flatMap ReferenceType.expand
  mem_collect := fun _ _ => List.mem_flatMap
  region_text := by
    intro ast ast' r hr r' hr' hregion hregion' _
    cases ast <;> cases ast' <;> simp only [SampleFormula.written, List.mem_singleton] at hr hr' <;>
      subst hr hr' <;> first | rfl | exact absurd rfl hregion | exact absurd rfl hregion'

def sampleNames : SheetNames where
  fold := fun name => String.ofList (name.toList.map Char.toLower)
  ascii := fun _ _ h => congrArg String.ofList (eq_of_beq h)

/-- Two formulas that name A1, one through a range of 900 cells. -/
def sampleSheet : Worksheet where
  name := "Model"
  cells := [⟨2, 1, true, "A1+1", .normal, none⟩, ⟨2, 2, true, "SUM(A1:A900)", .normal, none⟩]
  distinct := by decide

/-- A formula that names A1 by the sheet's own name. -/
def qualifiedSheet : Worksheet where
  name := "Model"
  cells := [⟨2, 1, true, "Model!A1", .normal, none⟩]
  distinct := by decide

def sampleBuilt (sheet : Worksheet) : FormulaGraph × List FormulaParseRecord :=
  ((FormulaGraph.build sampleParser sheet .warn).toOption).getD (FormulaGraph.empty sheet.name, [])

theorem FormulaGraph.Reordered.refl (graph : FormulaGraph) : graph.Reordered graph where
  sheetName := rfl
  dependents := fun _ => List.Perm.refl _
  ranges := ⟨graph.rangeDependents, List.Perm.refl _, List.forall₂_same.mpr fun _ _ =>
    ⟨rfl, rfl, List.Perm.refl _⟩⟩

theorem sampleSheet_dependents_exact :
    FormulaGraph.build sampleParser sampleSheet .warn = .ok (sampleBuilt sampleSheet) ∧
    DependentsExact sampleParser sampleNames sampleSheet 1 1 1 (sampleBuilt sampleSheet).1 := by
  have hbuild : FormulaGraph.build sampleParser sampleSheet .warn =
    .ok (sampleBuilt sampleSheet) := rfl
  refine ⟨hbuild, (dependents_exact_iff sampleParser sampleNames sampleSheet 1 1 1
    (sampleBuilt sampleSheet).1 hbuild (.refl _) (by decide) (by decide) (by decide)).mpr ?_⟩
  decide +kernel

/-- A cell under the sheet's own name is not found, and a limit that is just met is reported as
a cut. -/
theorem dependents_missed :
    (∀ n, ¬ DependentsExact sampleParser sampleNames qualifiedSheet 1 1 n
      (sampleBuilt qualifiedSheet).1) ∧
    ¬ DependentsExact sampleParser sampleNames sampleSheet 1 1 2 (sampleBuilt sampleSheet).1 := by
  constructor
  · intro n h
    have hlength := h.whole.length_eq
    exact absurd hlength (by decide +kernel)
  · intro h
    have hcut := h.truncated.mp (by decide +kernel)
    exact absurd hcut (by decide +kernel)

end AgentSpreadsheet.Analysis
