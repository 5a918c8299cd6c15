import AgentSpreadsheet.Analysis.Dependents
import AgentSpreadsheet.Search.Paged
import Mathlib.Algebra.Order.BigOperators.Group.List

/-! Which cells the two value searches find. The shared tools lower the case of the text they
search also where case counts. -/
namespace AgentSpreadsheet.Search
open Library

/-! ### Case -/

theorem isUpper_toLower (c : Char) : c.toLower.isUpper = false := by
  by_cases h : c.isUpper = true
  · have hbounds := isUpper_iff.mp h
    have hupper : c.val ≥ 'A'.val ∧ c.val ≤ 'Z'.val := hbounds
    rw [← Bool.not_eq_true, isUpper_iff]
    unfold Char.toLower
    rw [dif_pos hupper, Char.toNat, UInt32.toNat_add]
    change ¬(65 ≤ (c.val.toNat + 32) % 4294967296 ∧ (c.val.toNat + 32) % 4294967296 ≤ 90)
    change 65 ≤ c.val.toNat ∧ c.val.toNat ≤ 90 at hbounds
    omega
  · rw [Bool.not_eq_true] at h
    rwa [toLower_of_not_isUpper h]

theorem strContains_iff {text query : String} :
    strContains text query = true ↔ query.toList <:+: text.toList := by
  simp [strContains]

theorem toAsciiLowercase_toList (text : String) :
    (toAsciiLowercase text).toList = text.toList.map Char.toLower := by
  simp [toAsciiLowercase]

def HasCapital (query : String) : Prop := ∃ c ∈ query.toList, c.isUpper = true

instance (query : String) : Decidable (HasCapital query) :=
  @List.decidableBEx Char (fun c : Char => c.isUpper = true) _ query.toList

theorem toAsciiLowercase_of_not_hasCapital {query : String} (h : ¬ HasCapital query) :
    toAsciiLowercase query = query := by
  have hsame : query.toList.map Char.toLower = query.toList := by
    conv_rhs => rw [← List.map_id query.toList]
    apply List.map_congr_left
    intro c hc
    apply toLower_of_not_isUpper
    rw [← Bool.not_eq_true]
    exact fun hupper => h ⟨c, hc, hupper⟩
  unfold toAsciiLowercase
  rw [hsame, String.ofList_toList]

theorem not_contains_lower {query : String} (h : HasCapital query) (text : String) :
    strContains (toAsciiLowercase text) query = false := by
  obtain ⟨c, hc, hupper⟩ := h
  rw [← Bool.not_eq_true, strContains_iff, toAsciiLowercase_toList]
  intro hinside
  obtain ⟨d, _, rfl⟩ := List.mem_map.mp (hinside.subset hc)
  rw [isUpper_toLower] at hupper
  contradiction

theorem contains_lower {text query : String} (h : strContains text query = true) :
    strContains (toAsciiLowercase text) (toAsciiLowercase query) = true := by
  rw [strContains_iff] at h ⊢
  rw [toAsciiLowercase_toList, toAsciiLowercase_toList]
  exact h.map Char.toLower

section Searches
variable {ν : Type} (tools : ValueTools ν) (book : WorkbookContext)

theorem cellValueToStringLower_eq (value : CellValue ν) :
    cellValueToStringLower tools value = toAsciiLowercase (cellValueToString tools value) := by
  cases value with
  | bool b =>
    have hbool : ∀ b, boolText b = toAsciiLowercase (boolText b) := by decide +kernel
    exact hbool b
  | _ => rfl

/-! ### Found cells -/

/-- The text of a cell contains the query, up to ASCII case unless case counts. -/
def TextContains (query : String) (caseSensitive : Bool) (text : String) : Prop :=
  if caseSensitive then strContains text query = true
  else strContains (toAsciiLowercase text) (toAsciiLowercase query) = true

/-- The places of the cells with a text for which `p` holds. -/
def cellsWhere (p : String → Prop) : Set (String × String) :=
  {place | ∃ sheet ∈ book.sheets, ∃ cell ∈ sheet.cells, ∃ value,
    cellToValue tools cell = some value ∧ p (cellValueToString tools value) ∧
      (sheet.name, cell.address) = place}

def WorkbookContext.cellCount : Nat := (book.sheets.map fun sheet => sheet.cells.length).sum

/-- A search that is not paged finds all of `cells` and has no next offset. -/
def Finds (search : Nat → Except String (FindValueResponse ν)) (cells : Set (String × String)) :
    Prop :=
  ∀ limit, book.cellCount < limit → ∃ answer, search limit = .ok answer ∧
    answer.nextOffset = none ∧ {place | ∃ found ∈ answer.results, found.place = place} = cells

def sharedSearch (query : String) (caseSensitive : Bool) (limit : Nat) :
    Except String (FindValueResponse ν) :=
  findValueSemantic tools book { query, caseSensitive, limit, matchMode := some .contains }

def sessionSearch (query : String) (caseSensitive : Bool) (limit : Nat) :
    Except String (FindValueResponse ν) :=
  book.sessionFindValue tools { query, caseSensitive, limit }

variable {tools book}

theorem find_of_nodup {α κ : Type} [DecidableEq κ] {key : α → κ} {items : List α} {item : α}
    (hdistinct : (items.map key).Nodup) (hitem : item ∈ items) :
    items.find? (fun other => decide (key other = key item)) = some item := by
  match hfind : items.find? fun other => decide (key other = key item) with
  | none =>
    have hnone := List.find?_eq_none.mp hfind item hitem
    exact absurd (decide_eq_true rfl) hnone
  | some other =>
    have hkey := List.find?_some hfind
    have hsame := List.inj_on_of_nodup_map hdistinct (List.mem_of_find?_eq_some hfind) hitem
      (of_decide_eq_true hkey)
    rw [hsame]

theorem withSheet_ok {sheet : Worksheet} (h : sheet ∈ book.sheets) :
    book.withSheet sheet.name = .ok sheet := by
  unfold WorkbookContext.withSheet
  rw [find_of_nodup book.distinct h]
  rfl

theorem mapM_names {f : String → Except String α} {g : Worksheet → α}
    (h : ∀ sheet ∈ book.sheets, f sheet.name = .ok (g sheet)) :
    book.sheetNames.mapM f = .ok (book.sheets.map g) := by
  unfold WorkbookContext.sheetNames
  generalize book.sheets = sheets at h
  induction sheets with
  | nil => rfl
  | cons sheet sheets ih =>
    have hrest := ih fun other hother => h other (List.mem_cons_of_mem _ hother)
    simp only [List.map_cons, List.mapM_cons, h sheet List.mem_cons_self, hrest]
    rfl

theorem length_le_cellCount {sheet : Worksheet} (h : sheet ∈ book.sheets) :
    sheet.cells.length ≤ book.cellCount :=
  List.le_sum_of_mem (List.mem_map_of_mem h)

theorem le_foldr_max {x : Nat} {xs : List Nat} (h : x ∈ xs) : x ≤ xs.foldr max 0 := by
  induction xs with
  | nil => contradiction
  | cons y ys ih =>
    rw [List.foldr_cons]
    cases List.mem_cons.mp h with
    | inl h => omega
    | inr h =>
      have := ih h
      omega

theorem cell_bounds {sheet : Worksheet} {cell : StoredCell} (h : cell ∈ sheet.cells) :
    1 ≤ cell.col ∧ cell.col ≤ max sheet.highestColumn 1 ∧ 1 ≤ cell.row ∧
      cell.row ≤ max sheet.highestRow 1 := by
  have hplaced := sheet.placed cell h
  have hcol : cell.col ≤ sheet.highestColumn := le_foldr_max (List.mem_map_of_mem h)
  have hrow : cell.row ≤ sheet.highestRow := le_foldr_max (List.mem_map_of_mem h)
  omega

theorem mem_collectValueMatches {params : FindValueParams} {sheet : Worksheet}
    {found : FindValueMatch ν} : some found ∈ collectValueMatches tools params sheet none none ↔
      ∃ cell ∈ sheet.cells, isCandidate tools params sheet none none cell = true ∧
        matchOf tools params sheet cell = some found := by
  simp [collectValueMatches, and_assoc]

def sharedParams (query : String) (caseSensitive : Bool) (limit : Nat) : FindValueParams :=
  { query, caseSensitive, limit, matchMode := some .contains }

theorem sharedSearch_ok (query : String) (caseSensitive : Bool) {limit : Nat}
    (hlimit : book.cellCount < limit) : ∃ delivered : List (FindValueMatch ν),
      sharedSearch tools book query caseSensitive limit =
        .ok ⟨delivered, delivered.length, none⟩ ∧
      ∀ found, found ∈ delivered ↔ ∃ sheet ∈ book.sheets,
        some found ∈ collectValueMatches tools (sharedParams query caseSensitive limit) sheet none
          none := by
  have hgroups : book.sheetNames.mapM
      (valueGroup tools book (sharedParams query caseSensitive limit) none) =
      .ok (book.sheets.map fun sheet =>
        collectValueMatches tools (sharedParams query caseSensitive limit) sheet none none) := by
    apply mapM_names
    intro sheet hsheet
    unfold valueGroup
    rw [withSheet_ok hsheet]
    rfl
  have hpos : 0 < limit := Nat.zero_lt_of_lt hlimit
  have hpage := collectGroups_skips hpos hgroups (Nat.zero_le 0)
  rw [Nat.sub_self, dropItems_zero, scan_fits hpos] at hpage
  · refine ⟨(book.sheets.map fun sheet => collectValueMatches tools
      (sharedParams query caseSensitive limit) sheet none none).flatten.reduceOption, ?_,
      fun found => ?_⟩
    · unfold sharedSearch
      rw [@findValueSemantic_eq _ _ _ _ none rfl]
      change (collectGroups limit (valueGroup tools book (sharedParams query caseSensitive limit)
        none) 0 book.sheetNames [] 0).map _ = _
      rw [hpage]
      rfl
    · rw [List.reduceOption_mem_iff, List.mem_flatten]
      simp
  · intro group hgroup
    obtain ⟨sheet, hsheet, rfl⟩ := List.mem_map.mp hgroup
    have hcount := length_le_cellCount hsheet
    unfold collectValueMatches
    rw [List.length_map]
    exact (List.length_filter_le _ _).trans (hcount.trans (Nat.le_of_lt hlimit))

theorem sharedParams_matches (query : String) (caseSensitive : Bool) {limit : Nat}
    {sheet : Worksheet} {place : String × String} :
    (∃ found : FindValueMatch ν, some found ∈ collectValueMatches tools
        (sharedParams query caseSensitive limit) sheet none none ∧ found.place = place) ↔
      ∃ cell ∈ sheet.cells, ∃ value, cellToValue tools cell = some value ∧
        strContains (toAsciiLowercase (cellValueToString tools value))
          (needleOf query caseSensitive) = true ∧ (sheet.name, cell.address) = place := by
  have hcandidate {cell : StoredCell} (hcell : cell ∈ sheet.cells) :
      isCandidate tools (sharedParams query caseSensitive limit) sheet none none cell = true ↔
        ∃ value, cellToValue tools cell = some value ∧
          strContains (toAsciiLowercase (cellValueToString tools value))
            (needleOf query caseSensitive) = true := by
    have hbounds := cell_bounds hcell
    have hinside : inBounds (searchBounds sheet none none) cell = true := by
      simp [inBounds, searchBounds, defaultBounds, hbounds]
    unfold isCandidate
    rw [hinside]
    cases hvalue : cellToValue tools cell with
    | none => simp [sharedParams, matchesText, FindValueParams.findMode, valueMatches, hvalue]
    | some value =>
      simp [sharedParams, matchesText, FindValueParams.findMode, valueMatches, hvalue,
        textMatches, cellValueToStringLower_eq]
  constructor
  · intro h
    obtain ⟨found, hfound, rfl⟩ := h
    obtain ⟨cell, hcell, haccepted, hmatch⟩ := mem_collectValueMatches.mp hfound
    obtain ⟨value, hvalue, htext⟩ := (hcandidate hcell).mp haccepted
    obtain rfl := Option.some.inj hmatch
    exact ⟨cell, hcell, value, hvalue, htext, rfl⟩
  · intro h
    obtain ⟨cell, hcell, value, hvalue, htext, rfl⟩ := h
    exact ⟨_, mem_collectValueMatches.mpr
      ⟨cell, hcell, (hcandidate hcell).mpr ⟨value, hvalue, htext⟩, rfl⟩, rfl⟩

/-- The shared search lowers the case of the text in either case. -/
theorem sharedSearch_finds (query : String) (caseSensitive : Bool) :
    Finds book (sharedSearch tools book query caseSensitive) (cellsWhere tools book fun text =>
      strContains (toAsciiLowercase text) (needleOf query caseSensitive) = true) := by
  intro limit hlimit
  obtain ⟨delivered, hok, hdelivered⟩ := @sharedSearch_ok _ tools book query caseSensitive _ hlimit
  refine ⟨_, hok, rfl, ?_⟩
  ext place
  simp only [Set.mem_ofPred_eq, hdelivered, cellsWhere]
  constructor
  · intro h
    obtain ⟨found, ⟨sheet, hsheet, hfound⟩, hplace⟩ := h
    exact ⟨sheet, hsheet, (sharedParams_matches query caseSensitive).mp ⟨found, hfound, hplace⟩⟩
  · intro h
    obtain ⟨sheet, hsheet, hcell⟩ := h
    obtain ⟨found, hfound, hplace⟩ := (@sharedParams_matches _ tools query caseSensitive limit _
      _).mpr hcell
    exact ⟨found, ⟨sheet, hsheet, hfound⟩, hplace⟩

theorem valueAt_eq_some {sheet : Worksheet} {col row : Nat} {value : CellValue ν} :
    valueAt tools sheet col row = some value ↔ ∃ cell ∈ sheet.cells, cell.col = col ∧
      cell.row = row ∧ cellToValue tools cell = some value := by
  have hkey (cell : StoredCell) : decide (cell.col = col ∧ cell.row = row) =
      decide ((cell.col, cell.row) = (col, row)) := by
    simp
  unfold valueAt Worksheet.cell
  constructor
  · intro h
    obtain ⟨cell, hfind, hvalue⟩ := Option.bind_eq_some_iff.mp h
    have hplace := List.find?_some hfind
    have hplace := of_decide_eq_true hplace
    exact ⟨cell, List.mem_of_find?_eq_some hfind, hplace.1, hplace.2, hvalue⟩
  · intro h
    obtain ⟨cell, hcell, rfl, rfl, hvalue⟩ := h
    simp only [hkey]
    rw [find_of_nodup sheet.distinct hcell]
    exact hvalue

theorem mem_sessionMatches {params : SessionFindValueParams} {sheet : Worksheet}
    {place : String × String} :
    (∃ found ∈ sessionMatches tools params sheet, found.place = place) ↔
      ∃ cell ∈ sheet.cells, ∃ value, cellToValue tools cell = some value ∧
        strContains (sessionHaystack tools params value)
          (needleOf params.query params.caseSensitive) = true ∧
        (sheet.name, cell.address) = place := by
  constructor
  · intro h
    obtain ⟨found, hfound, rfl⟩ := h
    obtain ⟨row, _, hrow⟩ := List.mem_flatMap.mp hfound
    obtain ⟨col, _, hcol⟩ := List.mem_filterMap.mp hrow
    obtain ⟨value, hvalue, htext⟩ := Option.bind_eq_some_iff.mp hcol
    obtain ⟨cell, hcell, rfl, rfl, hread⟩ := valueAt_eq_some.mp hvalue
    split at htext
    · rename_i hcontains
      obtain rfl := Option.some.inj htext
      exact ⟨cell, hcell, value, hread, hcontains, rfl⟩
    · contradiction
  · intro h
    obtain ⟨cell, hcell, value, hvalue, hcontains, rfl⟩ := h
    have hbounds := cell_bounds hcell
    have hat := valueAt_eq_some.mpr ⟨cell, hcell, rfl, rfl, hvalue⟩
    refine ⟨⟨cell.address, sheet.name, some value, none, none, none⟩, ?_, rfl⟩
    refine List.mem_flatMap.mpr ⟨cell.row, List.mem_range'_1.mpr (by omega), ?_⟩
    refine List.mem_filterMap.mpr ⟨cell.col, List.mem_range'_1.mpr (by omega), ?_⟩
    unfold sessionMatch
    rw [hat, Option.bind_some, if_pos hcontains]
    rfl

theorem nodup_places {cols rows : List Nat} (hcols : cols.Nodup) (hrows : rows.Nodup) :
    (rows.flatMap fun row => cols.map fun col => (col, row)).Nodup := by
  apply List.nodup_flatMap.mpr
  constructor
  · intro row _
    exact hcols.map fun col col' h => congrArg Prod.fst h
  · apply List.Pairwise.imp _ hrows
    intro row row' hne
    rw [Function.onFun, List.disjoint_left]
    intro place h h'
    obtain ⟨_, _, rfl⟩ := List.mem_map.mp h
    obtain ⟨_, _, hplace⟩ := List.mem_map.mp h'
    exact hne (congrArg Prod.snd hplace).symm

theorem sessionMatches_length (params : SessionFindValueParams) (sheet : Worksheet) :
    (sessionMatches tools params sheet).length ≤ sheet.cells.length := by
  let grid := (List.range' 1 (max sheet.highestRow 1)).flatMap fun row =>
    (List.range' 1 (max sheet.highestColumn 1)).map fun col => (col, row)
  have hgrid : sessionMatches tools params sheet =
      grid.filterMap fun place => sessionMatch tools params sheet place.2 place.1 := by
    simp [grid, sessionMatches, List.filterMap_flatMap]
  have hnodup : grid.Nodup := nodup_places List.nodup_range' List.nodup_range'
  have hplaces : (sheet.cells.map fun cell => (cell.col, cell.row)).length = sheet.cells.length :=
    List.length_map _
  rw [hgrid, List.length_filterMap_eq_countP, List.countP_eq_length_filter, ← hplaces]
  apply List.Subperm.length_le
  apply (hnodup.filter _).subperm
  intro place hplace
  obtain ⟨_, hfound⟩ := List.mem_filter.mp hplace
  obtain ⟨found, hfound⟩ := Option.isSome_iff_exists.mp hfound
  obtain ⟨value, hvalue, _⟩ := Option.bind_eq_some_iff.mp hfound
  obtain ⟨cell, hcell, hcol, hrow, _⟩ := valueAt_eq_some.mp hvalue
  exact List.mem_map.mpr ⟨cell, hcell, Prod.ext hcol hrow⟩

theorem sum_map_le {α : Type} {f g : α → Nat} {xs : List α} (h : ∀ x, f x ≤ g x) :
    (xs.map f).sum ≤ (xs.map g).sum :=
  List.sum_le_sum fun x _ => h x

theorem sessionSearch_finds {query : String} (hquery : Legacy.trim query ≠ "")
    (caseSensitive : Bool) : Finds book (sessionSearch tools book query caseSensitive)
      (cellsWhere tools book (TextContains query caseSensitive)) := by
  intro limit hlimit
  let params : SessionFindValueParams := { query, caseSensitive, limit }
  let found := book.sheets.flatMap (sessionMatches tools params)
  have hsheets : book.sheetNames.mapM book.sheetByNameRequired = .ok (book.sheets.map id) := by
    apply mapM_names
    intro sheet hsheet
    unfold WorkbookContext.sheetByNameRequired
    rw [find_of_nodup book.distinct hsheet]
    rfl
  rw [List.map_id] at hsheets
  have hcount : found.length < limit := by
    apply Nat.lt_of_le_of_lt _ hlimit
    rw [List.length_flatMap]
    exact sum_map_le fun sheet => sessionMatches_length params sheet
  have hpos : 0 < max limit 1 := by omega
  obtain ⟨seen, _, hcollect⟩ := collect_counts (Nat.le_refl 0) hpos (found.map some)
  have hfits : ¬ max limit 1 ≤ (found.map some).dropLast.reduceOption.length := by
    have hmost := List.reduceOption_length_le (found.map some).dropLast
    rw [List.length_dropLast, List.length_map] at hmost
    omega
  rw [if_neg hfits] at hcollect
  have hall : (found.map some).reduceOption = found := by
    simp [List.reduceOption, List.filterMap_map]
  refine ⟨⟨found, found.length, none⟩, ?_, rfl, ?_⟩
  · rw [hall] at hcollect
    exact @sessionFindValue_eq _ tools book params _ _ _ _ hquery rfl hsheets hcollect
  · ext place
    simp only [Set.mem_ofPred_eq, cellsWhere, found, List.mem_flatMap]
    have htext (value : CellValue ν) : TextContains query caseSensitive
        (cellValueToString tools value) ↔ strContains (sessionHaystack tools params value)
          (needleOf query caseSensitive) = true := by
      unfold TextContains sessionHaystack needleOf
      cases caseSensitive <;> rfl
    simp only [htext]
    constructor
    · intro h
      obtain ⟨match', ⟨sheet, hsheet, hmatch⟩, hplace⟩ := h
      exact ⟨sheet, hsheet, mem_sessionMatches.mp ⟨match', hmatch, hplace⟩⟩
    · intro h
      obtain ⟨sheet, hsheet, hcell⟩ := h
      obtain ⟨match', hmatch, hplace⟩ := (@mem_sessionMatches _ tools params _ _).mpr hcell
      exact ⟨match', ⟨sheet, hsheet, hmatch⟩, hplace⟩

theorem place_inj {sheet sheet' : Worksheet} {cell cell' : StoredCell}
    (hsheet : sheet ∈ book.sheets) (hsheet' : sheet' ∈ book.sheets) (hcell : cell ∈ sheet.cells)
    (hcell' : cell' ∈ sheet'.cells)
    (h : (sheet.name, cell.address) = (sheet'.name, cell'.address)) : cell = cell' := by
  have hname := congrArg Prod.fst h
  have haddress := Analysis.cellAddress_inj (congrArg Prod.snd h)
  obtain rfl := List.inj_on_of_nodup_map book.distinct hsheet hsheet' hname
  exact List.inj_on_of_nodup_map sheet.distinct hcell hcell' (Prod.ext haddress.1 haddress.2)

/-- The cells of two conditions are the same where the conditions agree on each text shown. -/
theorem cellsWhere_eq_iff {p q : String → Prop} :
    cellsWhere tools book p = cellsWhere tools book q ↔ ∀ sheet ∈ book.sheets,
      ∀ cell ∈ sheet.cells, ∀ value, cellToValue tools cell = some value →
        (p (cellValueToString tools value) ↔ q (cellValueToString tools value)) := by
  have hmem (p : String → Prop) {sheet : Worksheet} (hsheet : sheet ∈ book.sheets)
      {cell : StoredCell} (hcell : cell ∈ sheet.cells) {value : CellValue ν}
      (hvalue : cellToValue tools cell = some value) :
      (sheet.name, cell.address) ∈ cellsWhere tools book p ↔ p (cellValueToString tools value) := by
    constructor
    · intro h
      obtain ⟨sheet', hsheet', cell', hcell', value', hvalue', hp, hplace⟩ := h
      obtain rfl := place_inj hsheet' hsheet hcell' hcell hplace
      obtain rfl := Option.some.inj (hvalue.symm.trans hvalue')
      exact hp
    · intro h
      exact ⟨sheet, hsheet, cell, hcell, value, hvalue, h, rfl⟩
  constructor
  · intro h sheet hsheet cell hcell value hvalue
    rw [← hmem p hsheet hcell hvalue, ← hmem q hsheet hcell hvalue, h]
  · intro h
    ext place
    constructor
    · intro hplace
      obtain ⟨sheet, hsheet, cell, hcell, value, hvalue, hp, hplace⟩ := hplace
      exact ⟨sheet, hsheet, cell, hcell, value, hvalue, (h _ hsheet _ hcell _ hvalue).mp hp, hplace⟩
    · intro hplace
      obtain ⟨sheet, hsheet, cell, hcell, value, hvalue, hq, hplace⟩ := hplace
      exact ⟨sheet, hsheet, cell, hcell, value, hvalue, (h _ hsheet _ hcell _ hvalue).mpr hq, hplace⟩

variable (tools book)

def Shown (text : String) : Prop :=
  ∃ sheet ∈ book.sheets, ∃ cell ∈ sheet.cells, ∃ value, cellToValue tools cell = some value ∧
    cellValueToString tools value = text

/-- Both searches find the cells whose text contains the query, a session for the queries it
accepts. -/
structure SearchesAgree (query : String) (caseSensitive : Bool) : Prop where
  shared : Finds book (sharedSearch tools book query caseSensitive)
    (cellsWhere tools book (TextContains query caseSensitive))
  session : Legacy.trim query ≠ "" → Finds book (sessionSearch tools book query caseSensitive)
    (cellsWhere tools book (TextContains query caseSensitive))

/-- Where case counts, a query with a capital is in no text, and a query without one is in each
text as it is written that contains it at all. -/
def CaseIrrelevant (query : String) (caseSensitive : Bool) : Prop :=
  caseSensitive = true → ∀ text, Shown tools book text →
    if HasCapital query then strContains text query = false
    else strContains (toAsciiLowercase text) query = true → strContains text query = true

variable {tools book}

theorem finds_unique {search : Nat → Except String (FindValueResponse ν)}
    {cells cells' : Set (String × String)} (h : Finds book search cells)
    (h' : Finds book search cells') : cells = cells' := by
  obtain ⟨answer, hanswer, _, hcells⟩ := h (book.cellCount + 1) (Nat.lt_succ_self _)
  obtain ⟨answer', hanswer', _, hcells'⟩ := h' (book.cellCount + 1) (Nat.lt_succ_self _)
  obtain rfl := Except.ok.inj (hanswer.symm.trans hanswer')
  exact hcells.symm.trans hcells'

theorem sharedSearch_exact_iff {query : String} {caseSensitive : Bool} :
    Finds book (sharedSearch tools book query caseSensitive)
        (cellsWhere tools book (TextContains query caseSensitive)) ↔
      ∀ text, Shown tools book text →
        (strContains (toAsciiLowercase text) (needleOf query caseSensitive) = true ↔
          TextContains query caseSensitive text) := by
  have hfinds := @sharedSearch_finds _ tools book query caseSensitive
  have hcells := @cellsWhere_eq_iff _ tools book (fun text =>
    strContains (toAsciiLowercase text) (needleOf query caseSensitive) = true)
    (TextContains query caseSensitive)
  constructor
  · intro h text hshown
    obtain ⟨sheet, hsheet, cell, hcell, value, hvalue, rfl⟩ := hshown
    exact hcells.mp (finds_unique hfinds h) sheet hsheet cell hcell value hvalue
  · intro h
    rwa [hcells.mpr fun sheet hsheet cell hcell value hvalue =>
      h _ ⟨sheet, hsheet, cell, hcell, value, hvalue, rfl⟩] at hfinds

theorem lower_contains_iff {query : String} (text : String) :
    (strContains (toAsciiLowercase text) query = true ↔ strContains text query = true) ↔
      if HasCapital query then strContains text query = false
      else strContains (toAsciiLowercase text) query = true → strContains text query = true := by
  by_cases hcapital : HasCapital query
  · rw [if_pos hcapital, not_contains_lower hcapital]
    simp
  · rw [if_neg hcapital]
    have hkept : strContains text query = true →
        strContains (toAsciiLowercase text) query = true := by
      intro h
      have hlower := contains_lower h
      rwa [toAsciiLowercase_of_not_hasCapital hcapital] at hlower
    exact ⟨fun h => h.mp, fun h => ⟨h, hkept⟩⟩

end Searches

/-- The searches agree unless case counts and the query is found where it is written otherwise. -/
theorem searchesAgree_iff {ν : Type} (tools : ValueTools ν) (book : WorkbookContext)
    (query : String) (caseSensitive : Bool) :
    SearchesAgree tools book query caseSensitive ↔
      CaseIrrelevant tools book query caseSensitive := by
  have hexact : SearchesAgree tools book query caseSensitive ↔
      ∀ text, Shown tools book text →
        (strContains (toAsciiLowercase text) (needleOf query caseSensitive) = true ↔
          TextContains query caseSensitive text) :=
    ⟨fun h => sharedSearch_exact_iff.mp h.shared,
      fun h => ⟨sharedSearch_exact_iff.mpr h, fun hquery => sessionSearch_finds hquery _⟩⟩
  rw [hexact]
  unfold CaseIrrelevant
  cases caseSensitive with
  | false =>
    constructor
    · intro _ hcase
      contradiction
    · intro _ text _
      unfold needleOf TextContains
      exact Iff.rfl
  | true =>
    have heach (text : String) := @lower_contains_iff query text
    exact ⟨fun h _ text hshown => (heach text).mp (h text hshown),
      fun h text hshown => (heach text).mpr (h rfl text hshown)⟩

/-- One sheet, in which a query is found in capitals only. -/
theorem searches_disagree : ¬ SearchesAgree digitTools labelBook "Total" true := by
  intro h
  have hshown : Shown digitTools labelBook "Total" :=
    ⟨labelSheet, List.mem_singleton.mpr rfl, plainCell 1 1 "Total", List.mem_cons_self,
      .text "Total", by decide +kernel, rfl⟩
  have hcontains : TextContains "Total" true "Total" :=
    show strContains "Total" "Total" = true by decide +kernel
  have hsame := (sharedSearch_exact_iff.mp h.shared "Total" hshown).mpr hcontains
  exact absurd hsame (by decide +kernel)

end AgentSpreadsheet.Search
