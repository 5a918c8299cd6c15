import AgentSpreadsheet.Analysis.Dependents
import AgentSpreadsheet.Search.Agreement
import AgentSpreadsheet.Verify.Compare

/-! The error maps and the named items of two workbooks: what their comparisons see, and how they
look from the other side. -/
namespace AgentSpreadsheet.Verify
open Library
open Search (StoredCell Worksheet WorkbookContext isSpreadsheetError)

/-! ### Maps from lists -/

theorem ofList_get {β : Type} (items : List (String × β)) (key : String) :
    (Std.TreeMap.ofList items)[key]? =
      (items.reverse.find? fun item => item.1 == key).map Prod.snd := by
  rw [Std.TreeMap.ofList_eq_insertMany_empty, Std.TreeMap.getElem?_insertMany_list,
    List.findSomeRev?_eq_findSome?_reverse, Std.TreeMap.getElem?_emptyc, Option.or_none]
  induction items.reverse with
  | nil => rfl
  | cons item rest ih =>
    rw [List.findSome?_cons, List.find?_cons, ih]
    by_cases h : item.1 = key
    · simp [h]
    · have hkey : (item.1 == key) = false := by simpa using h
      simp [h, hkey]

theorem ofList_get_iff {β : Type} {items : List (String × β)}
    (h : ∀ key value value', (key, value) ∈ items → (key, value') ∈ items → value = value')
    {key : String} {value : β} :
    (Std.TreeMap.ofList items)[key]? = some value ↔ (key, value) ∈ items := by
  rw [ofList_get]
  constructor
  · intro hget
    obtain ⟨item, hfind, rfl⟩ := Option.map_eq_some_iff.mp hget
    have hkey := List.find?_some hfind
    have hmem := List.mem_reverse.mp (List.mem_of_find?_eq_some hfind)
    rwa [← beq_iff_eq.mp hkey]
  · intro hmem
    cases hfind : items.reverse.find? fun item => item.1 == key with
    | none =>
      have hnone := List.find?_eq_none.mp hfind _ (List.mem_reverse.mpr hmem)
      simp at hnone
    | some item =>
      have hkey := List.find?_some hfind
      have hmem' := List.mem_reverse.mp (List.mem_of_find?_eq_some hfind)
      obtain ⟨key', value'⟩ := item
      obtain rfl : key' = key := beq_iff_eq.mp hkey
      rw [h key' value' value hmem' hmem]
      rfl

/-! ### Error cells -/

section Errors
variable {baseline current : ErrorMap}

theorem errorDelta_changed (address : String) (before after : ErrorCellSnapshot) :
    (errorDelta address (some before) (some after)).changed = false ↔ before = after := by
  cases before with
  | mk error formula =>
    cases after with
    | mk error' formula' => simp [errorDelta, ErrorDelta.changed]

theorem newErrors_nil : (compareErrorMaps baseline current).newErrors = [] ↔
    ∀ address : String, current[address]?.isSome → baseline[address]?.isSome := by
  simp only [compareErrorMaps, List.filterMap_eq_nil_iff, Prod.forall,
    Std.TreeMap.mem_toList_iff_getElem?_eq_some]
  constructor
  · intro h address hsome
    obtain ⟨after, hafter⟩ := Option.isSome_iff_exists.mp hsome
    have hkept := h address after hafter
    rw [← Std.TreeMap.contains_eq_isSome_getElem?]
    by_contra hnot
    simp [hnot] at hkept
  · intro h address after hafter
    have hsome := h address (Option.isSome_iff_exists.mpr ⟨after, hafter⟩)
    rw [← Std.TreeMap.contains_eq_isSome_getElem?] at hsome
    simp [hsome]

def ErrorDelta.swap (delta : ErrorDelta) : ErrorDelta where
  address := delta.address
  beforeError := delta.afterError
  afterError := delta.beforeError
  beforeFormula := delta.afterFormula
  afterFormula := delta.beforeFormula

theorem errorDelta_swap (address : String) (before after : Option ErrorCellSnapshot) :
    (errorDelta address before after).swap = errorDelta address after before := rfl

theorem newErrors_swap (baseline current : ErrorMap) :
    (compareErrorMaps current baseline).newErrors =
      (compareErrorMaps baseline current).resolvedErrors.map ErrorDelta.swap := by
  unfold compareErrorMaps
  dsimp only
  rw [List.map_filterMap]
  congr 1
  funext item
  by_cases h : current.contains item.1 = true
  · simp [h]
  · simp [h, errorDelta_swap]

theorem resolvedErrors_swap (baseline current : ErrorMap) :
    (compareErrorMaps current baseline).resolvedErrors =
      (compareErrorMaps baseline current).newErrors.map ErrorDelta.swap := by
  unfold compareErrorMaps
  dsimp only
  rw [List.map_filterMap]
  congr 1
  funext item
  by_cases h : baseline.contains item.1 = true
  · simp [h]
  · simp [h, errorDelta_swap]

theorem resolvedErrors_nil : (compareErrorMaps baseline current).resolvedErrors = [] ↔
    ∀ address : String, baseline[address]?.isSome → current[address]?.isSome := by
  rw [← newErrors_nil, newErrors_swap, List.map_eq_nil_iff]

theorem preexistingErrors_same :
    (compareErrorMaps baseline current).preexistingErrors.any ErrorDelta.changed = false ↔
      ∀ (address : String) before after, baseline[address]? = some before →
        current[address]? = some after → before = after := by
  rw [List.any_eq_false]
  constructor
  · intro h address before after hbefore hafter
    have hmem : errorDelta address (some before) (some after) ∈
        (compareErrorMaps baseline current).preexistingErrors :=
      List.mem_filterMap.mpr ⟨(address, after),
        Std.TreeMap.mem_toList_iff_getElem?_eq_some.mpr hafter, by simp [hbefore]⟩
    exact (errorDelta_changed address before after).mp (Bool.not_eq_true _ ▸ h _ hmem)
  · intro h delta hdelta
    obtain ⟨⟨address, after⟩, hafter, hmap⟩ := List.mem_filterMap.mp hdelta
    obtain ⟨before, hbefore, rfl⟩ := Option.map_eq_some_iff.mp hmap
    have hsame := h address before after hbefore
      (Std.TreeMap.mem_toList_iff_getElem?_eq_some.mp hafter)
    rw [Bool.not_eq_true]
    exact (errorDelta_changed address before after).mpr hsame

def ErrorComparison.Clean (errors : ErrorComparison) : Prop :=
  errors.newErrors = [] ∧ errors.resolvedErrors = [] ∧
    errors.preexistingErrors.any ErrorDelta.changed = false

theorem compareErrorMaps_clean : (compareErrorMaps baseline current).Clean ↔
    ∀ address : String, baseline[address]? = current[address]? := by
  unfold ErrorComparison.Clean
  rw [newErrors_nil, resolvedErrors_nil, preexistingErrors_same]
  constructor
  · intro h address
    obtain ⟨hnew, hresolved, hsame⟩ := h
    cases hbefore : baseline[address]? with
    | none =>
      cases hafter : current[address]? with
      | none => rfl
      | some after =>
        have hsome := hnew address (by rw [hafter]; rfl)
        rw [hbefore] at hsome
        contradiction
    | some before =>
      have hsome := hresolved address (by rw [hbefore]; rfl)
      obtain ⟨after, hafter⟩ := Option.isSome_iff_exists.mp hsome
      rw [hafter, hsame address before after hbefore hafter]
  · intro h
    refine ⟨fun address hsome => (h address) ▸ hsome, fun address hsome => (h address) ▸ hsome,
      fun address before after hbefore hafter => ?_⟩
    rw [h address] at hbefore
    exact Option.some.inj (hbefore.symm.trans hafter)

end Errors

/-! ### What the error maps hold -/

section Scope
variable {book : WorkbookContext} {filter : Option String}

def InScope (book : WorkbookContext) (filter : Option String) : Prop :=
  ∀ name, filter = some name → name ∈ book.sheetNames

def ErrorAt (book : WorkbookContext) (filter : Option String) (address : String)
    (snapshot : ErrorCellSnapshot) : Prop :=
  ∃ sheet ∈ book.sheets, (filter = none ∨ filter = some sheet.name) ∧ ∃ cell ∈ sheet.cells,
    isErrorCell cell = true ∧ errorItem sheet.name cell = (address, snapshot)

theorem sheetErrors_ok {sheet : Worksheet} (h : sheet ∈ book.sheets) :
    sheetErrors book sheet.name =
      .ok ((sheet.cells.filter isErrorCell).map (errorItem sheet.name)) := by
  unfold sheetErrors
  rw [Search.withSheet_ok h]
  rfl

theorem split_last {α : Type} {mark : α} {before after before' after' : List α}
    (hafter : mark ∉ after) (hafter' : mark ∉ after')
    (h : before ++ mark :: after = before' ++ mark :: after') :
    before = before' ∧ after = after' := by
  have hleft {xs zs e : List α} (hnot : mark ∉ xs) (h : mark :: xs = e ++ mark :: zs) :
      e = [] := by
    cases e with
    | nil => rfl
    | cons x e =>
      have htail := (List.cons.inj h).2
      exact absurd (htail ▸ List.mem_append_right _ List.mem_cons_self) hnot
  cases List.append_eq_append_iff.mp h with
  | inl h =>
    obtain ⟨e, hbefore, hrest⟩ := h
    obtain rfl := hleft hafter hrest
    exact ⟨by simpa using hbefore.symm, (List.cons.inj hrest).2⟩
  | inr h =>
    obtain ⟨e, hbefore, hrest⟩ := h
    obtain rfl := hleft hafter' hrest
    exact ⟨by simpa using hbefore, (List.cons.inj hrest).2.symm⟩

theorem qualified_inj {name name' : String} {col row col' row' : Nat}
    (h : name ++ "!" ++ Analysis.cellAddress col row =
      name' ++ "!" ++ Analysis.cellAddress col' row') :
    name = name' ∧ col = col' ∧ row = row' := by
  have hlist := congrArg String.toList h
  rw [String.toList_append, String.toList_append, String.toList_append, String.toList_append,
    List.append_assoc, List.append_assoc] at hlist
  have hparts := split_last (Analysis.exclamation_not_mem col row)
    (Analysis.exclamation_not_mem col' row') hlist
  exact ⟨String.toList_inj.mp hparts.1,
    Analysis.cellAddress_inj (String.toList_inj.mp hparts.2)⟩

theorem errorItem_inj {sheet sheet' : Worksheet} {cell cell' : StoredCell}
    (hsheet : sheet ∈ book.sheets) (hsheet' : sheet' ∈ book.sheets) (hcell : cell ∈ sheet.cells)
    (hcell' : cell' ∈ sheet'.cells)
    (h : (errorItem sheet.name cell).1 = (errorItem sheet'.name cell').1) :
    sheet = sheet' ∧ cell = cell' := by
  obtain ⟨hname, hcol, hrow⟩ := qualified_inj h
  obtain rfl := List.inj_on_of_nodup_map book.distinct hsheet hsheet' hname
  exact ⟨rfl, List.inj_on_of_nodup_map sheet.distinct hcell hcell' (Prod.ext hcol hrow)⟩

theorem sheetNames_mapM {names : List Worksheet} (h : ∀ sheet ∈ names, sheet ∈ book.sheets) :
    (names.map Worksheet.name).mapM (sheetErrors book) =
      .ok (names.map fun sheet => (sheet.cells.filter isErrorCell).map (errorItem sheet.name)) := by
  induction names with
  | nil => rfl
  | cons sheet names ih =>
    have hrest := ih fun other hother => h other (List.mem_cons_of_mem _ hother)
    simp only [List.map_cons, List.mapM_cons, sheetErrors_ok (h sheet List.mem_cons_self), hrest]
    rfl

def scopeSheets (book : WorkbookContext) : Option String → List Worksheet
  | none => book.sheets
  | some name => (book.sheets.find? fun sheet => sheet.name = name).toList

theorem scopeSheets_name {sheet : Worksheet} (h : sheet ∈ book.sheets) :
    scopeSheets book (some sheet.name) = [sheet] := by
  change (book.sheets.find? fun other => other.name = sheet.name).toList = [sheet]
  rw [Search.find_of_nodup book.distinct h]
  rfl

theorem mem_scopeSheets {sheet : Worksheet} : sheet ∈ scopeSheets book filter ↔
    sheet ∈ book.sheets ∧ (filter = none ∨ filter = some sheet.name) := by
  cases filter with
  | none => simp [scopeSheets]
  | some name =>
    constructor
    · intro h
      have hfind := Option.mem_toList.mp h
      have hname := List.find?_some hfind
      exact ⟨List.mem_of_find?_eq_some hfind, Or.inr (congrArg some (of_decide_eq_true hname)).symm⟩
    · intro h
      obtain ⟨hsheet, hname⟩ := h
      obtain rfl : name = sheet.name := by simpa using hname
      rw [scopeSheets_name hsheet]
      exact List.mem_singleton.mpr rfl

theorem scopeNames_eq (h : InScope book filter) :
    scopeNames book filter = (scopeSheets book filter).map Worksheet.name := by
  cases filter with
  | none => rfl
  | some name =>
    obtain ⟨sheet, hsheet, rfl⟩ := List.mem_map.mp (h name rfl)
    rw [scopeSheets_name hsheet]
    rfl

theorem collectErrorCells_ok (h : InScope book filter) : ∃ map : ErrorMap,
    collectErrorCells book filter = .ok map ∧
      ∀ address snapshot, map[address]? = some snapshot ↔ ErrorAt book filter address snapshot := by
  have hitems := @sheetNames_mapM book (scopeSheets book filter) fun sheet hsheet =>
    (mem_scopeSheets.mp hsheet).1
  rw [← scopeNames_eq h] at hitems
  have hmem (address : String) (snapshot : ErrorCellSnapshot) :
      (address, snapshot) ∈ ((scopeSheets book filter).map fun sheet =>
        (sheet.cells.filter isErrorCell).map (errorItem sheet.name)).flatten ↔
      ErrorAt book filter address snapshot := by
    simp [ErrorAt, List.mem_flatten, mem_scopeSheets, and_assoc]
  refine ⟨_, ?_, fun address snapshot => (ofList_get_iff ?_).trans (hmem address snapshot)⟩
  · unfold collectErrorCells
    rw [hitems]
    rfl
  · intro key value value' hvalue hvalue'
    obtain ⟨sheet, hsheet, _, cell, hcell, _, hitem⟩ := (hmem key value).mp hvalue
    obtain ⟨sheet', hsheet', _, cell', hcell', _, hitem'⟩ := (hmem key value').mp hvalue'
    obtain ⟨rfl, rfl⟩ := errorItem_inj hsheet hsheet' hcell hcell'
      ((congrArg Prod.fst hitem).trans (congrArg Prod.fst hitem').symm)
    exact congrArg Prod.snd (hitem.symm.trans hitem')

theorem collectErrorCells_inScope {map : ErrorMap} (h : collectErrorCells book filter = .ok map) :
    InScope book filter := by
  intro name hname
  subst hname
  unfold collectErrorCells scopeNames at h
  simp only [List.mapM_cons, bind_eq_ok, sheetErrors] at h
  obtain ⟨_, ⟨_, ⟨sheet, hsheet, _⟩, _⟩, _⟩ := h
  have hfind := required_eq_ok.mp hsheet
  have hkey := List.find?_some hfind
  exact List.mem_map.mpr ⟨sheet, List.mem_of_find?_eq_some hfind, of_decide_eq_true hkey⟩

end Scope

/-! ### Names -/

section Names
variable {baseline current items : List NamedRangeDescriptor}

/-- The last item of a key counts. -/
def lastItem (items : List NamedRangeDescriptor) (key : String) : Option NamedRangeDescriptor :=
  items.reverse.find? fun item => namedRangeKey item == key

theorem nameMap_get (items : List NamedRangeDescriptor) (key : String) :
    (nameMap items)[key]? = lastItem items key := by
  unfold nameMap lastItem
  rw [ofList_get, ← List.map_reverse, List.find?_map, Option.map_map]
  simp [Function.comp_def]

def entryOf (item : NamedRangeDescriptor) : String × Search.NamedItemKind :=
  (item.refersTo, item.kind)

theorem nameDelta_none {before after : Option NamedRangeDescriptor} :
    nameDelta before after = none ↔ before.map entryOf = after.map entryOf := by
  cases before <;> cases after <;> simp [nameDelta, entryOf]

theorem mem_nameKeys {key : String} : key ∈ (Std.TreeSet.ofList
      ((nameMap baseline).keys ++ (nameMap current).keys)).toList ↔
    (lastItem baseline key).isSome ∨ (lastItem current key).isSome := by
  rw [Std.TreeSet.mem_toList, Std.TreeSet.mem_ofList, List.contains_iff_mem, List.mem_append,
    Std.TreeMap.mem_keys, Std.TreeMap.mem_keys, Std.TreeMap.mem_iff_isSome_getElem?,
    Std.TreeMap.mem_iff_isSome_getElem?, nameMap_get, nameMap_get]

theorem compareNamedRanges_nil : compareNamedRanges baseline current = [] ↔
    ∀ key, (lastItem baseline key).map entryOf = (lastItem current key).map entryOf := by
  unfold compareNamedRanges
  simp only [List.filterMap_eq_nil_iff, mem_nameKeys, nameMap_get, nameDelta_none]
  constructor
  · intro h key
    cases hbefore : lastItem baseline key with
    | some before =>
      rw [← hbefore]
      exact h key (Or.inl (by rw [hbefore]; rfl))
    | none =>
      cases hafter : lastItem current key with
      | some after =>
        rw [← hbefore, ← hafter]
        exact h key (Or.inr (by rw [hafter]; rfl))
      | none => rfl
  · exact fun h key _ => h key

def NamedRangeDelta.swap (delta : NamedRangeDelta) : NamedRangeDelta where
  name := delta.name
  scopeKind := delta.scopeKind
  scopeSheetName := delta.scopeSheetName
  change := match delta.change with
    | .changed => .changed
    | .removed => .added
    | .added => .removed
  beforeRefersTo := delta.afterRefersTo
  afterRefersTo := delta.beforeRefersTo
  beforeKind := delta.afterKind
  afterKind := delta.beforeKind

def ofChange (change : NameChange) (deltas : List NamedRangeDelta) : List NamedRangeDelta :=
  deltas.filter fun delta => delta.change = change

theorem nameKeys_swap (baseline current : List NamedRangeDescriptor) :
    (Std.TreeSet.ofList ((nameMap current).keys ++ (nameMap baseline).keys)).toList =
      (Std.TreeSet.ofList ((nameMap baseline).keys ++ (nameMap current).keys)).toList := by
  apply Std.TreeSet.Equiv.toList_eq
  apply Std.TreeSet.Equiv.of_forall_mem_iff
  intro key
  rw [← Std.TreeSet.mem_toList, ← Std.TreeSet.mem_toList, mem_nameKeys, mem_nameKeys, Or.comm]

/-- An item on both sides is neither added nor removed. -/
theorem nameDelta_both (b a : NamedRangeDescriptor) (change : NameChange)
    (h : .changed ≠ change) :
    (nameDelta (some b) (some a)).filter (fun delta => delta.change = change) = none := by
  change Option.filter _ (if b.refersTo ≠ a.refersTo ∨ b.kind ≠ a.kind then
    some (namedRangeDelta a .changed (some b) (some a)) else none) = none
  split
  · exact if_neg fun hchange => h (of_decide_eq_true hchange)
  · rfl

theorem nameDelta_swap (before after : Option NamedRangeDescriptor) :
    (nameDelta after before).filter (fun delta => delta.change = .added) =
      ((nameDelta before after).filter fun delta => delta.change = .removed).map
        NamedRangeDelta.swap ∧
    (nameDelta after before).filter (fun delta => delta.change = .removed) =
      ((nameDelta before after).filter fun delta => delta.change = .added).map
        NamedRangeDelta.swap := by
  cases before with
  | none => cases after <;> exact ⟨rfl, rfl⟩
  | some b =>
    cases after with
    | none => exact ⟨rfl, rfl⟩
    | some a =>
      have hadded := fun b a => nameDelta_both b a .added (by decide)
      have hremoved := fun b a => nameDelta_both b a .removed (by decide)
      rw [hadded, hadded, hremoved, hremoved]
      exact ⟨rfl, rfl⟩

theorem addedNames_swap (baseline current : List NamedRangeDescriptor) :
    ofChange .added (compareNamedRanges current baseline) =
      (ofChange .removed (compareNamedRanges baseline current)).map NamedRangeDelta.swap := by
  unfold ofChange compareNamedRanges
  dsimp only
  rw [nameKeys_swap, List.filter_filterMap, List.filter_filterMap, List.map_filterMap]
  congr 1
  funext key
  exact (nameDelta_swap _ _).1

theorem removedNames_swap (baseline current : List NamedRangeDescriptor) :
    ofChange .removed (compareNamedRanges current baseline) =
      (ofChange .added (compareNamedRanges baseline current)).map NamedRangeDelta.swap := by
  unfold ofChange compareNamedRanges
  dsimp only
  rw [nameKeys_swap, List.filter_filterMap, List.filter_filterMap, List.map_filterMap]
  congr 1
  funext key
  exact (nameDelta_swap _ _).2

def typedKey (item : NamedRangeDescriptor) :
    String × Option NamedRangeScope × Option String × Search.NamedItemKind :=
  (item.name, item.scopeKind, item.scopeSheetName, item.kind)

/-- The reference of a name in its scope, of the last item that has it. -/
def referenceOf (items : List NamedRangeDescriptor)
    (key : String × Option NamedRangeScope × Option String × Search.NamedItemKind) :
    Option String :=
  (items.reverse.find? fun item => typedKey item = key).map NamedRangeDescriptor.refersTo

end Names

end AgentSpreadsheet.Verify
