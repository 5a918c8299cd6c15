import AgentSpreadsheet.Analysis.DependentsExact
import AgentSpreadsheet.Reads.Grid

/-! Whether a formula map depends on the order in which a hash map lists its groups. By address no
two groups are tied; by complexity and by count they can be. -/
namespace AgentSpreadsheet.Analysis
open Library Reads

/-! ### The order of cells -/

theorem toAsciiUppercase_cell (col row : Nat) :
    toAsciiUppercase (cellAddress col row) = cellAddress col row := by
  have hchars : ∀ c ∈ (cellAddress col row).toList, c.toUpper = c := by
    intro c hc
    rw [cellAddress_toList, List.mem_append] at hc
    cases hc with
    | inl hc => exact toUpper_of_isUpper (Sheets.columnName_upper col col c hc)
    | inr hc => exact toUpper_of_isDigit (Nat.isDigit_of_mem_toDigits (by decide) (by decide) hc)
  unfold toAsciiUppercase
  rw [List.map_congr_left hchars, List.map_id', String.ofList_toList]

theorem splitSheetAndCell_cell (col row : Nat) :
    splitSheetAndCell (cellAddress col row) = (none, cellAddress col row) :=
  if_neg (exclamation_not_mem col row)

theorem columnName_succ {fuel index : Nat} (h : index < 26 ^ fuel) :
    Sheets.columnName (fuel + 1) index = Sheets.columnName fuel index := by
  induction fuel generalizing index with
  | zero =>
    have hzero : index = 0 := by
      rw [Nat.pow_zero] at h
      omega
    rw [hzero]
    rfl
  | succ fuel ih =>
    rw [Nat.pow_succ] at h
    by_cases hzero : index = 0
    · rw [hzero]
      rfl
    · rw [Sheets.columnName, if_neg hzero, ih (by omega), Sheets.columnName, if_neg hzero]

theorem columnName_more {fuel index : Nat} (h : index < 26 ^ fuel) (extra : Nat) :
    Sheets.columnName (fuel + extra) index = Sheets.columnName fuel index := by
  induction extra with
  | zero => rfl
  | succ extra ih =>
    have hmore : index < 26 ^ (fuel + extra) :=
      Nat.lt_of_lt_of_le h (Nat.pow_le_pow_right (by decide) (Nat.le_add_right _ _))
    rw [← Nat.add_assoc, columnName_succ hmore, ih]

theorem columnName_eight {index : Nat} (h : index ≤ maxRow) :
    Sheets.columnName index index = Sheets.columnName 8 index := by
  have hself : index < 26 ^ index := Nat.lt_pow_self (by decide)
  have height : index < 26 ^ 8 := Nat.lt_of_le_of_lt h (by decide)
  rcases Nat.le_total index 8 with hle | hle
  · have hmore := columnName_more hself (8 - index)
    rw [Nat.add_sub_cancel' hle] at hmore
    exact hmore.symm
  · have hmore := columnName_more height (index - 8)
    rw [Nat.add_sub_cancel' hle] at hmore
    exact hmore

def SheetCell.Placed (cell : SheetCell) : Prop :=
  (0 < cell.col ∧ cell.col ≤ maxRow) ∧ 0 < cell.row ∧ cell.row ≤ maxRow

theorem parseAddress_cell {cell : SheetCell} (h : cell.Placed) :
    parseAddress cell.address = some (cell.col, cell.row) := by
  have htext : cell.address = String.ofList (cornerText cell.col cell.row) := by
    apply String.toList_inj.mp
    unfold SheetCell.address cornerText
    rw [cellAddress_toList, String.toList_ofList, columnName_eight h.1.2]
  rw [htext, parseAddress_corner h.1.1 h.1.2 h.2.2, if_pos h.2.1]

theorem cellPlace_cell {cell : SheetCell} (h : cell.Placed) :
    cellPlace (addressCore cell.address) = some (toLex (cell.row, cell.col)) := by
  have hcore : addressCore cell.address = cell.address :=
    congrArg Prod.snd (splitSheetAndCell_cell cell.col cell.row)
  have hupper : toAsciiUppercase cell.address = cell.address := toAsciiUppercase_cell _ _
  unfold cellPlace
  rw [hcore, hupper, parseAddress_cell h]
  rfl

theorem addresses_total {cells : List SheetCell} (h : ∀ cell ∈ cells, cell.Placed) :
    OrdersTotally compareAddresses (cells.map SheetCell.address) := by
  apply ((nodesOrdered_iff _).mpr ⟨?_, ?_⟩).total
  · intro a ha b hb _ hcore
    obtain ⟨cell, _, rfl⟩ := List.mem_map.mp ha
    obtain ⟨cell', _, rfl⟩ := List.mem_map.mp hb
    unfold addressCore SheetCell.address at hcore
    rw [splitSheetAndCell_cell, splitSheetAndCell_cell] at hcore
    exact hcore
  · intro a _ b _ c hc _ _ p q _ _ hnone
    obtain ⟨cell, hcell, rfl⟩ := List.mem_map.mp hc
    rw [cellPlace_cell (h cell hcell)] at hnone
    exact absurd hnone (Option.some_ne_none _)

/-! ### The groups of a sheet -/

section Groups
variable {Ast : Type} {parser : FormulaParser Ast} {policy : FormulaParsePolicy}
  {built : FormulaGraph × List FormulaParseRecord}

/-- Each fingerprint has one group, of cells that are there. -/
structure GroupsOf (addresses : List String) (groups : List (String × FormulaGroupAccumulator)) :
    Prop where
  keys : (groups.map Prod.fst).Nodup
  cells : ∀ entry ∈ groups, ∀ address ∈ entry.2.addresses, address ∈ addresses
  inhabited : ∀ entry ∈ groups, entry.2.addresses ≠ []

theorem addGroup_keys (cell : SheetCell) (ast : Ast)
    (groups : List (String × FormulaGroupAccumulator)) :
    ∀ fingerprint, fingerprint ∈ (FormulaGraph.addGroup parser cell ast groups).map Prod.fst →
      fingerprint = parser.fingerprint ast ∨ fingerprint ∈ groups.map Prod.fst := by
  induction groups with
  | nil =>
    intro fingerprint h
    exact .inl (List.mem_singleton.mp h)
  | cons entry rest ih =>
    intro fingerprint h
    unfold FormulaGraph.addGroup at h
    split at h
    · rw [List.map_cons] at h ⊢
      exact .inr h
    · rw [List.map_cons] at h ⊢
      cases h with
      | head => exact .inr List.mem_cons_self
      | tail _ h =>
        cases ih fingerprint h with
        | inl h => exact .inl h
        | inr h => exact .inr (List.mem_cons_of_mem _ h)

theorem GroupsOf.addGroup {addresses : List String}
    {groups : List (String × FormulaGroupAccumulator)} (h : GroupsOf addresses groups)
    {cell : SheetCell} (hcell : cell.address ∈ addresses) (ast : Ast) :
    GroupsOf addresses (FormulaGraph.addGroup parser cell ast groups) := by
  induction groups with
  | nil =>
    unfold FormulaGraph.addGroup
    constructor
    · simp
    · intro entry hentry address haddress
      rw [List.mem_singleton.mp hentry] at haddress
      rw [List.mem_singleton.mp haddress]
      exact hcell
    · intro entry hentry
      rw [List.mem_singleton.mp hentry]
      exact List.cons_ne_nil _ _
  | cons entry rest ih =>
    obtain ⟨fingerprint, group⟩ := entry
    have hkeys := List.nodup_cons.mp h.keys
    have hrest : GroupsOf addresses rest :=
      ⟨hkeys.2, fun entry hentry => h.cells entry (List.mem_cons_of_mem _ hentry),
        fun entry hentry => h.inhabited entry (List.mem_cons_of_mem _ hentry)⟩
    unfold FormulaGraph.addGroup
    split
    · constructor
      · exact h.keys
      · intro entry hentry address haddress
        cases hentry with
        | head =>
          rw [List.mem_append, List.mem_singleton] at haddress
          cases haddress with
          | inl haddress => exact h.cells _ List.mem_cons_self address haddress
          | inr haddress => exact haddress ▸ hcell
        | tail _ hentry => exact hrest.cells entry hentry address haddress
      · intro entry hentry
        cases hentry with
        | head => simp
        | tail _ hentry => exact hrest.inhabited entry hentry
    · rename_i hother
      have hadded := ih hrest
      constructor
      · rw [List.map_cons, List.nodup_cons]
        apply And.intro _ hadded.keys
        intro hmem
        cases addGroup_keys cell ast rest fingerprint hmem with
        | inl heq => exact hother heq
        | inr hmem => exact hkeys.1 hmem
      · intro entry hentry
        cases hentry with
        | head => exact h.cells _ List.mem_cons_self
        | tail _ hentry => exact hadded.cells entry hentry
      · intro entry hentry
        cases hentry with
        | head => exact h.inhabited _ List.mem_cons_self
        | tail _ hentry => exact hadded.inhabited entry hentry

theorem groupsOf_build {sheet : Worksheet}
    (h : FormulaGraph.build parser sheet policy = .ok built) :
    GroupsOf (sheet.cells.map SheetCell.address) built.1.groups := by
  apply groups_invariant _ _ h
  · exact ⟨List.nodup_nil, fun _ h => absurd h List.not_mem_nil,
      fun _ h => absurd h List.not_mem_nil⟩
  · intro cell hcell ast _ groups hgroups
    exact hgroups.addGroup (List.mem_map_of_mem hcell) ast

end Groups

/-! ### Ties -/

section Ties
variable {params : SheetFormulaMapParams}

theorem mem_minAddress {addresses : List String} (h : addresses ≠ []) :
    ∃ least ∈ addresses, minAddress addresses = some least := by
  have hfold (rest : List String) (best : String) (hbest : best ∈ addresses)
      (hrest : ∀ address ∈ rest, address ∈ addresses) : rest.foldl (fun best address =>
        if compareAddresses best address = .gt then address else best) best ∈ addresses := by
    induction rest generalizing best with
    | nil => exact hbest
    | cons address rest ih =>
      rw [List.foldl_cons]
      apply ih
      · split
        · exact hrest address List.mem_cons_self
        · exact hbest
      · intro other hother
        exact hrest other (List.mem_cons_of_mem _ hother)
  cases addresses with
  | nil => contradiction
  | cons first rest =>
    exact ⟨_, hfold rest first List.mem_cons_self fun _ => List.mem_cons_of_mem _, rfl⟩

theorem selectGroup_eq {group selected : FormulaGroup}
    (h : selectGroup params group = some selected) :
    selected.fingerprint = group.fingerprint ∧ selected.count = group.count ∧
      (∀ address ∈ selected.addresses, address ∈ group.addresses) ∧
      (group.addresses ≠ [] → selected.addresses ≠ []) := by
  unfold selectGroup at h
  have hsort (addresses : List String) : (sortNodes addresses).Perm addresses := sortBy_perm
  cases hrange : params.range with
  | none =>
    simp only [hrange, Option.isSome_none, Bool.false_eq_true, false_and, if_false,
      Option.some.injEq] at h
    rw [← h]
    refine ⟨rfl, rfl, fun address haddress => (hsort _).mem_iff.mp haddress, fun hsome hnone => ?_⟩
    have hempty := (hsort group.addresses).length_eq
    dsimp only at hnone
    rw [hnone] at hempty
    exact hsome (List.eq_nil_of_length_eq_zero hempty.symm)
  | some range =>
    simp only [hrange, Option.isSome_some, true_and] at h
    split at h
    · contradiction
    · rename_i hsome
      rw [← Option.some.inj h]
      refine ⟨rfl, rfl, fun address haddress => ?_, fun _ hnone => ?_⟩
      · exact List.mem_of_mem_filter ((hsort _).mem_iff.mp haddress)
      · have hempty := (hsort (group.addresses.filter fun address =>
          addressInRange address range)).length_eq
        dsimp only at hnone
        rw [hnone] at hempty
        exact hsome (List.eq_nil_of_length_eq_zero hempty.symm)

def selectedGroups (params : SheetFormulaMapParams) (graph : FormulaGraph) : List FormulaGroup :=
  graph.formulaGroups.filterMap (selectGroup params)

/-- The sort order tells the groups within the range apart: always by address, by the length of
the formulas for complexity, and by the number of the cells for count. -/
def NoTies (params : SheetFormulaMapParams) (graph : FormulaGraph) : Prop :=
  match params.sortBy.getD .address with
  | .address => True
  | .complexity => ∀ a ∈ selectedGroups params graph, ∀ b ∈ selectedGroups params graph,
      a.formula.utf8ByteSize = b.formula.utf8ByteSize → a = b
  | .count => ∀ a ∈ selectedGroups params graph, ∀ b ∈ selectedGroups params graph,
      a.count = b.count → a = b

/-- The answer does not depend on the order in which the hash map lists the groups, whatever the
limit, the offset and the budgets are; and where each group fits the budgets, calls at consecutive
offsets on graphs of their own list each group once. -/
def StableMap (params : SheetFormulaMapParams) (graph : FormulaGraph) : Prop :=
  (∀ (length : ResponseLength FormulaGroup) (config : ServerConfig) (limit offset : Option Nat)
      (listed listed' : List FormulaGroup), listed.Perm graph.formulaGroups →
      listed'.Perm graph.formulaGroups →
        sheetFormulaMapSemantic length config { params with limit, offset } listed =
          sheetFormulaMapSemantic length config { params with limit, offset } listed') ∧
    ∀ (length : ResponseLength FormulaGroup) (config : ServerConfig) (limit : Option Nat),
      GroupsFit length config { params with limit } graph →
        FormulaMapPaged length config { params with limit } graph

theorem selected_fingerprints {addresses : List String} {graph : FormulaGraph}
    (h : GroupsOf addresses graph.groups) {listed : List FormulaGroup}
    (hlisted : listed.Perm graph.formulaGroups) :
    ((listed.filterMap (selectGroup params)).map FormulaGroup.fingerprint).Nodup := by
  have hkeys : (graph.formulaGroups.map FormulaGroup.fingerprint).Nodup := by
    unfold FormulaGraph.formulaGroups
    rw [List.map_map]
    exact h.keys
  have hnodup : (listed.map FormulaGroup.fingerprint).Nodup := (hlisted.map _).nodup_iff.mpr hkeys
  apply List.Nodup.sublist _ hnodup
  clear hkeys hnodup hlisted
  induction listed with
  | nil => exact List.Sublist.slnil
  | cons group rest ih =>
    rw [List.filterMap_cons, List.map_cons]
    split
    · exact ih.cons _
    · rename_i selected hselected
      rw [List.map_cons, (selectGroup_eq hselected).1]
      exact ih.cons_cons _

section Sheet
variable {addresses : List String} {graph : FormulaGraph}

theorem mem_selectedGroups {selected : FormulaGroup} (h : selected ∈ selectedGroups params graph) :
    ∃ entry ∈ graph.groups, selected.fingerprint = entry.1 ∧
      selected.count = some entry.2.addresses.length ∧
      (∀ address ∈ selected.addresses, address ∈ entry.2.addresses) ∧
      (entry.2.addresses ≠ [] → selected.addresses ≠ []) := by
  obtain ⟨group, hgroup, hselect⟩ := List.mem_filterMap.mp h
  obtain ⟨entry, hentry, rfl⟩ := List.mem_map.mp hgroup
  exact ⟨entry, hentry, selectGroup_eq hselect⟩

/-- The first address of a group, as the address order has it. -/
def firstAddress (group : FormulaGroup) : String := (minAddress group.addresses).getD ""

theorem addressOrder_total (hgroups : GroupsOf addresses graph.groups)
    (hordered : OrdersTotally compareAddresses addresses) :
    OrdersTotally (compareGroups .address) (selectedGroups params graph) := by
  have hfirst : ∀ group ∈ selectedGroups params graph,
      firstAddress group ∈ addresses ∧ minAddress group.addresses = some (firstAddress group) := by
    intro group hgroup
    obtain ⟨entry, hentry, _, _, hcells, hsome⟩ := mem_selectedGroups hgroup
    obtain ⟨least, hleast, hmin⟩ := mem_minAddress (hsome (hgroups.inhabited entry hentry))
    have hname : firstAddress group = least := by
      unfold firstAddress
      rw [hmin]
      rfl
    rw [hname]
    exact ⟨hgroups.cells entry hentry least (hcells least hleast), hmin⟩
  have hnodup := @selected_fingerprints params addresses graph hgroups _ (List.Perm.refl _)
  have htotal := @OrdersTotally.then_key _ _ _ _ _ _ hordered firstAddress FormulaGroup.fingerprint
    (selectedGroups params graph) (fun group hgroup => (hfirst group hgroup).1)
    fun a ha b hb heq => List.inj_on_of_nodup_map hnodup ha hb heq
  apply htotal.congr
  intro a ha b hb
  unfold compareGroups
  dsimp only
  rw [(hfirst a ha).2, (hfirst b hb).2]

theorem compareGroups_complexity : compareGroups .complexity =
    byKeyDown fun group => group.formula.utf8ByteSize := rfl

theorem compareGroups_count : compareGroups .count =
    byKeyDown fun group => group.count.getD group.addresses.length := rfl

theorem countKey {group : FormulaGroup} (h : group ∈ selectedGroups params graph) :
    group.count = some (group.count.getD group.addresses.length) := by
  obtain ⟨entry, _, _, hcount, _⟩ := mem_selectedGroups h
  rw [hcount]
  rfl

/-- Without ties the sort order is total on the groups within the range. -/
theorem orders_of_noTies (hgroups : GroupsOf addresses graph.groups)
    (hordered : OrdersTotally compareAddresses addresses) (h : NoTies params graph) :
    OrdersTotally (compareGroups (params.sortBy.getD .address)) (selectedGroups params graph) := by
  unfold NoTies at h
  split at h
  · rename_i hsort
    rw [hsort]
    exact addressOrder_total hgroups hordered
  · rename_i hsort
    rw [hsort, compareGroups_complexity]
    exact byKeyDown_total h
  · rename_i hsort
    rw [hsort, compareGroups_count]
    apply byKeyDown_total
    intro a ha b hb heq
    apply h a ha b hb
    rw [countKey ha, countKey hb, heq]

theorem unbudgeted_groups (listed : List FormulaGroup) :
    (sheetFormulaMapSemantic ⟨fun _ => 0, fun _ _ _ => Nat.le_refl _⟩ {}
        { params with limit := none, offset := none } listed).groups =
      unpagedGroups {} params listed := by
  unfold sheetFormulaMapSemantic unpagedGroups truncateTo capRowsByPayloadBytes
  dsimp only
  rw [List.take_length]
  rfl

theorem tie_moves {κ : Type} [LinearOrder κ] {key : FormulaGroup → κ}
    (hsort : compareGroups (params.sortBy.getD .address) = byKeyDown key)
    (hgroups : GroupsOf addresses graph.groups) (hstable : StableMap params graph)
    {a b : FormulaGroup} (ha : a ∈ selectedGroups params graph)
    (hb : b ∈ selectedGroups params graph) (hkey : key a = key b) : a = b := by
  by_contra hne
  obtain ⟨a', ha', haselect⟩ := List.mem_filterMap.mp ha
  obtain ⟨b', hb', hbselect⟩ := List.mem_filterMap.mp hb
  have hother : b' ≠ a' := by
    intro heq
    rw [heq, haselect] at hbselect
    exact hne (Option.some.inj hbselect)
  have hfirst := List.perm_cons_erase ha'
  have hsecond := List.perm_cons_erase ((List.mem_erase_of_ne hother).mpr hb')
  let rest := (graph.formulaGroups.erase a').erase b'
  have hone : (a' :: b' :: rest).Perm graph.formulaGroups :=
    (hfirst.trans (hsecond.cons a')).symm
  have htwo : (b' :: a' :: rest).Perm graph.formulaGroups := (List.Perm.swap a' b' rest).trans hone
  have hnodup := @selected_fingerprints params addresses graph hgroups _ hone
  have hsorted (x y : FormulaGroup) (x' y' : FormulaGroup) (hx : selectGroup params x' = some x)
      (hy : selectGroup params y' = some y) (hxy : key x = key y) :
      [x.fingerprint, y.fingerprint].Sublist
        ((sortedGroups params (x' :: y' :: rest)).map FormulaGroup.fingerprint) := by
    have hlisted : [x, y].Sublist ((x' :: y' :: rest).filterMap (selectGroup params)) := by
      rw [List.filterMap_cons_some hx, List.filterMap_cons_some hy]
      exact List.Sublist.cons_cons _ (List.Sublist.cons_cons _ (List.nil_sublist _))
    have hkept := sortBy_keeps hxy hlisted
    rw [← hsort] at hkept
    exact hkept.map FormulaGroup.fingerprint
  have hsame := hstable.1 ⟨fun _ => 0, fun _ _ _ => Nat.le_refl _⟩ {} none none _ _ hone htwo
  have hgroupsSame := congrArg SheetFormulaMapResponse.groups hsame
  rw [unbudgeted_groups, unbudgeted_groups] at hgroupsSame
  have htrim (listed : List FormulaGroup) :
      (unpagedGroups {} params listed).map FormulaGroup.fingerprint =
        (sortedGroups params listed).map FormulaGroup.fingerprint := by
    unfold unpagedGroups
    rw [List.map_map]
    apply List.map_congr_left
    intro group _
    dsimp only [Function.comp, trimGroup]
    split
    · rfl
    · split <;> rfl
  have hfingerprints := congrArg (List.map FormulaGroup.fingerprint) hgroupsSame
  rw [htrim, htrim] at hfingerprints
  have hsortedNodup : ((sortedGroups params (a' :: b' :: rest)).map
      FormulaGroup.fingerprint).Nodup := by
    have hperm : (sortedGroups params (a' :: b' :: rest)).Perm
        ((a' :: b' :: rest).filterMap (selectGroup params)) := sortBy_perm
    exact (hperm.map _).nodup_iff.mpr hnodup
  apply not_both_orders hsortedNodup (hsorted a b a' b' haselect hbselect hkey)
  rw [hfingerprints]
  exact hsorted b a b' a' hbselect haselect hkey.symm

end Sheet

end Ties

section Result
variable {Ast : Type} (parser : FormulaParser Ast)

/-- The order of the hash map shows exactly where complexity or count ties two groups of the
range. -/
theorem formula_map_stable_iff (sheet : Worksheet) (policy : FormulaParsePolicy)
    (params : SheetFormulaMapParams) {built : FormulaGraph × List FormulaParseRecord}
    (hbuilt : FormulaGraph.build parser sheet policy = .ok built)
    (hplaced : ∀ cell ∈ sheet.cells, cell.Placed) :
    StableMap params built.1 ↔ NoTies params built.1 := by
  have hgroups := groupsOf_build hbuilt
  constructor
  · intro hstable
    unfold NoTies
    split
    · trivial
    · rename_i hsort
      intro a ha b hb hkey
      have horder := compareGroups_complexity
      rw [← hsort] at horder
      exact tie_moves horder hgroups hstable ha hb hkey
    · rename_i hsort
      intro a ha b hb hcount
      have horder := compareGroups_count
      rw [← hsort] at horder
      rw [countKey ha, countKey hb] at hcount
      exact tie_moves horder hgroups hstable ha hb (Option.some.inj hcount)
  · intro hties
    have htotal := orders_of_noTies hgroups (addresses_total hplaced) hties
    constructor
    · intro length config limit offset listed listed' hlisted hlisted'
      have hsorted : sortedGroups params listed = sortedGroups params listed' := by
        unfold sortedGroups
        rw [htotal.sortBy_eq (hlisted.filterMap _), htotal.sortBy_eq (hlisted'.filterMap _)]
      have hsame : ∀ listed, sortedGroups { params with limit := limit, offset := offset } listed =
          sortedGroups params listed := fun _ => rfl
      unfold sheetFormulaMapSemantic
      dsimp only
      rw [hsame, hsame, hsorted]
    · intro length config limit hfit
      rw [formulaMapPaged_iff]
      exact ⟨hfit, tiesApart_of_total htotal⟩

end Result

section Samples

instance (cell : SheetCell) : Decidable cell.Placed := inferInstanceAs (Decidable (_ ∧ _))

theorem sampleSheet_map_stable :
    StableMap { sortBy := some .complexity } (sampleBuilt sampleSheet).1 := by
  have hbuild : FormulaGraph.build sampleParser sampleSheet .warn =
    .ok (sampleBuilt sampleSheet) := rfl
  apply (formula_map_stable_iff sampleParser sampleSheet .warn { sortBy := some .complexity } hbuild
    (by decide)).mpr
  change ∀ a ∈ selectedGroups { sortBy := some .complexity } (sampleBuilt sampleSheet).1,
    ∀ b ∈ selectedGroups { sortBy := some .complexity } (sampleBuilt sampleSheet).1,
      a.formula.utf8ByteSize = b.formula.utf8ByteSize → a = b
  decide +kernel

/-- Two groups of one cell each are listed in the order of the hash map. -/
theorem tied_groups_move : ¬ ∀ (params : SheetFormulaMapParams) (sheet : Worksheet)
    (policy : FormulaParsePolicy) (built : FormulaGraph × List FormulaParseRecord),
    FormulaGraph.build sampleParser sheet policy = .ok built →
      (∀ cell ∈ sheet.cells, cell.Placed) → StableMap params built.1 := by
  intro hall
  have hbuild : FormulaGraph.build sampleParser sampleSheet .warn =
    .ok (sampleBuilt sampleSheet) := rfl
  have hstable := hall { sortBy := some .count } sampleSheet .warn _ hbuild (by decide)
  have hmoved := fun a b => @tie_moves { sortBy := some .count } _ _ Nat _ _ compareGroups_count
    (groupsOf_build hbuild) hstable a b
  have hgroups : ∃ a ∈ selectedGroups { sortBy := some .count } (sampleBuilt sampleSheet).1,
      ∃ b ∈ selectedGroups { sortBy := some .count } (sampleBuilt sampleSheet).1,
        a.count.getD a.addresses.length = b.count.getD b.addresses.length ∧ a ≠ b := by
    decide +kernel
  obtain ⟨a, ha, b, hb, hkey, hne⟩ := hgroups
  exact hne (hmoved a b ha hb hkey)

end Samples

end AgentSpreadsheet.Analysis
