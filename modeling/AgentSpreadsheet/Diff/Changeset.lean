import AgentSpreadsheet.Diff.Cells
import AgentSpreadsheet.Diff.Names
import AgentSpreadsheet.Library.Pointwise

/-! The changes between two workbook archives: of names, of tables and of cells. Four maps
and two sets are gone through on the way, each in the order its hashes give. -/
namespace AgentSpreadsheet.Diff
open Library Sheets

/-! ### Tables -/

structure TableInfo where
  displayName : String
  range : String
  sheet : String
  deriving DecidableEq, Repr

inductive TableDiff where
  | tableAdded (displayName sheet range : String)
  | tableDeleted (displayName sheet : String)
  | tableModified (displayName sheet oldRange newRange : String)
  deriving DecidableEq, Repr

def TableDiff.displayName : TableDiff → String
  | .tableAdded name _ _ | .tableDeleted name _ | .tableModified name _ _ _ => name

def TableDiff.sheet : TableDiff → String
  | .tableAdded _ sheet _ | .tableDeleted _ sheet | .tableModified _ sheet _ _ => sheet

def tableAt (tables : List TableInfo) (key : String) : Option TableInfo :=
  tables.find? fun table => table.displayName = key

/-- A table on another sheet is no change. -/
def diffTable : Option TableInfo → Option TableInfo → Option TableDiff
  | none, some f => some (.tableAdded f.displayName f.sheet f.range)
  | some b, none => some (.tableDeleted b.displayName b.sheet)
  | some b, some f =>
    if b.range ≠ f.range then some (.tableModified b.displayName b.sheet b.range f.range) else none
  | none, none => none

def diffTables (base fork : List TableInfo) (allKeys : List String) : List TableDiff :=
  (allKeys.filterMap fun key => diffTable (tableAt base key) (tableAt fork key)).insertionSort
    fun a b => a.displayName ≤ b.displayName

/-! ### Archives -/

structure Relationship where
  id : String
  target : String
  deriving DecidableEq, Repr

structure SheetPart (ε : Type) where
  hash : Nat
  cells : List (Except ε RawCell)

/-- What is read from an archive. `tableFiles` are the display names and ranges of the tables
a sheet's part refers to. -/
structure Archive (ε : Type) where
  workbook : WorkbookXml
  relationships : List Relationship
  part : String → Option (SheetPart ε)
  tableFiles : String → List (String × String)
  sstHash : Nat

structure SheetEntry where
  name : String
  path : String
  deriving DecidableEq, Repr

/-- A target with a slash in front is a path of the archive. -/
def partPath (target : String) : String :=
  if target.toList.head? = some '/' then String.ofList (target.toList.dropWhile (· = '/'))
  else "xl/" ++ target

namespace Archive
variable {ε : Type} (a : Archive ε)

def ridMap : List SheetElement :=
  placed SheetElement.rid (a.workbook.sheets.filter fun sheet => sheet.name ≠ "" ∧ sheet.rid ≠ "")

def join (sheet : SheetElement) : Option SheetEntry :=
  ((a.relationships.filter fun rel => rel.id = sheet.rid).getLast?).map fun rel =>
    ⟨sheet.name, partPath rel.target⟩

def sheetMap (rids : List SheetElement) : List SheetEntry :=
  placed SheetEntry.name (rids.filterMap a.join)

def loadTables (sheets : List SheetEntry) : List TableInfo :=
  placed TableInfo.displayName (sheets.flatMap fun sheet =>
    (a.tableFiles sheet.path).map fun table => ⟨table.1, table.2, sheet.name⟩)

/-- The orders in which an archive's maps are gone through. -/
structure Reading where
  rids : List SheetElement
  rids_perm : rids.Perm a.ridMap
  sheets : List SheetEntry
  sheets_perm : sheets.Perm (a.sheetMap rids)

end Archive

structure Orders {ε : Type} (b f : Archive ε) where
  base : b.Reading
  fork : f.Reading
  names : List NameKey
  names_all : AllKeys (loadWorkbookMeta b.workbook) (loadWorkbookMeta f.workbook) names
  tables : List String
  tables_all : tables.Perm ((b.loadTables base.sheets ++ f.loadTables fork.sheets).map
    TableInfo.displayName).dedup

/-! ### The changes -/

inductive Change where
  | cell (sheet : String) (diff : CellDiff)
  | table (diff : TableDiff)
  | name (diff : NameDiff)
  deriving DecidableEq, Repr

/-- A filter leaves what belongs to no sheet. -/
def shown (sheetFilter sheet : Option String) : Bool :=
  match sheetFilter, sheet with
  | some wanted, some sheet => sheet == wanted
  | _, _ => true

section Changes
variable {ε : Type} {base fork : Archive ε} (rounding : Rounding) (sheetFilter : Option String)
  (orders : Orders base fork)

def Archive.Reading.part {a : Archive ε} (reading : a.Reading) (name : String) :
    Option (SheetPart ε) :=
  (reading.sheets.find? fun sheet => sheet.name = name).bind fun sheet => a.part sheet.path

/-- A sheet with the same part and the same shared strings has no changes. -/
def cellDiffs (name : String) : Except ε (List CellDiff) :=
  let basePart := orders.base.part name
  let forkPart := orders.fork.part name
  let baseHash := (basePart.map SheetPart.hash).getD 0
  let forkHash := (forkPart.map SheetPart.hash).getD 0
  if baseHash ≠ 0 ∧ baseHash = forkHash ∧ base.sstHash = fork.sstHash then .ok []
  else
    diffStreams rounding ((basePart.map SheetPart.cells).getD []) ((forkPart.map SheetPart.cells).getD [])

def comparedSheets : List String :=
  (((orders.base.sheets ++ orders.fork.sheets).map SheetEntry.name).insertionSort (· ≤ ·)).dedup.filter
    fun name => shown sheetFilter (some name)

def nameChanges (base fork : Archive ε) (names : List NameKey) : List NameDiff :=
  (diffNames (loadWorkbookMeta base.workbook) (loadWorkbookMeta fork.workbook) names).filter
    fun diff => shown sheetFilter diff.scopeSheet

def tableChanges : List TableDiff :=
  (diffTables (base.loadTables orders.base.sheets) (fork.loadTables orders.fork.sheets)
    orders.tables).filter fun diff => shown sheetFilter (some diff.sheet)

def cellChanges : Except ε (List Change) := do
  let sheets ← (comparedSheets sheetFilter orders).mapM fun name =>
    (·.map (Change.cell name)) <$> cellDiffs rounding orders name
  pure sheets.flatten

def calculateChangeset : Except ε (List Change) := do
  let cells ← cellChanges rounding sheetFilter orders
  pure ((nameChanges sheetFilter base fork orders.names).map .name ++
    (tableChanges sheetFilter orders).map .table ++ cells)

end Changes

/-! ### What the orders decide -/

namespace Archive
variable {ε : Type} (a : Archive ε)

/-- Sheets of one name are one, and tables of one display name are on one sheet. -/
structure Told : Prop where
  sheets : ∀ x ∈ a.ridMap.filterMap a.join, ∀ y ∈ a.ridMap.filterMap a.join,
    x.name = y.name → x = y
  tables : ∀ x ∈ a.ridMap.filterMap a.join, ∀ y ∈ a.ridMap.filterMap a.join,
    ∀ t ∈ a.tableFiles x.path, ∀ u ∈ a.tableFiles y.path, t.1 = u.1 → x.name = y.name

variable {a} (h : a.Told) (reading reading' : a.Reading)
include h

theorem Told.sheets_perm : reading.sheets.Perm reading'.sheets := by
  have htold : ∀ x ∈ reading.rids.filterMap a.join, ∀ y ∈ reading.rids.filterMap a.join,
      x.name = y.name → x = y := by
    intro x hx y hy
    have hperm := reading.rids_perm.filterMap a.join
    exact h.sheets x (hperm.mem_iff.mp hx) y (hperm.mem_iff.mp hy)
  have hrids := (reading.rids_perm.trans reading'.rids_perm.symm).filterMap a.join
  exact reading.sheets_perm.trans ((placed_perm hrids htold).trans reading'.sheets_perm.symm)

theorem Told.part_eq (name : String) : reading.part name = reading'.part name := by
  have hapart : reading.sheets.Pairwise fun x y => x.name ≠ y.name :=
    reading.sheets_perm.symm.pairwise (placed_spec SheetEntry.name _).1 fun hne => hne.symm
  unfold Reading.part
  rw [find?_perm (h.sheets_perm reading reading') hapart]

omit h in
theorem Reading.mem_join {reading : a.Reading} {entry : SheetEntry} (hentry : entry ∈ reading.sheets) :
    entry ∈ a.ridMap.filterMap a.join :=
  (reading.rids_perm.filterMap a.join).mem_iff.mp
    ((placed_spec SheetEntry.name _).2.1 _ (reading.sheets_perm.mem_iff.mp hentry))

/-- The tables of a display name come from one sheet. -/
theorem Told.tableAt_eq (key : String) :
    tableAt (a.loadTables reading.sheets) key = tableAt (a.loadTables reading'.sheets) key := by
  unfold tableAt loadTables
  rw [find?_placed, find?_placed, List.filter_flatMap, List.filter_flatMap]
  congr 1
  apply flatMap_perm (h.sheets_perm reading reading')
  have hapart : reading.sheets.Pairwise fun x y => x.name ≠ y.name :=
    reading.sheets_perm.symm.pairwise (placed_spec SheetEntry.name _).1 fun hne => hne.symm
  refine hapart.imp_of_mem ?_
  intro x y hx hy hne
  by_contra hboth
  push_neg at hboth
  obtain ⟨t, ht⟩ := List.exists_mem_of_ne_nil _ hboth.1
  obtain ⟨u, hu⟩ := List.exists_mem_of_ne_nil _ hboth.2
  rw [List.mem_filter, List.mem_map] at ht hu
  obtain ⟨⟨t', ht', rfl⟩, htkey⟩ := ht
  obtain ⟨⟨u', hu', rfl⟩, hukey⟩ := hu
  have hsame : t'.1 = u'.1 := (of_decide_eq_true htkey).trans (of_decide_eq_true hukey).symm
  exact hne (h.tables x (Reading.mem_join hx) y (Reading.mem_join hy) t' ht' u' hu' hsame)

theorem Told.tableNames_mem (key : String) :
    key ∈ (a.loadTables reading.sheets).map TableInfo.displayName ↔
      key ∈ (a.loadTables reading'.sheets).map TableInfo.displayName := by
  have hfound (tables : List TableInfo) :
      key ∈ tables.map TableInfo.displayName ↔ (tableAt tables key).isSome := by
    unfold tableAt
    simp
  rw [hfound, hfound, h.tableAt_eq reading reading']

end Archive

section Stable
variable {ε : Type} {base fork : Archive ε} {rounding : Rounding} {sheetFilter : Option String}

theorem displayName_diffTable {b f : Option TableInfo} {key : String} {diff : TableDiff}
    (hb : ∀ table, b = some table → table.displayName = key)
    (hf : ∀ table, f = some table → table.displayName = key) (h : diffTable b f = some diff) :
    diff.displayName = key := by
  unfold diffTable at h
  split at h
  · cases h
    exact hf _ rfl
  · cases h
    exact hb _ rfl
  · split at h
    · cases h
      exact hb _ rfl
    · cases h
  · cases h

theorem tableChanges_eq (hbase : base.Told) (hfork : fork.Told) (orders orders' : Orders base fork) :
    tableChanges sheetFilter orders = tableChanges sheetFilter orders' := by
  have hkeys : orders.tables.Perm orders'.tables := by
    refine orders.tables_all.trans (List.Perm.trans ?_ orders'.tables_all.symm)
    rw [List.perm_ext_iff_of_nodup (List.nodup_dedup _) (List.nodup_dedup _)]
    intro key
    rw [List.mem_dedup, List.mem_dedup, List.map_append, List.map_append, List.mem_append,
      List.mem_append, hbase.tableNames_mem orders.base orders'.base,
      hfork.tableNames_mem orders.fork orders'.fork]
  have hnodup : orders.tables.Nodup := orders.tables_all.nodup_iff.mpr (List.nodup_dedup _)
  unfold tableChanges diffTables
  congr 1
  simp only [hbase.tableAt_eq orders'.base orders.base, hfork.tableAt_eq orders'.fork orders.fork]
  apply sorted_perm _ (pairwise_key_insertionSort TableDiff.displayName _)
    (pairwise_key_insertionSort TableDiff.displayName _)
  · intro d hd d' hd' hname
    rw [List.mem_insertionSort, List.mem_filterMap] at hd hd'
    obtain ⟨key, _, hd⟩ := hd
    obtain ⟨key', _, hd'⟩ := hd'
    have hfound {tables : List TableInfo} (key : String) (table : TableInfo)
        (h : tableAt tables key = some table) : table.displayName = key := by
      have hkey := List.find?_some h
      exact of_decide_eq_true hkey
    have hkey := displayName_diffTable (hfound key) (hfound key) hd
    have hkey' := displayName_diffTable (hfound key') (hfound key') hd'
    rw [← hkey, hname, hkey', hd'] at hd
    exact (Option.some.inj hd).symm
  · exact (List.perm_insertionSort _ _).trans
      ((hkeys.filterMap _).trans (List.perm_insertionSort _ _).symm)

theorem cellChanges_eq (hbase : base.Told) (hfork : fork.Told) (orders orders' : Orders base fork) :
    cellChanges rounding sheetFilter orders = cellChanges rounding sheetFilter orders' := by
  have hsheets : comparedSheets sheetFilter orders = comparedSheets sheetFilter orders' := by
    have hperm := ((hbase.sheets_perm orders.base orders'.base).append
      (hfork.sheets_perm orders.fork orders'.fork)).map SheetEntry.name
    unfold comparedSheets
    congr 2
    exact sorted_perm ((List.perm_insertionSort _ _).trans
      (hperm.trans (List.perm_insertionSort _ _).symm))
      (pairwise_key_insertionSort id _) (pairwise_key_insertionSort id _) fun _ _ _ _ heq => heq
  have hcells : cellDiffs rounding orders = cellDiffs rounding orders' := by
    funext name
    unfold cellDiffs
    rw [hbase.part_eq orders.base orders'.base, hfork.part_eq orders.fork orders'.fork]
  unfold cellChanges
  rw [hsheets, hcells]

/-! ### Names -/

/-- Two entries that are shown under one name are the same. -/
def NamesTold (base fork : Archive ε) (sheetFilter : Option String) : Prop :=
  ∀ key key' diff diff',
    diffName (loadWorkbookMeta base.workbook) (loadWorkbookMeta fork.workbook) key = some diff →
    diffName (loadWorkbookMeta base.workbook) (loadWorkbookMeta fork.workbook) key' = some diff' →
    shown sheetFilter diff.scopeSheet = true → shown sheetFilter diff'.scopeSheet = true →
    diff.name = diff'.name → diff = diff'

theorem nameChanges_eq (h : NamesTold base fork sheetFilter) {names names' : List NameKey}
    (hperm : names.Perm names') :
    nameChanges sheetFilter base fork names = nameChanges sheetFilter base fork names' := by
  unfold nameChanges diffNames
  apply sorted_perm (((List.perm_insertionSort _ _).trans ((hperm.filterMap _).trans
    (List.perm_insertionSort _ _).symm)).filter _)
    ((pairwise_key_insertionSort NameDiff.name _).filter _)
    ((pairwise_key_insertionSort NameDiff.name _).filter _)
  intro d hd d' hd' hname
  rw [List.mem_filter, List.mem_insertionSort, List.mem_filterMap] at hd hd'
  obtain ⟨⟨key, _, hdiff⟩, hshown⟩ := hd
  obtain ⟨⟨key', _, hdiff'⟩, hshown'⟩ := hd'
  exact h key key' d d' hdiff hdiff' hshown hshown' hname

/-- The entry whose key comes first stands first among those of its name. -/
theorem filter_nameChanges {key : NameKey} {diff : NameDiff} (rest : List NameKey)
    (hdiff : diffName (loadWorkbookMeta base.workbook) (loadWorkbookMeta fork.workbook) key =
      some diff) (hshown : shown sheetFilter diff.scopeSheet = true) :
    ((nameChanges sheetFilter base fork (key :: rest)).filter
      fun d => d.name = diff.name).head? = some diff := by
  unfold nameChanges diffNames
  rw [List.filter_comm, filter_insertionSort NameDiff.name, List.filterMap_cons_some hdiff]
  simp [hshown]

/-- The list of changes is one list, whatever the orders, and a page of one run goes on
where a page of another ends. -/
def ChangesStable (rounding : Rounding) (base fork : Archive ε) (sheetFilter : Option String) :
    Prop :=
  ∀ (orders orders' : Orders base fork) (changes changes' : List Change),
    calculateChangeset rounding sheetFilter orders = .ok changes →
    calculateChangeset rounding sheetFilter orders' = .ok changes' →
      changes = changes' ∧ ∀ n, changes.take n ++ changes'.drop n = changes

/-- No stream of a compared sheet ends with an error. -/
def CellsRead (rounding : Rounding) (base fork : Archive ε) (sheetFilter : Option String) : Prop :=
  ∀ orders : Orders base fork, ∀ name ∈ comparedSheets sheetFilter orders,
    ∃ diffs, cellDiffs rounding orders name = .ok diffs

theorem calculateChangeset_eq_ok {orders : Orders base fork} {changes : List Change} :
    calculateChangeset rounding sheetFilter orders = .ok changes ↔
      ∃ cells, cellChanges rounding sheetFilter orders = .ok cells ∧
        (nameChanges sheetFilter base fork orders.names).map .name ++
          (tableChanges sheetFilter orders).map .table ++ cells = changes := by
  simp [calculateChangeset]

theorem cellChanges_isOk (orders : Orders base fork) :
    (∃ cells, cellChanges rounding sheetFilter orders = .ok cells) ↔
      ∀ name ∈ comparedSheets sheetFilter orders,
        ∃ diffs, cellDiffs rounding orders name = .ok diffs := by
  unfold cellChanges
  simp only [bind_eq_ok, pure_eq_ok]
  constructor
  · rintro ⟨_, sheets, hsheets, _⟩ name hname
    obtain ⟨_, hdiffs⟩ := mapM_isOk.mp ⟨sheets, hsheets⟩ name hname
    obtain ⟨diffs, hdiffs, _⟩ := map_eq_ok.mp hdiffs
    exact ⟨diffs, hdiffs⟩
  · intro h
    have hread : ∀ name ∈ comparedSheets sheetFilter orders, ∃ changes,
        (·.map (Change.cell name)) <$> cellDiffs rounding orders name = .ok changes := by
      intro name hname
      obtain ⟨diffs, hdiffs⟩ := h name hname
      exact ⟨diffs.map (Change.cell name), map_eq_ok.mpr ⟨diffs, hdiffs, rfl⟩⟩
    obtain ⟨sheets, hsheets⟩ := mapM_isOk.mpr hread
    exact ⟨_, sheets, hsheets, rfl⟩

/-- The orders in which no map is gone through otherwise than it was filled. -/
def Orders.plain (base fork : Archive ε) (names : List NameKey)
    (h : AllKeys (loadWorkbookMeta base.workbook) (loadWorkbookMeta fork.workbook) names) :
    Orders base fork where
  base := ⟨base.ridMap, .refl _, base.sheetMap base.ridMap, .refl _⟩
  fork := ⟨fork.ridMap, .refl _, fork.sheetMap fork.ridMap, .refl _⟩
  names := names
  names_all := h
  tables := _
  tables_all := .refl _

theorem namesTold_of_stable (hread : CellsRead rounding base fork sheetFilter)
    (h : ChangesStable rounding base fork sheetFilter) : NamesTold base fork sheetFilter := by
  intro key key' diff diff' hdiff hdiff' hshown hshown' hname
  by_cases hsame : key = key'
  · rw [hsame, hdiff'] at hdiff
    exact (Option.some.inj hdiff).symm
  · obtain ⟨all, hall⟩ : ∃ all, AllKeys (loadWorkbookMeta base.workbook)
        (loadWorkbookMeta fork.workbook) all := ⟨_, List.Perm.refl _⟩
    have hmem {key : NameKey} {diff : NameDiff} (hdiff : diffName (loadWorkbookMeta base.workbook)
        (loadWorkbookMeta fork.workbook) key = some diff) : key ∈ all := by
      by_contra hkey
      rw [diffName_eq_none_of_notMem hall hkey] at hdiff
      cases hdiff
    obtain ⟨rest, hrest⟩ : ∃ rest, all.Perm (key :: key' :: rest) := by
      have hfirst := List.perm_cons_erase (hmem hdiff)
      have hsecond := List.perm_cons_erase ((List.mem_erase_of_ne (Ne.symm hsame)).mpr (hmem hdiff'))
      exact ⟨_, hfirst.trans (hsecond.cons key)⟩
    have hall₁ := hrest.symm.trans hall
    have hall₂ := (List.Perm.swap key key' rest).trans hall₁
    obtain ⟨cells, hcells⟩ := (cellChanges_isOk (.plain base fork _ hall₁)).mpr (hread _)
    have hone := (h (.plain base fork _ hall₁) (.plain base fork _ hall₂) _ _
      (calculateChangeset_eq_ok.mpr ⟨cells, hcells, rfl⟩)
      (calculateChangeset_eq_ok.mpr ⟨cells, hcells, rfl⟩)).1
    have hnames : nameChanges sheetFilter base fork (key :: key' :: rest) =
        nameChanges sheetFilter base fork (key' :: key :: rest) :=
      List.map_injective_iff.mpr (fun _ _ => Change.name.inj)
        (List.append_cancel_right (List.append_cancel_right hone))
    have hhead := filter_nameChanges (key' :: rest) hdiff hshown
    rw [hnames, hname, filter_nameChanges _ hdiff' hshown'] at hhead
    exact (Option.some.inj hhead).symm

/-- The changes come in one order, and pages of two runs fit, exactly when entries shown
under one name are the same, or no list is returned. -/
theorem changes_stable_iff (rounding : Rounding) (base fork : Archive ε)
    (sheetFilter : Option String) (hbase : base.Told) (hfork : fork.Told) :
    ChangesStable rounding base fork sheetFilter ↔
      (CellsRead rounding base fork sheetFilter → NamesTold base fork sheetFilter) := by
  constructor
  · intro h hread
    exact namesTold_of_stable hread h
  · intro h orders orders' changes changes' hchanges hchanges'
    rw [calculateChangeset_eq_ok] at hchanges hchanges'
    obtain ⟨cells, hcells, rfl⟩ := hchanges
    obtain ⟨cells', hcells', rfl⟩ := hchanges'
    have hsame (o o' : Orders base fork) : cellChanges rounding sheetFilter o =
        cellChanges rounding sheetFilter o' := cellChanges_eq hbase hfork o o'
    have hread : CellsRead rounding base fork sheetFilter := by
      intro other
      rw [← cellChanges_isOk, hsame other orders]
      exact ⟨cells, hcells⟩
    have hperm := orders.names_all.trans orders'.names_all.symm
    rw [hsame orders orders', hcells'] at hcells
    rw [nameChanges_eq (h hread) hperm, tableChanges_eq hbase hfork orders orders',
      Except.ok.inj hcells]
    exact ⟨rfl, fun n => List.take_append_drop n _⟩

end Stable

section Sample

/-- A workbook of one sheet that was never written. -/
def namesOnly (names : List DefinedNameElement) : Archive String :=
  ⟨⟨[⟨"A", "rId1"⟩], names⟩, [], fun _ => none, fun _ => [], 0⟩

theorem namesOnly_told (names : List DefinedNameElement) : (namesOnly names).Told := by
  have hnone : (namesOnly names).ridMap.filterMap (namesOnly names).join = [] := rfl
  constructor
  · intro x hx
    rw [hnone] at hx
    cases hx
  · intro x hx
    rw [hnone] at hx
    cases hx

/-- One name added. -/
theorem changes_stable_one_name : (namesOnly []).Told ∧
    (namesOnly [⟨"Rate", none, "A!$A$1", false⟩]).Told ∧
    ChangesStable exactRounding (namesOnly []) (namesOnly [⟨"Rate", none, "A!$A$1", false⟩]) none := by
  apply And.intro (namesOnly_told _)
  apply And.intro (namesOnly_told _)
  apply (changes_stable_iff exactRounding _ _ none (namesOnly_told _) (namesOnly_told _)).mpr
  intro _ key key' diff diff' hdiff hdiff' _ _ _
  have hall : AllKeys (loadWorkbookMeta (namesOnly []).workbook) (loadWorkbookMeta
      (namesOnly [⟨"Rate", none, "A!$A$1", false⟩]).workbook) [⟨"Rate", none⟩] := by
    unfold AllKeys
    decide
  have honly {key : NameKey} {diff : NameDiff} (h : diffName (loadWorkbookMeta (namesOnly []).workbook)
      (loadWorkbookMeta (namesOnly [⟨"Rate", none, "A!$A$1", false⟩]).workbook) key = some diff) :
      key = ⟨"Rate", none⟩ := by
    by_contra hkey
    rw [diffName_eq_none_of_notMem hall (by simpa using hkey)] at h
    cases h
  rw [honly hdiff] at hdiff
  rw [honly hdiff', hdiff] at hdiff'
  exact Option.some.inj hdiff'

/-- A name added for the workbook and for a sheet: the two entries come in either order. -/
theorem added_names_swap :
    ∃ orders orders' : Orders (namesOnly [])
        (namesOnly [⟨"Rate", none, "A!$A$1", false⟩, ⟨"Rate", some 0, "A!$A$2", false⟩]),
      calculateChangeset exactRounding none orders = .ok
          [.name (.nameAdded "Rate" "A!$A$1" none), .name (.nameAdded "Rate" "A!$A$2" (some "A"))] ∧
        calculateChangeset exactRounding none orders' = .ok
          [.name (.nameAdded "Rate" "A!$A$2" (some "A")), .name (.nameAdded "Rate" "A!$A$1" none)] := by
  refine ⟨.plain _ _ [⟨"Rate", none⟩, ⟨"Rate", some 0⟩] ?_,
    .plain _ _ [⟨"Rate", some 0⟩, ⟨"Rate", none⟩] ?_, ?_, ?_⟩
  · unfold AllKeys
    decide
  · unfold AllKeys
    decide
  · rfl
  · rfl

end Sample

end AgentSpreadsheet.Diff
