import AgentSpreadsheet.Analysis.Dependents
import AgentSpreadsheet.Analysis.FormulaMap
import AgentSpreadsheet.Search.Values

/-! The values of a range: as runs of the entries of a dictionary, and by the letters of the
columns. -/
namespace AgentSpreadsheet.Tables
open Search

abbrev FloatBits := BitVec 64

inductive CellValuePrimitive where
  | text (s : String)
  | number (bits : FloatBits)
  | bool (b : Bool)
  deriving DecidableEq, Repr

def cellValueToPrimitive : CellValue FloatBits → CellValuePrimitive
  | .text s => .text s
  | .number n => .number n
  | .bool b => .bool b
  | .error e => .text e
  | .date d => .text d

structure Matrix (α : Type) where
  rows : List (List α)
  cols : Nat
  rectangular : ∀ row ∈ rows, row.length = cols

def cellMatrixToValues (rows : List (List (Option (CellValue FloatBits)))) :
    List (List (Option CellValuePrimitive)) :=
  rows.map fun row => row.map fun cell => cell.map cellValueToPrimitive

/-! ### The dictionary -/

inductive DensePrimitiveKey where
  | text (s : String)
  | numberBits (bits : FloatBits)
  | bool (b : Bool)
  deriving DecidableEq, Repr

def denseKey : CellValuePrimitive → DensePrimitiveKey
  | .text s => .text s
  | .number bits => .numberBits bits
  | .bool b => .bool b

theorem denseKey_injective {a b : CellValuePrimitive} (h : denseKey a = denseKey b) : a = b := by
  cases a <;> cases b <;> simp_all [denseKey]

/-- The entries so far, and where each value stands. Nothing stands at the front, and only
there. -/
structure Dictionary where
  entries : List (Option CellValuePrimitive)
  index : DensePrimitiveKey → Option Nat
  front : entries[0]? = some none
  only : ∀ i, entries[i]? = some none → i = 0
  indexed : ∀ value i, index (denseKey value) = some i ↔ entries[i]? = some (some value)

namespace Dictionary

def empty : Dictionary where
  entries := [none]
  index _ := none
  front := rfl
  only i h := by
    cases i with
    | zero => rfl
    | succ i => simp at h
  indexed value i := by
    cases i <;> simp

/-- A value that is not there yet. -/
def add (dictionary : Dictionary) (value : CellValuePrimitive)
    (hnew : dictionary.index (denseKey value) = none) : Dictionary where
  entries := dictionary.entries ++ [some value]
  index := Function.update dictionary.index (denseKey value) (some dictionary.entries.length)
  front := by
    have hlt := (List.getElem?_eq_some_iff.mp dictionary.front).1
    rw [List.getElem?_append_left hlt]
    exact dictionary.front
  only i h := by
    rcases Nat.lt_or_ge i dictionary.entries.length with hlt | hge
    · rw [List.getElem?_append_left hlt] at h
      exact dictionary.only i h
    · rw [List.getElem?_append_right hge] at h
      have hmem := List.mem_of_getElem? h
      simp at hmem
  indexed other i := by
    by_cases hsame : other = value
    · subst hsame
      rw [Function.update_self, Option.some.injEq]
      constructor
      · rintro rfl
        simp
      · intro h
        rcases Nat.lt_or_ge i dictionary.entries.length with hlt | hge
        · rw [List.getElem?_append_left hlt, ← dictionary.indexed, hnew] at h
          contradiction
        · rw [List.getElem?_append_right hge] at h
          have hi := (List.getElem?_eq_some_iff.mp h).1
          rw [List.length_singleton] at hi
          omega
    · have hkey : denseKey other ≠ denseKey value := fun h => hsame (denseKey_injective h)
      rw [Function.update_of_ne hkey, dictionary.indexed]
      rcases Nat.lt_or_ge i dictionary.entries.length with hlt | hge
      · rw [List.getElem?_append_left hlt]
      · rw [List.getElem?_append_right hge, List.getElem?_eq_none hge]
        constructor
        · intro h
          contradiction
        · intro h
          have hmem := List.mem_of_getElem? h
          simp [hsame] at hmem

/-- The index of a cell, and the dictionary with its value. -/
def encode (dictionary : Dictionary) : Option CellValuePrimitive → Dictionary × Nat
  | none => (dictionary, 0)
  | some value =>
    match h : dictionary.index (denseKey value) with
    | some existing => (dictionary, existing)
    | none => (dictionary.add value h, dictionary.entries.length)

def encodeRow (dictionary : Dictionary) : List (Option CellValuePrimitive) → Dictionary × List Nat
  | [] => (dictionary, [])
  | cell :: row =>
    let first := dictionary.encode cell
    let rest := first.1.encodeRow row
    (rest.1, first.2 :: rest.2)

end Dictionary

/-! ### Runs -/

structure RangeValuesDenseRun where
  valueIdx : Nat
  len : Nat
  deriving DecidableEq, Repr

/-- The open run goes on, or is closed. The last one is closed at the end. -/
def denseRunsFrom (current len : Nat) : List Nat → List RangeValuesDenseRun
  | [] => [⟨current, len⟩]
  | idx :: rest =>
    if idx = current then denseRunsFrom current (len + 1) rest
    else ⟨current, len⟩ :: denseRunsFrom idx 1 rest

def rowToDenseRuns : List Nat → List RangeValuesDenseRun
  | [] => []
  | first :: rest => denseRunsFrom first 1 rest

def Dictionary.encodeRows (dictionary : Dictionary) :
    List (List (Option CellValuePrimitive)) → Dictionary × List (List RangeValuesDenseRun)
  | [] => (dictionary, [])
  | row :: rows =>
    let first := dictionary.encodeRow row
    let rest := first.1.encodeRows rows
    (rest.1, rowToDenseRuns first.2 :: rest.2)

/-! ### Payloads -/

structure RangeValuesDenseFormula where
  row : Nat
  col : Nat
  formula : String
  deriving DecidableEq, Repr

structure RangeValuesDensePayload where
  encoding : String
  colCount : Nat
  dictionary : List (Option CellValuePrimitive)
  rowRuns : List (List RangeValuesDenseRun)
  formulas : List RangeValuesDenseFormula
  deriving DecidableEq, Repr

def denseFormulas (matrix : List (List (Option String))) : List RangeValuesDenseFormula :=
  matrix.zipIdx.flatMap fun (row, rowIdx) =>
    row.zipIdx.filterMap fun (formula, colIdx) => formula.map fun text => ⟨rowIdx, colIdx, text⟩

def cellMatrixToDense (rows : List (List (Option (CellValue FloatBits))))
    (formulas : Option (List (List (Option String)))) : RangeValuesDensePayload :=
  let primitiveRows := cellMatrixToValues rows
  let encoded := Dictionary.empty.encodeRows primitiveRows
  { encoding := "dense_v1"
    colCount := primitiveRows.head?.elim 0 List.length
    dictionary := encoded.1.entries
    rowRuns := encoded.2
    formulas := formulas.elim [] denseFormulas }

structure RangeValuesRowEntry where
  row : Nat
  cells : String → Option CellValuePrimitive

/-- The cells of a row by the letters of their columns. A later one takes an earlier one's place. -/
def keyedCells (startCol : Nat) (row : List (Option (CellValue FloatBits))) :
    String → Option CellValuePrimitive :=
  row.zipIdx.foldl (fun cells entry =>
    match entry.1 with
    | some value => Function.update cells (Analysis.columnNumberToName (startCol + entry.2))
        (some (cellValueToPrimitive value))
    | none => cells) fun _ => none

/-- A range that cannot be read starts at the first cell. -/
def cellMatrixToRowsKeyed (range : String) (rows : List (List (Option (CellValue FloatBits)))) :
    List RangeValuesRowEntry :=
  let start := (Analysis.parseRange range).elim (1, 1) fun bounds => (bounds.minCol, bounds.minRow)
  rows.zipIdx.map fun (row, rowOffset) => ⟨start.2 + rowOffset, keyedCells start.1 row⟩

/-! ### Decoding -/

def RangeValuesDenseRun.expand (run : RangeValuesDenseRun) : List Nat :=
  List.replicate run.len run.valueIdx

/-- The matrix that the runs stand for. An index outside the dictionary stands for nothing. -/
def RangeValuesDensePayload.expand (payload : RangeValuesDensePayload) :
    List (List (Option (Option CellValuePrimitive))) :=
  payload.rowRuns.map fun runs =>
    (runs.flatMap RangeValuesDenseRun.expand).map fun idx => payload.dictionary[idx]?

def placeFormulas (rows cols : Nat) (formulas : List RangeValuesDenseFormula) :
    List (List (Option String)) :=
  (List.range rows).map fun row => (List.range cols).map fun col =>
    (formulas.find? fun placed => placed.row = row ∧ placed.col = col).map
      RangeValuesDenseFormula.formula

section Runs
variable {current len : Nat} {indexes : List Nat}

theorem expand_denseRunsFrom : (denseRunsFrom current len indexes).flatMap
    RangeValuesDenseRun.expand = List.replicate len current ++ indexes := by
  fun_induction denseRunsFrom current len indexes with
  | case1 current len => simp [RangeValuesDenseRun.expand]
  | case2 current len rest ih =>
    rw [ih, List.replicate_succ', List.append_assoc, List.singleton_append]
  | case3 current len idx rest hne ih =>
    rw [List.flatMap_cons, ih]
    simp [RangeValuesDenseRun.expand]

theorem expand_rowToDenseRuns (indexes : List Nat) :
    (rowToDenseRuns indexes).flatMap RangeValuesDenseRun.expand = indexes := by
  cases indexes with
  | nil => rfl
  | cons first rest => exact expand_denseRunsFrom

theorem length_expand (runs : List RangeValuesDenseRun) :
    (runs.flatMap RangeValuesDenseRun.expand).length =
      (runs.map RangeValuesDenseRun.len).sum := by
  rw [List.length_flatMap]
  simp [RangeValuesDenseRun.expand, Function.comp_def]

theorem head_denseRunsFrom : ∃ len' rest,
    denseRunsFrom current len indexes = ⟨current, len'⟩ :: rest := by
  fun_induction denseRunsFrom current len indexes with
  | case1 current len => exact ⟨len, [], rfl⟩
  | case2 current len rest ih => exact ih
  | case3 current len idx rest hne ih => exact ⟨len, _, rfl⟩

theorem chain_denseRunsFrom : (denseRunsFrom current len indexes).IsChain
    fun a b => a.valueIdx ≠ b.valueIdx := by
  fun_induction denseRunsFrom current len indexes with
  | case1 current len => exact List.isChain_singleton _
  | case2 current len rest ih => exact ih
  | case3 current len idx rest hne ih =>
    obtain ⟨len', runs, hruns⟩ := @head_denseRunsFrom idx 1 rest
    rw [hruns] at ih ⊢
    apply List.isChain_cons_cons.mpr
    exact ⟨Ne.symm hne, ih⟩

theorem chain_rowToDenseRuns (indexes : List Nat) : (rowToDenseRuns indexes).IsChain
    fun a b => a.valueIdx ≠ b.valueIdx := by
  cases indexes with
  | nil => exact List.isChain_nil
  | cons first rest => exact chain_denseRunsFrom

end Runs

section Encoding
variable {dictionary : Dictionary}

theorem getElem_prefix {entries entries' : List (Option CellValuePrimitive)}
    (h : entries <+: entries') {i : Nat} {entry : Option CellValuePrimitive}
    (hi : entries[i]? = some entry) : entries'[i]? = some entry := by
  obtain ⟨more, hmore⟩ := h
  rw [← hmore, List.getElem?_append_left (List.getElem?_eq_some_iff.mp hi).1]
  exact hi

theorem encode_spec (cell : Option CellValuePrimitive) :
    dictionary.entries <+: (dictionary.encode cell).1.entries ∧
      (dictionary.encode cell).1.entries[(dictionary.encode cell).2]? = some cell := by
  cases cell with
  | none => exact ⟨List.prefix_refl _, dictionary.front⟩
  | some value =>
    unfold Dictionary.encode
    dsimp only
    split
    next existing h => exact ⟨List.prefix_refl _, (dictionary.indexed value existing).mp h⟩
    next h =>
      unfold Dictionary.add
      exact ⟨List.prefix_append _ _, by simp⟩

theorem encodeRow_spec (row : List (Option CellValuePrimitive)) :
    dictionary.entries <+: (dictionary.encodeRow row).1.entries ∧
      (dictionary.encodeRow row).2.map (fun i => (dictionary.encodeRow row).1.entries[i]?) =
        row.map some := by
  induction row generalizing dictionary with
  | nil => exact ⟨List.prefix_refl _, rfl⟩
  | cons cell row ih =>
    have hfirst := @encode_spec dictionary cell
    have hrest := @ih (dictionary.encode cell).1
    unfold Dictionary.encodeRow
    dsimp only
    refine ⟨hfirst.1.trans hrest.1, ?_⟩
    rw [List.map_cons, hrest.2, getElem_prefix hrest.1 hfirst.2, List.map_cons]

theorem length_encodeRow (row : List (Option CellValuePrimitive)) :
    (dictionary.encodeRow row).2.length = row.length := by
  have hlength := congrArg List.length (@encodeRow_spec dictionary row).2
  rw [List.length_map, List.length_map] at hlength
  exact hlength

theorem encodeRows_spec (rows : List (List (Option CellValuePrimitive))) :
    dictionary.entries <+: (dictionary.encodeRows rows).1.entries ∧
      (dictionary.encodeRows rows).2.map (fun runs =>
        (runs.flatMap RangeValuesDenseRun.expand).map fun i =>
          (dictionary.encodeRows rows).1.entries[i]?) = rows.map fun row => row.map some := by
  induction rows generalizing dictionary with
  | nil => exact ⟨List.prefix_refl _, rfl⟩
  | cons row rows ih =>
    have hfirst := @encodeRow_spec dictionary row
    have hrest := @ih (dictionary.encodeRow row).1
    unfold Dictionary.encodeRows
    dsimp only
    refine ⟨hfirst.1.trans hrest.1, ?_⟩
    rw [List.map_cons, hrest.2, List.map_cons, expand_rowToDenseRuns, ← hfirst.2]
    congr 1
    apply List.map_congr_left
    intro i hi
    have hentry : (dictionary.encodeRow row).1.entries[i]? ∈ row.map some := by
      rw [← hfirst.2]
      exact List.mem_map_of_mem hi
    obtain ⟨cell, _, hcell⟩ := List.mem_map.mp hentry
    rw [← hcell]
    exact getElem_prefix hrest.1 hcell.symm

theorem runs_encodeRows (rows : List (List (Option CellValuePrimitive))) :
    ∀ runs ∈ (dictionary.encodeRows rows).2, ∃ row ∈ rows, ∃ indexes : List Nat,
      runs = rowToDenseRuns indexes ∧ indexes.length = row.length := by
  induction rows generalizing dictionary with
  | nil =>
    intro runs hruns
    exact absurd hruns List.not_mem_nil
  | cons row rows ih =>
    intro runs hruns
    rcases List.mem_cons.mp hruns with hruns | hruns
    · exact ⟨row, List.mem_cons_self, _, hruns, length_encodeRow row⟩
    · obtain ⟨row', hrow', h⟩ := ih runs hruns
      exact ⟨row', List.mem_cons_of_mem _ hrow', h⟩

theorem nodup_entries (dictionary : Dictionary) : dictionary.entries.Nodup := by
  rw [List.nodup_iff_injective_getElem]
  intro i j h
  dsimp only at h
  have hi := List.getElem?_eq_getElem i.2
  have hj := List.getElem?_eq_getElem j.2
  apply Fin.ext
  cases hentry : dictionary.entries[i.1] with
  | none =>
    rw [hentry] at hi h
    rw [← h] at hj
    rw [dictionary.only i hi, dictionary.only j hj]
  | some value =>
    rw [hentry] at hi h
    rw [← h] at hj
    have hsame := ((dictionary.indexed value i).mpr hi).symm.trans
      ((dictionary.indexed value j).mpr hj)
    exact Option.some.inj hsame

end Encoding

section Formulas
variable {rows : List (List (Option String))}

theorem mem_denseFormulas {placed : RangeValuesDenseFormula} : placed ∈ denseFormulas rows ↔
    ∃ row, rows[placed.row]? = some row ∧ row[placed.col]? = some (some placed.formula) := by
  unfold denseFormulas
  simp only [List.mem_flatMap, List.mem_filterMap, Prod.exists, List.mem_zipIdx_iff_getElem?,
    Option.map_eq_some_iff]
  constructor
  · intro ⟨row, rowIdx, hrow, formula, colIdx, hformula, text, htext, hplaced⟩
    rw [← hplaced]
    rw [htext] at hformula
    exact ⟨row, hrow, hformula⟩
  · intro ⟨row, hrow, hformula⟩
    exact ⟨row, placed.row, hrow, some placed.formula, placed.col, hformula, placed.formula, rfl, rfl⟩

theorem find_denseFormulas {r c : Nat} {row : List (Option String)} {formula : Option String}
    (hrow : rows[r]? = some row) (hcell : row[c]? = some formula) :
    ((denseFormulas rows).find? fun placed => placed.row = r ∧ placed.col = c).map
      RangeValuesDenseFormula.formula = formula := by
  cases hfind : (denseFormulas rows).find? fun placed => placed.row = r ∧ placed.col = c with
  | none =>
    rw [List.find?_eq_none] at hfind
    cases formula with
    | none => rfl
    | some text =>
      have hmem : ⟨r, c, text⟩ ∈ denseFormulas rows := mem_denseFormulas.mpr ⟨row, hrow, hcell⟩
      exact absurd (hfind _ hmem) (by simp)
  | some placed =>
    have hmem := mem_denseFormulas.mp (List.mem_of_find?_eq_some hfind)
    have hplace := List.find?_some hfind
    rw [decide_eq_true_eq] at hplace
    rw [hplace.1, hplace.2] at hmem
    obtain ⟨row', hrow', hcell'⟩ := hmem
    rw [hrow, Option.some.injEq] at hrow'
    rw [← hrow', hcell, Option.some.injEq] at hcell'
    exact hcell'.symm

theorem placeFormulas_denseFormulas (matrix : Matrix (Option String)) :
    placeFormulas matrix.rows.length matrix.cols (denseFormulas matrix.rows) = matrix.rows := by
  unfold placeFormulas
  apply List.ext_getElem
  · simp
  · intro r hr hr'
    have hlength := matrix.rectangular _ (List.getElem_mem hr')
    rw [List.getElem_map, List.getElem_range]
    apply List.ext_getElem
    · simp [hlength]
    · intro c hc hc'
      rw [List.getElem_map, List.getElem_range]
      exact find_denseFormulas (List.getElem?_eq_getElem hr') (List.getElem?_eq_getElem hc')

end Formulas

section Keyed
variable {startCol : Nat}

theorem columnNumberToName_injective {a b : Nat}
    (h : Analysis.columnNumberToName a = Analysis.columnNumberToName b) : a = b := by
  have hlist := congrArg String.toList h
  unfold Analysis.columnNumberToName at hlist
  rw [String.toList_ofList, String.toList_ofList] at hlist
  have hindex := congrArg Sheets.columnIndex hlist
  rw [Analysis.columnIndex_self, Analysis.columnIndex_self] at hindex
  exact hindex

theorem keyedCells_append (row : List (Option (CellValue FloatBits)))
    (cell : Option (CellValue FloatBits)) : keyedCells startCol (row ++ [cell]) =
      match cell with
      | some value => Function.update (keyedCells startCol row)
          (Analysis.columnNumberToName (startCol + row.length)) (some (cellValueToPrimitive value))
      | none => keyedCells startCol row := by
  unfold keyedCells
  rw [List.zipIdx_append, List.foldl_append]
  cases cell <;> simp

theorem keyedCells_iff (row : List (Option (CellValue FloatBits))) (letters : String)
    (primitive : CellValuePrimitive) : keyedCells startCol row letters = some primitive ↔
      ∃ j value, row[j]? = some (some value) ∧
        letters = Analysis.columnNumberToName (startCol + j) ∧
        primitive = cellValueToPrimitive value := by
  induction row using List.reverseRecOn with
  | nil => simp [keyedCells]
  | append_singleton row cell ih =>
    have hold {j : Nat} {value : CellValue FloatBits} : row[j]? = some (some value) →
        j < row.length ∧ (row ++ [cell])[j]? = some (some value) := by
      intro h
      have hj := (List.getElem?_eq_some_iff.mp h).1
      rw [List.getElem?_append_left hj]
      exact ⟨hj, h⟩
    have hnew {j : Nat} {value : CellValue FloatBits} :
        (row ++ [cell])[j]? = some (some value) →
          row[j]? = some (some value) ∨ j = row.length ∧ cell = some value := by
      intro h
      rcases Nat.lt_or_ge j row.length with hj | hj
      · rw [List.getElem?_append_left hj] at h
        exact .inl h
      · rw [List.getElem?_append_right hj] at h
        have hzero : j - row.length = 0 := by
          have hlt := (List.getElem?_eq_some_iff.mp h).1
          rw [List.length_singleton] at hlt
          omega
        rw [hzero] at h
        exact .inr ⟨by omega, Option.some.inj h⟩
    rw [keyedCells_append]
    cases cell with
    | none =>
      dsimp only
      rw [ih]
      constructor
      · intro ⟨j, value, hj, h⟩
        exact ⟨j, value, (hold hj).2, h⟩
      · intro ⟨j, value, hj, h⟩
        rcases hnew hj with hj | ⟨_, hcell⟩
        · exact ⟨j, value, hj, h⟩
        · contradiction
    | some last =>
      dsimp only
      by_cases hletters : letters = Analysis.columnNumberToName (startCol + row.length)
      · rw [hletters, Function.update_self, Option.some.injEq]
        constructor
        · intro h
          exact ⟨row.length, last, by simp, rfl, h.symm⟩
        · intro ⟨j, value, hj, hname, hvalue⟩
          have hsame := columnNumberToName_injective hname
          rcases hnew hj with hj | ⟨_, hcell⟩
          · have hlt := (hold hj).1
            omega
          · rw [hvalue, Option.some.inj hcell]
      · rw [Function.update_of_ne hletters, ih]
        constructor
        · intro ⟨j, value, hj, h⟩
          exact ⟨j, value, (hold hj).2, h⟩
        · intro ⟨j, value, hj, hname, hvalue⟩
          rcases hnew hj with hj | ⟨hlast, _⟩
          · exact ⟨j, value, hj, hname, hvalue⟩
          · rw [hlast] at hname
            exact absurd hname hletters

end Keyed

/-- The dense encoding of a matrix expands to its values and formulas, its runs are as long
as they can be, and its dictionary has no entry twice; the keyed encoding has the cells that
are not empty, at their rows and columns in the sheet. -/
theorem encodings_lossless (matrix : Matrix (Option (CellValue FloatBits)))
    (formulas : Option (Matrix (Option String))) :
    let payload := cellMatrixToDense matrix.rows (formulas.map Matrix.rows)
    payload.expand = (cellMatrixToValues matrix.rows).map (fun row => row.map some) ∧
      (∀ runs ∈ payload.rowRuns, (runs.map RangeValuesDenseRun.len).sum = payload.colCount ∧
        runs.IsChain fun a b => a.valueIdx ≠ b.valueIdx) ∧
      payload.dictionary.Nodup ∧ payload.dictionary.head? = some none ∧
      (∀ m, formulas = some m → placeFormulas m.rows.length m.cols payload.formulas = m.rows) ∧
      ∀ range bounds, Analysis.parseRange range = some bounds →
        (cellMatrixToRowsKeyed range matrix.rows).length = matrix.rows.length ∧
        ∀ i row, matrix.rows[i]? = some row → ∃ entry,
          (cellMatrixToRowsKeyed range matrix.rows)[i]? = some entry ∧
          entry.row = bounds.minRow + i ∧
          ∀ letters primitive, entry.cells letters = some primitive ↔
            ∃ j value, row[j]? = some (some value) ∧
              letters = Analysis.columnNumberToName (bounds.minCol + j) ∧
              primitive = cellValueToPrimitive value := by
  intro payload
  have hrows := @encodeRows_spec Dictionary.empty (cellMatrixToValues matrix.rows)
  have hlength : ∀ row ∈ cellMatrixToValues matrix.rows, row.length = matrix.cols := by
    intro row hrow
    obtain ⟨cells, hcells, hvalues⟩ := List.mem_map.mp hrow
    rw [← hvalues, List.length_map]
    exact matrix.rectangular cells hcells
  refine ⟨hrows.2, ?_, nodup_entries _, ?_, ?_, ?_⟩
  · intro runs hmem
    obtain ⟨row, hrow, indexes, hruns, hindexes⟩ := runs_encodeRows _ runs hmem
    have hcount : payload.colCount = matrix.cols := by
      change (cellMatrixToValues matrix.rows).head?.elim 0 List.length = matrix.cols
      cases hvalues : cellMatrixToValues matrix.rows with
      | nil =>
        rw [hvalues] at hrow
        exact absurd hrow List.not_mem_nil
      | cons first rest =>
        apply hlength
        rw [hvalues]
        exact List.mem_cons_self
    constructor
    · rw [hcount, ← length_expand, hruns, expand_rowToDenseRuns, hindexes]
      exact hlength row hrow
    · rw [hruns]
      exact chain_rowToDenseRuns indexes
  · rw [List.head?_eq_getElem?]
    exact (Dictionary.empty.encodeRows (cellMatrixToValues matrix.rows)).1.front
  · intro m hm
    have hformulas : payload.formulas = denseFormulas m.rows := by
      change (formulas.map Matrix.rows).elim [] denseFormulas = denseFormulas m.rows
      rw [hm]
      rfl
    rw [hformulas]
    exact placeFormulas_denseFormulas m
  · intro range bounds hrange
    constructor
    · simp [cellMatrixToRowsKeyed]
    · intro i row hrow
      refine ⟨⟨bounds.minRow + i, keyedCells bounds.minCol row⟩, ?_, rfl, ?_⟩
      · simp [cellMatrixToRowsKeyed, hrange, hrow]
      · exact keyedCells_iff row

end AgentSpreadsheet.Tables
