import AgentSpreadsheet.Search.Paged
import AgentSpreadsheet.Tables.Rows

/-! What the filters of a table let through. -/
namespace AgentSpreadsheet.Tables
open Library Search

/-! ### Maps -/

theorem foldl_update {α κ β : Type} [DecidableEq κ] (key : α → κ) (value : α → β) (xs : List α)
    (map : κ → Option β) (k : κ) :
    xs.foldl (fun map x => Function.update map (key x) (some (value x))) map k =
      ((xs.reverse.find? fun x => key x = k).map value).or (map k) := by
  induction xs generalizing map with
  | nil => rfl
  | cons x xs ih =>
    rw [List.foldl_cons, ih, List.reverse_cons, List.find?_append]
    cases xs.reverse.find? fun x => key x = k with
    | some found => rfl
    | none =>
      by_cases hkey : key x = k
      · simp [hkey]
      · rw [Function.update_of_ne (Ne.symm hkey)]
        simp [hkey]

section Filters
variable {ν : Type} (tools : TableTools ν) (sheet : Worksheet) (origin : Nat × Nat → Nat × Nat)
  (target : TableTarget) (shape : TableShape)

def columnUnder (name : String) : Option Nat :=
  (((tableHeaders tools sheet origin target shape).zip
    (columnIndices tools target shape)).reverse.find? fun pair => pair.1 = name).map Prod.snd

theorem tableRow_apply (row : Nat) (name : String) :
    tableRow tools sheet origin target shape row name =
      (columnUnder tools sheet origin target shape name).map fun col =>
        valueAt tools.toValueTools sheet col row := by
  unfold tableRow columnUnder
  rw [foldl_update, Option.map_map, Option.or_none]
  rfl

theorem dedupeHeaders_length (headers : List String) (seen : String → Nat) :
    (dedupeHeaders headers seen).length = headers.length := by
  induction headers generalizing seen with
  | nil => rfl
  | cons header rest ih =>
    unfold dedupeHeaders
    split
    · exact congrArg (· + 1) (ih seen)
    · exact congrArg (· + 1) (ih _)

theorem tableHeaders_length : (tableHeaders tools sheet origin target shape).length =
    (columnIndices tools target shape).length := by
  unfold tableHeaders buildHeaders
  dsimp only
  split
  · exact List.length_map _
  · rw [dedupeHeaders_length, List.length_map]

theorem columnUnder_isSome {name : String} :
    (columnUnder tools sheet origin target shape name).isSome = true ↔
      name ∈ tableHeaders tools sheet origin target shape := by
  unfold columnUnder
  rw [Option.isSome_map, List.find?_isSome]
  simp only [List.mem_reverse, decide_eq_true_eq]
  constructor
  · intro ⟨pair, hpair, hname⟩
    exact hname ▸ (List.of_mem_zip hpair).1
  · intro hname
    obtain ⟨i, hi, hget⟩ := List.mem_iff_getElem.mp hname
    have hcolumn := hi.trans_eq (tableHeaders_length tools sheet origin target shape)
    have hzip : i < ((tableHeaders tools sheet origin target shape).zip
        (columnIndices tools target shape)).length := by
      rw [List.length_zip]
      omega
    refine ⟨_, List.getElem_mem hzip, ?_⟩
    rw [List.getElem_zip]
    exact hget

/-! ### Meaning -/

/-- The column under a header or else with a letter. -/
def namedColumn (name : String) : Option Nat :=
  (columnUnder tools sheet origin target shape name).or
    ((Reads.between target.startCol target.endCol).find? fun col =>
      Analysis.columnNumberToName col = name)

def Spells (t : String) (b : Bool) : Prop := toAsciiLowercase t = boolText b

instance (t : String) (b : Bool) : Decidable (Spells t b) :=
  inferInstanceAs (Decidable (toAsciiLowercase t = boolText b))

/-- As the comparison for equality, but texts spell Booleans. -/
def equals : Option (CellValue ν) → Operand ν → Bool
  | some (.bool b), .string t => decide (Spells t b)
  | value, operand => valueEq tools value operand

def Meets (value : Option (CellValue ν)) (filter : TableFilter ν) : Bool :=
  match filter.op with
  | .eq => equals tools value filter.value
  | .neq => !equals tools value filter.value
  | .isIn => filter.value.list.any (equals tools value)
  | _ => passesFilter tools value filter

def filterValue (filter : TableFilter ν) (row : Nat) : Option (CellValue ν) :=
  (namedColumn tools sheet origin target shape filter.column).bind fun col =>
    valueAt tools.toValueTools sheet col row

/-- The filter's column exists, and its value in the row is as the filter has it. -/
def satisfies (filter : TableFilter ν) (row : Nat) : Bool :=
  (namedColumn tools sheet origin target shape filter.column).any fun col =>
    Meets tools (valueAt tools.toValueTools sheet col row) filter

def satisfyingRows (filters : List (TableFilter ν)) : List Nat :=
  (dataRows target shape).filter fun row =>
    filters.all fun filter => satisfies tools sheet origin target shape filter row

def passes (row : Nat) (filter : TableFilter ν) : Bool :=
  rowPassesFilters tools (tableRow tools sheet origin target shape row) (some [filter])

structure FiltersExact (filters : List (TableFilter ν)) : Prop where
  returned : ∀ limit offset sampleMode,
    extractTableRows tools sheet origin target shape (some filters) limit offset sampleMode =
      (tableHeaders tools sheet origin target shape,
        sampleRows ((satisfyingRows tools sheet origin target shape filters).map
          (tableRow tools sheet origin target shape)) limit offset sampleMode,
        (satisfyingRows tools sheet origin target shape filters).length)
  each : ∀ filter ∈ filters, ∀ row ∈ dataRows target shape,
    passes tools sheet origin target shape row filter =
      satisfies tools sheet origin target shape filter row
  complement : ∀ filter ∈ filters, ∀ row ∈ dataRows target shape,
    passes tools sheet origin target shape row { filter with op := .neq } =
      !passes tools sheet origin target shape row { filter with op := .eq }
  union : ∀ filter ∈ filters, ∀ row ∈ dataRows target shape,
    passes tools sheet origin target shape row { filter with op := .isIn } =
      filter.value.list.any fun value =>
        passes tools sheet origin target shape row ⟨filter.column, .eq, value⟩
  spelled : ∀ filter ∈ filters, ∀ row ∈ dataRows target shape, ∀ t b,
    .string t ∈ filter.value.list →
    filterValue tools sheet origin target shape filter row = some (.bool b) →
    passes tools sheet origin target shape row ⟨filter.column, .eq, .string t⟩ = true → Spells t b

/-! ### The loop -/

/-- What a bound on the rows keeps of those that come after `count`. -/
def cutTo {ρ : Type} (bound : Option Nat) (count : Nat) (rows : List ρ) : List ρ :=
  match bound with
  | none => rows
  | some n => rows.take (n - count)

theorem keepRow_foldl (filters : Option (List (TableFilter ν))) (bound : Option Nat)
    (rows : List Nat) (kept : List (TableRow ν)) (count : Nat) :
    rows.foldl (keepRow tools sheet origin target shape filters bound) (kept, count) =
      (kept ++ cutTo bound count ((rows.filter fun row => rowPassesFilters tools
          (tableRow tools sheet origin target shape row) filters).map
            (tableRow tools sheet origin target shape)),
        count + (rows.filter fun row => rowPassesFilters tools
          (tableRow tools sheet origin target shape row) filters).length) := by
  induction rows generalizing kept count with
  | nil => cases bound <;> simp [cutTo]
  | cons row rows ih =>
    rw [List.foldl_cons]
    by_cases hpass : rowPassesFilters tools (tableRow tools sheet origin target shape row)
        filters = true
    · simp only [List.filter_cons, if_pos hpass, List.map_cons, List.length_cons]
      cases bound with
      | none =>
        have hkeep : keepRow tools sheet origin target shape filters none (kept, count) row =
            (kept ++ [tableRow tools sheet origin target shape row], count + 1) := by
          simp [keepRow, hpass]
        rw [hkeep, ih]
        simp [cutTo, Nat.add_assoc, Nat.add_comm 1]
      | some n =>
        by_cases hover : n < count + 1
        · have hkeep : keepRow tools sheet origin target shape filters (some n) (kept, count) row =
              (kept, count + 1) := by
            have hle : n ≤ count := by omega
            simp [keepRow, hpass, hover, hle]
          have hnone : n - count = 0 := by omega
          have hnone' : n - (count + 1) = 0 := by omega
          rw [hkeep, ih]
          simp [cutTo, hnone, hnone', Nat.add_assoc, Nat.add_comm 1]
        · have hkeep : keepRow tools sheet origin target shape filters (some n) (kept, count) row =
              (kept ++ [tableRow tools sheet origin target shape row], count + 1) := by
            have hle : ¬ n ≤ count := by omega
            simp [keepRow, hpass, hover, hle]
          have hsome : n - count = (n - (count + 1)) + 1 := by omega
          rw [hkeep, ih]
          simp [cutTo, hsome, Nat.add_assoc, Nat.add_comm 1]
    · have hkeep : keepRow tools sheet origin target shape filters bound (kept, count) row =
          (kept, count) := by
        simp [keepRow, hpass]
      simp only [List.filter_cons, if_neg hpass]
      rw [hkeep, ih]

theorem sampleRows_cutTo {ρ : Type} (rows : List ρ) (limit offset : Nat) (sampleMode : SampleMode) :
    sampleRows (cutTo (if sampleMode = .first then some (offset + limit) else none) 0 rows) limit
      offset sampleMode = sampleRows rows limit offset sampleMode := by
  cases sampleMode with
  | first =>
    change ((rows.take (offset + limit - 0)).drop offset).take limit = (rows.drop offset).take limit
    rw [Nat.sub_zero, List.drop_take, Nat.add_sub_cancel_left, List.take_take, Nat.min_self]
  | last => rfl
  | distributed => rfl

theorem extractTableRows_eq (filters : Option (List (TableFilter ν))) (limit offset : Nat)
    (sampleMode : SampleMode) :
    extractTableRows tools sheet origin target shape filters limit offset sampleMode =
      (tableHeaders tools sheet origin target shape,
        sampleRows (((dataRows target shape).filter fun row => rowPassesFilters tools
          (tableRow tools sheet origin target shape row) filters).map
            (tableRow tools sheet origin target shape)) limit offset sampleMode,
        ((dataRows target shape).filter fun row => rowPassesFilters tools
          (tableRow tools sheet origin target shape row) filters).length) := by
  unfold extractTableRows
  dsimp only
  rw [keepRow_foldl]
  dsimp only
  rw [List.nil_append, sampleRows_cutTo, Nat.zero_add]

/-! ### Exactness -/

variable {tools sheet origin target shape}

theorem rowPassesFilters_eq (row : Nat) (filters : List (TableFilter ν)) :
    rowPassesFilters tools (tableRow tools sheet origin target shape row) (some filters) =
      filters.all fun filter => passes tools sheet origin target shape row filter := by
  unfold passes rowPassesFilters
  simp

theorem passes_unnamed (filter : TableFilter ν) {row : Nat}
    (h : filter.column ∉ tableHeaders tools sheet origin target shape) :
    passes tools sheet origin target shape row filter = true := by
  have hnone : columnUnder tools sheet origin target shape filter.column = none := by
    rw [← columnUnder_isSome, Option.not_isSome_iff_eq_none] at h
    exact h
  unfold passes rowPassesFilters
  simp [tableRow_apply, hnone]

/-- A column that is found has the value that the filter is about. -/
theorem column_found {filter : TableFilter ν}
    (h : filter.column ∈ tableHeaders tools sheet origin target shape) :
    ∃ col, columnUnder tools sheet origin target shape filter.column = some col ∧
      namedColumn tools sheet origin target shape filter.column = some col := by
  obtain ⟨col, hcol⟩ := Option.isSome_iff_exists.mp
    ((columnUnder_isSome tools sheet origin target shape).mpr h)
  exact ⟨col, hcol, by rw [namedColumn, hcol, Option.some_or]⟩

theorem passes_named (filter : TableFilter ν) {row : Nat}
    (h : filter.column ∈ tableHeaders tools sheet origin target shape) :
    passes tools sheet origin target shape row filter =
      passesFilter tools (filterValue tools sheet origin target shape filter row) filter := by
  obtain ⟨col, hunder, hnamed⟩ := column_found h
  unfold passes rowPassesFilters filterValue
  simp [tableRow_apply, hunder, hnamed]

theorem satisfies_named {filter : TableFilter ν} {row : Nat}
    (h : filter.column ∈ tableHeaders tools sheet origin target shape) :
    satisfies tools sheet origin target shape filter row =
      Meets tools (filterValue tools sheet origin target shape filter row) filter := by
  obtain ⟨col, _, hnamed⟩ := column_found h
  unfold satisfies filterValue
  simp [hnamed]

/-- No text is compared with a false cell, or it spells a Boolean. -/
def BooleansSpelled (value : Option (CellValue ν)) (operand : Operand ν) : Prop :=
  ∀ t, .string t ∈ operand.list → value = some (.bool false) → Spells t true ∨ Spells t false

theorem equals_eq {value : Option (CellValue ν)} {operand : Operand ν}
    (h : ∀ t, operand = .string t → value = some (.bool false) → Spells t true ∨ Spells t false) :
    equals tools value operand = valueEq tools value operand := by
  unfold equals
  split
  · rename_i b t
    unfold valueEq Spells
    cases b with
    | true => simp [boolText, beq_eq_decide]
    | false =>
      have hspelled := h t rfl rfl
      unfold Spells at hspelled
      by_cases htrue : toAsciiLowercase t = boolText true
      · simp [htrue, boolText]
      · have hfalse := hspelled.resolve_left htrue
        simp [hfalse, boolText]
  · rfl

theorem mem_list_self {operand : Operand ν} {t : String} (h : operand = .string t) :
    .string t ∈ operand.list := by
  subst h
  exact List.mem_singleton.mpr rfl

theorem meets_eq {value : Option (CellValue ν)} {filter : TableFilter ν}
    (h : BooleansSpelled value filter.value) :
    Meets tools value filter = passesFilter tools value filter := by
  have hself : equals tools value filter.value = valueEq tools value filter.value :=
    equals_eq fun t ht => h t (mem_list_self ht)
  have hany : filter.value.list.any (equals tools value) =
      filter.value.list.any (valueEq tools value) := by
    rw [Bool.eq_iff_iff, List.any_eq_true, List.any_eq_true]
    refine exists_congr fun operand => and_congr_right fun hmem => ?_
    rw [equals_eq fun t ht => h t (ht ▸ hmem)]
  unfold Meets passesFilter
  cases filter.op with
  | eq => exact hself
  | neq => exact congrArg (!·) hself
  | isIn => exact hany
  | _ => rfl

theorem FiltersExact.named {filters : List (TableFilter ν)}
    (h : FiltersExact tools sheet origin target shape filters) {filter : TableFilter ν}
    (hfilter : filter ∈ filters) {row : Nat} (hrow : row ∈ dataRows target shape) :
    filter.column ∈ tableHeaders tools sheet origin target shape := by
  by_contra hnamed
  have hcomplement := h.complement filter hfilter row hrow
  rw [passes_unnamed { filter with op := .neq } hnamed,
    passes_unnamed { filter with op := .eq } hnamed] at hcomplement
  contradiction

theorem FiltersExact.booleansSpelled {filters : List (TableFilter ν)}
    (h : FiltersExact tools sheet origin target shape filters) {filter : TableFilter ν}
    (hfilter : filter ∈ filters) {row : Nat} (hrow : row ∈ dataRows target shape) :
    BooleansSpelled (filterValue tools sheet origin target shape filter row) filter.value := by
  intro t ht hvalue
  by_cases htrue : Spells t true
  · exact Or.inl htrue
  · have hnamed := h.named hfilter hrow
    apply Or.inr
    apply h.spelled filter hfilter row hrow t false ht hvalue
    have hpasses := @passes_named _ tools sheet origin target shape
      ⟨filter.column, .eq, .string t⟩ row hnamed
    have hvalue' : filterValue tools sheet origin target shape ⟨filter.column, .eq, .string t⟩ row =
        some (.bool false) := hvalue
    rw [hpasses, hvalue']
    change ((toAsciiLowercase t == boolText true) == false) = true
    simpa [Spells] using htrue

theorem filtersExact_of_named {filters : List (TableFilter ν)}
    (hnamed : ∀ filter ∈ filters, ∀ row ∈ dataRows target shape,
      filter.column ∈ tableHeaders tools sheet origin target shape)
    (hspelled : ∀ filter ∈ filters, ∀ row ∈ dataRows target shape,
      BooleansSpelled (filterValue tools sheet origin target shape filter row) filter.value) :
    FiltersExact tools sheet origin target shape filters := by
  have heach : ∀ filter ∈ filters, ∀ row ∈ dataRows target shape,
      passes tools sheet origin target shape row filter =
        satisfies tools sheet origin target shape filter row := by
    intro filter hfilter row hrow
    rw [passes_named filter (hnamed filter hfilter row hrow),
      satisfies_named (hnamed filter hfilter row hrow), meets_eq (hspelled filter hfilter row hrow)]
  constructor
  case returned =>
    intro limit offset sampleMode
    have hrows : ((dataRows target shape).filter fun row => rowPassesFilters tools
        (tableRow tools sheet origin target shape row) (some filters)) =
          satisfyingRows tools sheet origin target shape filters := by
      apply List.filter_congr
      intro row hrow
      rw [rowPassesFilters_eq, Bool.eq_iff_iff, List.all_eq_true, List.all_eq_true]
      refine forall_congr' fun filter => forall_congr' fun hfilter => ?_
      rw [heach filter hfilter row hrow]
    rw [extractTableRows_eq, hrows]
  case each => exact heach
  case complement =>
    intro filter hfilter row hrow
    have hcolumn := hnamed filter hfilter row hrow
    rw [passes_named { filter with op := .neq } hcolumn,
      passes_named { filter with op := .eq } hcolumn]
    rfl
  case union =>
    intro filter hfilter row hrow
    have hcolumn := hnamed filter hfilter row hrow
    rw [passes_named { filter with op := .isIn } hcolumn]
    refine congrArg filter.value.list.any (funext fun value => ?_)
    exact (passes_named ⟨filter.column, .eq, value⟩ hcolumn).symm
  case spelled =>
    intro filter hfilter row hrow t b ht hvalue hpass
    have hcolumn := hnamed filter hfilter row hrow
    have hpasses := @passes_named _ tools sheet origin target shape
      ⟨filter.column, .eq, .string t⟩ row hcolumn
    have hvalue' : filterValue tools sheet origin target shape ⟨filter.column, .eq, .string t⟩ row =
        some (.bool b) := hvalue
    rw [hpasses, hvalue'] at hpass
    have htext : ((toAsciiLowercase t == boolText true) == b) = true := hpass
    cases b with
    | true => simpa [Spells] using htext
    | false =>
      have htrue : ¬ Spells t true := by simpa [Spells] using htext
      exact (hspelled filter hfilter row hrow t ht hvalue).resolve_left htrue

/-- The filters of a table are exact where each names a header, and where no text is compared
with a false cell that does not spell a Boolean. -/
theorem table_filters_exact_iff (tools : TableTools ν) (sheet : Worksheet)
    (origin : Nat × Nat → Nat × Nat) (target : TableTarget) (shape : TableShape)
    (filters : List (TableFilter ν)) : FiltersExact tools sheet origin target shape filters ↔
      ∀ filter ∈ filters, ∀ row ∈ dataRows target shape,
        filter.column ∈ tableHeaders tools sheet origin target shape ∧
          BooleansSpelled (filterValue tools sheet origin target shape filter row) filter.value :=
  ⟨fun h _ hfilter _ hrow => ⟨h.named hfilter hrow, h.booleansSpelled hfilter hrow⟩,
    fun h => filtersExact_of_named (fun filter hfilter row hrow => (h filter hfilter row hrow).1)
      fun filter hfilter row hrow => (h filter hfilter row hrow).2⟩

end Filters

/-! ### A column by its letter -/

def numberTools : TableTools Nat where
  toValueTools := digitTools
  near a b := a == b
  lt a b := decide (a < b)
  le a b := decide (a ≤ b)
  columnIndex text := Sheets.columnIndex text.toList

def paidSheet : Worksheet where
  name := "Orders"
  cells := [{ col := 1, row := 1, value := "Paid" }, { col := 1, row := 2, value := "false" }]
  distinct := by decide
  placed := by decide

def paidTable : TableTarget := ⟨1, 1, 1, 2, none⟩

theorem letter_passed_over : ¬ FiltersExact numberTools paidSheet id paidTable {}
    [⟨"A", .eq, .string "true"⟩] := by
  intro h
  have hnamed := h.named (List.mem_singleton.mpr rfl) (show 2 ∈ dataRows paidTable {} by decide)
  exact absurd hnamed (by decide +kernel)

end AgentSpreadsheet.Tables
