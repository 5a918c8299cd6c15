import AgentSpreadsheet.Library.Quoted
import AgentSpreadsheet.Sheets.CsvImport

/-! A table as CSV text, and the same table from the text. Inside quotes nothing ends a field
but a quote that stands alone. -/
namespace AgentSpreadsheet.Tables
open Library Search Sheets

/-- What makes a field be quoted. -/
def csvSpecial : List Char := [',', '"', '\n', '\r']

def escapeCsv (value : String) : String :=
  if value.toList.any csvSpecial.contains then
    String.ofList ('"' :: (doubled '"' value.toList ++ ['"']))
  else value

def csvText {ν : Type} (tools : ValueTools ν) : Option (CellValue ν) → String
  | some (.text s) => escapeCsv s
  | some (.number n) => tools.display n
  | some (.bool b) => if b then "true" else "false"
  | some (.error e) => escapeCsv e
  | some (.date d) => escapeCsv d
  | none => ""

def csvLine (fields : List String) : String := ",".intercalate fields ++ "\n"

def buildCsvPayload {ν : Type} (tools : ValueTools ν) (headers : List String)
    (rows : List (List (Option (CellValue ν)))) (includeHeaders : Bool) : String :=
  (if includeHeaders then csvLine (headers.map escapeCsv) else "") ++
    String.join (rows.map fun row => csvLine (row.map (csvText tools)))

/-! ### Reading -/

section Reading
variable {records : List (List String)} {row : List String} {field : List Char} {rest : List Char}

theorem csvLoop_unquoted (c : Char) : csvLoop records row field false (c :: rest) =
    if c = '"' ∧ field = [] then csvLoop records row field true rest
    else if c = ',' then csvLoop records (row ++ [String.ofList field]) [] false rest
    else if c = '\n' then csvLoop (records ++ [row ++ [String.ofList field]]) [] [] false rest
    else if c = '\r' ∧ rest.head? = some '\n' then csvLoop records row field false rest
    else if c = '\r' then csvLoop (records ++ [row ++ [String.ofList field]]) [] [] false rest
    else csvLoop records row (field ++ [c]) false rest := by
  rw [csvLoop.eq_def]
  rfl

theorem csvLoop_inside {c : Char} (h : c ≠ '"') : csvLoop records row field true (c :: rest) =
    csvLoop records row (field ++ [c]) true rest := by
  rw [csvLoop.eq_def]
  simp [h]

theorem csvLoop_doubled : csvLoop records row field true ('"' :: '"' :: rest) =
    csvLoop records row (field ++ ['"']) true rest := by
  rw [csvLoop.eq_def]
  simp

theorem csvLoop_close (h : rest.head? ≠ some '"') : csvLoop records row field true ('"' :: rest) =
    csvLoop records row field false rest := by
  rw [csvLoop.eq_def]
  cases rest with
  | nil => simp
  | cons c rest =>
    have hc : c ≠ '"' := fun hc => h (congrArg some hc)
    simp [hc]

/-- Characters that are not special are taken over. -/
theorem csvLoop_plain {text : List Char} (h : ∀ c ∈ text, c ∉ csvSpecial) :
    csvLoop records row field false (text ++ rest) =
      csvLoop records row (field ++ text) false rest := by
  induction text generalizing field with
  | nil => rw [List.nil_append, List.append_nil]
  | cons c text ih =>
    have hc := h c List.mem_cons_self
    simp only [csvSpecial, List.mem_cons, List.not_mem_nil, or_false, not_or] at hc
    rw [List.cons_append, csvLoop_unquoted]
    simp only [hc, false_and, if_false]
    rw [ih fun d hd => h d (List.mem_cons_of_mem _ hd), List.append_assoc, List.singleton_append]

theorem csvLoop_quoted {text : List Char} (h : rest.head? ≠ some '"') :
    csvLoop records row field true (doubled '"' text ++ '"' :: rest) =
      csvLoop records row (field ++ text) false rest := by
  induction text generalizing field with
  | nil => rw [doubled_nil, List.nil_append, csvLoop_close h, List.append_nil]
  | cons c text ih =>
    by_cases hc : c = '"'
    · rw [hc, doubled_quote, List.cons_append, List.cons_append, csvLoop_doubled, ih,
        List.append_assoc, List.singleton_append]
    · rw [doubled_cons hc, List.cons_append, csvLoop_inside hc, ih, List.append_assoc,
        List.singleton_append]

theorem csvLoop_field (value : String) (h : rest.head? ≠ some '"') :
    csvLoop records row [] false ((escapeCsv value).toList ++ rest) =
      csvLoop records row value.toList false rest := by
  unfold escapeCsv
  split
  · rw [String.toList_ofList, List.cons_append, List.append_assoc, csvLoop_unquoted,
      if_pos ⟨rfl, rfl⟩]
    exact csvLoop_quoted h
  · rename_i hplain
    apply csvLoop_plain
    intro c hc hspecial
    exact hplain (List.any_eq_true.mpr ⟨c, hc, List.contains_iff_mem.mpr hspecial⟩)

theorem csvLoop_line (value : String) (values : List String) :
    csvLoop records row [] false ((csvLine ((value :: values).map escapeCsv)).toList ++ rest) =
      csvLoop (records ++ [row ++ value :: values]) [] [] false rest := by
  induction values generalizing value row with
  | nil =>
    have hline : (csvLine ([value].map escapeCsv)).toList ++ rest =
        (escapeCsv value).toList ++ '\n' :: rest := by
      simp [csvLine]
    rw [hline, csvLoop_field value (by simp), csvLoop_unquoted]
    simp [String.ofList_toList]
  | cons next values ih =>
    have hline : (csvLine ((value :: next :: values).map escapeCsv)).toList ++ rest =
        (escapeCsv value).toList ++
          ',' :: ((csvLine ((next :: values).map escapeCsv)).toList ++ rest) := by
      simp [csvLine, String.intercalate_cons_cons]
    rw [hline, csvLoop_field value (by simp), csvLoop_unquoted]
    simp only [Char.reduceEq, false_and, if_false, if_true, String.ofList_toList]
    rw [ih, List.append_assoc, List.singleton_append]

theorem csvLoop_lines (table : List (List String)) (h : ∀ values ∈ table, values ≠ []) :
    csvLoop records [] [] false
        (String.join (table.map fun values => csvLine (values.map escapeCsv))).toList =
      .ok (records ++ table) := by
  induction table generalizing records with
  | nil => simp [csvLoop]
  | cons values table ih =>
    cases values with
    | nil => exact absurd rfl (h [] List.mem_cons_self)
    | cons value values =>
      rw [List.map_cons, String.join_cons, String.toList_append, csvLoop_line,
        ih fun values hvalues => h values (List.mem_cons_of_mem _ hvalues), List.append_assoc,
        List.nil_append, List.singleton_append]

end Reading

/-! ### The round trip -/

/-- A table of strings with at least one column. A cell without a value is an empty string. -/
structure TextTable where
  width : Nat
  positive : 1 ≤ width
  headers : List String
  rows : List (List (Option String))
  headers_length : headers.length = width
  rows_length : ∀ row ∈ rows, row.length = width

def TextTable.strings (table : TextTable) : List (List String) :=
  table.rows.map fun row => row.map fun cell => cell.getD ""

def TextTable.cells {ν : Type} (table : TextTable) : List (List (Option (CellValue ν))) :=
  table.rows.map fun row => row.map fun cell => cell.map .text

theorem csvText_text {ν : Type} (tools : ValueTools ν) (cell : Option String) :
    csvText tools (cell.map .text) = escapeCsv (cell.getD "") := by
  cases cell with
  | none => rfl
  | some s => rfl

/-- The text of a table is read as the table, with or without its headers. -/
theorem csv_round_trip {ν : Type} (tools : ValueTools ν) (table : TextTable) (includeHeaders : Bool) :
    csvRecords (buildCsvPayload tools table.headers table.cells includeHeaders) =
      .ok (if includeHeaders then table.headers :: table.strings else table.strings) := by
  have hpositive := table.positive
  have hheaders : table.headers ≠ [] := by
    intro h
    have hlength := table.headers_length
    rw [h, List.length_nil] at hlength
    omega
  have hstrings : ∀ values ∈ table.strings, values ≠ [] := by
    intro values hvalues
    obtain ⟨row, hrow, rfl⟩ := List.mem_map.mp hvalues
    have hlength := table.rows_length row hrow
    intro h
    rw [List.map_eq_nil_iff.mp h, List.length_nil] at hlength
    omega
  have hrows : (table.cells.map fun row => csvLine (row.map (csvText tools))) =
      table.strings.map fun values => csvLine (values.map escapeCsv) := by
    simp [TextTable.cells, TextTable.strings, Function.comp_def, csvText_text]
  unfold csvRecords buildCsvPayload
  rw [hrows]
  cases includeHeaders with
  | false =>
    have hlines := @csvLoop_lines [] table.strings hstrings
    simpa using hlines
  | true =>
    have hlines := @csvLoop_lines [] (table.headers :: table.strings)
      (List.forall_mem_cons.mpr ⟨hheaders, hstrings⟩)
    rw [List.map_cons, String.join_cons] at hlines
    exact hlines

end AgentSpreadsheet.Tables
