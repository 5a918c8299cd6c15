import AgentSpreadsheet.Sheets.TypedWrites

/-! Imports of CSV texts: how fields are told apart, what they are taken for, and what the cells
hold afterwards. -/
namespace AgentSpreadsheet.Sheets
open Library Search

/-! ### Records and fields -/

/-- The loop over the characters, with the records so far, the row, the field, and whether a
quote is open. -/
def csvLoop (records : List (List String)) (row : List String) (field : List Char) (quoted : Bool) :
    List Char → Result (List (List String))
  | [] =>
    if quoted then .error "unterminated quoted CSV field"
    else if field ≠ [] ∨ row ≠ [] then .ok (records ++ [row ++ [String.ofList field]])
    else .ok records
  | c :: rest =>
    if quoted then
      if c = '"' then
        match rest with
        | '"' :: rest => csvLoop records row (field ++ ['"']) true rest
        | rest => csvLoop records row field false rest
      else csvLoop records row (field ++ [c]) true rest
    else if c = '"' ∧ field = [] then csvLoop records row field true rest
    else if c = ',' then csvLoop records (row ++ [String.ofList field]) [] false rest
    else if c = '\n' then csvLoop (records ++ [row ++ [String.ofList field]]) [] [] false rest
    else if c = '\r' ∧ rest.head? = some '\n' then csvLoop records row field false rest
    else if c = '\r' then csvLoop (records ++ [row ++ [String.ofList field]]) [] [] false rest
    else csvLoop records row (field ++ [c]) false rest

def csvRecords (raw : String) : Result (List (List String)) := csvLoop [] [] [] false raw.toList

/-- `json!` of a float that is not finite is null. -/
def jsonNumber (texts : TypedTexts) : F64 → MatrixValue
  | .finite d => .number (texts.jsonFloat d)
  | _ => .null

def csvValue (rounding : Rounding) (texts : TypedTexts) (value : String) : MatrixValue :=
  if value = "" then .null
  else if eqIgnoreAsciiCase value "true" then .bool true
  else if eqIgnoreAsciiCase value "false" then .bool false
  else
    match parseI64 value, parseF64 rounding value with
    | some number, _ => .number (String.ofList (integerText number))
    | none, some number => jsonNumber texts number
    | none, none => .string value

def csvCell (rounding : Rounding) (texts : TypedTexts) (value : String) : Option MatrixCell :=
  if csvValue rounding texts value = .null then none
  else some (.value (csvValue rounding texts value))

structure CsvImport where
  sheetName : String
  anchor : Position
  csv : String
  header : Bool
  clearTarget : Bool
  deriving DecidableEq, Repr

namespace CsvImport
variable (request : CsvImport)

def records : Result (List (List String)) := do
  let records ← csvRecords request.csv
  pure (if request.header then records.drop 1 else records)

def columnCount (records : List (List String)) : Nat := (records.map List.length).foldr max 0

def clearOps (records : List (List String)) : List TransformOp :=
  if request.clearTarget ∧ 0 < records.length ∧ 0 < columnCount records then
    [.clearRange request.sheetName (.range (.cells request.anchor
      (request.anchor.1 + columnCount records - 1, request.anchor.2 + records.length - 1)))
      true true]
  else []

section Apply
variable (tools : StageTools) (rounding : Rounding) (texts : TypedTexts)

def cleared (records : List (List String)) (book : OpenWorkbook) : Result OpenWorkbook :=
  applyTransformOps tools (request.clearOps records) book

def rows (records : List (List String)) : List (List (Option MatrixCell)) :=
  records.map fun row => row.map (csvCell rounding texts)

def apply (book : OpenWorkbook) : Result OpenWorkbook := do
  let records ← request.records
  let book ← request.cleared tools records book
  applyTransformOps tools
    [.writeMatrix request.sheetName request.anchor (rows rounding texts records) true] book

end Apply

/-! ### What is kept of a field -/

def key (row col : Nat) : CellKey :=
  (request.sheetName, request.anchor.1 + col, request.anchor.2 + row)

end CsvImport

/-- The value is the field's text, the truth value it spells, or the number it denotes. -/
def Keeps (field : String) (value : ResidentMaterializedValue) : Prop :=
  value = .string field ∨ (∃ b, value = .bool b ∧ wordBool field = some b) ∨
    ∃ q, value = .number q ∧ readDecimal field.toList = some q

inductive FieldMeaning where
  | truth (b : Bool)
  | number (q : ℚ)
  | text (s : String)

def fieldMeaning (field : String) : FieldMeaning :=
  match wordBool field, readDecimal field.toList with
  | some b, _ => .truth b
  | none, some q => .number q
  | none, none => .text field

def FieldAt (records : List (List String)) (row col : Nat) (field : String) : Prop :=
  ∃ values, records[row]? = some values ∧ values[col]? = some field ∧ field ≠ ""

/-- Every field is kept, and fields of different meaning stay different. -/
def LosesNoField (request : CsvImport) (records : List (List String)) (book : OpenWorkbook) :
    Prop :=
  (∀ row col field, FieldAt records row col field →
    Keeps field (book.stored (request.key row col)).2) ∧
  ∀ row col field row' col' field', FieldAt records row col field →
    FieldAt records row' col' field' → fieldMeaning field ≠ fieldMeaning field' →
    (book.stored (request.key row col)).2 ≠ (book.stored (request.key row' col')).2

/-- A float that is no number is not written. -/
def Dropped (rounding : Rounding) (field : String) : Prop :=
  parseF64 rounding field = some .nan ∨
    ∃ negative, parseF64 rounding field = some (.infinite negative)

/-- Which fields are kept, given what their cells hold before they are written. -/
def Importable (rounding : Rounding) (texts : TypedTexts) (before : ResidentMaterializedValue)
    (field : String) : Prop :=
  (∃ b, wordBool field = some b) ∨
    (∃ q, readDecimal field.toList = some q ∧ Representable q) ∨
    PlainText rounding texts field ∨
    Dropped rounding field ∧ Keeps field before

section Fields
variable {rounding : Rounding} {texts : TypedTexts} {tools : StageTools} {field : String} {b : Bool}
  {q : ℚ} {d : Double}

theorem eqIgnoreAsciiCase_word (b : Bool) :
    eqIgnoreAsciiCase field (boolText b) = true ↔ wordBool field = some b := by
  have hword : (boolText b).toList.map Char.toLower = (boolText b).toList := by
    cases b <;> decide
  rw [wordBool_eq_some, eqIgnoreAsciiCase, beq_iff_eq, hword, Search.toAsciiLowercase]
  constructor
  · intro h
    rw [h, String.ofList_toList]
  · intro h
    rw [← h, String.toList_ofList]

theorem csvValue_word (h : wordBool field = some b) :
    csvValue rounding texts field = .bool b := by
  have hne : field ≠ "" := by
    intro hempty
    have hnone : wordBool "" = none := by decide
    rw [hempty, hnone] at h
    contradiction
  unfold csvValue
  rw [if_neg hne]
  cases b with
  | true => exact if_pos ((eqIgnoreAsciiCase_word true).mpr h)
  | false =>
    have htrue : ¬ eqIgnoreAsciiCase field (boolText true) = true := by
      intro htrue
      rw [(eqIgnoreAsciiCase_word true).mp htrue] at h
      contradiction
    exact (if_neg htrue).trans (if_pos ((eqIgnoreAsciiCase_word false).mpr h))

/-- What is neither empty nor a truth value is tried as a number. -/
theorem csvValue_other (hne : field ≠ "") (hword : wordBool field = none) :
    csvValue rounding texts field =
      match parseI64 field, parseF64 rounding field with
      | some number, _ => .number (String.ofList (integerText number))
      | none, some number => jsonNumber texts number
      | none, none => .string field := by
  have hcase (b : Bool) : ¬ eqIgnoreAsciiCase field (boolText b) = true := by
    intro h
    rw [(eqIgnoreAsciiCase_word b).mp h] at hword
    contradiction
  unfold csvValue
  rw [if_neg hne]
  exact (if_neg (hcase true)).trans (if_neg (hcase false))

theorem parseF64_finite (h : parseF64 rounding field = some (.finite d)) :
    ∃ q, readDecimal field.toList = some q ∧ rounding.round q = .finite d := by
  unfold parseF64 at h
  split at h
  · simp at h
  · split at h
    · simp at h
    · exact Option.map_eq_some_iff.mp h

theorem guess_csvValue_number (htyping : Typing tools rounding texts)
    (hword : wordBool field = none) (hdecimal : readDecimal field.toList = some q)
    (hround : rounding.round q = .finite d) :
    csvValue rounding texts field ≠ .null ∧
      tools.guessTypedData (jsonValueToCellString (csvValue rounding texts field)) =
        .number d.1 := by
  have hparse := @parseF64_of_decimal rounding _ _ hdecimal
  rw [hround] at hparse
  have hne : field ≠ "" := by
    intro hempty
    rw [hempty, parseF64_empty] at hparse
    contradiction
  rw [csvValue_other hne hword]
  cases hinteger : parseI64 field with
  | some n =>
    have hn := (parseI64_eq_some hinteger).1
    rw [hdecimal, Option.some.injEq] at hn
    refine ⟨by simp, htyping.guess_number _ d ?_⟩
    dsimp only [jsonValueToCellString]
    rw [parseF64_integer, ← hn, hround]
  | none =>
    rw [hparse]
    exact ⟨by simp [jsonNumber], htyping.guess_number _ d (htyping.json_float d)⟩

theorem keeps_number_iff (hdecimal : readDecimal field.toList = some q) :
    Keeps field (.number d.1) ↔ d.1 = q := by
  simp [Keeps, hdecimal, eq_comm]

theorem eq_iff_representable (hround : rounding.round q = .finite d) :
    d.1 = q ↔ Representable q := by
  constructor
  · intro h
    rw [← h]
    exact d.2
  · intro h
    have hexact := rounding.exact ⟨q, h⟩
    rw [hround, F64.finite.injEq] at hexact
    rw [hexact]

theorem importable_number_iff {before : ResidentMaterializedValue}
    (hword : wordBool field = none) (hdecimal : readDecimal field.toList = some q)
    (hround : rounding.round q = .finite d) :
    Importable rounding texts before field ↔ Representable q := by
  have hparse := @parseF64_of_decimal rounding _ _ hdecimal
  rw [hround] at hparse
  simp [Importable, hword, hdecimal, PlainText, Dropped, hparse]

theorem parseI64_of_parseF64 (h : ∀ d, parseF64 rounding field ≠ some (.finite d)) :
    parseI64 field = none := by
  rw [Option.eq_none_iff_forall_ne_some]
  intro n hn
  have hfacts := parseI64_eq_some hn
  obtain ⟨d, hround⟩ := rounding.bounded n (abs_lt.mpr (by omega))
  exact h d (by rw [parseF64_of_decimal hfacts.1, hround])

theorem csvValue_eq_null_iff (hne : field ≠ "") :
    csvValue rounding texts field = .null ↔ Dropped rounding field := by
  cases hword : wordBool field with
  | some b => simp [csvValue_word hword, Dropped, parseF64_of_wordBool hword]
  | none =>
    rw [csvValue_other hne hword]
    cases hparse : parseF64 rounding field with
    | none =>
      rw [@parseI64_of_parseF64 rounding field (by simp [hparse])]
      simp [Dropped, hparse]
    | some x =>
      cases x with
      | finite d => cases parseI64 field <;> simp [jsonNumber, Dropped, hparse]
      | infinite negative =>
        rw [@parseI64_of_parseF64 rounding field (by simp [hparse])]
        simp [jsonNumber, Dropped, hparse]
      | nan =>
        rw [@parseI64_of_parseF64 rounding field (by simp [hparse])]
        simp [jsonNumber, Dropped, hparse]

theorem keeps_text_iff (htyping : Typing tools rounding texts) (hne : field ≠ "")
    (hword : wordBool field = none) (hparse : parseF64 rounding field = none) :
    Keeps field (tools.guessTypedData field) ↔ PlainText rounding texts field := by
  constructor
  · intro hkeeps
    refine ⟨hne, ?_, ?_, hparse⟩
    · rw [Option.eq_none_iff_forall_ne_some]
      intro b hb
      rw [htyping.guess_bool field b hb] at hkeeps
      simp [Keeps, hword] at hkeeps
    · rw [Bool.eq_false_iff]
      intro herror
      obtain ⟨e, he⟩ := htyping.guess_error field herror
      rw [he] at hkeeps
      simp [Keeps] at hkeeps
  · intro ⟨_, hbool, herror, _⟩
    rw [htyping.guess_text field hne hbool herror hparse]
    exact Or.inl rfl

theorem keeps_written_iff (htyping : Typing tools rounding texts) (hne : field ≠ "")
    (hwritten : csvValue rounding texts field ≠ .null) (before : ResidentMaterializedValue) :
    Keeps field (tools.guessTypedData (jsonValueToCellString (csvValue rounding texts field))) ↔
      Importable rounding texts before field := by
  have hdropped : ¬ Dropped rounding field := fun h => hwritten ((csvValue_eq_null_iff hne).mpr h)
  cases hword : wordBool field with
  | some b =>
    have hguess : tools.guessTypedData (boolText b) = .bool b := by
      apply htyping.guess_bool
      apply htyping.boolean
      cases b <;> decide
    have htext : jsonValueToCellString (.bool b) = boolText b := by cases b <;> rfl
    rw [csvValue_word hword, htext, hguess]
    simp [Keeps, Importable, hword]
  | none =>
    cases hparse : parseF64 rounding field with
    | none =>
      have hdecimal : readDecimal field.toList = none := by
        rw [Option.eq_none_iff_forall_ne_some]
        intro q hq
        rw [parseF64_of_decimal hq] at hparse
        contradiction
      rw [csvValue_other hne hword, @parseI64_of_parseF64 rounding field (by simp [hparse]), hparse]
      refine (keeps_text_iff htyping hne hword hparse).trans ?_
      simp [Importable, hword, hdecimal, hdropped]
    | some x =>
      cases x with
      | finite d =>
        obtain ⟨q, hdecimal, hround⟩ := parseF64_finite hparse
        rw [(guess_csvValue_number htyping hword hdecimal hround).2, keeps_number_iff hdecimal,
          importable_number_iff hword hdecimal hround, eq_iff_representable hround]
      | infinite negative => exact absurd (Or.inr ⟨negative, hparse⟩) hdropped
      | nan => exact absurd (Or.inl hparse) hdropped

theorem importable_dropped_iff {before : ResidentMaterializedValue}
    (hdropped : Dropped rounding field) :
    Importable rounding texts before field ↔ Keeps field before := by
  have hparse (d : Double) : parseF64 rounding field ≠ some (.finite d) := by
    intro h
    rcases hdropped with hnan | ⟨negative, hinfinite⟩
    · rw [h] at hnan
      simp at hnan
    · rw [h] at hinfinite
      simp at hinfinite
  have hsome : parseF64 rounding field ≠ none := by
    intro h
    rcases hdropped with hnan | ⟨negative, hinfinite⟩
    · rw [h] at hnan
      contradiction
    · rw [h] at hinfinite
      contradiction
  constructor
  · intro h
    rcases h with ⟨b, hb⟩ | ⟨q, hdecimal, hq⟩ | hplain | hkeeps
    · exact absurd (parseF64_of_wordBool hb) hsome
    · refine absurd ?_ (hparse ⟨q, hq⟩)
      rw [parseF64_of_decimal hdecimal, rounding.exact ⟨q, hq⟩]
    · exact absurd hplain.2.2.2 hsome
    · exact hkeeps.2
  · intro h
    exact Or.inr (Or.inr (Or.inr ⟨hdropped, h⟩))

theorem meaning_of_keeps {field' : String} {value : ResidentMaterializedValue}
    (h : Keeps field value) (h' : Keeps field' value) : fieldMeaning field = fieldMeaning field' := by
  have hdecimal {field : String} {b : Bool} (hword : wordBool field = some b) :
      readDecimal field.toList = none := by
    rw [Option.eq_none_iff_forall_ne_some]
    intro q hq
    have hparse := @parseF64_of_decimal exactRounding _ _ hq
    rw [parseF64_of_wordBool hword] at hparse
    contradiction
  have hword {field : String} {q : ℚ} (hq : readDecimal field.toList = some q) :
      wordBool field = none := by
    rw [Option.eq_none_iff_forall_ne_some]
    intro b hb
    rw [hdecimal hb] at hq
    contradiction
  rcases h with h | ⟨b, h, hb⟩ | ⟨q, h, hq⟩
  · rw [h] at h'
    simp only [Keeps, ResidentMaterializedValue.string.injEq, reduceCtorEq, false_and,
      exists_false, or_false] at h'
    rw [h']
  · rw [h] at h'
    simp only [Keeps, ResidentMaterializedValue.bool.injEq, reduceCtorEq, false_and,
      exists_false, or_false, false_or, exists_eq_left'] at h'
    simp [fieldMeaning, hb, h']
  · rw [h] at h'
    simp only [Keeps, ResidentMaterializedValue.number.injEq, reduceCtorEq, false_and,
      exists_false, false_or, exists_eq_left'] at h'
    simp [fieldMeaning, hword hq, hword h', hq, h']

end Fields

/-! ### The import -/

section Import
variable {tools : StageTools} {rounding : Rounding} {texts : TypedTexts} {request : CsvImport}
  {book book' cleared : OpenWorkbook} {records : List (List String)} {row col : Nat}
  {field : String}

theorem apply_eq_ok (hrecords : request.records = .ok records)
    (hcleared : request.cleared tools records book = .ok cleared)
    (h : request.apply tools rounding texts book = .ok book') :
    request.sheetName ∈ cleared.sheets ∧ book' = cleared.onCells (writeCell tools true)
      ((matrixCells request.anchor (CsvImport.rows rounding texts records)).map
        (matrixTarget request.sheetName)) := by
  simp only [CsvImport.apply, bind_eq_ok, hrecords, hcleared, Except.ok.injEq, exists_eq_left',
    applyTransformOps, List.foldlM_cons, List.foldlM_nil, applyTransformOp, pure_eq_ok,
    OpenWorkbook.requireSheet, ensure_eq_ok, exists_const] at h
  obtain ⟨_, ⟨hsheet, hbook⟩, hsame⟩ := h
  rw [hbook] at *
  exact ⟨hsheet, hsame.symm⟩

theorem rows_at (h : FieldAt records row col field) :
    ∃ values, (CsvImport.rows rounding texts records)[row]? = some values ∧
      values[col]? = some (csvCell rounding texts field) := by
  obtain ⟨values, hrow, hcol, _⟩ := h
  refine ⟨values.map (csvCell rounding texts), ?_, ?_⟩
  · simp [CsvImport.rows, hrow]
  · simp [hcol]

theorem cells_of_written (h : FieldAt records row col field)
    (hwritten : csvValue rounding texts field ≠ .null) :
    (cleared.onCells (writeCell tools true)
        ((matrixCells request.anchor (CsvImport.rows rounding texts records)).map
          (matrixTarget request.sheetName))).cells (request.key row col) =
      writeCell tools true (.value (csvValue rounding texts field))
        (cleared.cells (request.key row col)) := by
  obtain ⟨values, hrow, hcol⟩ := @rows_at rounding texts _ _ _ _ h
  rw [csvCell, if_neg hwritten] at hcol
  have hmem : ((request.anchor.1 + col, request.anchor.2 + row),
      MatrixCell.value (csvValue rounding texts field)) ∈
        matrixCells request.anchor (CsvImport.rows rounding texts records) :=
    mem_matrixCells.mpr ⟨row, col, values, hrow, hcol, rfl⟩
  exact onCells_mem (nodup_matrixTargets _ _ _) (List.mem_map_of_mem hmem)

theorem cells_of_dropped (h : FieldAt records row col field)
    (hdropped : csvValue rounding texts field = .null) :
    (cleared.onCells (writeCell tools true)
        ((matrixCells request.anchor (CsvImport.rows rounding texts records)).map
          (matrixTarget request.sheetName))).cells (request.key row col) =
      cleared.cells (request.key row col) := by
  obtain ⟨values, hrow, hcol⟩ := @rows_at rounding texts _ _ _ _ h
  rw [csvCell, if_pos hdropped] at hcol
  apply onCells_notMem
  intro written hmem
  obtain ⟨entry, hentry, htarget⟩ := List.mem_map.mp hmem
  obtain ⟨row', col', values', hrow', hcol', hposition⟩ := mem_matrixCells.mp hentry
  simp only [matrixTarget, CsvImport.key, hposition, Prod.mk.injEq] at htarget
  have hsame : row' = row ∧ col' = col := by omega
  rw [hsame.1, hrow, Option.some.injEq] at hrow'
  rw [hsame.2, ← hrow', hcol, Option.some.injEq] at hcol'
  contradiction

theorem keeps_iff (htyping : Typing tools rounding texts) (hsheet : request.sheetName ∈ cleared.sheets)
    (hbook : book' = cleared.onCells (writeCell tools true)
      ((matrixCells request.anchor (CsvImport.rows rounding texts records)).map
        (matrixTarget request.sheetName)))
    (h : FieldAt records row col field) :
    Keeps field (book'.stored (request.key row col)).2 ↔
      Importable rounding texts (cleared.stored (request.key row col)).2 field := by
  obtain ⟨_, _, _, hne⟩ := id h
  have hsheet' : request.sheetName ∈ book'.sheets := by
    rw [hbook, (onCells_frame _ _ _).1]
    exact hsheet
  have hstored : book'.stored (request.key row col) =
      storedCell (book'.cells (request.key row col)) := if_pos hsheet'
  by_cases hwritten : csvValue rounding texts field = .null
  · have hcell := @cells_of_dropped tools rounding texts request cleared _ _ _ _ h hwritten
    have hsame : cleared.stored (request.key row col) =
        storedCell (cleared.cells (request.key row col)) := if_pos hsheet
    rw [importable_dropped_iff ((csvValue_eq_null_iff hne).mp hwritten), hstored, hbook, hcell,
      hsame]
  · have hcell := @cells_of_written tools rounding texts request cleared _ _ _ _ h hwritten
    rw [hstored, hbook, hcell, ← keeps_written_iff htyping hne hwritten]
    simp [writeCell, storedCell, valueCell, Cell.setLiteral]

/-- When an import loses no field. -/
theorem csv_import_iff (htyping : Typing tools rounding texts)
    (hrecords : request.records = .ok records)
    (hcleared : request.cleared tools records book = .ok cleared)
    (h : request.apply tools rounding texts book = .ok book') :
    LosesNoField request records book' ↔ ∀ row col field, FieldAt records row col field →
      Importable rounding texts (cleared.stored (request.key row col)).2 field := by
  obtain ⟨hsheet, hbook⟩ := apply_eq_ok hrecords hcleared h
  constructor
  · intro hkeeps row col field hfield
    exact (keeps_iff htyping hsheet hbook hfield).mp (hkeeps.1 row col field hfield)
  · intro himportable
    have hkeeps (row col : Nat) (field : String) (hfield : FieldAt records row col field) :
        Keeps field (book'.stored (request.key row col)).2 :=
      (keeps_iff htyping hsheet hbook hfield).mpr (himportable row col field hfield)
    refine ⟨hkeeps, ?_⟩
    intro row col field row' col' field' hfield hfield' hmeaning hsame
    apply hmeaning
    apply meaning_of_keeps (hkeeps row col field hfield)
    rw [hsame]
    exact hkeeps row' col' field' hfield'

end Import

section Sample

/-- An import at `Model!C2`. -/
def sampleCsv (csv : String) : CsvImport := ⟨"Model", (3, 2), csv, false, false⟩

theorem sampleCsv_apply {csv : String} {records : List (List String)}
    (h : csvRecords csv = .ok records) :
    (sampleCsv csv).records = .ok records ∧
      (sampleCsv csv).cleared typedTools records sampleOpenWorkbook = .ok sampleOpenWorkbook ∧
      (sampleCsv csv).apply typedTools exactRounding sampleTexts sampleOpenWorkbook =
        .ok (sampleOpenWorkbook.onCells (writeCell typedTools true)
          ((matrixCells (3, 2) (CsvImport.rows exactRounding sampleTexts records)).map
            (matrixTarget "Model"))) := by
  have hrecords : (sampleCsv csv).records = .ok records := by
    unfold CsvImport.records sampleCsv
    rw [h]
    rfl
  refine ⟨hrecords, rfl, ?_⟩
  unfold CsvImport.apply
  rw [hrecords]
  rfl

/-- A text, a truth value and a whole number. -/
theorem csv_import_plain :
    ∃ book', (sampleCsv "Total,TRUE\n\"7\"").apply typedTools exactRounding sampleTexts
        sampleOpenWorkbook = .ok book' ∧
      LosesNoField (sampleCsv "Total,TRUE\n\"7\"") [["Total", "TRUE"], ["7"]] book' := by
  have happly := @sampleCsv_apply "Total,TRUE\n\"7\"" [["Total", "TRUE"], ["7"]]
    (by simp [csvRecords, csvLoop])
  refine ⟨_, happly.2.2, (csv_import_iff sampleTyping happly.1 happly.2.1 happly.2.2).mpr ?_⟩
  intro row col field ⟨values, hrow, hcol, _⟩
  have hvalues := List.mem_of_getElem? hrow
  have hfield := List.mem_of_getElem? hcol
  have hcase : field = "Total" ∨ field = "TRUE" ∨ field = "7" := by
    rcases List.mem_pair.mp hvalues with hvalues | hvalues
    · rw [hvalues, List.mem_pair] at hfield
      exact hfield.elim Or.inl fun h => Or.inr (Or.inl h)
    · rw [hvalues, List.mem_singleton] at hfield
      exact Or.inr (Or.inr hfield)
  rcases hcase with hcase | hcase | hcase
  · rw [hcase]
    refine Or.inr (Or.inr (Or.inl ⟨by decide, ?_, by decide,
      parseF64_eq_none rfl (by decide) (by decide)⟩))
    change wordBool "Total" = none
    decide
  · rw [hcase]
    exact Or.inl ⟨true, by decide⟩
  · rw [hcase]
    have hseven := readDecimal_of_readInteger (show readInteger "7".toList = some 7 by decide)
    exact Or.inr (Or.inl ⟨_, hseven, 7, 0, by norm_num⟩)

/-- A field that spells no number is not written at all. -/
theorem csv_import_nan :
    ∃ book', (sampleCsv "nan").apply typedTools exactRounding sampleTexts sampleOpenWorkbook =
        .ok book' ∧ (book'.stored ("Model", 3, 2)).2 = .empty ∧
      ¬ LosesNoField (sampleCsv "nan") [["nan"]] book' := by
  have happly := @sampleCsv_apply "nan" [["nan"]] (by simp [csvRecords, csvLoop])
  have hparse : parseF64 exactRounding "nan" = some .nan := rfl
  have hnull : csvValue exactRounding sampleTexts "nan" = .null :=
    (csvValue_eq_null_iff (by decide)).mpr (Or.inl hparse)
  have hempty : ((sampleOpenWorkbook.onCells (writeCell typedTools true)
      ((matrixCells (3, 2) (CsvImport.rows exactRounding sampleTexts [["nan"]])).map
        (matrixTarget "Model"))).stored ("Model", 3, 2)).2 = .empty := by
    simp only [CsvImport.rows, List.map_cons, List.map_nil, csvCell, hnull, if_true]
    rfl
  refine ⟨_, happly.2.2, hempty, ?_⟩
  intro hkeeps
  have hfield := hkeeps.1 0 0 "nan" ⟨["nan"], rfl, rfl, by decide⟩
  change Keeps "nan" ((OpenWorkbook.stored _ ("Model", 3, 2)).2) at hfield
  rw [hempty] at hfield
  simp [Keeps] at hfield

end Sample

end AgentSpreadsheet.Sheets
