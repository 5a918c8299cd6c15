import AgentSpreadsheet.Sheets.Typing

/-! Values that are written to cells and read back. -/
namespace AgentSpreadsheet.Sheets
open Library Search

/-! ### Requests -/

/-- A string, a truth value or a number of a request. Whole numbers of 64 bits are kept whole. -/
inductive JsonScalar where
  | string (s : String)
  | bool (b : Bool)
  | integer (n : ℤ) (h : -2 ^ 63 ≤ n ∧ n < 2 ^ 64)
  | float (d : Double)

inductive CellValuePrimitive where
  | text (s : String)
  | number (x : F64)
  | bool (b : Bool)

/-- A request for single cells takes every number for a float. -/
def CellValuePrimitive.ofJson (rounding : Rounding) : JsonScalar → CellValuePrimitive
  | .string s => .text s
  | .bool b => .bool b
  | .integer n _ => .number (rounding.round n)
  | .float d => .number (.finite d)

def CellValuePrimitive.toValue (texts : TypedTexts) : CellValuePrimitive → MatrixValue
  | .text s => .string s
  | .bool b => .bool b
  | .number (.finite d) => .number (texts.jsonFloat d)
  | .number _ => .null

def JsonScalar.toValue (texts : TypedTexts) : JsonScalar → MatrixValue
  | .string s => .string s
  | .bool b => .bool b
  | .integer n _ => .number (String.ofList (integerText n))
  | .float d => .number (texts.jsonFloat d)

inductive CellContent where
  | value (primitive : CellValuePrimitive)
  | formula (text : String)

def CellContent.matrixCell (texts : TypedTexts) : CellContent → MatrixCell
  | .value primitive => .value (primitive.toValue texts)
  | .formula text => .formula text

def setCellsToOps (texts : TypedTexts) (sheetName : String) (cells : List (Position × CellContent))
    (overwriteFormulas : Bool) : List TransformOp :=
  cells.map fun cell =>
    .writeMatrix sheetName cell.1 [[some (cell.2.matrixCell texts)]] overwriteFormulas

/-! ### What is read back -/

/-- The value a reader gives is the one of the request. -/
def JsonScalar.Is (value : CellValue F64) : JsonScalar → Prop
  | .string s => value = .text s
  | .bool b => value = .bool b
  | .integer n _ => ∃ d : Double, value = .number (.finite d) ∧ d.1 = n
  | .float d => value = .number (.finite d)

/-- The text is no other value's: it is not empty, no truth value, no number and no error. -/
def PlainText (rounding : Rounding) (texts : TypedTexts) (text : String) : Prop :=
  text ≠ "" ∧ texts.spellsBool text = none ∧ texts.spellsError text = false ∧
    parseF64 rounding text = none

/-- Which values come back from a cell whose style may show dates. -/
def JsonScalar.Survives (rounding : Rounding) (texts : TypedTexts) (dates : Bool) :
    JsonScalar → Prop
  | .string s => PlainText rounding texts s
  | .bool _ => True
  | .integer n _ => Representable n ∧ dates = false
  | .float _ => dates = false

section Literals
variable {tools : StageTools} {reading : ReadTools} {rounding : Rounding} {texts : TypedTexts}
  {key : CellKey} {cell : AgentSpreadsheet.Cell} {text : String}

/-- What is read after a text was set as the value. -/
def literalRead (tools : StageTools) (reading : ReadTools) (rounding : Rounding) (key : CellKey)
    (cell : AgentSpreadsheet.Cell) (text : String) : Option (CellValue F64) :=
  cellToValue (reading.valueTools rounding)
    (readCell tools reading key (valueCell tools.toEditTools text cell))

theorem dataType_eq_e {value : ResidentMaterializedValue} :
    dataType value = "e" ↔ isErrorValue value = true := by
  cases value <;> simp [dataType, isErrorValue]

theorem literalRead_eq : literalRead tools reading rounding key cell text =
    if tools.cellText (tools.guessTypedData text) = "" then none
    else if isErrorValue (tools.guessTypedData text) = true then
      some (.error (tools.cellText (tools.guessTypedData text)))
    else
      match parseF64 rounding (tools.cellText (tools.guessTypedData text)) with
      | some number =>
        if reading.dateStyle cell.style then
          some (.date (reading.values.excelSerialToIso number))
        else some (.number number)
      | none =>
        if Search.toAsciiLowercase (tools.cellText (tools.guessTypedData text)) = "true" then
          some (.bool true)
        else if Search.toAsciiLowercase (tools.cellText (tools.guessTypedData text)) = "false" then
          some (.bool false)
        else some (.text (tools.cellText (tools.guessTypedData text))) := by
  have hformula : (readCell tools reading key (valueCell tools.toEditTools text cell)).isFormula =
      false := rfl
  unfold literalRead cellToValue
  simp only [hformula, Bool.false_eq_true, false_and, or_false]
  simp only [readCell, valueCell, Cell.setLiteral, dataType_eq_e, ReadTools.valueTools]
  cases parseF64 rounding (tools.cellText (tools.guessTypedData text)) <;> rfl

theorem literalRead_number (htyping : Typing tools rounding texts) {x : F64}
    (h : parseF64 rounding text = some x) : literalRead tools reading rounding key cell text =
      if reading.dateStyle cell.style then some (.date (reading.values.excelSerialToIso x))
      else some (.number x) := by
  have hfloat := htyping.guess_float text x h
  have hne : tools.cellText (tools.guessTypedData text) ≠ "" := by
    intro hempty
    rw [hempty, parseF64_empty] at hfloat
    exact absurd hfloat.2 (by simp)
  rw [literalRead_eq, if_neg hne, if_neg (by simp [hfloat.1]), hfloat.2]

theorem literalRead_bool (htyping : Typing tools rounding texts) {b : Bool}
    (h : texts.spellsBool text = some b) :
    literalRead tools reading rounding key cell text = some (.bool b) := by
  have hparse (b : Bool) : parseF64 rounding (if b then "TRUE" else "FALSE") = none := by
    cases b <;> rfl
  rw [literalRead_eq, htyping.guess_bool text b h, htyping.text_bool, hparse]
  cases b <;> simp [isErrorValue, Search.toAsciiLowercase]

theorem literalRead_error (htyping : Typing tools rounding texts)
    (h : texts.spellsError text = true) {s : String} :
    literalRead tools reading rounding key cell text ≠ some (.text s) := by
  obtain ⟨e, he⟩ := htyping.guess_error text h
  rw [literalRead_eq, he]
  by_cases hempty : tools.cellText (.error e) = ""
  · simp [hempty]
  · simp [hempty, isErrorValue]

/-- A text comes back as a text when it is plain. -/
theorem literalRead_text_iff (htyping : Typing tools rounding texts) :
    literalRead tools reading rounding key cell text = some (.text text) ↔
      PlainText rounding texts text := by
  constructor
  · intro h
    refine ⟨?_, ?_, ?_, ?_⟩
    · intro hempty
      rw [hempty, literalRead_eq, htyping.guess_empty, htyping.text_empty] at h
      simp at h
    · rw [Option.eq_none_iff_forall_ne_some]
      intro b hb
      rw [literalRead_bool htyping hb] at h
      simp at h
    · rw [Bool.eq_false_iff]
      intro herror
      exact literalRead_error htyping herror h
    · rw [Option.eq_none_iff_forall_ne_some]
      intro x hx
      rw [literalRead_number htyping hx] at h
      cases hdates : reading.dateStyle cell.style <;> simp [hdates] at h
  · intro ⟨hne, hbool, herror, hnumber⟩
    have hlower (b : Bool) : Search.toAsciiLowercase text ≠ boolText b := by
      intro h
      rw [htyping.boolean text b h] at hbool
      contradiction
    rw [literalRead_eq, htyping.guess_text text hne hbool herror hnumber, htyping.text_string,
      if_neg hne, hnumber]
    simp only [isErrorValue, Bool.false_eq_true, if_false]
    have htrue : Search.toAsciiLowercase text ≠ "true" := hlower true
    have hfalse : Search.toAsciiLowercase text ≠ "false" := hlower false
    rw [if_neg htrue, if_neg hfalse]

theorem literalRead_float_iff (htyping : Typing tools rounding texts) {d d' : Double}
    (h : parseF64 rounding text = some (.finite d)) :
    literalRead tools reading rounding key cell text = some (.number (.finite d')) ↔
      d = d' ∧ reading.dateStyle cell.style = false := by
  rw [literalRead_number htyping h]
  cases hdates : reading.dateStyle cell.style <;> simp

theorem literalRead_scalar_iff (htyping : Typing tools rounding texts) {scalar : JsonScalar}
    (htext : match scalar with
      | .string s => text = s
      | .bool b => text = boolText b
      | .integer n _ => parseF64 rounding text = some (rounding.round n)
      | .float d => text = texts.jsonFloat d) :
    (∃ value, literalRead tools reading rounding key cell text = some value ∧ scalar.Is value) ↔
      scalar.Survives rounding texts (reading.dateStyle cell.style) := by
  cases scalar with
  | string s =>
    dsimp only at htext
    rw [htext]
    simp only [JsonScalar.Is, JsonScalar.Survives, exists_eq_right]
    exact literalRead_text_iff htyping
  | bool b =>
    dsimp only at htext
    have hlower : Search.toAsciiLowercase (boolText b) = boolText b := by cases b <;> decide
    rw [htext, literalRead_bool htyping (htyping.boolean _ b hlower)]
    simp [JsonScalar.Is, JsonScalar.Survives]
  | integer n hn =>
    dsimp only at htext
    obtain ⟨d, hround⟩ := rounding.bounded n (abs_lt.mpr (by omega))
    rw [hround] at htext
    simp only [JsonScalar.Is, JsonScalar.Survives]
    constructor
    · intro ⟨value, hread, d', hvalue, hd'⟩
      rw [hvalue] at hread
      have hsame := (literalRead_float_iff htyping htext).mp hread
      rw [← hd']
      exact ⟨d'.2, hsame.2⟩
    · intro ⟨hrepresentable, hdates⟩
      have hexact := rounding.exact ⟨n, hrepresentable⟩
      rw [hround, F64.finite.injEq] at hexact
      refine ⟨_, (literalRead_float_iff htyping htext).mpr ⟨rfl, hdates⟩, d, rfl, ?_⟩
      rw [hexact]
  | float d =>
    dsimp only at htext
    have hparse := htyping.json_float d
    rw [← htext] at hparse
    simp only [JsonScalar.Is, JsonScalar.Survives, exists_eq_right]
    rw [literalRead_float_iff htyping hparse]
    simp

theorem literalRead_toValue_iff (htyping : Typing tools rounding texts) (scalar : JsonScalar) :
    (∃ value, literalRead tools reading rounding key cell
        (jsonValueToCellString (scalar.toValue texts)) = some value ∧ scalar.Is value) ↔
      scalar.Survives rounding texts (reading.dateStyle cell.style) := by
  apply literalRead_scalar_iff htyping
  cases scalar with
  | string s => rfl
  | bool b => cases b <;> rfl
  | integer n hn => exact parseF64_integer n
  | float d => rfl

theorem literalRead_primitive_iff (htyping : Typing tools rounding texts) (scalar : JsonScalar) :
    (∃ value, literalRead tools reading rounding key cell
        (jsonValueToCellString ((CellValuePrimitive.ofJson rounding scalar).toValue texts)) =
          some value ∧ scalar.Is value) ↔
      scalar.Survives rounding texts (reading.dateStyle cell.style) := by
  apply literalRead_scalar_iff htyping
  cases scalar with
  | string s => rfl
  | bool b => cases b <;> rfl
  | integer n hn =>
    obtain ⟨d, hround⟩ := rounding.bounded n (abs_lt.mpr (by omega))
    dsimp only [CellValuePrimitive.ofJson]
    rw [hround]
    exact htyping.json_float d
  | float d => rfl

end Literals

/-! ### Runs of writes -/

section Runs
variable {tools : StageTools} {reading : ReadTools} {rounding : Rounding} {texts : TypedTexts}
  {book book' : OpenWorkbook} {key : CellKey} {name : String} {overwrite : Bool}
  {targets : List (CellKey × MatrixCell)}

/-- The content is the last that goes to the cell, and no kept formula is in its way. -/
def Written (tools : StageTools) (overwrite : Bool) (book : OpenWorkbook)
    (targets : List (CellKey × MatrixCell)) (key : CellKey) (written : MatrixCell) : Prop :=
  ∃ before after, targets = before ++ (key, written) :: after ∧
    (∀ other, (key, other) ∉ after) ∧
    ((((book.onCells (writeCell tools overwrite) before).cells key).getD {}).isFormula = true →
      overwrite = true)

def styleAt (book : OpenWorkbook) (key : CellKey) : String := ((book.cells key).getD {}).style

theorem style_writeCell (written : MatrixCell) (cell : Option AgentSpreadsheet.Cell) :
    ((writeCell tools overwrite written cell).getD {}).style = (cell.getD {}).style := by
  unfold writeCell
  dsimp only
  split
  · rfl
  · cases written <;> rfl

theorem styleAt_onCells : styleAt (book.onCells (writeCell tools overwrite) targets) key =
    styleAt book key := by
  induction targets generalizing book with
  | nil => rfl
  | cons target rest ih =>
    have hfirst : styleAt (book.setCell target.1
        (writeCell tools overwrite target.2 (book.cells target.1))) key = styleAt book key := by
      unfold styleAt OpenWorkbook.setCell
      by_cases hkey : key = target.1
      · rw [hkey]
        simp only [Function.update_self]
        exact style_writeCell _ _
      · simp only [Function.update_of_ne hkey]
    rw [← hfirst]
    exact ih

theorem onCells_append {α : Type} (edit : α → Option AgentSpreadsheet.Cell →
    Option AgentSpreadsheet.Cell) (before after : List (CellKey × α)) :
    book.onCells edit (before ++ after) = (book.onCells edit before).onCells edit after :=
  List.foldl_append

def writtenCell (tools : StageTools) (written : MatrixCell) (cell : AgentSpreadsheet.Cell) :
    AgentSpreadsheet.Cell :=
  match written with
  | .value raw => valueCell tools.toEditTools (jsonValueToCellString raw) cell
  | .formula formula => formulaCell tools.toEditTools (stripEquals formula) cell

theorem writeCell_eq {written : MatrixCell} {cell : Option AgentSpreadsheet.Cell}
    (h : (cell.getD {}).isFormula = true → overwrite = true) :
    writeCell tools overwrite written cell = some (writtenCell tools written (cell.getD {})) := by
  unfold writeCell
  dsimp only
  rw [if_neg]
  · cases written <;> rfl
  · intro hkept
    rw [Bool.and_eq_true, Bool.not_eq_true'] at hkept
    rw [h hkept.1] at hkept
    exact absurd hkept.2 (by decide)

theorem cells_written {written : MatrixCell}
    (h : Written tools overwrite book targets key written) :
    ∃ cell : AgentSpreadsheet.Cell, cell.style = styleAt book key ∧
      (book.onCells (writeCell tools overwrite) targets).cells key =
        some (writtenCell tools written cell) := by
  obtain ⟨before, after, htargets, hlast, hskip⟩ := h
  refine ⟨((book.onCells (writeCell tools overwrite) before).cells key).getD {}, ?_, ?_⟩
  · exact styleAt_onCells
  · have hsingle : (book.onCells (writeCell tools overwrite) targets).cells key =
        writeCell tools overwrite written
          ((book.onCells (writeCell tools overwrite) before).cells key) := by
      rw [htargets, onCells_append]
      have hcons := @onCells_append (book.onCells (writeCell tools overwrite) before) _
        (writeCell tools overwrite) [(key, written)] after
      rw [List.singleton_append] at hcons
      rw [hcons, onCells_notMem hlast]
      exact onCells_mem (by simp) List.mem_cons_self
    rw [hsingle, writeCell_eq hskip]

/-- What is read at the key is the value of the request. -/
def ReadsBack (tools : StageTools) (reading : ReadTools) (rounding : Rounding)
    (book : OpenWorkbook) (key : CellKey) (scalar : JsonScalar) : Prop :=
  ∃ value, readAt tools reading rounding book key = some value ∧ scalar.Is value

theorem readAt_written {value : MatrixValue}
    (h : Written tools overwrite book targets key (.value value)) :
    ∃ cell : AgentSpreadsheet.Cell, cell.style = styleAt book key ∧
      readAt tools reading rounding (book.onCells (writeCell tools overwrite) targets) key =
        literalRead tools reading rounding key cell (jsonValueToCellString value) := by
  obtain ⟨cell, hstyle, hcell⟩ := cells_written h
  refine ⟨cell, hstyle, ?_⟩
  unfold readAt
  rw [hcell]
  rfl

theorem applyTransformOp_writeMatrix {anchor : Position} {rows : List (List (Option MatrixCell))}
    (h : applyTransformOp tools (.writeMatrix name anchor rows overwrite) book = .ok book') :
    book' = book.onCells (writeCell tools overwrite)
      ((matrixCells anchor rows).map (matrixTarget name)) := by
  simp only [applyTransformOp, bind_eq_ok, pure_eq_ok] at h
  obtain ⟨_, _, hbook⟩ := h
  exact hbook.symm

def cellTargets (texts : TypedTexts) (name : String) (cells : List (Position × CellContent)) :
    List (CellKey × MatrixCell) :=
  cells.map fun cell => ((name, cell.1), cell.2.matrixCell texts)

/-- A request for single cells writes one after the other. -/
theorem applyTransformOps_setCells {cells : List (Position × CellContent)}
    (h : applyTransformOps tools (setCellsToOps texts name cells overwrite) book = .ok book') :
    book' = book.onCells (writeCell tools overwrite) (cellTargets texts name cells) := by
  induction cells generalizing book with
  | nil =>
    injection h with h
    exact h.symm
  | cons cell rest ih =>
    simp only [applyTransformOps, setCellsToOps, List.map_cons, List.foldlM_cons, bind_eq_ok] at h
    obtain ⟨first, hfirst, hrest⟩ := h
    have hbook := applyTransformOp_writeMatrix hfirst
    rw [ih hrest, hbook]
    rfl

end Runs

/-- When the values of a request come back. -/
theorem values_survive_iff {tools : StageTools} {rounding : Rounding} {texts : TypedTexts}
    (htyping : Typing tools rounding texts) (reading : ReadTools) :
    (∀ name anchor rows overwrite book book' key (scalar : JsonScalar),
      applyTransformOp tools (.writeMatrix name anchor rows overwrite) book = .ok book' →
      Written tools overwrite book ((matrixCells anchor rows).map (matrixTarget name)) key
        (.value (scalar.toValue texts)) →
      (ReadsBack tools reading rounding book' key scalar ↔
        scalar.Survives rounding texts (reading.dateStyle (styleAt book key)))) ∧
    ∀ name cells overwrite book book' key (scalar : JsonScalar),
      applyTransformOps tools (setCellsToOps texts name cells overwrite) book = .ok book' →
      Written tools overwrite book (cellTargets texts name cells) key
        (.value ((CellValuePrimitive.ofJson rounding scalar).toValue texts)) →
      (ReadsBack tools reading rounding book' key scalar ↔
        scalar.Survives rounding texts (reading.dateStyle (styleAt book key))) := by
  constructor
  · intro name anchor rows overwrite book book' key scalar h hwritten
    obtain ⟨cell, hstyle, hread⟩ := @readAt_written _ reading rounding _ _ _ _ _
      hwritten
    unfold ReadsBack
    rw [applyTransformOp_writeMatrix h, hread, ← hstyle]
    exact literalRead_toValue_iff htyping scalar
  · intro name cells overwrite book book' key scalar h hwritten
    obtain ⟨cell, hstyle, hread⟩ := @readAt_written _ reading rounding _ _ _ _ _
      hwritten
    unfold ReadsBack
    rw [applyTransformOps_setCells h, hread, ← hstyle]
    exact literalRead_primitive_iff htyping scalar

section Sample

def plainReading : ReadTools where
  dateStyle _ := false
  values :=
    { parse := fun _ => none, display := fun _ => "", excelSerialToIso := fun _ => "",
      regex := fun _ => none }

theorem sample_write (value : MatrixValue) :
    applyTransformOp typedTools (.writeMatrix "Model" (3, 2) [[some (.value value)]] false)
        sampleOpenWorkbook = .ok (sampleOpenWorkbook.onCells (writeCell typedTools false)
          [(("Model", 3, 2), .value value)]) ∧
      Written typedTools false sampleOpenWorkbook [(("Model", 3, 2), .value value)]
        ("Model", 3, 2) (.value value) := by
  refine ⟨rfl, [], [], rfl, fun _ => List.not_mem_nil, ?_⟩
  intro hformula
  exact absurd hformula (by decide)

/-- A plain text and a whole number come back. -/
theorem values_survive_total :
    ∃ book', applyTransformOp typedTools
        (.writeMatrix "Model" (3, 2) [[some (.value (.string "Total"))]] false)
        sampleOpenWorkbook = .ok book' ∧
      ReadsBack typedTools plainReading exactRounding book' ("Model", 3, 2) (.string "Total") := by
  have hwrite := sample_write (.string "Total")
  refine ⟨_, hwrite.1, ?_⟩
  apply ((values_survive_iff sampleTyping plainReading).1 "Model" (3, 2)
    [[some (.value (.string "Total"))]] false sampleOpenWorkbook _ ("Model", 3, 2) (.string "Total")
    hwrite.1 hwrite.2).mpr
  refine ⟨by decide, ?_, by decide, parseF64_eq_none rfl (by decide) (by decide)⟩
  change wordBool "Total" = none
  decide

/-- Digits with zeros before them come back as a number. -/
theorem digits_become_a_number :
    ∃ book', applyTransformOp typedTools
        (.writeMatrix "Model" (3, 2) [[some (.value (.string "007"))]] false)
        sampleOpenWorkbook = .ok book' ∧
      ¬ ReadsBack typedTools plainReading exactRounding book' ("Model", 3, 2) (.string "007") := by
  have hwrite := sample_write (.string "007")
  refine ⟨_, hwrite.1, ?_⟩
  obtain ⟨cell, _, hread⟩ := @readAt_written _ plainReading exactRounding _ _ _ _ _
    hwrite.2
  unfold ReadsBack
  rw [hread]
  intro hback
  have hplain := (@literalRead_toValue_iff _ _ _ _ ("Model", 3, 2) cell sampleTyping
    (.string "007")).mp hback
  have hseven := readDecimal_of_readInteger (show readInteger "007".toList = some 7 by decide)
  have hnone := hplain.2.2.2
  rw [parseF64_of_decimal hseven] at hnone
  contradiction

end Sample

end AgentSpreadsheet.Sheets
