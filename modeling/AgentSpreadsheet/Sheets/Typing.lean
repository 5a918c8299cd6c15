import AgentSpreadsheet.Library.Decimals
import AgentSpreadsheet.Search.Values
import AgentSpreadsheet.Sheets.Staging

/-! What texts are taken for: floating point numbers, truth values and errors. The workbook
library types a text when it is set as a value; a reader types the text of a cell once more. -/
namespace AgentSpreadsheet.Sheets
open Library Search

/-! ### Floating point numbers -/

/-- A number of 53 binary digits. -/
def Representable (q : ℚ) : Prop :=
  ∃ m e : ℤ, |m| < 2 ^ 53 ∧ -1074 ≤ e ∧ e ≤ 971 ∧ q = m * 2 ^ e

abbrev Double := { q : ℚ // Representable q }

inductive F64 where
  | finite (d : Double)
  | infinite (negative : Bool)
  | nan

/-- Decimal numbers are rounded; what is representable stays. -/
structure Rounding where
  round : ℚ → F64
  exact : ∀ d : Double, round d.1 = .finite d
  bounded : ∀ n : ℤ, |n| < 2 ^ 64 → ∃ d, round n = .finite d

def lowerWord (text : String) : String := String.ofList ((splitSign text.toList).2.map Char.toLower)

/-- Rust's `parse::<f64>`. -/
def parseF64 (rounding : Rounding) (text : String) : Option F64 :=
  if lowerWord text = "inf" ∨ lowerWord text = "infinity" then
    some (.infinite (splitSign text.toList).1)
  else if lowerWord text = "nan" then some .nan
  else (readDecimal text.toList).map rounding.round

/-- Rust's `parse::<i64>`. -/
def parseI64 (text : String) : Option ℤ :=
  (readInteger text.toList).filter fun n => -2 ^ 63 ≤ n ∧ n < 2 ^ 63

def wordBool (text : String) : Option Bool :=
  if Search.toAsciiLowercase text = "true" then some true
  else if Search.toAsciiLowercase text = "false" then some false
  else none

/-! ### The library's typing -/

/-- What the library takes for a truth value or an error, and how JSON writes a float. -/
structure TypedTexts where
  spellsBool : String → Option Bool
  spellsError : String → Bool
  jsonFloat : Double → String

def isErrorValue : ResidentMaterializedValue → Bool
  | .error _ => true
  | _ => false

/-- Truth values, numbers and errors are told from a text; other texts stay. What is stored
for a number reads as that number. -/
structure Typing (tools : StageTools) (rounding : Rounding) (texts : TypedTexts) : Prop where
  boolean : ∀ text b, Search.toAsciiLowercase text = boolText b → texts.spellsBool text = some b
  guess_empty : tools.guessTypedData "" = .empty
  guess_bool : ∀ text b, texts.spellsBool text = some b → tools.guessTypedData text = .bool b
  guess_error : ∀ text, texts.spellsError text = true → ∃ e, tools.guessTypedData text = .error e
  guess_number : ∀ text d, parseF64 rounding text = some (.finite d) →
    tools.guessTypedData text = .number d.1
  guess_float : ∀ text x, parseF64 rounding text = some x →
    isErrorValue (tools.guessTypedData text) = false ∧
      parseF64 rounding (tools.cellText (tools.guessTypedData text)) = some x
  guess_text : ∀ text, text ≠ "" → texts.spellsBool text = none →
    texts.spellsError text = false → parseF64 rounding text = none →
    tools.guessTypedData text = .string text
  text_empty : tools.cellText .empty = ""
  text_string : ∀ text, tools.cellText (.string text) = text
  text_bool : ∀ b, tools.cellText (.bool b) = if b then "TRUE" else "FALSE"
  json_float : ∀ d, parseF64 rounding (texts.jsonFloat d) = some (.finite d)

/-! ### Reading -/

/-- What a reader needs besides the text of a cell: which styles show dates, and the rest of
the reader's tools. -/
structure ReadTools where
  dateStyle : String → Bool
  values : ValueTools F64

/-- The reader's tools with Rust's reading of numbers. -/
def ReadTools.valueTools (reading : ReadTools) (rounding : Rounding) : ValueTools F64 :=
  { reading.values with parse := parseF64 rounding }

def dataType : ResidentMaterializedValue → String
  | .empty => ""
  | .string _ | .richText _ | .lazy _ => "s"
  | .number _ => "n"
  | .bool _ => "b"
  | .error _ => "e"

def readCell (tools : StageTools) (reading : ReadTools) (key : CellKey)
    (cell : AgentSpreadsheet.Cell) : StoredCell where
  col := key.2.1
  row := key.2.2
  value := tools.cellText cell.value
  dataType := dataType cell.value
  formula := cell.formula
  dateFormatted := reading.dateStyle cell.style

def readAt (tools : StageTools) (reading : ReadTools) (rounding : Rounding) (book : OpenWorkbook)
    (key : CellKey) : Option (CellValue F64) :=
  (book.cells key).bind fun cell =>
    cellToValue (reading.valueTools rounding) (readCell tools reading key cell)

section Parsing
variable {rounding : Rounding} {text : String} {b : Bool}

/-- A text that starts like no number is none. -/
theorem parseF64_eq_none {c : Char} {rest : List Char} (htext : text.toList = c :: rest)
    (h : c ≠ '-' ∧ c ≠ '+' ∧ c ≠ '.' ∧ c.isDigit = false)
    (hletter : c.toLower ≠ 'i' ∧ c.toLower ≠ 'n') : parseF64 rounding text = none := by
  have hsplit : (splitSign text.toList).2 = c :: rest := by
    rw [htext, splitSign_of_ne ⟨h.1, h.2.1⟩]
  have hlower : (lowerWord text).toList = c.toLower :: rest.map Char.toLower := by
    unfold lowerWord
    rw [hsplit, String.toList_ofList]
    rfl
  have hne {word : String} {d : Char} {tail : List Char} (hd : c.toLower ≠ d)
      (htail : word.toList = d :: tail) : lowerWord text ≠ word := by
    intro heq
    rw [heq, htail, List.cons.injEq] at hlower
    exact hd hlower.1.symm
  unfold parseF64
  rw [if_neg (not_or.mpr ⟨hne hletter.1 rfl, hne hletter.1 rfl⟩), if_neg (hne hletter.2 rfl), htext,
    readDecimal_eq_none h]
  rfl

theorem start_of_lower {c d : Char} (h : c.toLower = d)
    (hd : d ≠ '-' ∧ d ≠ '+' ∧ d ≠ '.' ∧ d.isDigit = false) :
    c ≠ '-' ∧ c ≠ '+' ∧ c ≠ '.' ∧ c.isDigit = false := by
  have hother {e : Char} (he : e.toLower = e) (hne : d ≠ e) : c ≠ e := by
    intro heq
    rw [heq, he] at h
    exact hne h.symm
  refine ⟨hother (by decide) hd.1, hother (by decide) hd.2.1, hother (by decide) hd.2.2.1, ?_⟩
  rw [Bool.eq_false_iff]
  intro hdigit
  have hsame : c.toLower = c := by
    unfold Char.toLower
    rw [dif_neg]
    intro hupper
    rw [Char.isDigit, Bool.and_eq_true, decide_eq_true_eq, decide_eq_true_eq] at hdigit
    exact absurd (UInt32.le_trans hupper.1 hdigit.2) (by decide)
  rw [← h, hsame, hdigit] at hd
  exact absurd hd.2.2.2 (by decide)

theorem parseF64_of_decimal {q : ℚ} (h : readDecimal text.toList = some q) :
    parseF64 rounding text = some (rounding.round q) := by
  have hne {word : String} {d : Char} {tail : List Char} (hword : word.toList = d :: tail)
      (hd : d ≠ '-' ∧ d ≠ '+' ∧ d ≠ '.' ∧ d.isDigit = false) : lowerWord text ≠ word := by
    intro heq
    have hlower := congrArg String.toList heq
    rw [lowerWord, String.toList_ofList, hword] at hlower
    cases hrest : (splitSign text.toList).2 with
    | nil =>
      rw [hrest] at hlower
      contradiction
    | cons c rest =>
      rw [hrest, List.map_cons] at hlower
      have hc := start_of_lower (List.cons.inj hlower).1 hd
      rw [readDecimal, hrest, readUnsigned_eq_none hc.2.2] at h
      contradiction
  unfold parseF64
  rw [if_neg (not_or.mpr ⟨hne rfl (by decide), hne rfl (by decide)⟩), if_neg (hne rfl (by decide)), h]
  rfl

theorem parseF64_integer (n : ℤ) :
    parseF64 rounding (String.ofList (integerText n)) = some (rounding.round n) := by
  apply parseF64_of_decimal
  rw [String.toList_ofList, readDecimal_integerText]

theorem parseF64_scientific (n e : ℤ) :
    parseF64 rounding (String.ofList (integerText n ++ 'e' :: integerText e)) =
      some (rounding.round (n * 10 ^ e)) := by
  apply parseF64_of_decimal
  rw [String.toList_ofList, readDecimal_scientific]

theorem parseF64_empty : parseF64 rounding "" = none := rfl

theorem wordBool_eq_some : wordBool text = some b ↔ Search.toAsciiLowercase text = boolText b := by
  unfold wordBool
  cases b with
  | true =>
    by_cases htrue : Search.toAsciiLowercase text = "true"
    · simp [htrue, boolText]
    · rw [if_neg htrue]
      by_cases hfalse : Search.toAsciiLowercase text = "false" <;> simp [htrue, hfalse, boolText]
  | false =>
    by_cases htrue : Search.toAsciiLowercase text = "true"
    · simp [htrue, boolText]
    · rw [if_neg htrue]
      by_cases hfalse : Search.toAsciiLowercase text = "false" <;> simp [hfalse, boolText]

theorem parseF64_of_wordBool (h : wordBool text = some b) :
    parseF64 rounding text = none := by
  have hlower := congrArg String.toList (wordBool_eq_some.mp h)
  rw [Search.toAsciiLowercase, String.toList_ofList] at hlower
  cases htext : text.toList with
  | nil =>
    rw [htext] at hlower
    cases b <;> exact absurd hlower (by decide)
  | cons c rest =>
    rw [htext, List.map_cons] at hlower
    have hc : ∃ d, c.toLower = d ∧ (d = 't' ∨ d = 'f') := by
      cases b with
      | true => exact ⟨_, (List.cons.inj hlower).1, Or.inl rfl⟩
      | false => exact ⟨_, (List.cons.inj hlower).1, Or.inr rfl⟩
    obtain ⟨d, hd, hletter⟩ := hc
    rcases hletter with hletter | hletter
    · rw [hletter] at hd
      exact parseF64_eq_none htext (start_of_lower hd (by decide)) (by rw [hd]; decide)
    · rw [hletter] at hd
      exact parseF64_eq_none htext (start_of_lower hd (by decide)) (by rw [hd]; decide)

theorem parseI64_eq_some {n : ℤ} (h : parseI64 text = some n) :
    readDecimal text.toList = some (n : ℚ) ∧ -2 ^ 63 ≤ n ∧ n < 2 ^ 63 := by
  rw [parseI64, Option.filter_eq_some_iff, decide_eq_true_eq] at h
  exact ⟨readDecimal_of_readInteger h.1, h.2⟩

end Parsing

/-! ### A lawful library -/

section Sample
variable {text : String}

theorem representable_zero : Representable 0 := ⟨0, 0, by norm_num⟩

open Classical in
/-- What is not representable does not matter here. -/
noncomputable def exactRounding : Rounding where
  round q := if h : Representable q then .finite ⟨q, h⟩ else .finite ⟨0, representable_zero⟩
  exact d := dif_pos d.2
  bounded n _ := by
    by_cases h : Representable n
    · exact ⟨_, dif_pos h⟩
    · exact ⟨_, dif_neg h⟩

/-- Whole numbers as they are, others with an exponent. -/
def doubleText (places : Nat) (q : ℚ) : String :=
  if q.den = 1 then String.ofList (integerText q.num)
  else String.ofList (integerText (q * 10 ^ places).num ++ 'e' :: integerText (-places))

noncomputable def sampleGuess (text : String) : ResidentMaterializedValue :=
  if text = "" then .empty
  else
    match wordBool text, parseF64 exactRounding text with
    | some b, _ => .bool b
    | none, some (.finite d) => .number d.1
    | none, some _ => .lazy text
    | none, none => if text ∈ supportedErrors then .error text else .string text

def sampleText : ResidentMaterializedValue → String
  | .empty => ""
  | .string text | .richText text | .lazy text | .error text => text
  | .number q => doubleText 1074 q
  | .bool b => if b then "TRUE" else "FALSE"

noncomputable def typedTools : StageTools :=
  { sampleStageTools with guessTypedData := sampleGuess, cellText := sampleText }

def sampleTexts : TypedTexts where
  spellsBool := wordBool
  spellsError text := decide (text ∈ supportedErrors)
  jsonFloat d := doubleText 1074 d.1

/-- A number of few binary digits is a decimal number of as many digits after the point. -/
theorem scaled_whole {m e : ℤ} {places : Nat} (h : -(places : ℤ) ≤ e) :
    ∃ n : ℤ, ((m : ℚ) * 2 ^ e) * 10 ^ places = n := by
  obtain ⟨k, hk⟩ := Int.eq_ofNat_of_zero_le (show 0 ≤ e + places by omega)
  refine ⟨m * 2 ^ k * 5 ^ places, ?_⟩
  have hten : (10 : ℚ) ^ places = 2 ^ (places : ℤ) * 5 ^ places := by
    rw [zpow_natCast, ← mul_pow]
    norm_num
  have htwo : (2 : ℚ) ^ e * 2 ^ (places : ℤ) = 2 ^ k := by
    rw [← zpow_add₀ (by norm_num), hk]
    exact zpow_natCast 2 k
  rw [hten]
  push_cast
  calc (m : ℚ) * 2 ^ e * (2 ^ (places : ℤ) * 5 ^ places)
      = m * (2 ^ e * 2 ^ (places : ℤ)) * 5 ^ places := by ring
    _ = m * 2 ^ k * 5 ^ places := by rw [htwo]

theorem parseF64_doubleText {places : Nat} (hplaces : places = 1074) (d : Double) :
    parseF64 exactRounding (doubleText places d.1) = some (.finite d) := by
  have hexact := exactRounding.exact d
  unfold doubleText
  split
  · rename_i hden
    rw [parseF64_integer, Rat.coe_int_num_of_den_eq_one hden, hexact]
  · obtain ⟨m, e, _, he, _, hd⟩ := d.2
    obtain ⟨n, hn⟩ := @scaled_whole m e places (by omega)
    rw [← hd] at hn
    have hback : (n : ℚ) * 10 ^ (-(places : ℤ)) = d.1 := by
      rw [← hn, zpow_neg, zpow_natCast, mul_assoc, mul_inv_cancel₀ (pow_ne_zero _ (by norm_num)),
        mul_one]
    rw [parseF64_scientific, hn, Rat.num_intCast, hback, hexact]

theorem sample_error (h : text ∈ supportedErrors) : text ≠ "" ∧ wordBool text = none ∧
    parseF64 exactRounding text = none := by
  have hhash : ∀ text ∈ supportedErrors, text.toList.head? = some '#' := by decide
  obtain ⟨rest, hrest⟩ := List.head?_eq_some_iff.mp (hhash text h)
  refine ⟨?_, ?_, parseF64_eq_none hrest (by decide) (by decide)⟩
  · intro hempty
    rw [hempty] at hrest
    contradiction
  · rw [Option.eq_none_iff_forall_ne_some]
    intro b hb
    have hlower := congrArg String.toList (wordBool_eq_some.mp hb)
    rw [Search.toAsciiLowercase, String.toList_ofList, hrest, List.map_cons] at hlower
    cases b <;> exact absurd (List.cons.inj hlower).1 (by decide)

theorem sample_number {x : F64} (h : parseF64 exactRounding text = some x) :
    text ≠ "" ∧ wordBool text = none := by
  constructor
  · intro hempty
    rw [hempty, parseF64_empty] at h
    contradiction
  · rw [Option.eq_none_iff_forall_ne_some]
    intro b hb
    rw [parseF64_of_wordBool hb] at h
    contradiction

theorem sampleTyping : Typing typedTools exactRounding sampleTexts where
  boolean _ _ h := wordBool_eq_some.mpr h
  guess_empty := rfl
  guess_bool text b h := by
    have hne : text ≠ "" := by
      intro hempty
      have hnone : wordBool "" = none := by decide
      rw [hempty] at h
      exact absurd (hnone.symm.trans h) (by simp)
    change sampleGuess text = _
    unfold sampleGuess
    rw [if_neg hne, show wordBool text = some b from h]
  guess_error text h := by
    have hmem : text ∈ supportedErrors := of_decide_eq_true h
    have hfacts := sample_error hmem
    refine ⟨text, ?_⟩
    change sampleGuess text = _
    unfold sampleGuess
    rw [if_neg hfacts.1, hfacts.2.1, hfacts.2.2]
    exact if_pos hmem
  guess_number text d h := by
    have hfacts := sample_number h
    change sampleGuess text = _
    unfold sampleGuess
    rw [if_neg hfacts.1, hfacts.2, h]
  guess_float text x h := by
    have hfacts := sample_number h
    change isErrorValue (sampleGuess text) = false ∧
      parseF64 exactRounding (sampleText (sampleGuess text)) = some x
    unfold sampleGuess
    rw [if_neg hfacts.1, hfacts.2, h]
    cases x with
    | finite d => exact ⟨rfl, parseF64_doubleText rfl d⟩
    | infinite negative => exact ⟨rfl, h⟩
    | nan => exact ⟨rfl, h⟩
  guess_text text hne hbool herror hnumber := by
    change sampleGuess text = _
    unfold sampleGuess
    rw [if_neg hne, show wordBool text = none from hbool, hnumber]
    exact if_neg (of_decide_eq_false herror)
  text_empty := rfl
  text_string _ := rfl
  text_bool _ := rfl
  json_float d := parseF64_doubleText rfl d

end Sample

end AgentSpreadsheet.Sheets
