import AgentSpreadsheet.Diff.Cells
import AgentSpreadsheet.Library.Bijective
import AgentSpreadsheet.Reads.Grid

/-! Addresses and their texts, with the overflow checks of a development build. Rows are read
within 32 bits, letters are not. -/
namespace AgentSpreadsheet.Diff
open Library Analysis

def letterValue (letter : Char) : Nat := letter.toUpper.toNat - 'A'.toNat + 1

/-- One more letter of a column. Other characters refuse the text, a number that is too large
stops the program. -/
def checkedLetter (col : Nat) (letter : Char) : Checked Unit Nat :=
  if letter.isAlpha then do
    let scaled ← checkedMul (2 ^ 32 - 1) col 26
    checkedAdd (2 ^ 32 - 1) scaled (letterValue letter)
  else .error (.refused ())

def checkedColumn (letters : List Char) : Checked Unit Nat := letters.foldlM checkedLetter 0

def CellAddress.parseChecked (text : String) : Checked Unit CellAddress := do
  let row ← faultless (required (parseU32 (text.toList.dropWhile fun c => !c.isDigit)) ())
  let col ← checkedColumn (text.toList.takeWhile fun c => !c.isDigit)
  pure ⟨col, row, text⟩

/-- Where a row is read, the letters that the text starts with are a number of 32 bits. -/
def CellAddress.LettersFit (text : String) : Prop :=
  parseU32 (text.toList.dropWhile fun c => !c.isDigit) ≠ none →
    numeralValue 26 letterValue 0
      ((text.toList.takeWhile fun c => !c.isDigit).takeWhile Char.isAlpha) < 2 ^ 32

section Letters
variable {letters : List Char} {start : Nat} {text : String}

theorem checkedLetter_alpha {c : Char} (halpha : c.isAlpha = true)
    (hfit : start * 26 + letterValue c < 2 ^ 32) :
    checkedLetter start c = .ok (start * 26 + letterValue c) := by
  have hscaled : start * 26 ≤ 2 ^ 32 - 1 := by omega
  have hsum : start * 26 + letterValue c ≤ 2 ^ 32 - 1 := by omega
  unfold checkedLetter
  rw [if_pos halpha, checkedMul_of_le hscaled]
  exact checkedAdd_of_le hsum

theorem checkedLetter_overflow {c : Char} (halpha : c.isAlpha = true)
    (hfit : ¬ start * 26 + letterValue c < 2 ^ 32) :
    checkedLetter start c = .error .panicked := by
  have hsum : ¬ start * 26 + letterValue c ≤ 2 ^ 32 - 1 := by omega
  unfold checkedLetter
  rw [if_pos halpha]
  by_cases hscaled : start * 26 ≤ 2 ^ 32 - 1
  · rw [checkedMul_of_le hscaled]
    exact if_neg hsum
  · have hpanic : (checkedMul (2 ^ 32 - 1) start 26 : Checked Unit Nat) = .error .panicked :=
      if_neg hscaled
    rw [hpanic]
    rfl

theorem checkedLetter_other {c : Char} (h : c.isAlpha = false) :
    checkedLetter start c = .error (.refused ()) := by
  simp [checkedLetter, h]

/-- Letters are read without a fault exactly when the first of them are a number of 32 bits. -/
theorem calm_foldlM_checkedLetter (hstart : start < 2 ^ 32) :
    Calm (letters.foldlM checkedLetter start) ↔
      numeralValue 26 letterValue start (letters.takeWhile Char.isAlpha) < 2 ^ 32 := by
  induction letters generalizing start with
  | nil => simpa [Calm, numeralValue, pure, Except.pure] using hstart
  | cons c rest ih =>
    rw [List.foldlM_cons]
    cases halpha : c.isAlpha with
    | false =>
      rw [checkedLetter_other halpha, List.takeWhile_cons_of_neg (by simp [halpha])]
      simpa [Calm, numeralValue, bind, Except.bind] using hstart
    | true =>
      rw [List.takeWhile_cons_of_pos halpha, numeralValue_cons]
      by_cases hfit : start * 26 + letterValue c < 2 ^ 32
      · rw [checkedLetter_alpha halpha hfit]
        exact ih hfit
      · have hgrows := @le_numeralValue Char 26 letterValue (start * 26 + letterValue c)
          (rest.takeWhile Char.isAlpha) (by decide)
        rw [checkedLetter_overflow halpha hfit]
        simp only [bind, Except.bind, not_calm_panicked, false_iff]
        omega

theorem foldlM_checkedLetter (halpha : ∀ c ∈ letters, c.isAlpha = true)
    (hfit : numeralValue 26 letterValue start letters < 2 ^ 32) :
    letters.foldlM checkedLetter start = .ok (numeralValue 26 letterValue start letters) := by
  induction letters generalizing start with
  | nil => rfl
  | cons c rest ih =>
    rw [numeralValue_cons] at hfit ⊢
    have hgrows := @le_numeralValue Char 26 letterValue (start * 26 + letterValue c) rest
      (by decide)
    rw [List.foldlM_cons, checkedLetter_alpha (halpha c List.mem_cons_self) (by omega)]
    exact ih (fun d hd => halpha d (List.mem_cons_of_mem _ hd)) hfit

theorem CellAddress.calm_parseChecked : Calm (CellAddress.parseChecked text) ↔
    CellAddress.LettersFit text := by
  unfold CellAddress.parseChecked CellAddress.LettersFit checkedColumn
  cases parseU32 (text.toList.dropWhile fun c => !c.isDigit) with
  | none => simp [required, Calm, bind, Except.bind]
  | some row =>
    simp only [required, faultless_ok, calm_bind, calm_ok, Except.ok.injEq, forall_eq',
      calm_foldlM_checkedLetter (by decide : (0 : Nat) < 2 ^ 32), pure, Except.pure, implies_true,
      and_true, true_and, ne_eq, reduceCtorEq, not_false_eq_true, true_implies]

end Letters

/-! ### Names of columns -/

section Names
variable {m n row : Nat}

theorem letterValue_upper {c : Char} (h : c.isUpper = true) :
    letterValue c = c.toNat - 'A'.toNat + 1 := by
  rw [letterValue, toUpper_of_isUpper h]

theorem columnName_value : numeralValue 26 letterValue 0 (Sheets.columnName n n) = n := by
  have hletters : ∀ letters : List Char, (∀ c ∈ letters, c.isUpper = true) →
      ∀ start, numeralValue 26 letterValue start letters =
        letters.foldl (fun value c => value * 26 + (c.toNat - 'A'.toNat + 1)) start := by
    intro letters
    induction letters with
    | nil => exact fun _ _ => rfl
    | cons c rest ih =>
      intro hupper start
      rw [numeralValue_cons, ih fun d hd => hupper d (List.mem_cons_of_mem _ hd),
        letterValue_upper (hupper c List.mem_cons_self), List.foldl_cons]
  rw [hletters _ (Sheets.columnName_upper n n)]
  exact columnIndex_self n

theorem columnName_zeroFree : ZeroFree 26 letterValue (Sheets.columnName n n) := by
  intro c hc
  have hupper := Sheets.columnName_upper n n c hc
  have hbounds := isUpper_iff.mp hupper
  have hA : 'A'.toNat = 65 := rfl
  rw [letterValue_upper hupper, hA]
  omega

theorem columnNumberToName_lt : List.Shortlex (· < ·) (columnNumberToName m).toList
    (columnNumberToName n).toList ↔ m < n := by
  have hletter : ∀ {c d : Char}, c.isUpper = true → d.isUpper = true → c < d →
      letterValue c < letterValue d := by
    intro c d hc hd hlt
    have hnat : c.toNat < d.toNat := hlt
    have hA : 'A'.toNat = 65 := rfl
    have hbounds := isUpper_iff.mp hc
    rw [letterValue_upper hc, letterValue_upper hd, hA]
    omega
  unfold columnNumberToName
  rw [String.toList_ofList, String.toList_ofList,
    shortlex_iff_numeralValue_lt columnName_zeroFree columnName_zeroFree]
  · rw [columnName_value, columnName_value]
  · intro c hc d hd
    have hc := Sheets.columnName_upper m m c hc
    have hd := Sheets.columnName_upper n n d hd
    exact ⟨hletter hc hd, hletter hd hc⟩

theorem checkedColumn_name (hn : n < 2 ^ 32) :
    checkedColumn (columnNumberToName n).toList = .ok n := by
  have hvalue := @columnName_value n
  have halpha : ∀ c ∈ Sheets.columnName n n, c.isAlpha = true := by
    intro c hc
    exact isAlpha_of_isUpper (Sheets.columnName_upper n n c hc)
  unfold checkedColumn columnNumberToName
  rw [String.toList_ofList, foldlM_checkedLetter halpha (by rw [hvalue]; exact hn), hvalue]

theorem cellAddress_parts (col row : Nat) :
    ((cellAddress col row).toList.takeWhile fun c => !c.isDigit) = (columnNumberToName col).toList ∧
      ((cellAddress col row).toList.dropWhile fun c => !c.isDigit) = Nat.toDigits 10 row := by
  have hletters : ∀ c ∈ Sheets.columnName col col, (!c.isDigit) = true := by
    intro c hc
    have hbounds := isUpper_iff.mp (Sheets.columnName_upper col col c hc)
    cases hdigit : c.isDigit with
    | false => rfl
    | true =>
      simp only [Char.isDigit, Bool.and_eq_true, decide_eq_true_eq] at hdigit
      have hnine : c.toNat ≤ 57 := hdigit.2
      omega
  have hdigits : ∀ c ∈ Nat.toDigits 10 row, c.isDigit = true :=
    fun c hc => Nat.isDigit_of_mem_toDigits (by decide) (by decide) hc
  rw [cellAddress_toList, List.takeWhile_append_of_pos hletters,
    List.dropWhile_append_of_pos hletters, columnNumberToName, String.toList_ofList]
  cases htext : Nat.toDigits 10 row with
  | nil => exact absurd htext Nat.toDigits_ne_nil
  | cons c rest =>
    rw [htext] at hdigits
    simp [hdigits c List.mem_cons_self]

theorem parseChecked_cellAddress (hn : n < 2 ^ 32) (hrow : row < 2 ^ 32) :
    CellAddress.parseChecked (cellAddress n row) = .ok ⟨n, row, cellAddress n row⟩ := by
  have hdigits : ∀ c ∈ Nat.toDigits 10 row, c.isDigit = true :=
    fun c hc => Nat.isDigit_of_mem_toDigits (by decide) (by decide) hc
  have hread : parseU32 (Nat.toDigits 10 row) = some row := by
    simpa [parseU32, Nat.toDigits_ne_nil, Nat.ofDigitChars_ten_toDigits] using ⟨hdigits, hrow⟩
  unfold CellAddress.parseChecked
  rw [(cellAddress_parts n row).1, (cellAddress_parts n row).2, hread, checkedColumn_name hn]
  rfl

end Names

/-- Addresses are read back from their texts and names of columns are in order. A text is read
without a fault exactly when its letters fit. -/
theorem address_codec_iff (text : String) :
    ((∀ n row, 1 ≤ n → n < 2 ^ 32 → 1 ≤ row → row < 2 ^ 32 →
        CellAddress.parseChecked (cellAddress n row) = .ok ⟨n, row, cellAddress n row⟩ ∧
          checkedColumn (columnNumberToName n).toList = .ok n) ∧
      (∀ m n, 1 ≤ m → 1 ≤ n → (List.Shortlex (· < ·) (columnNumberToName m).toList
        (columnNumberToName n).toList ↔ m < n)) ∧
      Calm (CellAddress.parseChecked text)) ↔ CellAddress.LettersFit text := by
  constructor
  · intro h
    exact CellAddress.calm_parseChecked.mp h.2.2
  · intro h
    exact ⟨fun n row _ hn _ hrow => ⟨parseChecked_cellAddress hn hrow, checkedColumn_name hn⟩,
      fun m n _ _ => columnNumberToName_lt, CellAddress.calm_parseChecked.mpr h⟩

/-- Seven letters are too much. -/
theorem seven_letters_overflow :
    ¬∀ text : String, Calm (CellAddress.parseChecked text) := by
  intro hall
  have hfit := CellAddress.calm_parseChecked.mp (hall "ZZZZZZZ1")
  exact absurd (hfit (by decide)) (by decide)

end AgentSpreadsheet.Diff
