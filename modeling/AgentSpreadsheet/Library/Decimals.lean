import Mathlib.Algebra.Order.Field.Rat
import Mathlib.Algebra.Order.Group.Int
import Mathlib.Algebra.Field.Power
import Mathlib.Tactic.Ring
import Mathlib.Tactic.NormNum

/-! Decimal numbers as texts: a sign, digits with a point among them, and an exponent. -/
namespace AgentSpreadsheet.Library

/-- Whether the text starts with a minus sign, and what follows the sign. -/
def splitSign : List Char → Bool × List Char
  | '-' :: rest => (true, rest)
  | '+' :: rest => (false, rest)
  | text => (false, text)

def applySign {α : Type} [Neg α] (negative : Bool) (a : α) : α := if negative then -a else a

def digitsNat (digits : List Char) : Nat := Nat.ofDigitChars 10 digits 0

/-- A whole number, with or without a sign. -/
def readInteger (text : List Char) : Option ℤ :=
  if (splitSign text).2 ≠ [] ∧ (splitSign text).2.all Char.isDigit = true then
    some (applySign (splitSign text).1 (digitsNat (splitSign text).2 : ℤ))
  else none

def readExponent : List Char → Option ℤ
  | [] => some 0
  | c :: rest => if c = 'e' ∨ c = 'E' then readInteger rest else none

/-- Digits with a point before the last `places` of them, times a power of ten. -/
def scaled (digits : List Char) (places : Nat) (exponent : ℤ) : ℚ :=
  digitsNat digits * 10 ^ (exponent - places)

def readFraction (whole rest : List Char) : Option ℚ :=
  if whole ++ rest.takeWhile Char.isDigit = [] then none
  else (readExponent (rest.dropWhile Char.isDigit)).map
    (scaled (whole ++ rest.takeWhile Char.isDigit) (rest.takeWhile Char.isDigit).length)

def readUnsigned (text : List Char) : Option ℚ :=
  match text.dropWhile Char.isDigit with
  | '.' :: rest => readFraction (text.takeWhile Char.isDigit) rest
  | rest =>
    if text.takeWhile Char.isDigit = [] then none
    else (readExponent rest).map (scaled (text.takeWhile Char.isDigit) 0)

/-- The number a text denotes. -/
def readDecimal (text : List Char) : Option ℚ :=
  (readUnsigned (splitSign text).2).map (applySign (splitSign text).1)

def integerText (n : ℤ) : List Char :=
  if n < 0 then '-' :: Nat.toDigits 10 n.natAbs else Nat.toDigits 10 n.natAbs

section Reading
variable {text digits : List Char}

theorem takeWhile_digits (h : digits.all Char.isDigit = true) (rest : List Char)
    (hrest : ∀ c ∈ rest.head?, c.isDigit = false) :
    (digits ++ rest).takeWhile Char.isDigit = digits ∧
      (digits ++ rest).dropWhile Char.isDigit = rest := by
  induction digits with
  | nil =>
    cases rest with
    | nil => exact ⟨rfl, rfl⟩
    | cons c rest =>
      have hc := hrest c rfl
      simp [hc]
  | cons d digits ih =>
    rw [List.all_cons, Bool.and_eq_true] at h
    have hrec := ih h.2
    simp [h.1, hrec.1, hrec.2]

theorem readUnsigned_digits (hne : digits ≠ []) (h : digits.all Char.isDigit = true)
    (rest : List Char) (hrest : ∀ c ∈ rest.head?, c.isDigit = false ∧ c ≠ '.') :
    readUnsigned (digits ++ rest) = (readExponent rest).map (scaled digits 0) := by
  have hspan := takeWhile_digits h rest fun c hc => (hrest c hc).1
  unfold readUnsigned
  rw [hspan.1, hspan.2]
  split
  · exact absurd rfl (hrest _ rfl).2
  · rw [if_neg hne]

theorem scaled_zero (digits : List Char) : scaled digits 0 0 = digitsNat digits := by
  simp [scaled]

/-- A whole number is a decimal number. -/
theorem readDecimal_of_readInteger {n : ℤ} (h : readInteger text = some n) :
    readDecimal text = some (n : ℚ) := by
  unfold readInteger at h
  split at h
  · rename_i hdigits
    have hread := readUnsigned_digits hdigits.1 hdigits.2 [] (by simp)
    rw [List.append_nil] at hread
    injection h with h
    unfold readDecimal
    rw [hread, ← h]
    cases (splitSign text).1 <;> simp [readExponent, scaled_zero, applySign]
  · contradiction

theorem toDigits_all (n : Nat) : (Nat.toDigits 10 n).all Char.isDigit = true := by
  rw [List.all_eq_true]
  intro c hc
  exact Nat.isDigit_of_mem_toDigits (by decide) (by decide) hc

theorem splitSign_digits (hne : digits ≠ []) (h : digits.all Char.isDigit = true)
    (rest : List Char) : splitSign (digits ++ rest) = (false, digits ++ rest) := by
  cases digits with
  | nil => contradiction
  | cons c digits =>
    rw [List.all_cons, Bool.and_eq_true] at h
    rw [List.cons_append]
    unfold splitSign
    split
    · rename_i heq
      rw [List.cons.injEq] at heq
      rw [heq.1] at h
      exact absurd h.1 (by decide)
    · rename_i heq
      rw [List.cons.injEq] at heq
      rw [heq.1] at h
      exact absurd h.1 (by decide)
    · rfl

theorem splitSign_integerText (n : ℤ) (rest : List Char) :
    splitSign (integerText n ++ rest) = (decide (n < 0), Nat.toDigits 10 n.natAbs ++ rest) := by
  unfold integerText
  split
  · rename_i hneg
    simp [splitSign, hneg]
  · rename_i hneg
    rw [splitSign_digits Nat.toDigits_ne_nil (toDigits_all _), decide_eq_false hneg]

theorem applySign_natAbs (n : ℤ) : applySign (decide (n < 0)) (n.natAbs : ℤ) = n := by
  unfold applySign
  by_cases hneg : n < 0
  · rw [if_pos (decide_eq_true hneg)]
    omega
  · rw [if_neg (by simpa using hneg)]
    omega

@[simp] theorem digitsNat_toDigits (n : Nat) : digitsNat (Nat.toDigits 10 n) = n :=
  Nat.ofDigitChars_ten_toDigits

theorem readInteger_integerText (n : ℤ) : readInteger (integerText n) = some n := by
  have hsplit := splitSign_integerText n []
  rw [List.append_nil, List.append_nil] at hsplit
  unfold readInteger
  rw [hsplit, if_pos ⟨Nat.toDigits_ne_nil, toDigits_all _⟩, digitsNat_toDigits, applySign_natAbs]

theorem readDecimal_integerText (n : ℤ) : readDecimal (integerText n) = some (n : ℚ) :=
  readDecimal_of_readInteger (readInteger_integerText n)

theorem readDecimal_scientific (n e : ℤ) :
    readDecimal (integerText n ++ 'e' :: integerText e) =
      some ((n : ℚ) * 10 ^ e) := by
  have hread := readUnsigned_digits Nat.toDigits_ne_nil (toDigits_all n.natAbs)
    ('e' :: integerText e) (by
      intro c hc
      rw [List.head?_cons, Option.mem_def, Option.some.injEq] at hc
      rw [← hc]
      decide)
  have hsigned (q : ℚ) : applySign (decide (n < 0)) ((n.natAbs : ℚ) * q) = n * q := by
    have hn := congrArg (fun m : ℤ => (m : ℚ)) (applySign_natAbs n)
    unfold applySign at hn ⊢
    split
    · rename_i hneg
      rw [if_pos hneg] at hn
      push_cast at hn
      rw [← hn]
      simp
    · rename_i hneg
      rw [if_neg hneg] at hn
      push_cast at hn
      rw [← hn]
      simp
  unfold readDecimal
  rw [splitSign_integerText]
  dsimp only
  have hexponent : readExponent ('e' :: integerText e) = some e := by
    simp [readExponent, readInteger_integerText]
  rw [hread, hexponent, Option.map_some, Option.map_some, scaled, digitsNat_toDigits, hsigned]
  simp

theorem readUnsigned_eq_none {c : Char} {rest : List Char} (h : c ≠ '.' ∧ c.isDigit = false) :
    readUnsigned (c :: rest) = none := by
  unfold readUnsigned
  rw [List.dropWhile_cons_of_neg (by simp [h.2]), List.takeWhile_cons_of_neg (by simp [h.2])]
  split
  · rename_i heq
    exact absurd (List.cons.inj heq).1 h.1
  · rfl

theorem splitSign_of_ne {c : Char} {rest : List Char} (h : c ≠ '-' ∧ c ≠ '+') :
    splitSign (c :: rest) = (false, c :: rest) := by
  unfold splitSign
  split
  · rename_i heq
    exact absurd (List.cons.inj heq).1 h.1
  · rename_i heq
    exact absurd (List.cons.inj heq).1 h.2
  · rfl

theorem readDecimal_eq_none {c : Char} {rest : List Char}
    (h : c ≠ '-' ∧ c ≠ '+' ∧ c ≠ '.' ∧ c.isDigit = false) : readDecimal (c :: rest) = none := by
  unfold readDecimal
  rw [splitSign_of_ne ⟨h.1, h.2.1⟩, readUnsigned_eq_none h.2.2]
  rfl

end Reading

/-! ### Digits -/

section Digits
variable {front digits digits' : List Char}

theorem digitsNat_append (front digits : List Char) :
    digitsNat (front ++ digits) = digitsNat front * 10 ^ digits.length + digitsNat digits := by
  unfold digitsNat
  rw [Nat.ofDigitChars_append, Nat.ofDigitChars_eq_ofDigitChars_zero, Nat.mul_comm]

theorem digit_val {c : Char} (h : c.isDigit = true) : 48 ≤ c.toNat ∧ c.toNat ≤ 57 := by
  rw [Char.isDigit_iff_toNat] at h
  exact h

theorem digitsNat_cons (c : Char) (digits : List Char) :
    digitsNat (c :: digits) = (c.toNat - 48) * 10 ^ digits.length + digitsNat digits := by
  rw [← List.singleton_append, digitsNat_append]
  simp [digitsNat, Nat.ofDigitChars_cons]

theorem digitsNat_lt (h : digits.all Char.isDigit = true) :
    digitsNat digits < 10 ^ digits.length := by
  induction digits with
  | nil => exact Nat.one_pos
  | cons c rest ih =>
    rw [List.all_cons, Bool.and_eq_true] at h
    have hrest := ih h.2
    have hc : c.toNat - 48 ≤ 9 := by
      have := digit_val h.1
      omega
    rw [digitsNat_cons, List.length_cons, Nat.pow_succ]
    calc (c.toNat - 48) * 10 ^ rest.length + digitsNat rest
        < (c.toNat - 48) * 10 ^ rest.length + 10 ^ rest.length := Nat.add_lt_add_left hrest _
      _ = (c.toNat - 48 + 1) * 10 ^ rest.length := by ring
      _ ≤ 10 ^ rest.length * 10 := by
        rw [Nat.mul_comm]
        exact Nat.mul_le_mul_left _ (by omega)

theorem digitsNat_zeros (h : ∀ c ∈ digits, c = '0') : digitsNat digits = 0 := by
  rw [List.eq_replicate_of_mem h]
  unfold digitsNat
  rw [Nat.ofDigitChars_replicate_zero, Nat.mul_zero]

theorem digitsNat_inj (h : digits.all Char.isDigit = true) (h' : digits'.all Char.isDigit = true)
    (hlength : digits.length = digits'.length) (heq : digitsNat digits = digitsNat digits') :
    digits = digits' := by
  induction digits generalizing digits' with
  | nil => exact (List.eq_nil_of_length_eq_zero hlength.symm).symm
  | cons c rest ih =>
    cases digits' with
    | nil => contradiction
    | cons c' rest' =>
      rw [List.all_cons, Bool.and_eq_true] at h h'
      have hsame : rest.length = rest'.length := Nat.succ.inj hlength
      have hrest := digitsNat_lt h.2
      have hrest' := digitsNat_lt h'.2
      rw [digitsNat_cons, digitsNat_cons, hsame] at heq
      rw [hsame] at hrest
      have hpos : 0 < 10 ^ rest'.length := Nat.pow_pos (by decide)
      have hc : c.toNat - 48 = c'.toNat - 48 := by
        have hdiv := congrArg (· / 10 ^ rest'.length) heq
        simp only [Nat.mul_comm _ (10 ^ rest'.length), Nat.mul_add_div hpos, Nat.div_eq_of_lt hrest,
          Nat.div_eq_of_lt hrest', Nat.add_zero] at hdiv
        exact hdiv
      have hchar : c = c' := by
        apply Char.toNat_inj.mp
        have := digit_val h.1
        have := digit_val h'.1
        omega
      rw [hchar, ih h.2 h'.2 hsame (by rw [hc] at heq; omega)]

theorem digitsNat_leftpad (n : Nat) (digits : List Char) :
    digitsNat (digits.leftpad n '0') = digitsNat digits := by
  unfold List.leftpad
  rw [digitsNat_append, digitsNat_zeros fun c hc => List.eq_of_mem_replicate hc, Nat.zero_mul,
    Nat.zero_add]

theorem all_leftpad (h : digits.all Char.isDigit = true) (n : Nat) :
    (digits.leftpad n '0').all Char.isDigit = true := by
  unfold List.leftpad
  rw [List.all_append, h, Bool.and_true]
  simp

theorem toDigits_head {n : Nat} (h : 0 < n) : (Nat.toDigits 10 n).head? ≠ some '0' := by
  induction n using Nat.strongRecOn with
  | ind n ih =>
    by_cases hsmall : n < 10
    · rw [Nat.toDigits_of_lt_base hsmall, List.head?_cons]
      intro hzero
      have hnat := congrArg Char.toNat (Option.some.inj hzero)
      have hdigit := Nat.toNat_digitChar_sub_48_of_lt_ten hsmall
      rw [hnat] at hdigit
      simp at hdigit
      omega
    · have hdiv : 0 < n / 10 := Nat.div_pos (by omega) (by decide)
      rw [Nat.toDigits_of_base_le (by decide) (by omega), List.head?_append,
        List.head?_eq_some_head Nat.toDigits_ne_nil, Option.some_or,
        ← List.head?_eq_some_head Nat.toDigits_ne_nil]
      exact ih (n / 10) (by omega) hdiv

theorem dropWhile_toDigits (n : Nat) :
    (Nat.toDigits 10 n).dropWhile (· == '0') = if n = 0 then [] else Nat.toDigits 10 n := by
  split
  · rename_i hzero
    rw [hzero, Nat.toDigits_zero]
    rfl
  · rename_i hpos
    have hhead := toDigits_head (Nat.pos_of_ne_zero hpos)
    cases hdigits : Nat.toDigits 10 n with
    | nil => rfl
    | cons c rest =>
      rw [hdigits, List.head?_cons] at hhead
      rw [List.dropWhile_cons_of_neg]
      intro hzero
      exact hhead (congrArg some (eq_of_beq hzero))

end Digits

end AgentSpreadsheet.Library
