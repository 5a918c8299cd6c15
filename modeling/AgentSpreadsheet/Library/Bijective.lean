import Mathlib.Data.List.Shortlex
import Mathlib.Tactic.Ring

/-! Numerals without a zero. Their digits go from one to the base, the highest comes first, and
longer numerals are greater. -/
namespace AgentSpreadsheet.Library

section Numerals
variable {α : Type} (base : Nat) (digit : α → Nat)

/-- The number of a text of digits, after the digits read so far. -/
def numeralValue (start : Nat) (text : List α) : Nat :=
  text.foldl (fun value c => value * base + digit c) start

def ZeroFree (text : List α) : Prop := ∀ c ∈ text, 0 < digit c ∧ digit c ≤ base

/-- The least numeral of a length: ones only. -/
def leastNumeral : Nat → Nat
  | 0 => 0
  | length + 1 => base ^ length + leastNumeral length

variable {base digit} {start : Nat} {text s t : List α}

theorem numeralValue_cons (c : α) : numeralValue base digit start (c :: text) =
    numeralValue base digit (start * base + digit c) text := rfl

theorem numeralValue_shift (start : Nat) (text : List α) : numeralValue base digit start text =
    start * base ^ text.length + numeralValue base digit 0 text := by
  induction text generalizing start with
  | nil => simp [numeralValue]
  | cons c rest ih =>
    rw [numeralValue_cons, numeralValue_cons, ih, @ih (0 * base + digit c), List.length_cons]
    ring

theorem le_numeralValue (hbase : 0 < base) : start ≤ numeralValue base digit start text := by
  rw [numeralValue_shift]
  have hpower := Nat.le_mul_of_pos_right start (Nat.pow_pos (n := text.length) hbase)
  omega

theorem leastNumeral_le (h : ZeroFree base digit text) :
    leastNumeral base text.length ≤ numeralValue base digit 0 text := by
  induction text with
  | nil => simp [leastNumeral, numeralValue]
  | cons c rest ih =>
    have hrest := ih fun d hd => h d (List.mem_cons_of_mem _ hd)
    have hfirst := Nat.mul_le_mul_right (base ^ rest.length) (h c List.mem_cons_self).1
    rw [numeralValue_cons, numeralValue_shift, List.length_cons, leastNumeral]
    simp only [Nat.zero_mul, Nat.zero_add, Nat.succ_eq_add_one, Nat.one_mul] at hfirst ⊢
    omega

/-- Every numeral of a length is before the least of the next length. -/
theorem numeralValue_lt_least (h : ZeroFree base digit text) :
    numeralValue base digit 0 text < leastNumeral base (text.length + 1) := by
  induction text with
  | nil => simp [leastNumeral, numeralValue]
  | cons c rest ih =>
    have hrest := ih fun d hd => h d (List.mem_cons_of_mem _ hd)
    have hfirst := Nat.mul_le_mul_right (base ^ rest.length) (h c List.mem_cons_self).2
    rw [← Nat.pow_succ'] at hfirst
    rw [numeralValue_cons, numeralValue_shift, List.length_cons, leastNumeral]
    simp only [Nat.zero_mul, Nat.zero_add, Nat.succ_eq_add_one] at hfirst ⊢
    omega

theorem leastNumeral_mono {m n : Nat} (h : m ≤ n) : leastNumeral base m ≤ leastNumeral base n := by
  induction h with
  | refl => exact Nat.le_refl _
  | step _ ih => exact Nat.le_trans ih (Nat.le_add_left _ _)

theorem numeralValue_lt_of_shorter (hs : ZeroFree base digit s) (ht : ZeroFree base digit t)
    (h : s.length < t.length) : numeralValue base digit 0 s < numeralValue base digit 0 t :=
  calc numeralValue base digit 0 s
      < leastNumeral base (s.length + 1) := numeralValue_lt_least hs
    _ ≤ leastNumeral base t.length := leastNumeral_mono h
    _ ≤ numeralValue base digit 0 t := leastNumeral_le ht

/-- Of two numerals of one length, the first digit that differs decides. -/
theorem numeralValue_lt_of_lex {r : α → α → Prop} (hs : ZeroFree base digit s)
    (ht : ZeroFree base digit t) (hlength : s.length = t.length)
    (hdigit : ∀ a ∈ s, ∀ b ∈ t, r a b → digit a < digit b) (h : List.Lex r s t) :
    numeralValue base digit 0 s < numeralValue base digit 0 t := by
  induction h with
  | nil => exact absurd hlength (by simp)
  | @cons c s t _ ih =>
    have hlater := ih (fun d hd => hs d (List.mem_cons_of_mem _ hd))
      (fun d hd => ht d (List.mem_cons_of_mem _ hd)) (Nat.succ.inj hlength)
      fun a ha b hb => hdigit a (List.mem_cons_of_mem _ ha) b (List.mem_cons_of_mem _ hb)
    rw [numeralValue_cons, numeralValue_cons, numeralValue_shift _ s, numeralValue_shift _ t,
      Nat.succ.inj hlength]
    omega
  | @rel a s b t hab =>
    have hlength := Nat.succ.inj hlength
    have hlow := numeralValue_lt_least fun d hd => hs d (List.mem_cons_of_mem _ hd)
    have hhigh := leastNumeral_le fun d hd => ht d (List.mem_cons_of_mem _ hd)
    have hfirst := Nat.mul_le_mul_right (base ^ t.length)
      (hdigit a List.mem_cons_self b List.mem_cons_self hab)
    rw [Nat.succ_mul] at hfirst
    rw [numeralValue_cons, numeralValue_cons, numeralValue_shift _ s, numeralValue_shift _ t, hlength]
    rw [hlength, leastNumeral] at hlow
    simp only [Nat.zero_mul, Nat.zero_add]
    omega

/-- The order of the numbers is the order of their numerals, by length and then by text. -/
theorem shortlex_iff_numeralValue_lt {r : α → α → Prop} [Std.Trichotomous r]
    (hs : ZeroFree base digit s) (ht : ZeroFree base digit t)
    (hdigit : ∀ a ∈ s, ∀ b ∈ t, (r a b → digit a < digit b) ∧ (r b a → digit b < digit a)) :
    List.Shortlex r s t ↔ numeralValue base digit 0 s < numeralValue base digit 0 t := by
  have hforth : List.Shortlex r s t →
      numeralValue base digit 0 s < numeralValue base digit 0 t := by
    intro h
    rcases List.shortlex_def.mp h with h | ⟨hlength, h⟩
    · exact numeralValue_lt_of_shorter hs ht h
    · exact numeralValue_lt_of_lex hs ht hlength (fun a ha b hb => (hdigit a ha b hb).1) h
  have hback : List.Shortlex r t s →
      numeralValue base digit 0 t < numeralValue base digit 0 s := by
    intro h
    rcases List.shortlex_def.mp h with h | ⟨hlength, h⟩
    · exact numeralValue_lt_of_shorter ht hs h
    · exact numeralValue_lt_of_lex ht hs hlength (fun b hb a ha => (hdigit a ha b hb).2) h
  constructor
  · exact hforth
  · intro h
    by_contra hnot
    by_cases hother : List.Shortlex r t s
    · exact absurd (hback hother) (Nat.lt_asymm h)
    · have hsame := Std.Trichotomous.trichotomous s t hnot hother
      rw [hsame] at h
      exact absurd h (Nat.lt_irrefl _)

end Numerals

end AgentSpreadsheet.Library
