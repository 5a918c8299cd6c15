import Mathlib.Data.List.Basic
import Mathlib.Data.List.Count

/-! Quoted text. Inside the quotes a quote is doubled, so the first one that stands alone
ends the text. -/
namespace AgentSpreadsheet.Library

section Quoted
variable {α : Type} [DecidableEq α] (quote : α)

def doubled (text : List α) : List α := text.flatMap fun c => if c = quote then [c, c] else [c]

/-- Every pair of quotes becomes one, from the left. -/
def undoubled : List α → List α
  | c :: d :: rest =>
    if c = quote ∧ d = quote then c :: undoubled rest else c :: undoubled (d :: rest)
  | rest => rest

variable {quote} {c : α} {text text' rest rest' : List α}

@[simp] theorem doubled_nil : doubled quote [] = [] := rfl

@[simp] theorem doubled_quote : doubled quote (quote :: text) = quote :: quote :: doubled quote text := by
  simp [doubled]

theorem doubled_cons (hc : c ≠ quote) : doubled quote (c :: text) = c :: doubled quote text := by
  simp [doubled, hc]

theorem undoubled_cons (hc : c ≠ quote) : undoubled quote (c :: text) = c :: undoubled quote text := by
  cases text with
  | nil => simp [undoubled]
  | cons d rest =>
    rw [undoubled, if_neg (fun h => hc h.1)]

@[simp] theorem undoubled_doubled : undoubled quote (doubled quote text) = text := by
  induction text with
  | nil => rfl
  | cons c rest ih =>
    by_cases hc : c = quote
    · subst hc
      rw [doubled_quote]
      unfold undoubled
      rw [if_pos ⟨rfl, rfl⟩, ih]
    · rw [doubled_cons hc, undoubled_cons hc, ih]

theorem mem_doubled : c ∈ doubled quote text ↔ c ∈ text := by
  unfold doubled
  rw [List.mem_flatMap]
  constructor
  · intro ⟨d, hd, hmem⟩
    split at hmem <;> simp_all
  · intro hc
    refine ⟨c, hc, ?_⟩
    split <;> simp

theorem count_doubled : (doubled quote text).count quote = 2 * text.count quote := by
  induction text with
  | nil => rfl
  | cons c rest ih =>
    by_cases hc : c = quote
    · subst hc
      simp only [doubled_quote, List.count_cons_self, ih]
      omega
    · rw [doubled_cons hc, List.count_cons_of_ne hc, List.count_cons_of_ne hc, ih]

/-- Two quotes stand side by side. -/
def Adjacent (quote : α) (text : List α) : Prop := [quote, quote] <:+: text

instance (text : List α) : Decidable (Adjacent quote text) := inferInstanceAs (Decidable (_ <:+: _))

theorem adjacent_cons : Adjacent quote (c :: text) ↔
    c = quote ∧ text.head? = some quote ∨ Adjacent quote text := by
  unfold Adjacent
  rw [List.infix_cons_iff]
  cases text with
  | nil => simp
  | cons d rest => simp [eq_comm]

/-- Quotes that stand alone are kept. -/
theorem undoubled_of_not_adjacent (h : ¬ Adjacent quote text) : undoubled quote text = text := by
  induction text with
  | nil => rfl
  | cons c rest ih =>
    rw [adjacent_cons, not_or] at h
    cases rest with
    | nil => rfl
    | cons d rest =>
      have hpair : ¬ (c = quote ∧ d = quote) := by
        intro hboth
        apply h.1
        rw [hboth.1, hboth.2]
        exact ⟨rfl, rfl⟩
      rw [undoubled, if_neg hpair, ih h.2]

theorem count_undoubled_le (text : List α) :
    (undoubled quote text).count quote ≤ text.count quote := by
  induction text using undoubled.induct quote with
  | case1 c d rest hpair ih =>
    rw [undoubled, if_pos hpair, hpair.1, hpair.2]
    simp only [List.count_cons_self]
    omega
  | case2 c d rest hpair ih =>
    rw [undoubled, if_neg hpair, List.count_cons, List.count_cons]
    omega
  | case3 rest hrest =>
    have hsame : undoubled quote rest = rest := by
      rw [undoubled]
      exact hrest
    exact Nat.le_of_eq (congrArg (List.count quote) hsame)

theorem count_undoubled_lt (h : Adjacent quote text) :
    (undoubled quote text).count quote < text.count quote := by
  induction text using undoubled.induct quote with
  | case1 c d rest hpair ih =>
    have hle := @count_undoubled_le _ _ quote rest
    rw [undoubled, if_pos hpair, hpair.1, hpair.2]
    simp only [List.count_cons_self]
    omega
  | case2 c d rest hpair ih =>
    rw [adjacent_cons] at h
    have hrest : Adjacent quote (d :: rest) := by
      cases h with
      | inl h => exact absurd ⟨h.1, Option.some.inj h.2⟩ hpair
      | inr h => exact h
    have hlt := ih hrest
    rw [undoubled, if_neg hpair, List.count_cons, @List.count_cons _ _ _ c]
    omega
  | case3 rest hrest =>
    cases rest with
    | nil => exact absurd (List.infix_nil.mp h) (List.cons_ne_nil _ _)
    | cons c rest =>
      cases rest with
      | nil =>
        have hlength := List.IsInfix.length_le h
        simp at hlength
      | cons d rest => exact absurd rfl (hrest c d rest)

/-- The quoted text and what comes after its end can be told apart. -/
theorem quoted_injective (hrest : rest.head? ≠ some quote) (hrest' : rest'.head? ≠ some quote)
    (h : doubled quote text ++ quote :: rest = doubled quote text' ++ quote :: rest') :
    text = text' ∧ rest = rest' := by
  induction text generalizing text' with
  | nil =>
    cases text' with
    | nil => exact ⟨rfl, by simpa using h⟩
    | cons d more =>
      by_cases hd : d = quote
      · subst hd
        rw [doubled_quote] at h
        simp only [doubled_nil, List.nil_append, List.cons_append, List.cons.injEq, true_and] at h
        rw [h] at hrest
        exact absurd rfl hrest
      · rw [doubled_cons hd] at h
        simp only [doubled_nil, List.nil_append, List.cons_append, List.cons.injEq] at h
        exact absurd h.1.symm hd
  | cons c more ih =>
    cases text' with
    | nil =>
      by_cases hc : c = quote
      · subst hc
        rw [doubled_quote] at h
        simp only [doubled_nil, List.nil_append, List.cons_append, List.cons.injEq, true_and] at h
        rw [← h] at hrest'
        exact absurd rfl hrest'
      · rw [doubled_cons hc] at h
        simp only [doubled_nil, List.nil_append, List.cons_append, List.cons.injEq] at h
        exact absurd h.1 hc
    | cons d more' =>
      by_cases hc : c = quote <;> by_cases hd : d = quote
      · subst hc hd
        simp only [doubled_quote, List.cons_append, List.cons.injEq, true_and] at h
        obtain ⟨hmore, hend⟩ := ih h
        exact ⟨by rw [hmore], hend⟩
      · subst hc
        rw [doubled_quote, doubled_cons hd] at h
        simp only [List.cons_append, List.cons.injEq] at h
        exact absurd h.1.symm hd
      · subst hd
        rw [doubled_quote, doubled_cons hc] at h
        simp only [List.cons_append, List.cons.injEq] at h
        exact absurd h.1 hc
      · rw [doubled_cons hc, doubled_cons hd] at h
        simp only [List.cons_append, List.cons.injEq] at h
        obtain ⟨hmore, hend⟩ := ih h.2
        exact ⟨by rw [h.1, hmore], hend⟩

end Quoted

end AgentSpreadsheet.Library
