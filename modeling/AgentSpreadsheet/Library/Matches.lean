import Mathlib.Data.List.Forall2

/-! Leftmost matches. A match begins where `hit` holds of the rest of the text and takes
`width` of its items; each next one begins at the end of the one before or later, and never
where that one began. -/
namespace AgentSpreadsheet.Library

section Matches
variable {α : Type} (hit : List α → Bool) (width : Nat) (replace : List α)

/-- The leftmost matches that do not overlap are replaced and all else is kept. No match may
begin before `least`. -/
inductive Replaced : Nat → List α → List α → Prop
  | done {least : Nat} {text : List α}
      (absent : ∀ i, least ≤ i → i ≤ text.length → hit (text.drop i) = false) :
      Replaced least text text
  | next {least : Nat} {out : List α} (gap found rest : List α) (low : least ≤ gap.length)
      (first : ∀ i, least ≤ i → i < gap.length → hit ((gap ++ (found ++ rest)).drop i) = false)
      (here : hit (found ++ rest) = true) (length : found.length = width)
      (after : Replaced (1 - width) rest out) :
      Replaced least (gap ++ (found ++ rest)) (gap ++ (replace ++ out))

variable {hit width replace} {least : Nat} {text out : List α} {c : α}

/-- Items in front of which nothing may begin are kept. -/
theorem Replaced.shift (h : Replaced hit width replace least text out) :
    Replaced hit width replace (least + 1) (c :: text) (c :: out) := by
  cases h with
  | done absent =>
    apply Replaced.done
    intro i hlow hhigh
    obtain ⟨j, rfl⟩ : ∃ j, i = j + 1 := ⟨i - 1, by omega⟩
    rw [List.drop_succ_cons]
    exact absent j (by omega) (by simpa using hhigh)
  | @next _ out gap found rest low first here length after =>
    apply Replaced.next (c :: gap) found rest (by simpa using low) _ here length after
    intro i hlow hhigh
    obtain ⟨j, rfl⟩ : ∃ j, i = j + 1 := ⟨i - 1, by omega⟩
    rw [List.cons_append, List.drop_succ_cons]
    exact first j (by omega) (by simpa using hhigh)

theorem Replaced.skip (h : Replaced hit width replace 0 text out) (hc : hit (c :: text) = false) :
    Replaced hit width replace 0 (c :: text) (c :: out) := by
  cases h with
  | done absent =>
    apply Replaced.done
    intro i _ hhigh
    cases i with
    | zero => exact hc
    | succ j => exact absent j (by omega) (by simpa using hhigh)
  | @next _ out gap found rest low first here length after =>
    apply Replaced.next (c :: gap) found rest (Nat.zero_le _) _ here length after
    intro i _ hhigh
    cases i with
    | zero => exact hc
    | succ j => exact first j (by omega) (by simpa using hhigh)

theorem Replaced.front {found rest : List α} (here : hit (found ++ rest) = true)
    (length : found.length = width) (after : Replaced hit width replace (1 - width) rest out) :
    Replaced hit width replace 0 (found ++ rest) (replace ++ out) := by
  apply Replaced.next [] found rest (Nat.zero_le _) _ here length after
  intro i _ hi
  exact absurd hi (Nat.not_lt_zero i)

end Matches

section Occurrence
variable {α : Type} (same : α → α → Bool)

/-- The text begins with the pattern, item by item alike. -/
def occurs : List α → List α → Bool
  | [], _ => true
  | _ :: _, [] => false
  | p :: pattern, c :: text => same p c && occurs pattern text

variable {same} {pattern text : List α}

/-- What an occurrence takes of the text. -/
theorem occurs_iff : occurs same pattern text = true ↔
    ∃ found rest, text = found ++ rest ∧ List.Forall₂ (fun p c => same p c = true) pattern found := by
  induction pattern generalizing text with
  | nil => simpa [occurs] using ⟨[], ⟨text, rfl⟩, .nil⟩
  | cons p pattern ih =>
    cases text with
    | nil =>
      simp only [occurs, Bool.false_eq_true, false_iff]
      intro ⟨found, rest, htext, halike⟩
      cases halike
      contradiction
    | cons c text =>
      rw [occurs, Bool.and_eq_true, ih]
      constructor
      · intro ⟨hsame, found, rest, htext, halike⟩
        exact ⟨c :: found, rest, by rw [htext, List.cons_append], .cons hsame halike⟩
      · intro ⟨found, rest, htext, halike⟩
        cases halike with
        | @cons _ d _ found hsame halike =>
          rw [List.cons_append] at htext
          injection htext with hc htext
          exact ⟨hc ▸ hsame, found, rest, htext, halike⟩

end Occurrence

end AgentSpreadsheet.Library
