import Mathlib.Data.List.Basic

/-! Texts whose parts can be told apart again. A part may need that what follows it starts with
one of a few characters. -/
namespace AgentSpreadsheet.Library

section Parts
variable {α β γ : Type}

/-- Where two texts start alike, what they stand for is related and they have the same length. -/
def ReadsApart (follows : List γ → Prop) (related : Prop) (s t : List γ) : Prop :=
  ∀ x y, follows x → follows y → s ++ x = t ++ y → related ∧ x = y

/-- The end, a separator or a closing character. -/
def AtBreak (breaks : List γ) (rest : List γ) : Prop := ∀ c, rest.head? = some c → c ∈ breaks

/-- What comes after the first part of a list. -/
def laterParts (separator close : γ) (rest : List γ) : List (List γ) → List γ
  | [] => close :: rest
  | part :: parts => separator :: (part ++ laterParts separator close rest parts)

variable {separator close : γ} {rest rest' breaks : List γ} {text : α → List γ} {text' : β → List γ}
  {R : α → β → Prop} {items : List α} {items' : List β}

theorem intercalate_close (part : List γ) (parts : List (List γ)) :
    [separator].intercalate (part :: parts) ++ close :: rest =
      part ++ laterParts separator close rest parts := by
  induction parts generalizing part with
  | nil => simp [laterParts]
  | cons next parts ih =>
    rw [List.intercalate_cons_cons, List.append_assoc, List.append_assoc, ih]
    rfl

theorem atBreak_laterParts (hseparator : separator ∈ breaks) (hclose : close ∈ breaks)
    (parts : List (List γ)) : AtBreak breaks (laterParts separator close rest parts) := by
  intro c hc
  cases parts with
  | nil => exact Option.some.inj hc ▸ hclose
  | cons part parts => exact Option.some.inj hc ▸ hseparator

theorem laterParts_told (hseparator : separator ∈ breaks) (hclose : close ∈ breaks)
    (hne : close ≠ separator)
    (h : ∀ a ∈ items, ∀ b ∈ items', ReadsApart (AtBreak breaks) (R a b) (text a) (text' b))
    (heq : laterParts separator close rest (items.map text) =
      laterParts separator close rest' (items'.map text')) :
    List.Forall₂ R items items' ∧ rest = rest' := by
  induction items generalizing items' with
  | nil =>
    cases items' with
    | nil => exact ⟨.nil, (List.cons.inj heq).2⟩
    | cons b items' => exact absurd (List.cons.inj heq).1 hne
  | cons a items ih =>
    cases items' with
    | nil => exact absurd (List.cons.inj heq).1.symm hne
    | cons b items' =>
      have hfirst := h a List.mem_cons_self b List.mem_cons_self _ _
        (atBreak_laterParts hseparator hclose _) (atBreak_laterParts hseparator hclose _)
        (List.cons.inj heq).2
      have hlater := ih (fun a ha b hb =>
        h a (List.mem_cons_of_mem _ ha) b (List.mem_cons_of_mem _ hb)) hfirst.2
      exact ⟨.cons hfirst.1 hlater.1, hlater.2⟩

/-- The parts of a list between separators can be told apart, where none starts like the end. -/
theorem intercalate_told (hseparator : separator ∈ breaks) (hclose : close ∈ breaks)
    (hne : close ≠ separator)
    (hstart : ∀ a ∈ items, ∀ x, (text a ++ x).head? ≠ some close)
    (hstart' : ∀ b ∈ items', ∀ x, (text' b ++ x).head? ≠ some close)
    (h : ∀ a ∈ items, ∀ b ∈ items', ReadsApart (AtBreak breaks) (R a b) (text a) (text' b))
    (heq : [separator].intercalate (items.map text) ++ close :: rest =
      [separator].intercalate (items'.map text') ++ close :: rest') :
    List.Forall₂ R items items' ∧ rest = rest' := by
  cases items with
  | nil =>
    cases items' with
    | nil => exact ⟨.nil, (List.cons.inj heq).2⟩
    | cons b items' =>
      rw [List.map_cons, intercalate_close] at heq
      exact absurd (congrArg List.head? heq).symm (hstart' b List.mem_cons_self _)
  | cons a items =>
    cases items' with
    | nil =>
      rw [List.map_cons, intercalate_close] at heq
      exact absurd (congrArg List.head? heq) (hstart a List.mem_cons_self _)
    | cons b items' =>
      rw [List.map_cons, List.map_cons, intercalate_close, intercalate_close] at heq
      have hfirst := h a List.mem_cons_self b List.mem_cons_self _ _
        (atBreak_laterParts hseparator hclose _) (atBreak_laterParts hseparator hclose _) heq
      have hlater := laterParts_told hseparator hclose hne (fun a ha b hb =>
        h a (List.mem_cons_of_mem _ ha) b (List.mem_cons_of_mem _ hb)) hfirst.2
      exact ⟨.cons hfirst.1 hlater.1, hlater.2⟩

/-- A run of characters of a kind ends where a break does not belong to it. -/
theorem run_told {kind : γ → Bool} {s t : List γ} (hs : ∀ c ∈ s, kind c = true)
    (ht : ∀ c ∈ t, kind c = true) (hbreaks : breaks.all (fun c => !kind c) = true)
    (hrest : AtBreak breaks rest) (hrest' : AtBreak breaks rest') (h : s ++ rest = t ++ rest') :
    s = t ∧ rest = rest' := by
  have hnone : ∀ {rest : List γ}, AtBreak breaks rest → rest.takeWhile kind = [] := by
    intro rest hrest
    cases rest with
    | nil => rfl
    | cons c rest =>
      have hc := List.all_eq_true.mp hbreaks c (hrest c rfl)
      rw [Bool.not_eq_true'] at hc
      exact List.takeWhile_cons_of_neg (by simp [hc])
  have hrun := congrArg (List.takeWhile kind) h
  rw [List.takeWhile_append_of_pos hs, List.takeWhile_append_of_pos ht, hnone hrest,
    hnone hrest', List.append_nil, List.append_nil] at hrun
  rw [hrun] at h
  exact ⟨hrun, List.append_cancel_left h⟩

/-- A code that is read off the start of any text, repeated up to a mark no code starts with. -/
theorem flatMap_told {encode : α → List γ} {decode : List γ → Option (α × List γ)} {mark : γ}
    (hdecode : ∀ a x, decode (encode a ++ x) = some (a, x)) (hmark : ∀ x, decode (mark :: x) = none)
    {s t : List α} (h : s.flatMap encode ++ mark :: rest = t.flatMap encode ++ mark :: rest') :
    s = t ∧ rest = rest' := by
  induction s generalizing t with
  | nil =>
    cases t with
    | nil => exact ⟨rfl, (List.cons.inj h).2⟩
    | cons b t =>
      have hread := congrArg decode h
      rw [List.flatMap_cons, List.append_assoc, hdecode] at hread
      exact absurd (hmark rest) (by rw [List.flatMap_nil, List.nil_append] at hread; simp [hread])
  | cons a s ih =>
    cases t with
    | nil =>
      have hread := congrArg decode h
      rw [List.flatMap_cons, List.append_assoc, hdecode, List.flatMap_nil, List.nil_append,
        hmark] at hread
      exact absurd hread (by simp)
    | cons b t =>
      have hread := congrArg decode h
      rw [List.flatMap_cons, List.append_assoc, hdecode, List.flatMap_cons, List.append_assoc,
        hdecode] at hread
      injection hread with hread
      injection hread with hfirst hlater
      have hrest := ih hlater
      exact ⟨by rw [hfirst, hrest.1], hrest.2⟩

end Parts

end AgentSpreadsheet.Library
