import AgentSpreadsheet.Library.Guard
import Mathlib.Data.List.Forall2

/-! Lists related element by element. -/
namespace AgentSpreadsheet.Library

section Lists
variable {ε α β γ : Type} {R : α → β → Prop} {xs : List α} {ys : List β}

theorem mapM_eq_ok {f : α → Except ε β} :
    xs.mapM f = .ok ys ↔ List.Forall₂ (fun x y => f x = .ok y) xs ys := by
  induction xs generalizing ys with
  | nil =>
    rw [List.mapM_nil, List.forall₂_nil_left_iff]
    simp [pure, Except.pure, eq_comm]
  | cons x xs ih =>
    rw [List.mapM_cons, List.forall₂_cons_left_iff, bind_eq_ok]
    constructor
    · intro ⟨y, hy, hrest⟩
      obtain ⟨rest, hrest, hys⟩ := bind_eq_ok.mp hrest
      exact ⟨y, rest, hy, ih.mp hrest, (pure_eq_ok.mp hys).symm⟩
    · intro ⟨y, rest, hy, hrest, hys⟩
      exact ⟨y, hy, bind_eq_ok.mpr ⟨rest, ih.mpr hrest, pure_eq_ok.mpr hys.symm⟩⟩

theorem mapM_all {f : α → Except ε β} {p : β → Prop} :
    (∃ ys, xs.mapM f = .ok ys ∧ ∀ y ∈ ys, p y) ↔ ∀ x ∈ xs, ∃ y, f x = .ok y ∧ p y := by
  induction xs with
  | nil => simp [pure, Except.pure]
  | cons x xs ih =>
    rw [List.forall_mem_cons, ← ih]
    simp only [List.mapM_cons, bind_eq_ok, pure_eq_ok]
    constructor
    · intro h
      obtain ⟨_, ⟨y, hy, ys, hys, rfl⟩, hall⟩ := h
      have hall := List.forall_mem_cons.mp hall
      exact ⟨⟨y, hy, hall.1⟩, ys, hys, hall.2⟩
    · intro h
      obtain ⟨⟨y, hy, hp⟩, ys, hys, hall⟩ := h
      exact ⟨y :: ys, ⟨y, hy, ys, hys, rfl⟩, List.forall_mem_cons.mpr ⟨hp, hall⟩⟩

theorem mapM_isOk {f : α → Except ε β} :
    (∃ ys, xs.mapM f = .ok ys) ↔ ∀ x ∈ xs, ∃ y, f x = .ok y := by
  simpa using @mapM_all ε α β xs f fun _ => True

theorem forall₂_imp_mem {S : α → β → Prop} (h : List.Forall₂ R xs ys)
    (himp : ∀ x ∈ xs, ∀ y ∈ ys, R x y → S x y) : List.Forall₂ S xs ys := by
  induction h with
  | nil => exact .nil
  | cons hxy _ ih =>
    apply List.Forall₂.cons (himp _ List.mem_cons_self _ List.mem_cons_self hxy)
    exact ih fun x hx y hy => himp x (List.mem_cons_of_mem _ hx) y (List.mem_cons_of_mem _ hy)

theorem forall₂_trans_mem {S : β → γ → Prop} {T : α → γ → Prop} {zs : List γ}
    (h : List.Forall₂ R xs ys) (h' : List.Forall₂ S ys zs)
    (himp : ∀ x ∈ xs, ∀ y z, R x y → S y z → T x z) : List.Forall₂ T xs zs := by
  induction h generalizing zs with
  | nil =>
    cases h'
    exact .nil
  | cons hxy _ ih =>
    cases h' with
    | cons hyz hrest =>
      apply List.Forall₂.cons (himp _ List.mem_cons_self _ _ hxy hyz)
      exact ih hrest fun x hx => himp x (List.mem_cons_of_mem _ hx)

/-- Each element of the first list has its partner in the second. -/
theorem forall₂_partner (h : List.Forall₂ R xs ys) {x : α} (hx : x ∈ xs) : ∃ y ∈ ys, R x y := by
  induction h with
  | nil => exact absurd hx List.not_mem_nil
  | cons hxy _ ih =>
    rcases List.mem_cons.mp hx with hx | hx
    · rw [hx]
      exact ⟨_, List.mem_cons_self, hxy⟩
    · obtain ⟨y, hy, hrelated⟩ := ih hx
      exact ⟨y, List.mem_cons_of_mem _ hy, hrelated⟩

theorem forall₂_both {S : α → β → Prop} (h : List.Forall₂ R xs ys) (h' : List.Forall₂ S xs ys) :
    List.Forall₂ (fun x y => R x y ∧ S x y) xs ys := by
  induction h with
  | nil => exact .nil
  | cons hxy _ ih =>
    cases h' with
    | cons hxy' hrest => exact .cons ⟨hxy, hxy'⟩ (ih hrest)

theorem exists_forall₂ (h : ∀ x ∈ xs, ∃ y, R x y) : ∃ ys, List.Forall₂ R xs ys := by
  induction xs with
  | nil => exact ⟨[], .nil⟩
  | cons x xs ih =>
    obtain ⟨y, hy⟩ := h x List.mem_cons_self
    obtain ⟨ys, hys⟩ := ih fun z hz => h z (List.mem_cons_of_mem _ hz)
    exact ⟨y :: ys, .cons hy hys⟩

theorem forall₂_flatMap {f : α → List γ} {g : β → List γ} {S : γ → γ → Prop}
    (h : List.Forall₂ (fun x y => List.Forall₂ S (f x) (g y)) xs ys) :
    List.Forall₂ S (xs.flatMap f) (ys.flatMap g) := by
  induction h with
  | nil => exact .nil
  | cons hxy _ ih =>
    rw [List.flatMap_cons, List.flatMap_cons]
    exact List.rel_append hxy ih

theorem map_eq_of_forall₂ {f : α → γ} {g : β → γ} (h : List.Forall₂ R xs ys)
    (heq : ∀ x ∈ xs, ∀ y ∈ ys, R x y → f x = g y) : xs.map f = ys.map g := by
  rw [← List.forall₂_eq_eq_eq, List.forall₂_map_left_iff, List.forall₂_map_right_iff]
  exact forall₂_imp_mem h heq

end Lists

end AgentSpreadsheet.Library
