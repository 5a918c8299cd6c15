import Mathlib.Algebra.GroupWithZero.Nat
import Mathlib.Data.List.Induction

/-! Fail-fast checking in `Except`. A validator is a sequence of named guards;
its success is exactly the conjunction of what the guards assert. -/
namespace AgentSpreadsheet.Library

/-- A guard that fails with `message` unless `p` holds. -/
def ensure (p : Prop) [Decidable p] (message : ε) : Except ε Unit :=
  if p then .ok () else .error message

/-- The value under an option, or a named failure. -/
def required (value : Option α) (message : ε) : Except ε α :=
  match value with
  | some a => .ok a
  | none => .error message

@[simp] theorem bind_eq_ok {x : Except ε α} {f : α → Except ε β} {b : β} :
    (x >>= f) = .ok b ↔ ∃ a, x = .ok a ∧ f a = .ok b := by
  cases x <;> simp [bind, Except.bind]

/-- The same for a check, whose success carries nothing. -/
theorem check_bind_eq_ok {x : Except ε Unit} {f : Unit → Except ε β} {b : β} :
    (x >>= f) = .ok b ↔ x = .ok () ∧ f () = .ok b := by
  cases x <;> simp [bind, Except.bind]

@[simp] theorem pure_eq_ok {a b : α} : (pure a : Except ε α) = .ok b ↔ a = b := by
  simp [pure, Except.pure]

@[simp] theorem map_eq_ok {x : Except ε α} {f : α → β} {b : β} :
    f <$> x = .ok b ↔ ∃ a, x = .ok a ∧ f a = b := by
  cases x <;> simp [Functor.map, Except.map]

@[simp] theorem ensure_eq_ok {p : Prop} [Decidable p] {message : ε} {u : Unit} :
    ensure p message = .ok u ↔ p := by
  unfold ensure
  split <;> simp_all

theorem ensure_pos {p : Prop} [Decidable p] (h : p) (message : ε) :
    ensure p message = .ok () := if_pos h

theorem ensure_neg {p : Prop} [Decidable p] (h : ¬p) (message : ε) :
    ensure p message = .error message := if_neg h

@[simp] theorem required_eq_ok {value : Option α} {message : ε} {a : α} :
    required value message = .ok a ↔ value = some a := by
  cases value <;> simp [required]

theorem exists_ok_of_any {x : Except ε α} {p : α → Bool} (h : x.toOption.any p = true) :
    ∃ a, x = .ok a ∧ p a = true := by
  cases x with
  | error e => simp [Except.toOption] at h
  | ok a => exact ⟨a, rfl, by simpa [Except.toOption] using h⟩

/-- A loop of checks succeeds exactly when each of them does. -/
theorem forM_eq_ok {check : α → Except ε Unit} {xs : List α} :
    xs.forM check = .ok () ↔ ∀ x ∈ xs, check x = .ok () := by
  induction xs with
  | nil => simp
  | cons x rest ih =>
    rw [List.forM, check_bind_eq_ok, ih]
    simp

/-- A loop that folds a checked step succeeds on an extended input exactly when
it succeeds on the part before and then on the added element. -/
theorem foldlM_concat_eq_ok {step : σ → α → Except ε σ} {xs : List α} {x : α} {s t : σ} :
    (xs ++ [x]).foldlM step s = .ok t ↔
      ∃ u, xs.foldlM step s = .ok u ∧ step u x = .ok t := by
  simp [List.foldlM_append]

/-- What one checked step preserves, a whole checked fold preserves. -/
theorem foldlM_invariant {step : σ → α → Except ε σ} {motive : List α → σ → Prop}
    {s : σ} (base : motive [] s)
    (next : ∀ xs x u t, motive xs u → step u x = .ok t → motive (xs ++ [x]) t)
    {xs : List α} {t : σ} (h : xs.foldlM step s = .ok t) : motive xs t := by
  induction xs using List.reverseRecOn generalizing t with
  | nil =>
    simp only [List.foldlM_nil, pure_eq_ok] at h
    exact h ▸ base
  | append_singleton xs x ih =>
    obtain ⟨u, hu, hx⟩ := foldlM_concat_eq_ok.mp h
    exact next xs x u t (ih hu) hx

end AgentSpreadsheet.Library
