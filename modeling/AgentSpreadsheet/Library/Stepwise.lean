import Mathlib.Data.List.Basic

/-! Runs of a step function. An invariant that each step keeps exactly when the step
is clear holds all along a run exactly when each of its steps is clear. -/
namespace AgentSpreadsheet.Library

section Stepwise
variable {σ α : Type*} (step : σ → α → σ)

/-- The state after the first steps of a run. -/
def stateAfter (start : σ) (run : List α) (n : Nat) : σ := (run.take n).foldl step start

/-- Each step of a run, in the state it is taken in. -/
def AllSteps (P : σ → α → Prop) (start : σ) (run : List α) : Prop :=
  ∀ (n : Nat) (a : α), run[n]? = some a → P (stateAfter step start run n) a

variable {step} {Inv : σ → Prop} {P Q : σ → α → Prop} {start : σ} {a : α} {run : List α}

@[simp] theorem stateAfter_zero : stateAfter step start run 0 = start := rfl

theorem stateAfter_nil (n : Nat) : stateAfter step start [] n = start := by
  simp [stateAfter]

theorem allSteps_nil : AllSteps step P start [] := by
  intro n a h
  simp at h

theorem allSteps_cons : AllSteps step P start (a :: run) ↔
    P start a ∧ AllSteps step P (step start a) run := by
  constructor
  · intro h
    exact ⟨h 0 a rfl, fun n b hb => h (n + 1) b hb⟩
  · intro h n b hb
    cases n with
    | zero => exact Option.some.inj hb ▸ h.1
    | succ n => exact h.2 n b hb

theorem forall_stateAfter_cons : (∀ n, Inv (stateAfter step start (a :: run) n)) ↔
    Inv start ∧ ∀ n, Inv (stateAfter step (step start a) run n) := by
  constructor
  · intro h
    exact ⟨h 0, fun n => h (n + 1)⟩
  · intro h n
    cases n with
    | zero => exact h.1
    | succ n => exact h.2 n

/-- The run rule. The steps may be asked for more than the invariant. -/
theorem kept_along_iff (hstep : ∀ s a, Inv s → (Inv (step s a) ∧ P s a ↔ Q s a)) (h : Inv start) :
    (∀ n, Inv (stateAfter step start run n)) ∧ AllSteps step P start run ↔
      AllSteps step Q start run := by
  induction run generalizing start with
  | nil =>
    apply iff_of_true _ allSteps_nil
    apply And.intro _ allSteps_nil
    intro n
    rw [stateAfter_nil]
    exact h
  | cons a run ih =>
    rw [forall_stateAfter_cons, allSteps_cons, allSteps_cons, ← hstep start a h]
    constructor
    · intro ⟨⟨_, hlater⟩, hfirst, hsteps⟩
      exact ⟨⟨hlater 0, hfirst⟩, (ih (hlater 0)).mp ⟨hlater, hsteps⟩⟩
    · intro ⟨⟨hnext, hfirst⟩, hsteps⟩
      have hrest := (ih hnext).mpr hsteps
      exact ⟨⟨h, hrest.1⟩, hfirst, hrest.2⟩

theorem invariant_along_iff (hstep : ∀ s a, Inv s → (Inv (step s a) ↔ Q s a)) (h : Inv start) :
    (∀ n, Inv (stateAfter step start run n)) ↔ AllSteps step Q start run := by
  rw [← kept_along_iff (P := fun _ _ => True) (fun s a hs => by simpa using hstep s a hs) h]
  exact (and_iff_left fun _ _ _ => trivial).symm

end Stepwise

end AgentSpreadsheet.Library
