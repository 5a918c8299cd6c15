import Mathlib.Init

/-! Computations over a state that may fail. A failure keeps what was done
before it, so a contract from a state names what holds on success and what holds
of the state after a failure. -/
namespace AgentSpreadsheet.Library

def Exec (σ ε α : Type) := σ → Except ε α × σ

namespace Exec
variable {σ ε α β : Type}

protected def pure (a : α) : Exec σ ε α := fun s => (.ok a, s)

protected def bind (x : Exec σ ε α) (f : α → Exec σ ε β) : Exec σ ε β := fun s =>
  match x s with
  | (.ok a, s) => f a s
  | (.error e, s) => (.error e, s)

instance : Monad (Exec σ ε) where
  pure := Exec.pure
  bind := Exec.bind

def fail (e : ε) : Exec σ ε α := fun s => (.error e, s)

def get : Exec σ ε σ := fun s => (.ok s, s)

def modify (f : σ → σ) : Exec σ ε Unit := fun s => (.ok (), f s)

def lift (r : Except ε α) : Exec σ ε α := fun s => (r, s)

/-- A step that cannot fail. -/
def act (f : σ → α × σ) : Exec σ ε α := fun s => (.ok (f s).1, (f s).2)

/-- A failure becomes a value; its effects stay. -/
def attempt (x : Exec σ ε α) : Exec σ ε (Except ε α) := fun s => (.ok (x s).1, (x s).2)

/-- A guard that fails with `message` unless `p` holds. -/
def guard (p : Prop) [Decidable p] (message : ε) : Exec σ ε Unit :=
  if p then pure () else fail message

theorem bind_apply (x : Exec σ ε α) (f : α → Exec σ ε β) (s : σ) :
    (x >>= f) s = match x s with
      | (.ok a, t) => f a t
      | (.error e, t) => (.error e, t) := rfl

theorem pure_apply (a : α) (s : σ) : (pure a : Exec σ ε α) s = (.ok a, s) := rfl

theorem lift_apply (r : Except ε α) (s : σ) : lift r s = (r, s) := rfl

theorem act_apply (f : σ → α × σ) (s : σ) : (act f : Exec σ ε α) s = (.ok (f s).1, (f s).2) := rfl

theorem guard_apply (p : Prop) [Decidable p] (message : ε) (s : σ) :
    guard p message s = if p then (.ok (), s) else (.error message, s) := by
  unfold guard
  split <;> rfl

theorem bind_ok_iff {x : Exec σ ε α} {f : α → Exec σ ε β} {s s' : σ} {b : β} :
    (x >>= f) s = (.ok b, s') ↔ ∃ a t, x s = (.ok a, t) ∧ f a t = (.ok b, s') := by
  change Exec.bind x f s = _ ↔ _
  unfold Exec.bind
  cases h : x s with
  | mk result t =>
    cases result with
    | ok a =>
      constructor
      · exact fun hf => ⟨a, t, rfl, hf⟩
      · rintro ⟨_, _, heq, hf⟩
        simp only [Prod.mk.injEq, Except.ok.injEq] at heq
        obtain ⟨rfl, rfl⟩ := heq
        exact hf
    | error e => simp

theorem pure_ok_iff {a b : α} {s s' : σ} :
    (pure a : Exec σ ε α) s = (.ok b, s') ↔ a = b ∧ s = s' := by
  change ((.ok a : Except ε α), s) = _ ↔ _
  simp

theorem fail_ok_iff {e : ε} {b : α} {s s' : σ} :
    (fail e : Exec σ ε α) s = (.ok b, s') ↔ False := by
  simp [fail]

theorem lift_ok_iff {r : Except ε α} {b : α} {s s' : σ} :
    lift r s = (.ok b, s') ↔ r = .ok b ∧ s = s' := by
  simp [lift]

theorem get_ok_iff {a s s' : σ} :
    (get : Exec σ ε σ) s = (.ok a, s') ↔ a = s ∧ s' = s := by
  simp [get, eq_comm]

theorem modify_ok_iff {f : σ → σ} {u : Unit} {s s' : σ} :
    (modify f : Exec σ ε Unit) s = (.ok u, s') ↔ s' = f s := by
  simp [modify, eq_comm]

theorem act_ok_iff {f : σ → α × σ} {a : α} {s s' : σ} :
    (act f : Exec σ ε α) s = (.ok a, s') ↔ f s = (a, s') := by
  rw [act_apply, Prod.mk.injEq, Except.ok.injEq, Prod.ext_iff]

theorem guard_ok_iff {p : Prop} [Decidable p] {message : ε} {u : Unit} {s s' : σ} :
    guard p message s = (.ok u, s') ↔ p ∧ s = s' := by
  unfold guard
  split
  · rename_i hp
    simp [pure_ok_iff, hp]
  · rename_i hp
    simp [fail_ok_iff, hp]

/-- Run from `s`, the computation succeeds into `Q` or fails into `E`. -/
def Ends (x : Exec σ ε α) (s : σ) (Q : α → σ → Prop) (E : σ → Prop) : Prop :=
  match x s with
  | (.ok a, s') => Q a s'
  | (.error _, s') => E s'

/-- Every end of the computation is in `P`. -/
abbrev EndsIn (x : Exec σ ε α) (s : σ) (P : σ → Prop) : Prop := Ends x s (fun _ => P) P

variable {Q Q' : α → σ → Prop} {R : β → σ → Prop} {E E' : σ → Prop} {s : σ}
  {x : Exec σ ε α} {f : α → Exec σ ε β}

theorem Ends.bind (hx : Ends x s Q E) (hf : ∀ a s', Q a s' → Ends (f a) s' R E) :
    Ends (x >>= f) s R E := by
  unfold Ends at hx
  change match Exec.bind x f s with
    | (.ok b, s') => R b s'
    | (.error _, s') => E s'
  unfold Exec.bind
  cases h : x s with
  | mk result s' =>
    rw [h] at hx
    cases result with
    | ok a => exact hf a s' hx
    | error e => exact hx

theorem Ends.mono (hx : Ends x s Q E) (hok : ∀ a s', Q a s' → Q' a s')
    (herror : ∀ s', E s' → E' s') : Ends x s Q' E' := by
  unfold Ends at hx ⊢
  cases h : x s with
  | mk result s' =>
    rw [h] at hx
    cases result with
    | ok a => exact hok a s' hx
    | error e => exact herror s' hx

theorem ends_self (x : Exec σ ε α) (s : σ) :
    Ends x s (fun a s' => x s = (.ok a, s')) (fun s' => ∃ e, x s = (.error e, s')) := by
  unfold Ends
  cases h : x s with
  | mk result s' =>
    cases result with
    | ok a => rfl
    | error e => exact ⟨e, rfl⟩

theorem Ends.ok (hx : Ends x s Q E) {a : α} {s' : σ} (h : x s = (.ok a, s')) : Q a s' := by
  unfold Ends at hx
  rwa [h] at hx

theorem Ends.error (hx : Ends x s Q E) {e : ε} {s' : σ} (h : x s = (.error e, s')) : E s' := by
  unfold Ends at hx
  rwa [h] at hx

/-- A contract that says the same of every end holds of the state it ends in. -/
theorem Ends.final {P : σ → Prop} (hx : EndsIn x s P) : P (x s).2 := by
  unfold EndsIn Ends at hx
  cases h : x s with
  | mk result s' =>
    rw [h] at hx
    cases result <;> exact hx

theorem ends_pure {a : α} (h : Q a s) : Ends (pure a : Exec σ ε α) s Q E := h

theorem ends_fail {e : ε} (h : E s) : Ends (fail e) s Q E := h

theorem ends_modify {g : σ → σ} {Q : Unit → σ → Prop} (h : Q () (g s)) :
    Ends (modify g : Exec σ ε Unit) s Q E := h

theorem ends_lift {r : Except ε α} (hok : ∀ a, r = .ok a → Q a s)
    (herror : ∀ e, r = .error e → E s) : Ends (lift r) s Q E := by
  unfold Ends lift
  cases r with
  | ok a => exact hok a rfl
  | error e => exact herror e rfl

theorem ends_guard {p : Prop} [Decidable p] {message : ε} {Q : Unit → σ → Prop}
    (hok : p → Q () s) (herror : ¬p → E s) : Ends (guard p message) s Q E := by
  unfold guard
  split
  · exact ends_pure (hok ‹p›)
  · exact ends_fail (herror ‹¬p›)

theorem ends_get_bind {f : σ → Exec σ ε β} (h : Ends (f s) s R E) : Ends (get >>= f) s R E := h

theorem ends_modify_bind {g : σ → σ} {f : Unit → Exec σ ε β} (h : Ends (f ()) (g s) R E) :
    Ends (modify g >>= f) s R E := h

theorem ends_lift_bind {r : Except ε α} (hok : ∀ a, r = .ok a → Ends (f a) s R E)
    (herror : ∀ e, r = .error e → E s) : Ends (lift r >>= f) s R E := by
  cases r with
  | ok a => exact hok a rfl
  | error e => exact herror e rfl

theorem ends_guard_bind {p : Prop} [Decidable p] {message : ε} {f : Unit → Exec σ ε β}
    (hok : p → Ends (f ()) s R E) (herror : ¬p → E s) :
    Ends (guard p message >>= f) s R E := by
  unfold guard
  split
  · exact hok ‹p›
  · exact herror ‹¬p›

/-- Whatever the computation does, it keeps the invariant. -/
def Keeps (I : σ → Prop) (x : Exec σ ε α) : Prop := ∀ s, I s → EndsIn x s I

section Keeps
variable {I : σ → Prop}

theorem Keeps.bind (hx : Keeps I x) (hf : ∀ a, Keeps I (f a)) : Keeps I (x >>= f) :=
  fun s hs => (hx s hs).bind fun a s' hs' => hf a s' hs'

theorem keeps_pure (a : α) : Keeps I (pure a : Exec σ ε α) := fun _ hs => hs

theorem keeps_get : Keeps I (get : Exec σ ε σ) := fun _ hs => hs

theorem keeps_fail (e : ε) : Keeps I (fail e : Exec σ ε α) := fun _ hs => hs

theorem keeps_modify {g : σ → σ} (hg : ∀ s, I s → I (g s)) :
    Keeps I (modify g : Exec σ ε Unit) := hg

theorem keeps_lift (r : Except ε α) : Keeps I (lift r : Exec σ ε α) :=
  fun _ hs => ends_lift (fun _ _ => hs) fun _ _ => hs

theorem keeps_guard (p : Prop) [Decidable p] (message : ε) :
    Keeps I (guard p message : Exec σ ε Unit) :=
  fun _ hs => ends_guard (fun _ => hs) fun _ => hs

end Keeps

theorem Ends.attempt (hx : Ends x s Q E) :
    Ends (attempt x) s (fun r s' => match r with
      | .ok a => Q a s'
      | .error _ => E s') E' := by
  unfold Ends at hx ⊢
  unfold Exec.attempt
  cases h : x s with
  | mk result s' =>
    rw [h] at hx
    cases result <;> exact hx

end Exec

end AgentSpreadsheet.Library
