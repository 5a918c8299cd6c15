import AgentSpreadsheet.Library.Exec

/-! Programs of atomic accesses to something shared. A script says what is
accessed next and goes on with the answer; it can be run on its own, or one
access at a time between the accesses of others. -/
namespace AgentSpreadsheet.Library

/-- `Ans act` is the type of the answers to `act`. -/
inductive Script {Act : Type} (Ans : Act → Type) (ε α : Type) where
  | done (result : Except ε α)
  | call (act : Act) (next : Ans act → Script Ans ε α)

namespace Script
variable {Act : Type} {Ans : Act → Type} {σ ε α β : Type}

protected def bind : Script Ans ε α → (α → Script Ans ε β) → Script Ans ε β
  | done (.ok a), f => f a
  | done (.error e), _ => done (.error e)
  | call act next, f => call act fun answer => (next answer).bind f

instance : Monad (Script Ans ε) where
  pure := fun a => done (.ok a)
  bind := Script.bind

def fail (e : ε) : Script Ans ε α := done (.error e)

def lift (r : Except ε α) : Script Ans ε α := done r

def guard (p : Prop) [Decidable p] (message : ε) : Script Ans ε Unit :=
  if p then pure () else fail message

def access (act : Act) : Script Ans ε (Ans act) := call act pure

theorem bind_assoc {γ : Type} (x : Script Ans ε α) (f : α → Script Ans ε β)
    (g : β → Script Ans ε γ) : (x >>= f) >>= g = x >>= fun a => f a >>= g := by
  change (x.bind f).bind g = x.bind fun a => (f a).bind g
  induction x with
  | done result => cases result <;> rfl
  | call act next ih =>
    change call act _ = call act _
    congr 1
    funext answer
    exact ih answer

/-- Run a script with nothing in between. -/
def exec (perform : (act : Act) → σ → Ans act × σ) : Script Ans ε α → Exec σ ε α
  | done result, s => (result, s)
  | call act next, s => exec perform (next (perform act s).1) (perform act s).2

variable {perform : (act : Act) → σ → Ans act × σ}

@[simp] theorem exec_pure (a : α) :
    exec perform (pure a : Script Ans ε α) = (pure a : Exec σ ε α) := rfl

@[simp] theorem exec_fail (e : ε) :
    exec perform (fail e : Script Ans ε α) = (Exec.fail e : Exec σ ε α) := rfl

@[simp] theorem exec_lift (r : Except ε α) :
    exec perform (lift r : Script Ans ε α) = (Exec.lift r : Exec σ ε α) := rfl

@[simp] theorem exec_guard (p : Prop) [Decidable p] (message : ε) :
    exec perform (guard p message : Script Ans ε Unit) = Exec.guard p message := by
  unfold guard Exec.guard
  split <;> rfl

@[simp] theorem exec_access (act : Act) :
    exec perform (access act : Script Ans ε (Ans act)) =
      (Exec.act (perform act) : Exec σ ε (Ans act)) := rfl

/-- A script runs as its parts do. -/
@[simp] theorem exec_bind (x : Script Ans ε α) (f : α → Script Ans ε β) :
    exec perform (x >>= f) = exec perform x >>= fun a => exec perform (f a) := by
  funext s
  change exec perform (x.bind f) s = Exec.bind (exec perform x) _ s
  induction x generalizing s with
  | done result =>
    cases result with
    | ok a => rfl
    | error e => rfl
  | call act next ih => exact ih (perform act s).1 (perform act s).2

/-! ### Stopping -/

/-- The states a script can be stopped in: before, between and after its accesses. -/
inductive Stops (perform : (act : Act) → σ → Ans act × σ) : Script Ans ε α → σ → σ → Prop
  | here {x : Script Ans ε α} {s : σ} : Stops perform x s s
  | later {act : Act} {next : Ans act → Script Ans ε α} {s t : σ}
      (h : Stops perform (next (perform act s).1) (perform act s).2 t) :
      Stops perform (call act next) s t

variable {x : Script Ans ε α} {f : α → Script Ans ε β} {s t : σ}

/-- A sequence is stopped in its first part or, that part done, in its second. -/
theorem Stops.split (h : Stops perform (x >>= f) s t) :
    Stops perform x s t ∨
      ∃ a u, exec perform x s = (.ok a, u) ∧ Stops perform (f a) u t := by
  change Stops perform (x.bind f) s t at h
  induction x generalizing s with
  | done result =>
    cases result with
    | ok a => exact .inr ⟨a, s, rfl, h⟩
    | error e =>
      cases h
      exact .inl .here
  | call act next ih =>
    cases h with
    | here => exact .inl .here
    | later h =>
      rcases ih _ h with h | ⟨a, u, hexec, h⟩
      · exact .inl (.later h)
      · exact .inr ⟨a, u, hexec, h⟩

theorem Stops.done_eq {result : Except ε α}
    (h : Stops perform (done result : Script Ans ε α) s t) : t = s := by
  cases h
  rfl

theorem Stops.access_eq {act : Act} (h : Stops perform (access act : Script Ans ε _) s t) :
    t = s ∨ t = (perform act s).2 := by
  cases h with
  | here => exact .inl rfl
  | later h => exact .inr h.done_eq

theorem stops_exec (x : Script Ans ε α) (s : σ) : Stops perform x s (exec perform x s).2 := by
  induction x generalizing s with
  | done result => exact .here
  | call act next ih => exact .later (ih _ _)

/-- The state after some number of accesses. -/
def execFor (perform : (act : Act) → σ → Ans act × σ) : Nat → Script Ans ε α → σ → σ
  | 0, _, s => s
  | _ + 1, done _, s => s
  | n + 1, call act next, s => execFor perform n (next (perform act s).1) (perform act s).2

theorem stops_execFor (n : Nat) (x : Script Ans ε α) (s : σ) :
    Stops perform x s (execFor perform n x s) := by
  induction n generalizing x s with
  | zero => exact .here
  | succ n ih =>
    cases x with
    | done result => exact .here
    | call act next => exact .later (ih _ _)

/-- Every access of a script is one of the named ones, whatever it is answered. -/
def Within (P : Act → Prop) : Script Ans ε α → Prop
  | done _ => True
  | call act next => P act ∧ ∀ answer, Within P (next answer)

variable {P Q : Act → Prop}

theorem within_pure (a : α) : Within P (pure a : Script Ans ε α) := trivial

theorem within_lift (r : Except ε α) : Within P (lift r : Script Ans ε α) := trivial

theorem within_fail (e : ε) : Within P (fail e : Script Ans ε α) := trivial

theorem within_guard (p : Prop) [Decidable p] (message : ε) :
    Within P (guard p message : Script Ans ε Unit) := by
  unfold guard
  split
  · exact within_pure ()
  · exact within_fail message

theorem within_access {act : Act} (h : P act) : Within P (access act : Script Ans ε (Ans act)) :=
  ⟨h, fun answer => within_pure answer⟩

theorem Within.bind (hx : Within P x) (hf : ∀ a, Within P (f a)) : Within P (x >>= f) := by
  change Within P (x.bind f)
  induction x with
  | done result =>
    cases result with
    | ok a => exact hf a
    | error e => trivial
  | call act next ih => exact ⟨hx.1, fun answer => ih answer (hx.2 answer)⟩

theorem Within.mono (hx : Within P x) (h : ∀ act, P act → Q act) : Within Q x := by
  induction x with
  | done result => trivial
  | call act next ih => exact ⟨h act hx.1, fun answer => ih answer (hx.2 answer)⟩

/-- What each named access keeps, the script keeps wherever it is stopped. -/
theorem Within.stops {I : σ → Prop} (hx : Within P x)
    (hkeeps : ∀ act s, P act → I s → I (perform act s).2) (hs : I s)
    (h : Stops perform x s t) : I t := by
  induction h with
  | here => exact hs
  | later h ih => exact ih (hx.2 _) (hkeeps _ _ hx.1 hs)

/-- What was found out of a failed script goes on as a value. -/
def attempt : Script Ans ε α → Script Ans ε (Except ε α)
  | done result => done (.ok result)
  | call act next => call act fun answer => (next answer).attempt

theorem exec_attempt (x : Script Ans ε α) (s : σ) :
    exec perform x.attempt s = (.ok (exec perform x s).1, (exec perform x s).2) := by
  induction x generalizing s with
  | done result => rfl
  | call act next ih => exact ih _ _

theorem Stops.attempt (h : Stops perform x.attempt s t) : Stops perform x s t := by
  induction x generalizing s with
  | done result =>
    cases h
    exact .here
  | call act next ih =>
    cases h with
    | here => exact .here
    | later h => exact .later (ih _ h)

/-! ### Monitors -/

section Monitor
variable {μ : Type} {observe : (act : Act) → Ans act → μ → μ} {allowed : Act → μ → Prop}

/-- A monitor follows the accesses and their answers; every access is allowed when
it is made, whatever was answered before. -/
def Monitored (observe : (act : Act) → Ans act → μ → μ) (allowed : Act → μ → Prop) :
    Script Ans ε α → μ → Prop
  | done _, _ => True
  | call act next, m =>
    allowed act m ∧ ∀ answer, (next answer).Monitored observe allowed (observe act answer m)

/-- Go on from whatever the monitor has seen by then. -/
theorem Monitored.bind {m : μ} (hx : Monitored observe allowed x m)
    (hf : ∀ a m, Monitored observe allowed (f a) m) : Monitored observe allowed (x >>= f) m := by
  change Monitored observe allowed (x.bind f) m
  induction x generalizing m with
  | done result =>
    cases result with
    | ok a => exact hf a m
    | error e => trivial
  | call act next ih => exact ⟨hx.1, fun answer => ih answer (hx.2 answer)⟩

theorem Monitored.attempt {m : μ} (hx : Monitored observe allowed x m) :
    Monitored observe allowed x.attempt m := by
  induction x generalizing m with
  | done result => trivial
  | call act next ih => exact ⟨hx.1, fun answer => ih answer (hx.2 answer)⟩

theorem Within.monitored (hx : Within P x) (hallowed : ∀ act m, P act → allowed act m) (m : μ) :
    Monitored observe allowed x m := by
  induction x generalizing m with
  | done result => trivial
  | call act next ih => exact ⟨hallowed act m hx.1, fun answer => ih answer (hx.2 answer) _⟩

end Monitor

end Script

end AgentSpreadsheet.Library
