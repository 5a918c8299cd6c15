import AgentSpreadsheet.Library.Guard
import AgentSpreadsheet.Library.Paging

/-! Computations that end in a value, in an error, or in a fault: a sum or a difference that is no
number of its type, or a slice outside of a list. -/
namespace AgentSpreadsheet.Library

inductive Stop (ε : Type) where
  | refused (error : ε)
  | panicked
  deriving DecidableEq, Repr

abbrev Checked (ε α : Type) := Except (Stop ε) α

section Faults
variable {ε α β : Type}

/-- A computation without faults. -/
def faultless : Except ε α → Checked ε α
  | .ok a => .ok a
  | .error e => .error (.refused e)

/-- No fault stops the computation. -/
def Calm (x : Checked ε α) : Prop := x ≠ .error .panicked

def checkedAdd (largest a b : Nat) : Checked ε Nat :=
  if a + b ≤ largest then .ok (a + b) else .error .panicked

def checkedMul (largest a b : Nat) : Checked ε Nat :=
  if a * b ≤ largest then .ok (a * b) else .error .panicked

def checkedSub (a b : Nat) : Checked ε Nat :=
  if b ≤ a then .ok (a - b) else .error .panicked

/-- The first `count` items of a list that has as many. -/
def sliceTo (items : List α) (count : Nat) : Checked ε (List α) :=
  if count ≤ items.length then .ok (items.take count) else .error .panicked

@[simp] theorem faultless_ok (a : α) : faultless (.ok a : Except ε α) = .ok a := rfl

@[simp] theorem faultless_error (e : ε) : faultless (.error e : Except ε α) = .error (.refused e) := rfl

theorem faultless_bind (x : Except ε α) (f : α → Except ε β) :
    faultless (x >>= f) = faultless x >>= fun a => faultless (f a) := by
  cases x <;> rfl

@[simp] theorem faultless_eq_ok {x : Except ε α} {a : α} : faultless x = .ok a ↔ x = .ok a := by
  cases x <;> simp [faultless]

@[simp] theorem calm_ok (a : α) : Calm (.ok a : Checked ε α) := by
  simp [Calm]

@[simp] theorem calm_refused (e : ε) : Calm (.error (.refused e) : Checked ε α) := by
  simp [Calm]

@[simp] theorem not_calm_panicked : ¬ Calm (.error .panicked : Checked ε α) := by
  simp [Calm]

theorem calm_faultless (x : Except ε α) : Calm (faultless x) := by
  cases x <;> simp

theorem calm_bind {x : Checked ε α} {f : α → Checked ε β} :
    Calm (x >>= f) ↔ Calm x ∧ ∀ a, x = .ok a → Calm (f a) := by
  cases x with
  | error stop => simp [Calm, bind, Except.bind]
  | ok a => simp [Calm, bind, Except.bind]

theorem calm_map {x : Checked ε α} {f : α → β} : Calm (f <$> x) ↔ Calm x := by
  cases x <;> simp [Calm, Functor.map, Except.map]

theorem calm_mapM {f : α → Checked ε β} {items : List α} (h : ∀ item ∈ items, Calm (f item)) :
    Calm (items.mapM f) := by
  induction items with
  | nil => exact calm_ok _
  | cons item rest ih =>
    rw [List.mapM_cons, calm_bind]
    apply And.intro (h item List.mem_cons_self)
    intro _ _
    rw [calm_bind]
    exact ⟨ih fun item hitem => h item (List.mem_cons_of_mem _ hitem), fun _ _ => calm_ok _⟩

theorem checkedAdd_of_le {largest a b : Nat} (h : a + b ≤ largest) :
    (checkedAdd largest a b : Checked ε Nat) = .ok (a + b) := if_pos h

theorem checkedMul_of_le {largest a b : Nat} (h : a * b ≤ largest) :
    (checkedMul largest a b : Checked ε Nat) = .ok (a * b) := if_pos h

theorem checkedSub_of_le {a b : Nat} (h : b ≤ a) : (checkedSub a b : Checked ε Nat) = .ok (a - b) :=
  if_pos h

theorem sliceTo_of_le {items : List α} {count : Nat} (h : count ≤ items.length) :
    (sliceTo items count : Checked ε (List α)) = .ok (items.take count) := if_pos h

theorem calm_checkedAdd {largest a b : Nat} :
    Calm (checkedAdd largest a b : Checked ε Nat) ↔ a + b ≤ largest := by
  unfold checkedAdd
  split <;> simp [*]

theorem calm_checkedSub {a b : Nat} : Calm (checkedSub a b : Checked ε Nat) ↔ b ≤ a := by
  unfold checkedSub
  split <;> simp [*]

end Faults

/-! ### Halving -/

section Bisect
variable {ε : Type} (fits : Nat → Checked ε Bool)

/-- Halving with a test that may fail. -/
def checkedBisect : Nat → Nat → Nat → Checked ε Nat
  | 0, low, _ => .ok low
  | fuel + 1, low, high =>
    if low < high then do
      let within ← fits ((low + high + 1) / 2)
      if within then checkedBisect fuel ((low + high + 1) / 2) high
      else checkedBisect fuel low ((low + high + 1) / 2 - 1)
    else .ok low

variable {fits}

/-- A test that gives an answer for each number it is asked is asked as in plain halving. -/
theorem checkedBisect_eq {answer : Nat → Bool} {bound : Nat}
    (h : ∀ count, 0 < count → count ≤ bound → fits count = .ok (answer count)) (fuel : Nat)
    {low high : Nat} (hhigh : high ≤ bound) :
    checkedBisect fits fuel low high = .ok (bisect answer fuel low high) := by
  induction fuel generalizing low high with
  | zero => rfl
  | succ fuel ih =>
    unfold checkedBisect bisect
    by_cases hlow : low < high
    · rw [if_pos hlow, if_pos hlow, h _ (by omega) (by omega)]
      dsimp only [bind, Except.bind]
      split
      · exact ih hhigh
      · exact ih (by omega)
    · rw [if_neg hlow, if_neg hlow]

end Bisect

end AgentSpreadsheet.Library
