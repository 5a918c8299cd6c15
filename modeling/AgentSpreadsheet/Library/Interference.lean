import AgentSpreadsheet.Library.Script
import Mathlib.Logic.Function.Basic

/-! Scripts that run side by side on one shared state. Each task is proved on its own,
against whatever the others may do between two of its accesses. -/
namespace AgentSpreadsheet.Library

/-- What can happen to the shared state. A task whose access has no outcome waits. -/
structure Sharing (ι : Type) {Act : Type} (Ans : Act → Type) (σ : Type) where
  initial : σ → Prop
  performs : ι → (act : Act) → σ → Ans act → σ → Prop
  /-- What the end of a task gives back. -/
  release : ι → σ → σ
  /-- What happens besides the tasks. -/
  event : σ → σ → Prop

/-- The shared state and the rest of every task under way. -/
structure World (ι : Type) {Act : Type} (Ans : Act → Type) (ε α σ : Type) where
  shared : σ
  tasks : ι → Option (Script Ans ε α)

section Interleaving
variable {ι Act : Type} {Ans : Act → Type} {ε α β σ : Type} [DecidableEq ι]

/-- The worlds of all interleavings of tasks that run the programs. -/
inductive World.Reached (sharing : Sharing ι Ans σ) (program : Script Ans ε α → Prop) :
    World ι Ans ε α σ → Prop
  | start {s : σ} : sharing.initial s → Reached sharing program ⟨s, fun _ => none⟩
  | begin {w : World ι Ans ε α σ} {i : ι} {x : Script Ans ε α} : Reached sharing program w →
      w.tasks i = none → program x →
      Reached sharing program ⟨w.shared, Function.update w.tasks i (some x)⟩
  | access {w : World ι Ans ε α σ} {i : ι} {act : Act} {next : Ans act → Script Ans ε α}
      {answer : Ans act} {t : σ} : Reached sharing program w →
      w.tasks i = some (.call act next) → sharing.performs i act w.shared answer t →
      Reached sharing program ⟨t, Function.update w.tasks i (some (next answer))⟩
  | finish {w : World ι Ans ε α σ} {i : ι} {result : Except ε α} : Reached sharing program w →
      w.tasks i = some (.done result) →
      Reached sharing program ⟨sharing.release i w.shared, Function.update w.tasks i none⟩
  | event {w : World ι Ans ε α σ} {t : σ} : Reached sharing program w →
      sharing.event w.shared t → Reached sharing program ⟨t, w.tasks⟩

/-- What holds at all times, what may happen between two accesses of a task, when an
access is allowed, and what a task finds at its begin and leaves at its end. -/
structure Discipline (ι Act σ : Type) where
  inv : σ → Prop
  rely : ι → σ → σ → Prop
  allowed : ι → Act → σ → Prop
  idle : ι → σ → Prop
  ended : ι → σ → Prop

/-- From the state on, the task makes allowed accesses only, whatever happens in between,
and comes to a result as stated. -/
def Script.Keeps (sharing : Sharing ι Ans σ) (D : Discipline ι Act σ) (i : ι)
    (Q : Except ε α → σ → Prop) : Script Ans ε α → σ → Prop
  | .done result, s => Q result s
  | .call act next, s => ∀ t, D.inv t → D.rely i s t →
      D.allowed i act t ∧ ∀ answer u, sharing.performs i act t answer u → D.inv u →
        (next answer).Keeps sharing D i Q u

namespace Script
variable {sharing : Sharing ι Ans σ} {D : Discipline ι Act σ} {i : ι} {s : σ}
  {Q Q' : Except ε α → σ → Prop} {R : Except ε β → σ → Prop}

end Script

/-- The discipline is one: allowed accesses, ends and events keep the invariant and are
what the other tasks reckon with. -/
structure Discipline.Sound (sharing : Sharing ι Ans σ) (D : Discipline ι Act σ) : Prop where
  refl : ∀ i s, D.rely i s s
  trans : ∀ i s t u, D.rely i s t → D.rely i t u → D.rely i s u
  initial : ∀ s, sharing.initial s → D.inv s ∧ ∀ i, D.idle i s
  access : ∀ i act s answer t, D.inv s → D.allowed i act s → sharing.performs i act s answer t →
    D.inv t ∧ ∀ j, j ≠ i → D.rely j s t
  finish : ∀ i s, D.inv s → D.ended i s → D.inv (sharing.release i s) ∧
    D.idle i (sharing.release i s) ∧ ∀ j, j ≠ i → D.rely j s (sharing.release i s)
  event : ∀ s t, D.inv s → sharing.event s t → D.inv t ∧ ∀ i, D.rely i s t
  idle : ∀ i s t, D.idle i s → D.rely i s t → D.idle i t
  ended : ∀ i s t, D.ended i s → D.rely i s t → D.ended i t

section Runs
variable {sharing : Sharing ι Ans σ} {D : Discipline ι Act σ} {program : Script Ans ε α → Prop}

/-- A task as it is known in a world: idle, or on its way since its last access. -/
def Discipline.Follows (sharing : Sharing ι Ans σ) (D : Discipline ι Act σ) (i : ι)
    (task : Option (Script Ans ε α)) (s : σ) : Prop :=
  match task with
  | none => D.idle i s
  | some x => ∃ t, D.rely i t s ∧ x.Keeps sharing D i (fun _ => D.ended i) t

theorem Discipline.Sound.follows_rely (h : D.Sound sharing) {i : ι}
    {task : Option (Script Ans ε α)} {s t : σ} (hfollows : D.Follows sharing i task s)
    (hrely : D.rely i s t) : D.Follows sharing i task t := by
  cases task with
  | none => exact h.idle i s t hfollows hrely
  | some x =>
    obtain ⟨u, hu, hx⟩ := hfollows
    exact ⟨u, h.trans i u s t hu hrely, hx⟩

theorem Discipline.follows_update {i : ι} {tasks : ι → Option (Script Ans ε α)}
    {task : Option (Script Ans ε α)} {t : σ} (hself : D.Follows sharing i task t)
    (hothers : ∀ j, j ≠ i → D.Follows sharing j (tasks j) t) (j : ι) :
    D.Follows sharing j (Function.update tasks i task j) t := by
  by_cases hj : j = i
  · subst hj
    rw [Function.update_self]
    exact hself
  · rw [Function.update_of_ne hj]
    exact hothers j hj

/-- Every task keeps to the discipline, so the invariant holds in every world and every
access that is due is allowed. -/
theorem Discipline.Sound.reached (h : D.Sound sharing)
    (hprogram : ∀ i x s, program x → D.inv s → D.idle i s →
      x.Keeps sharing D i (fun _ => D.ended i) s)
    {w : World ι Ans ε α σ} (hw : w.Reached sharing program) :
    D.inv w.shared ∧ ∀ i, D.Follows sharing i (w.tasks i) w.shared := by
  induction hw with
  | start hs =>
    obtain ⟨hinv, hidle⟩ := h.initial _ hs
    exact ⟨hinv, hidle⟩
  | @begin w i x _ hnone hx ih =>
    obtain ⟨hinv, hfollows⟩ := ih
    have hidle := hfollows i
    rw [hnone] at hidle
    refine ⟨hinv, Discipline.follows_update ?_ fun j _ => hfollows j⟩
    exact ⟨w.shared, h.refl _ _, hprogram _ x _ hx hinv hidle⟩
  | @access w i act next answer t _ htask hperforms ih =>
    obtain ⟨hinv, hfollows⟩ := ih
    have htask' := hfollows i
    rw [htask] at htask'
    obtain ⟨u, hrely, hkeeps⟩ := htask'
    obtain ⟨hallowed, hnext⟩ := hkeeps _ hinv hrely
    obtain ⟨hinv', hothers⟩ := h.access _ _ _ _ _ hinv hallowed hperforms
    refine ⟨hinv', Discipline.follows_update ?_ fun j hj => ?_⟩
    · exact ⟨t, h.refl _ _, hnext _ _ hperforms hinv'⟩
    · exact h.follows_rely (hfollows j) (hothers j hj)
  | @finish w i result _ htask ih =>
    obtain ⟨hinv, hfollows⟩ := ih
    have htask' := hfollows i
    rw [htask] at htask'
    obtain ⟨u, hrely, hended⟩ := htask'
    obtain ⟨hinv', hidle, hothers⟩ := h.finish i _ hinv (h.ended i u _ hended hrely)
    refine ⟨hinv', Discipline.follows_update hidle fun j hj => ?_⟩
    exact h.follows_rely (hfollows j) (hothers j hj)
  | event _ hevent ih =>
    obtain ⟨hinv, hfollows⟩ := ih
    obtain ⟨hinv', hothers⟩ := h.event _ _ hinv hevent
    exact ⟨hinv', fun j => h.follows_rely (hfollows j) (hothers j)⟩

theorem Discipline.Sound.allowed (h : D.Sound sharing)
    (hprogram : ∀ i x s, program x → D.inv s → D.idle i s →
      x.Keeps sharing D i (fun _ => D.ended i) s)
    {w : World ι Ans ε α σ} (hw : w.Reached sharing program) {i : ι} {act : Act}
    {next : Ans act → Script Ans ε α} (hdue : w.tasks i = some (.call act next)) :
    D.allowed i act w.shared := by
  obtain ⟨hinv, hfollows⟩ := h.reached hprogram hw
  have htask := hfollows i
  rw [hdue] at htask
  obtain ⟨t, hrely, hkeeps⟩ := htask
  exact (hkeeps _ hinv hrely).1

end Runs

/-! ### Runs of a list of tasks -/

section Lists
variable {sharing : Sharing Nat Ans σ} {program : Script Ans ε α → Prop} {s t : σ}
  {tasks : List (Option (Script Ans ε α))}

/-- Task `i` is the one at place `i` of the list. -/
def World.ofList (s : σ) (tasks : List (Option (Script Ans ε α))) : World Nat Ans ε α σ :=
  ⟨s, fun i => (tasks[i]?).join⟩

theorem World.ofList_set {i : Nat} (hi : i < tasks.length) (x : Option (Script Ans ε α)) :
    (⟨t, Function.update (World.ofList s tasks).tasks i x⟩ : World Nat Ans ε α σ) =
      World.ofList t (tasks.set i x) := by
  unfold World.ofList
  congr 1
  funext j
  by_cases hj : j = i
  · subst hj
    rw [Function.update_self, List.getElem?_set_self hi]
    rfl
  · rw [Function.update_of_ne hj, List.getElem?_set_ne (Ne.symm hj)]

theorem World.Reached.startList (h : sharing.initial s) (n : Nat) :
    (World.ofList s (List.replicate n none)).Reached sharing program := by
  have hsame : (World.ofList s (List.replicate n none) : World Nat Ans ε α σ) = ⟨s, fun _ => none⟩ := by
    unfold World.ofList
    congr 1
    funext i
    rw [List.getElem?_replicate]
    split <;> rfl
  rw [hsame]
  exact .start h

theorem World.Reached.beginList (h : (World.ofList s tasks).Reached sharing program) (i : Nat)
    {x : Script Ans ε α} (hidle : tasks[i]? = some none) (hx : program x) :
    (World.ofList s (tasks.set i (some x))).Reached sharing program := by
  obtain ⟨hi, -⟩ := List.getElem?_eq_some_iff.mp hidle
  rw [← @World.ofList_set _ _ _ _ _ s s tasks i hi]
  exact .begin h (congrArg Option.join hidle) hx

theorem World.Reached.accessList (h : (World.ofList s tasks).Reached sharing program) (i : Nat)
    {act : Act} {next : Ans act → Script Ans ε α} (answer : Ans act) (t : σ)
    (htask : tasks[i]? = some (some (.call act next)))
    (hperforms : sharing.performs i act s answer t) :
    (World.ofList t (tasks.set i (some (next answer)))).Reached sharing program := by
  obtain ⟨hi, -⟩ := List.getElem?_eq_some_iff.mp htask
  rw [← @World.ofList_set _ _ _ _ _ s t tasks i hi]
  exact .access h (congrArg Option.join htask) hperforms

theorem World.Reached.finishList (h : (World.ofList s tasks).Reached sharing program) (i : Nat)
    {result : Except ε α} (htask : tasks[i]? = some (some (.done result))) :
    (World.ofList (sharing.release i s) (tasks.set i none)).Reached sharing program := by
  obtain ⟨hi, -⟩ := List.getElem?_eq_some_iff.mp htask
  rw [← @World.ofList_set _ _ _ _ _ s (sharing.release i s) tasks i hi]
  exact .finish h (congrArg Option.join htask)

end Lists

end Interleaving

end AgentSpreadsheet.Library
