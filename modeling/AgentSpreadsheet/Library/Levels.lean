import Mathlib.Data.List.Basic
import Mathlib.Data.List.Nodup

/-! Breadth-first levels. A level holds what is reached in so many steps and in no fewer; the
next one is what its members lead to, less all that was visited. -/
namespace AgentSpreadsheet.Library

section Levels
variable {α : Type} [DecidableEq α] (successors : α → List α) (origin : α)

/-- Reached in exactly so many steps, nodes passed twice included. -/
inductive Walk : Nat → α → Prop
  | start : Walk 0 origin
  | step {n : Nat} {x y : α} (walk : Walk n x) (edge : y ∈ successors x) : Walk (n + 1) y

/-- The least distance from the origin. -/
def LeastAt (n : Nat) (x : α) : Prop :=
  Walk successors origin n x ∧ ∀ m, m < n → ¬ Walk successors origin m x

/-- A node is visited once; the list on the right has the new ones. -/
def visit (state : List α × List α) (x : α) : List α × List α :=
  if x ∈ state.1 then state else (x :: state.1, state.2 ++ [x])

/-- What is visited and what is to be expanded after so many rounds; `arrange` puts the nodes
of a level in some order. -/
def levelState (arrange : List α → List α) : Nat → List α × List α
  | 0 => ([origin], [origin])
  | n + 1 =>
    let state := levelState arrange n
    let next := (state.2.flatMap successors).foldl visit (state.1, [])
    (next.1, arrange next.2)

/-- The state stands at a level. -/
structure AtLevel (n : Nat) (state : List α × List α) : Prop where
  visited : ∀ x, x ∈ state.1 ↔ ∃ m, m ≤ n ∧ Walk successors origin m x
  frontier : ∀ x, x ∈ state.2 ↔ LeastAt successors origin n x
  nodup : state.2.Nodup

variable {successors origin} {n : Nat} {state : List α × List α} {x : α}

omit [DecidableEq α] in
theorem walk_zero : Walk successors origin 0 x ↔ x = origin := by
  constructor
  · intro h
    cases h
    rfl
  · intro h
    rw [h]
    exact .start

theorem atLevel_zero : AtLevel successors origin 0 ([origin], [origin]) := by
  constructor
  · intro x
    rw [List.mem_singleton]
    constructor
    · intro h
      exact ⟨0, Nat.le_refl _, walk_zero.mpr h⟩
    · intro ⟨m, hm, hwalk⟩
      rw [Nat.le_zero.mp hm] at hwalk
      exact walk_zero.mp hwalk
  · intro x
    rw [List.mem_singleton, ← @walk_zero _ successors]
    constructor
    · intro h
      exact ⟨h, fun m hm => absurd hm (Nat.not_lt_zero m)⟩
    · intro h
      exact h.1
  · exact List.nodup_singleton origin

/-- What a round of visits adds. -/
theorem foldl_visit {candidates : List α} (hsub : ∀ x ∈ state.2, x ∈ state.1) :
    (∀ x, x ∈ (candidates.foldl visit state).1 ↔ x ∈ state.1 ∨ x ∈ candidates) ∧
      (∀ x, x ∈ (candidates.foldl visit state).2 ↔
        x ∈ state.2 ∨ x ∈ candidates ∧ x ∉ state.1) ∧
      (state.2.Nodup → (candidates.foldl visit state).2.Nodup) := by
  induction candidates generalizing state with
  | nil => simp
  | cons c rest ih =>
    rw [List.foldl_cons]
    by_cases hc : c ∈ state.1
    · have hstep : visit state c = state := if_pos hc
      rw [hstep]
      obtain ⟨hvisited, hnext, hnodup⟩ := ih hsub
      refine ⟨fun x => ?_, fun x => ?_, hnodup⟩
      · rw [hvisited, List.mem_cons]
        constructor
        · rintro (h | h)
          · exact .inl h
          · exact .inr (.inr h)
        · rintro (h | rfl | h)
          · exact .inl h
          · exact .inl hc
          · exact .inr h
      · rw [hnext, List.mem_cons]
        constructor
        · rintro (h | h)
          · exact .inl h
          · exact .inr ⟨.inr h.1, h.2⟩
        · rintro (h | ⟨rfl | h, hx⟩)
          · exact .inl h
          · exact absurd hc hx
          · exact .inr ⟨h, hx⟩
    · have hstep : visit state c = (c :: state.1, state.2 ++ [c]) := if_neg hc
      rw [hstep]
      obtain ⟨hvisited, hnext, hnodup⟩ := @ih (c :: state.1, state.2 ++ [c]) (by
        intro x hx
        rcases List.mem_append.mp hx with hx | hx
        · exact List.mem_cons_of_mem _ (hsub x hx)
        · rw [List.mem_singleton.mp hx]
          exact List.mem_cons_self)
      refine ⟨fun x => ?_, fun x => ?_, fun h => ?_⟩
      · rw [hvisited, List.mem_cons, List.mem_cons]
        tauto
      · rw [hnext, List.mem_append, List.mem_singleton, List.mem_cons, List.mem_cons]
        by_cases hx : x = c
        · subst hx
          simp [hc]
        · simp [hx]
      · apply hnodup
        apply h.append (List.nodup_singleton c)
        intro x hx hmem
        rw [List.mem_singleton] at hmem
        exact hc (hmem ▸ hsub x hx)

/-- The step: the members of a level lead to those of the next. -/
theorem AtLevel.next (h : AtLevel successors origin n state) {arrange : List α → List α}
    (harrange : ∀ xs, (arrange xs).Perm xs) :
    AtLevel successors origin (n + 1)
      (((state.2.flatMap successors).foldl visit (state.1, [])).1,
        arrange ((state.2.flatMap successors).foldl visit (state.1, [])).2) := by
  obtain ⟨hvisited, hnext, hnodup⟩ := @foldl_visit α _ (state.1, [])
    (state.2.flatMap successors) (fun _ hx => absurd hx List.not_mem_nil)
  -- A walk of one more step goes through the level, or there is a shorter one.
  have hthrough {x : α} (hwalk : Walk successors origin (n + 1) x) :
      x ∈ state.2.flatMap successors ∨ ∃ m, m ≤ n ∧ Walk successors origin m x := by
    cases hwalk with
    | @step _ y _ hy hedge =>
      by_cases hleast : LeastAt successors origin n y
      · exact .inl (List.mem_flatMap.mpr ⟨y, (h.frontier y).mpr hleast, hedge⟩)
      · have hshort : ∃ m, m < n ∧ Walk successors origin m y := by
          by_contra hnone
          exact hleast ⟨hy, fun m hm hwalk => hnone ⟨m, hm, hwalk⟩⟩
        obtain ⟨m, hm, hwalk⟩ := hshort
        exact .inr ⟨m + 1, hm, .step hwalk hedge⟩
  have hreach {x : α} (hx : x ∈ state.2.flatMap successors) :
      Walk successors origin (n + 1) x := by
    obtain ⟨y, hy, hedge⟩ := List.mem_flatMap.mp hx
    exact .step ((h.frontier y).mp hy).1 hedge
  constructor
  · intro x
    rw [hvisited, h.visited]
    constructor
    · rintro (⟨m, hm, hwalk⟩ | hx)
      · exact ⟨m, by omega, hwalk⟩
      · exact ⟨n + 1, Nat.le_refl _, hreach hx⟩
    · intro ⟨m, hm, hwalk⟩
      rcases Nat.lt_or_ge n m with hlt | hle
      · have hlast : m = n + 1 := by omega
        rw [hlast] at hwalk
        rcases hthrough hwalk with hx | hshort
        · exact .inr hx
        · exact .inl hshort
      · exact .inl ⟨m, hle, hwalk⟩
  · intro x
    rw [(harrange _).mem_iff, hnext]
    constructor
    · rintro (hx | ⟨hx, hnew⟩)
      · exact absurd hx List.not_mem_nil
      · refine ⟨hreach hx, fun m hm hwalk => hnew ?_⟩
        exact (h.visited x).mpr ⟨m, by omega, hwalk⟩
    · intro ⟨hwalk, hleast⟩
      have hnew : ¬ ∃ m, m ≤ n ∧ Walk successors origin m x := by
        intro ⟨m, hm, hshort⟩
        exact hleast m (by omega) hshort
      rcases hthrough hwalk with hx | hshort
      · exact .inr ⟨hx, fun hmem => hnew ((h.visited x).mp hmem)⟩
      · exact absurd hshort hnew
  · exact (harrange _).nodup_iff.mpr (hnodup List.nodup_nil)

theorem atLevel_levelState {arrange : List α → List α} (harrange : ∀ xs, (arrange xs).Perm xs)
    (n : Nat) : AtLevel successors origin n (levelState successors origin arrange n) := by
  induction n with
  | zero => exact atLevel_zero
  | succ n ih => exact ih.next harrange

theorem levelState_ends {arrange : List α → List α} (harrange : ∀ xs, (arrange xs).Perm xs)
    (h : (levelState successors origin arrange (n + 1)).2 = []) (k : Nat) :
    (levelState successors origin arrange (n + 1 + k)).2 = [] := by
  induction k with
  | zero => exact h
  | succ k ih =>
    have hempty : (levelState successors origin arrange (n + 1 + k + 1)).2 =
        arrange (((levelState successors origin arrange (n + 1 + k)).2.flatMap
          successors).foldl visit ((levelState successors origin arrange (n + 1 + k)).1, [])).2 :=
      rfl
    rw [← Nat.add_assoc, hempty, ih]
    exact (harrange []).eq_nil

end Levels

end AgentSpreadsheet.Library
