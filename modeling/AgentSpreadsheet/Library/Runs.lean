import Mathlib.Data.List.Dedup
import Mathlib.Data.List.Sort

/-! Runs of consecutive numbers, and pairs grouped under their keys. -/
namespace AgentSpreadsheet.Library

/-! ### Maximal runs -/

/-- A stretch of members that cannot be made longer. -/
structure IsRun (S : ℕ → Prop) (first last : ℕ) : Prop where
  le : first ≤ last
  mem : ∀ x, first ≤ x → x ≤ last → S x
  below : ∀ x, x + 1 = first → ¬S x
  above : ¬S (last + 1)

namespace IsRun
variable {S P Q : ℕ → Prop} {a b c d : ℕ}

theorem le_of_meet (h : IsRun S a b) (h' : IsRun S c d) {x : ℕ} (hx : a ≤ x ∧ x ≤ b)
    (hx' : c ≤ x ∧ x ≤ d) : c ≤ a ∧ b ≤ d := by
  constructor
  · by_contra hlt
    exact h'.below (c - 1) (by omega) (h.mem (c - 1) (by omega) (by omega))
  · by_contra hlt
    exact h'.above (h.mem (d + 1) (by omega) (by omega))

/-- Runs that meet are one. -/
theorem eq_of_meet (h : IsRun S a b) (h' : IsRun S c d) {x : ℕ} (hx : a ≤ x ∧ x ≤ b)
    (hx' : c ≤ x ∧ x ≤ d) : a = c ∧ b = d := by
  have hle := h.le_of_meet h' hx hx'
  have hge := h'.le_of_meet h hx' hx
  omega

theorem interval_iff {start last : ℕ} (hle : start ≤ last) :
    IsRun (fun x => start ≤ x ∧ x ≤ last) a b ↔ a = start ∧ b = last := by
  constructor
  · intro h
    have ha := h.mem a (by omega) h.le
    have hb := h.mem b h.le (by omega)
    have habove := h.above
    have hbelow := h.below (a - 1)
    omega
  · intro h
    obtain ⟨rfl, rfl⟩ := h
    exact ⟨hle, fun x h h' => ⟨h, h'⟩, fun x h h' => by omega, fun h => by omega⟩

theorem or_iff {gap : ℕ} (hP : ∀ x, P x → x < gap) (hQ : ∀ x, Q x → gap < x) :
    IsRun (fun x => P x ∨ Q x) a b ↔ IsRun P a b ∨ IsRun Q a b := by
  constructor
  · intro h
    by_cases hlow : b < gap
    · left
      have hmem : ∀ x, x ≤ b → P x ∨ Q x → P x :=
        fun x hx hor => hor.resolve_right fun hq => by
          have := hQ x hq
          omega
      exact ⟨h.le, fun x ha hb => hmem x hb (h.mem x ha hb), fun x hx hp => h.below x hx (.inl hp),
        fun hp => h.above (.inl hp)⟩
    · right
      have hgap : gap < a := by
        by_contra hle
        cases h.mem gap (by omega) (by omega) with
        | inl hp => exact absurd (hP gap hp) (by omega)
        | inr hq => exact absurd (hQ gap hq) (by omega)
      have hmem : ∀ x, a ≤ x → P x ∨ Q x → Q x :=
        fun x hx hor => hor.resolve_left fun hp => by
          have := hP x hp
          omega
      exact ⟨h.le, fun x ha hb => hmem x ha (h.mem x ha hb), fun x hx hq => h.below x hx (.inr hq),
        fun hq => h.above (.inr hq)⟩
  · intro h
    cases h with
    | inl h =>
      have hb := hP b (h.mem b h.le (by omega))
      refine ⟨h.le, fun x ha hb => .inl (h.mem x ha hb), fun x hx hor => ?_, fun hor => ?_⟩
      · cases hor with
        | inl hp => exact h.below x hx hp
        | inr hq =>
          have := hQ x hq
          have := h.le
          omega
      · cases hor with
        | inl hp => exact h.above hp
        | inr hq =>
          have := hQ _ hq
          omega
    | inr h =>
      have ha := hQ a (h.mem a (by omega) h.le)
      refine ⟨h.le, fun x ha hb => .inr (h.mem x ha hb), fun x hx hor => ?_, fun hor => ?_⟩
      · cases hor with
        | inl hp =>
          have := hP x hp
          omega
        | inr hq => exact h.below x hx hq
      · cases hor with
        | inl hp =>
          have := hP _ hp
          have := h.le
          omega
        | inr hq => exact h.above hq

end IsRun

/-! ### Runs of a list -/

/-- The runs from one that has come as far as `prev`. -/
def runsFrom (start prev : ℕ) : List ℕ → List (ℕ × ℕ)
  | [] => [(start, prev)]
  | x :: rest => if x = prev + 1 then runsFrom start x rest else (start, prev) :: runsFrom x x rest

/-- The runs of an ascending list. -/
def runs : List ℕ → List (ℕ × ℕ)
  | [] => []
  | x :: rest => runsFrom x x rest

theorem mem_runsFrom {start prev a b : ℕ} (hle : start ≤ prev) {rest : List ℕ}
    (hsorted : (prev :: rest).Pairwise (· < ·)) :
    (a, b) ∈ runsFrom start prev rest ↔
      IsRun (fun x => start ≤ x ∧ x ≤ prev ∨ x ∈ rest) a b := by
  induction rest generalizing start prev with
  | nil => simp [runsFrom, IsRun.interval_iff hle]
  | cons x rest ih =>
    have hprev : prev < x := List.rel_of_pairwise_cons hsorted List.mem_cons_self
    have hrest := (List.pairwise_cons.mp hsorted).2
    unfold runsFrom
    by_cases hnext : x = prev + 1
    · rw [if_pos hnext, ih (by omega) hrest]
      have hsame : (fun y => start ≤ y ∧ y ≤ x ∨ y ∈ rest) =
          fun y => start ≤ y ∧ y ≤ prev ∨ y ∈ x :: rest := by
        ext y
        rw [List.mem_cons]
        constructor
        · intro h
          by_cases hy : y = x
          · exact .inr (.inl hy)
          · exact h.elim (fun h => .inl (by omega)) fun h => .inr (.inr h)
        · exact fun h => h.elim (fun h => .inl (by omega))
            fun h => h.elim (fun h => .inl (by omega)) .inr
      rw [hsame]
    · rw [if_neg hnext, List.mem_cons, ih (Nat.le_refl x) hrest, Prod.mk.injEq,
        ← IsRun.interval_iff hle]
      have hsame : (fun y => x ≤ y ∧ y ≤ x ∨ y ∈ rest) = (· ∈ x :: rest) := by
        ext y
        rw [List.mem_cons]
        exact or_congr_left (by omega)
      rw [hsame]
      refine (IsRun.or_iff (fun y h => by omega : ∀ y, _ → y < prev + 1) fun y h => ?_).symm
      cases List.mem_cons.mp h with
      | inl h => omega
      | inr h =>
        have := List.rel_of_pairwise_cons hrest h
        omega

theorem mem_runs {xs : List ℕ} (hsorted : xs.Pairwise (· < ·)) {a b : ℕ} :
    (a, b) ∈ runs xs ↔ IsRun (· ∈ xs) a b := by
  cases xs with
  | nil =>
    constructor
    · exact fun h => absurd h List.not_mem_nil
    · exact fun h => absurd (h.mem a (by omega) h.le) List.not_mem_nil
  | cons x rest =>
    unfold runs
    rw [mem_runsFrom (Nat.le_refl x) hsorted]
    have hsame : (fun y => x ≤ y ∧ y ≤ x ∨ y ∈ rest) = (· ∈ x :: rest) := by
      ext y
      rw [List.mem_cons]
      exact or_congr_left (by omega)
    rw [hsame]

theorem exists_runsFrom {start prev y : ℕ} {rest : List ℕ} (hle : start ≤ prev)
    (h : start ≤ y ∧ y ≤ prev ∨ y ∈ rest) :
    ∃ run ∈ runsFrom start prev rest, run.1 ≤ y ∧ y ≤ run.2 := by
  induction rest generalizing start prev with
  | nil => simpa [runsFrom] using h
  | cons x rest ih =>
    unfold runsFrom
    by_cases hnext : x = prev + 1
    · rw [if_pos hnext]
      apply ih (by omega)
      rw [List.mem_cons] at h
      grind
    · rw [if_neg hnext]
      cases h with
      | inl h => exact ⟨_, List.mem_cons_self, h⟩
      | inr h =>
        have hrest : x ≤ y ∧ y ≤ x ∨ y ∈ rest := by
          rw [List.mem_cons] at h
          grind
        obtain ⟨run, hrun, hy⟩ := ih (Nat.le_refl x) hrest
        exact ⟨run, List.mem_cons_of_mem _ hrun, hy⟩

/-- Every number is in a run. -/
theorem exists_run {xs : List ℕ} {y : ℕ} (h : y ∈ xs) :
    ∃ run ∈ runs xs, run.1 ≤ y ∧ y ≤ run.2 := by
  cases xs with
  | nil => contradiction
  | cons x rest =>
    apply exists_runsFrom (Nat.le_refl x)
    rw [List.mem_cons] at h
    grind

theorem nodup_runs {xs : List ℕ} (hsorted : xs.Pairwise (· < ·)) : (runs xs).Nodup := by
  have hfrom (start prev : ℕ) (hle : start ≤ prev) (rest : List ℕ)
      (hsorted : (prev :: rest).Pairwise (· < ·)) : (runsFrom start prev rest).Nodup := by
    induction rest generalizing start prev with
    | nil => exact List.nodup_singleton _
    | cons x rest ih =>
      have hprev : prev < x := List.rel_of_pairwise_cons hsorted List.mem_cons_self
      have hrest := (List.pairwise_cons.mp hsorted).2
      unfold runsFrom
      by_cases hnext : x = prev + 1
      · rw [if_pos hnext]
        exact ih start x (by omega) hrest
      · rw [if_neg hnext, List.nodup_cons]
        refine ⟨fun hmem => ?_, ih x x (Nat.le_refl x) hrest⟩
        have hrun := (mem_runsFrom (Nat.le_refl x) hrest).mp hmem
        cases hrun.mem start (by omega) hrun.le with
        | inl h => omega
        | inr h =>
          have := List.rel_of_pairwise_cons hrest h
          omega
  cases xs with
  | nil => exact List.nodup_nil
  | cons x rest => exact hfrom x x (Nat.le_refl x) rest hsorted

/-! ### Ascending lists and groups -/

section Groups
variable {κ ν : Type} [LinearOrder κ]

/-- Sorted, each once. -/
def ascending (xs : List κ) : List κ := (xs.insertionSort (· ≤ ·)).dedup

@[simp] theorem mem_ascending {xs : List κ} {x : κ} : x ∈ ascending xs ↔ x ∈ xs := by
  unfold ascending
  rw [List.mem_dedup, List.mem_insertionSort]

theorem nodup_ascending (xs : List κ) : (ascending xs).Nodup := List.nodup_dedup _

theorem ascending_sorted (xs : List κ) : (ascending xs).Pairwise (· < ·) := by
  have hle : (ascending xs).Pairwise (· ≤ ·) :=
    (List.pairwise_insertionSort (· ≤ ·) xs).sublist (List.dedup_sublist _)
  exact (hle.and (nodup_ascending xs)).imp fun h => lt_of_le_of_ne h.1 h.2

/-- What was pushed under each key, in the order of the keys. -/
def grouped (pairs : List (κ × ν)) : List (κ × List ν) :=
  (ascending (pairs.map Prod.fst)).map fun key =>
    (key, pairs.filterMap fun pair => if pair.1 = key then some pair.2 else none)

theorem mem_grouped {pairs : List (κ × ν)} {key : κ} {values : List ν}
    (h : (key, values) ∈ grouped pairs) (value : ν) : value ∈ values ↔ (key, value) ∈ pairs := by
  obtain ⟨key', _, heq⟩ := List.mem_map.mp h
  obtain ⟨rfl, rfl⟩ := Prod.mk.inj heq
  rw [List.mem_filterMap]
  constructor
  · intro h
    obtain ⟨pair, hpair, hvalue⟩ := h
    split at hvalue
    · next hkey =>
      obtain rfl := Option.some.inj hvalue
      exact hkey ▸ hpair
    · contradiction
  · exact fun h => ⟨_, h, if_pos rfl⟩

theorem exists_grouped {pairs : List (κ × ν)} {key : κ} {value : ν} (h : (key, value) ∈ pairs) :
    ∃ values, (key, values) ∈ grouped pairs :=
  ⟨_, List.mem_map.mpr ⟨key, mem_ascending.mpr (List.mem_map.mpr ⟨_, h, rfl⟩), rfl⟩⟩

theorem nodup_grouped (pairs : List (κ × ν)) : ((grouped pairs).map Prod.fst).Nodup := by
  unfold grouped
  rw [List.map_map]
  exact (List.map_id' _).symm ▸ nodup_ascending _

end Groups

/-- A member of a set that a list bounds is in a run. -/
theorem exists_isRun {S : ℕ → Prop} {xs : List ℕ} (hfinite : ∀ x, S x → x ∈ xs) {y : ℕ} (h : S y) :
    ∃ first last, IsRun S first last ∧ first ≤ y ∧ y ≤ last := by
  classical
  have hmem : (· ∈ ascending (xs.filter fun x => S x)) = S := by
    ext x
    rw [mem_ascending, List.mem_filter, decide_eq_true_eq]
    exact and_iff_right_of_imp (hfinite x)
  have hy : y ∈ ascending (xs.filter fun x => S x) := (congrFun hmem y).mpr h
  obtain ⟨run, hrun, hin⟩ := exists_run hy
  refine ⟨run.1, run.2, ?_, hin⟩
  rw [← hmem]
  exact (mem_runs (ascending_sorted _)).mp hrun

end AgentSpreadsheet.Library
