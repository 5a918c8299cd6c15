import Mathlib.Data.List.Basic
import Mathlib.Data.List.Count
import Mathlib.Data.List.Nodup

/-! Reading a list page by page: how many items fit is found by halving, and a page says
where the next one starts. -/
namespace AgentSpreadsheet.Library

/-! ### Halving -/

section Bisect
variable (fits : Nat → Bool)

/-- The largest number up to `high` that fits, where fewer items fit whenever more do. -/
def bisect : Nat → Nat → Nat → Nat
  | 0, low, _ => low
  | fuel + 1, low, high =>
    if low < high then
      if fits ((low + high + 1) / 2) then bisect fuel ((low + high + 1) / 2) high
      else bisect fuel low ((low + high + 1) / 2 - 1)
    else low

variable {fits}

theorem bisect_le (fuel : Nat) {low high : Nat} (h : low ≤ high) :
    low ≤ bisect fits fuel low high ∧ bisect fits fuel low high ≤ high := by
  induction fuel generalizing low high with
  | zero => exact ⟨Nat.le_refl _, h⟩
  | succ fuel ih =>
    unfold bisect
    split
    · split
      · have hmid : (low + high + 1) / 2 ≤ high := by omega
        have := ih hmid
        omega
      · have hmid : low ≤ (low + high + 1) / 2 - 1 := by omega
        have := ih hmid
        omega
    · exact ⟨Nat.le_refl _, h⟩

theorem bisect_fits (fuel : Nat) {low high : Nat} (h : low < bisect fits fuel low high) :
    fits (bisect fits fuel low high) = true := by
  induction fuel generalizing low high with
  | zero => exact absurd h (Nat.lt_irrefl _)
  | succ fuel ih =>
    unfold bisect at h ⊢
    split at h
    · rename_i hlow
      rw [if_pos hlow]
      split at h
      · rename_i hfits
        rw [if_pos hfits]
        by_cases hmid : (low + high + 1) / 2 < bisect fits fuel ((low + high + 1) / 2) high
        · exact ih hmid
        · have hle : (low + high + 1) / 2 ≤ high := by omega
          have heq := Nat.le_antisymm (Nat.not_lt.mp hmid) (bisect_le fuel hle).1
          rw [heq]
          exact hfits
      · rename_i hfits
        rw [if_neg hfits]
        exact ih h
    · exact absurd h (Nat.lt_irrefl _)

/-- Something is found when one item fits. -/
theorem bisect_pos {fuel high : Nat} (hfuel : high ≤ fuel) (hhigh : 0 < high)
    (hone : fits 1 = true) : 0 < bisect fits fuel 0 high := by
  induction fuel generalizing high with
  | zero => omega
  | succ fuel ih =>
    unfold bisect
    rw [if_pos hhigh]
    split
    · have hmid : (0 + high + 1) / 2 ≤ high := by omega
      have := (@bisect_le fits fuel _ _ hmid).1
      omega
    · rename_i hfits
      have hmid : 1 < (0 + high + 1) / 2 := by
        by_contra hle
        have heq : (0 + high + 1) / 2 = 1 := by omega
        rw [heq] at hfits
        exact hfits hone
      exact ih (by omega) (by omega)

end Bisect

/-! ### Following -/

section Follow
variable {σ π ι ε : Type} (step : σ → Except ε π) (next : π → Option σ)

/-- The pages until one names no next one, or until an error. -/
def follow : Nat → σ → Option (List π × Option ε)
  | 0, _ => none
  | fuel + 1, s =>
    match step s with
    | .error e => some ([], some e)
    | .ok page =>
      match next page with
      | none => some ([page], none)
      | some s' => (follow fuel s').map fun (pages, failure) => (page :: pages, failure)

/-- Pages hand out what is pending in order. `At s pending`: from `s` on, `pending` is to be
read; `Refused e item`: the error is about the item. -/
structure Pages (items : π → List ι) (At : σ → List ι → Prop) (Refused : ε → ι → Prop) : Prop where
  last : ∀ s pending page, At s pending → step s = .ok page → next page = none →
    items page = pending
  more : ∀ s pending page s', At s pending → step s = .ok page → next page = some s' →
    items page ≠ [] ∧ ∃ rest, pending = items page ++ rest ∧ At s' rest
  refused : ∀ s pending e, At s pending → step s = .error e →
    ∃ before item after, pending = before ++ item :: after ∧ Refused e item

/-- What the pages up to the end or a failure hand out. -/
def Delivered (items : π → List ι) (Refused : ε → ι → Prop) (pending : List ι) (pages : List π) :
    Option ε → Prop
  | none => pages.flatMap items = pending
  | some e => ∃ before item after, pending = pages.flatMap items ++ before ++ item :: after ∧
      Refused e item

variable {step next} {items : π → List ι} {At : σ → List ι → Prop} {Refused : ε → ι → Prop}

/-- Following ends, after each pending item once. -/
theorem Pages.delivered (h : Pages step next items At Refused) {s : σ} {pending : List ι}
    (hat : At s pending) : ∃ fuel pages failure, follow step next fuel s = some (pages, failure) ∧
      Delivered items Refused pending pages failure := by
  induction hlength : pending.length using Nat.strongRecOn generalizing s pending with
  | ind length ih =>
    match hstep : step s with
    | .error e =>
      obtain ⟨before, item, after, hpending, hrefused⟩ := h.refused s pending e hat hstep
      exact ⟨1, [], some e, by simp [follow, hstep], before, item, after, by simpa using hpending,
        hrefused⟩
    | .ok page =>
      match hnext : next page with
      | none =>
        have hitems := h.last s pending page hat hstep hnext
        exact ⟨1, [page], none, by simp [follow, hstep, hnext], by simpa [Delivered] using hitems⟩
      | some s' =>
        obtain ⟨hsome, rest, hpending, hat'⟩ := h.more s pending page s' hat hstep hnext
        have hshort : rest.length < length := by
          have := List.length_pos_of_ne_nil hsome
          rw [← hlength, hpending, List.length_append]
          omega
        obtain ⟨fuel, pages, failure, hfollow, hrest⟩ := ih _ hshort hat' rfl
        have hrun : follow step next (fuel + 1) s = some (page :: pages, failure) := by
          simp [follow, hstep, hnext, hfollow]
        apply Exists.intro (fuel + 1)
        apply Exists.intro (page :: pages)
        apply Exists.intro failure
        apply And.intro hrun
        cases failure with
        | none =>
          have hrest : pages.flatMap items = rest := hrest
          simp [Delivered, hpending, hrest]
        | some e =>
          obtain ⟨before, item, after, hrest, hrefused⟩ := hrest
          exact ⟨before, item, after, by simp [hpending, hrest], hrefused⟩

/-- One step's fact holds of every page, with an invariant of where they start. -/
theorem follow_pages {J : σ → Prop} {Q : π → Prop}
    (hkept : ∀ s page, J s → step s = .ok page → Q page ∧ ∀ s', next page = some s' → J s')
    {fuel : Nat} {s : σ} {pages : List π} {failure : Option ε} (hs : J s)
    (h : follow step next fuel s = some (pages, failure)) : ∀ page ∈ pages, Q page := by
  induction fuel generalizing s pages with
  | zero => contradiction
  | succ fuel ih =>
    unfold follow at h
    split at h
    · injection h with h
      injection h with h
      subst h
      intro page hpage
      exact absurd hpage List.not_mem_nil
    · rename_i page hstep
      have hpage := hkept s page hs hstep
      split at h
      · injection h with h
        injection h with h
        subst h
        intro page' hmem
        rw [List.mem_singleton.mp hmem]
        exact hpage.1
      · rename_i s' hnext
        simp only [Option.map_eq_some_iff, Prod.exists, Prod.mk.injEq] at h
        obtain ⟨pages', failure', hfollow, rfl, rfl⟩ := h
        intro page' hmem
        cases hmem with
        | head => exact hpage.1
        | tail _ hmem => exact ih (hpage.2 s' hnext) hfollow page' hmem

/-- Exactly the last page of a run without failure names no next one. -/
theorem follow_last {fuel : Nat} {s : σ} {pages : List π} {failure : Option ε}
    (h : follow step next fuel s = some (pages, failure)) {i : Nat} {page : π}
    (hget : pages[i]? = some page) :
    next page = none ↔ failure = none ∧ i + 1 = pages.length := by
  induction fuel generalizing s pages i with
  | zero => contradiction
  | succ fuel ih =>
    unfold follow at h
    split at h
    · injection h with h
      injection h with h
      subst h
      exact absurd hget (by simp)
    · rename_i first hstep
      split at h
      · rename_i hnext
        injection h with h
        injection h with h hfailure
        subst h hfailure
        cases i with
        | zero =>
          injection hget with hget
          subst hget
          simp [hnext]
        | succ i => exact absurd hget (by simp)
      · rename_i s' hnext
        simp only [Option.map_eq_some_iff, Prod.exists, Prod.mk.injEq] at h
        obtain ⟨pages', failure', hfollow, rfl, rfl⟩ := h
        cases i with
        | zero =>
          injection hget with hget
          subst hget
          have hpages : pages' = [] → failure' ≠ none := by
            intro hnil
            subst hnil
            cases fuel with
            | zero => contradiction
            | succ fuel =>
              unfold follow at hfollow
              split at hfollow
              · injection hfollow with hfollow
                injection hfollow with _ hfollow
                rw [← hfollow]
                exact Option.some_ne_none _
              · split at hfollow
                · simp at hfollow
                · simp at hfollow
          simp only [hnext, List.length_cons, reduceCtorEq, false_iff, not_and]
          intro hfailure hlength
          exact hpages (List.eq_nil_of_length_eq_zero (by omega)) hfailure
        | succ i =>
          have := ih hfollow (by simpa using hget)
          rw [this, List.length_cons, Nat.add_right_cancel_iff]

theorem follow_unique {fuel fuel' : Nat} {s : σ} {run run' : List π × Option ε}
    (h : follow step next fuel s = some run) (h' : follow step next fuel' s = some run') :
    run = run' := by
  induction fuel generalizing fuel' s run run' with
  | zero => contradiction
  | succ fuel ih =>
    cases fuel' with
    | zero => contradiction
    | succ fuel' =>
      unfold follow at h h'
      split at h
      · rename_i e hstep
        rw [hstep] at h'
        exact (Option.some.inj h).symm.trans (Option.some.inj h')
      · rename_i page hstep
        rw [hstep] at h'
        dsimp only at h'
        split at h
        · rename_i hnext
          rw [hnext] at h'
          exact (Option.some.inj h).symm.trans (Option.some.inj h')
        · rename_i s' hnext
          rw [hnext] at h'
          simp only [Option.map_eq_some_iff] at h h'
          obtain ⟨rest, hrest, rfl⟩ := h
          obtain ⟨rest', hrest', rfl⟩ := h'
          rw [ih hrest hrest']

theorem follow_error {s : σ} {e : ε} (h : step s = .error e) (fuel : Nat) (pages : List π) :
    follow step next fuel s ≠ some (pages, none) := by
  cases fuel with
  | zero => simp [follow]
  | succ fuel => simp [follow, h]

theorem follow_end {s : σ} {page : π} (h : step s = .ok page) (hnext : next page = none)
    {fuel : Nat} {pages : List π} :
    follow step next fuel s = some (pages, none) ↔ 0 < fuel ∧ pages = [page] := by
  cases fuel with
  | zero => simp [follow]
  | succ fuel => simp [follow, h, hnext, eq_comm]

theorem follow_more {s s' : σ} {page : π} (h : step s = .ok page) (hnext : next page = some s')
    {fuel : Nat} {pages : List π} :
    follow step next fuel s = some (pages, none) ↔ ∃ fuel' pages', fuel = fuel' + 1 ∧
      pages = page :: pages' ∧ follow step next fuel' s' = some (pages', none) := by
  cases fuel with
  | zero => simp [follow]
  | succ fuel =>
    have hrun : follow step next (fuel + 1) s =
        (follow step next fuel s').map fun rest => (page :: rest.1, rest.2) := by
      simp only [follow, h, hnext]
    rw [hrun]
    simp only [Option.map_eq_some_iff, Prod.exists, Prod.mk.injEq, Nat.add_right_cancel_iff]
    constructor
    · intro ⟨pages', failure, hrest, hpages, hfailure⟩
      rw [hfailure] at hrest
      exact ⟨fuel, pages', rfl, hpages.symm, hrest⟩
    · intro ⟨fuel', pages', hfuel, hpages, hrest⟩
      rw [← hfuel] at hrest
      exact ⟨pages', none, hrest, hpages.symm, rfl⟩

theorem follow_again {s : σ} {page : π} (h : step s = .ok page) (hnext : next page = some s)
    (fuel : Nat) : follow step next fuel s = none := by
  induction fuel with
  | zero => rfl
  | succ fuel ih =>
    unfold follow
    rw [h]
    dsimp only
    rw [hnext]
    dsimp only
    rw [ih]
    rfl

end Follow

/-! ### Slices -/

section Slices
variable {α β : Type} [DecidableEq α]

def slice (size offset : Nat) (xs : List α) : List α := (xs.drop offset).take size

variable {size m : Nat} {xs : List α} {x : α}

omit [DecidableEq α] in
theorem slices_flatten (size m : Nat) (xs : List α) :
    ((List.range m).flatMap fun k => slice size (k * size) xs) = xs.take (m * size) := by
  induction m with
  | zero => simp
  | succ m ih =>
    rw [List.range_succ, List.flatMap_append, ih, List.flatMap_singleton, Nat.succ_mul]
    unfold slice
    rw [List.take_add]

theorem count_flatMap_nodup {pages : List (List α)} (h : ∀ page ∈ pages, page.Nodup) :
    (pages.flatMap id).count x = pages.countP fun page => x ∈ page := by
  induction pages with
  | nil => rfl
  | cons page rest ih =>
    rw [List.flatMap_cons, List.count_append, ih fun p hp => h p (List.mem_cons_of_mem _ hp),
      List.countP_cons, Nat.add_comm]
    congr 1
    by_cases hx : x ∈ page
    · rw [id, List.count_eq_one_of_mem (h page List.mem_cons_self) hx]
      simp [hx]
    · rw [id, List.count_eq_zero_of_not_mem hx]
      simp [hx]

/-- Slices from the front to the end have each item of the list in one of them. -/
theorem countP_slices (hnodup : xs.Nodup) (hm : xs.length ≤ m * size) (hx : x ∈ xs) :
    ((List.range m).map fun k => slice size (k * size) xs).countP (fun page => x ∈ page) = 1 := by
  have hpages : ∀ page ∈ (List.range m).map fun k => slice size (k * size) xs, page.Nodup := by
    intro page hpage
    obtain ⟨k, _, rfl⟩ := List.mem_map.mp hpage
    exact hnodup.sublist ((List.take_sublist _ _).trans (List.drop_sublist _ _))
  rw [← count_flatMap_nodup hpages, List.flatMap_map]
  change ((List.range m).flatMap fun k => slice size (k * size) xs).count x = 1
  rw [slices_flatten, List.take_of_length_le hm]
  exact List.count_eq_one_of_mem hnodup hx

omit [DecidableEq α] in
theorem countP_range_one {P : Nat → Bool} (h : (List.range m).countP P = 1) :
    ∃ k, k < m ∧ P k = true ∧ ∀ j, j < m → P j = true → j = k := by
  rw [List.countP_eq_length_filter] at h
  obtain ⟨k, hk⟩ := List.length_eq_one_iff.mp h
  have hmem (j : Nat) : j < m ∧ P j = true ↔ j = k := by
    rw [← @List.mem_singleton _ j k, ← hk, List.mem_filter, List.mem_range]
  have hthere := (hmem k).mpr rfl
  exact ⟨k, hthere.1, hthere.2, fun j hj hP => (hmem j).mp ⟨hj, hP⟩⟩

/-- Items picked page by page are all items, each once, exactly when the key of each is on one
page. -/
theorem filter_pages_perm [DecidableEq β] {key : β → α} {pages : List (List α)} {items : List β} :
    (pages.flatMap fun page => items.filter fun b => key b ∈ page).Perm items ↔
      ∀ b ∈ items, pages.countP (fun page => key b ∈ page) = 1 := by
  have hcount (b : β) : (pages.flatMap fun page => items.filter fun b => key b ∈ page).count b =
      pages.countP (fun page => key b ∈ page) * items.count b := by
    induction pages with
    | nil => simp
    | cons page rest ih =>
      rw [List.flatMap_cons, List.count_append, ih, List.countP_cons, Nat.add_mul, Nat.add_comm]
      congr 1
      by_cases hkey : key b ∈ page
      · rw [List.count_filter (by simpa using hkey)]
        simp [hkey]
      · rw [List.count_eq_zero_of_not_mem (by simp [hkey])]
        simp [hkey]
  rw [List.perm_iff_count]
  constructor
  · intro h b hb
    have hpos : 0 < items.count b := List.count_pos_iff.mpr hb
    have hone := h b
    rw [hcount] at hone
    exact Nat.eq_of_mul_eq_mul_right hpos (by rw [hone, Nat.one_mul])
  · intro h b
    rw [hcount]
    by_cases hb : b ∈ items
    · rw [h b hb, Nat.one_mul]
    · rw [List.count_eq_zero_of_not_mem hb, Nat.mul_zero]

end Slices

end AgentSpreadsheet.Library
