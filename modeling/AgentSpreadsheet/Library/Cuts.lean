import AgentSpreadsheet.Library.Paging
import Mathlib.Data.List.Perm.Basic

/-! Paging where a budget cuts off what is left. A call lists the items and hands out the next of
them that the budget keeps; another call may list them in another order. -/
namespace AgentSpreadsheet.Library

/-- How many items of a list are kept: at least one if the first fits, and only ones that fit,
as far as the list is a regular one. -/
structure Budget (ι : Type) where
  kept : List ι → Nat
  fits : ι → Prop
  regular : List ι → Prop
  regular_drop : ∀ items n, regular items → regular (items.drop n)
  first : ∀ item rest, fits item → 0 < kept (item :: rest)
  taken : ∀ items : List ι, regular items → ∀ item ∈ items.take (kept items), fits item

namespace Budget
variable {ι : Type} (budget : Budget ι)

def cut (items : List ι) : List ι := items.take (budget.kept items)

theorem cut_ne_nil {items : List ι} (hitems : items ≠ []) (hfits : ∀ item ∈ items, budget.fits item) :
    budget.cut items ≠ [] := by
  cases items with
  | nil => contradiction
  | cons item rest =>
    have hpos := budget.first item rest (hfits item List.mem_cons_self)
    intro hnil
    have hlength := congrArg List.length hnil
    unfold cut at hlength
    rw [List.length_take, List.length_cons, List.length_nil] at hlength
    omega

/-- A cut as long as the list is the list. -/
theorem cut_eq_self {items : List ι} (h : items.length ≤ (budget.cut items).length) :
    budget.cut items = items := by
  unfold cut at h ⊢
  rw [List.length_take] at h
  exact List.take_of_length_le (by omega)

theorem cut_append_drop (items : List ι) :
    budget.cut items ++ items.drop (budget.cut items).length = items := by
  unfold cut
  rw [List.length_take]
  rcases Nat.le_total (budget.kept items) items.length with hle | hle
  · rw [Nat.min_eq_left hle, List.take_append_drop]
  · rw [Nat.min_eq_right hle, List.take_of_length_le hle, List.drop_length, List.append_nil]

section Follow
variable {σ π ε : Type} (step : σ → Except ε π) (next : π → Option σ) (found : π → List ι)
  (good : σ → Prop) (pos : σ → Nat) (listing : σ → List ι) (total : Nat)

/-- A call hands out a cut of what is left of its listing, and names the place after it. -/
def HandsOut : Prop :=
  ∀ s, good s → ∃ page, step s = .ok page ∧ found page = budget.cut ((listing s).drop (pos s)) ∧
    if pos s + (found page).length < total then
      ∃ s', next page = some s' ∧ good s' ∧ pos s' = pos s + (found page).length
    else next page = none

/-- Following ends, after each item once, and no page asks for itself again. -/
def Covers (s : σ) (items : List ι) : Prop :=
  ∃ fuel pages, follow step next fuel s = some (pages, none) ∧
    (pages.flatMap found).Perm items ∧ ∀ page ∈ pages, next page ≠ none → found page ≠ []

variable {budget step next found good pos listing total}

/-- With one listing the pages are what is left of it, if following ends. -/
theorem HandsOut.tiles {items : List ι}
    (h : HandsOut budget step next found good pos (fun _ => items) total)
    (htotal : items.length = total) (hregular : budget.regular items) {fuel : Nat} {s : σ}
    {pages : List π} (hs : good s) (hrun : follow step next fuel s = some (pages, none)) :
    pages.flatMap found = items.drop (pos s) ∧
      ∀ page ∈ pages, ∀ item ∈ found page, budget.fits item := by
  induction fuel generalizing s pages with
  | zero => contradiction
  | succ fuel ih =>
    obtain ⟨page, hstep, hfound, hnext⟩ := h s hs
    dsimp only at hfound
    have hfits : ∀ item ∈ found page, budget.fits item := by
      intro item hitem
      rw [hfound] at hitem
      exact budget.taken _ (budget.regular_drop items _ hregular) item hitem
    unfold follow at hrun
    rw [hstep] at hrun
    dsimp only at hrun
    by_cases hmore : pos s + (found page).length < total
    · rw [if_pos hmore] at hnext
      obtain ⟨s', hs', hgood, hpos⟩ := hnext
      rw [hs'] at hrun
      simp only [Option.map_eq_some_iff, Prod.exists, Prod.mk.injEq] at hrun
      obtain ⟨pages', failure, hrest, rfl, rfl⟩ := hrun
      obtain ⟨htiles, hall⟩ := ih hgood hrest
      constructor
      · rw [List.flatMap_cons, htiles, hpos, ← List.drop_drop]
        conv_rhs => rw [← budget.cut_append_drop (items.drop (pos s))]
        rw [hfound]
      · intro page' hpage'
        cases hpage' with
        | head => exact hfits
        | tail _ hpage' => exact hall page' hpage'
    · rw [if_neg hmore] at hnext
      rw [hnext] at hrun
      injection hrun with hrun
      injection hrun with hrun
      subst hrun
      constructor
      · rw [List.flatMap_singleton, hfound]
        apply budget.cut_eq_self
        rw [← hfound, List.length_drop]
        omega
      · intro page' hpage'
        rw [List.mem_singleton.mp hpage']
        exact hfits

/-- What is left is covered where each place that a call stops at is settled. -/
theorem HandsOut.covers (h : HandsOut budget step next found good pos listing total)
    {reached : Nat → Prop} (hlength : ∀ s, (listing s).length = total)
    (hfits : ∀ s, reached (pos s) → ∀ item ∈ (listing s).drop (pos s), budget.fits item)
    (hreached : ∀ s, reached (pos s) →
      pos s + (budget.cut ((listing s).drop (pos s))).length < total →
        reached (pos s + (budget.cut ((listing s).drop (pos s))).length))
    (hsettled : ∀ s s' p, reached p → p < total → ((listing s).drop p).Perm ((listing s').drop p))
    (s : σ) (hgood : good s) (hs : reached (pos s)) :
    Covers step next found s ((listing s).drop (pos s)) := by
  induction hleft : total - pos s using Nat.strongRecOn generalizing s with
  | ind left ih =>
    obtain ⟨page, hstep, hfound, hnext⟩ := h s hgood
    by_cases hmore : pos s + (found page).length < total
    · rw [if_pos hmore] at hnext
      obtain ⟨s', hs', hgood', hpos⟩ := hnext
      have hleft' : (listing s).drop (pos s) ≠ [] := by
        intro hnil
        have hlen := congrArg List.length hnil
        rw [List.length_drop, hlength, List.length_nil] at hlen
        omega
      have hcut : found page ≠ [] := by
        rw [hfound]
        exact budget.cut_ne_nil hleft' (hfits s hs)
      have hpage := List.length_pos_of_ne_nil hcut
      have hs'reached : reached (pos s') := by
        rw [hpos, hfound]
        exact hreached s hs (hfound ▸ hmore)
      obtain ⟨fuel, pages, hrun, hperm, hprogress⟩ :=
        ih (total - pos s') (by omega) s' hgood' hs'reached rfl
      have hsame := hsettled s' s (pos s') hs'reached (by omega)
      have hrun' : follow step next (fuel + 1) s = some (page :: pages, none) := by
        simp [follow, hstep, hs', hrun]
      refine ⟨fuel + 1, page :: pages, hrun', ?_, ?_⟩
      · have hrest := (hperm.trans hsame).append_left (found page)
        rw [hpos, ← List.drop_drop, hfound, budget.cut_append_drop] at hrest
        rw [List.flatMap_cons, hfound]
        exact hrest
      · intro page' hpage'
        cases hpage' with
        | head => exact fun _ => hcut
        | tail _ hpage' => exact hprogress page' hpage'
    · rw [if_neg hmore] at hnext
      refine ⟨1, [page], by simp [follow, hstep, hnext], ?_, ?_⟩
      · rw [List.flatMap_singleton, hfound, budget.cut_eq_self]
        rw [← hfound, List.length_drop, hlength]
        omega
      · intro page' hpage' hsome
        rw [List.mem_singleton.mp hpage'] at hsome
        exact absurd hnext hsome

/-- With one listing all that is left is covered exactly when all of it fits. -/
theorem HandsOut.covers_iff {items : List ι}
    (h : HandsOut budget step next found good pos (fun _ => items) items.length)
    (hregular : budget.regular items) {s : σ} (hs : good s) :
    Covers step next found s (items.drop (pos s)) ↔
      ∀ item ∈ items.drop (pos s), budget.fits item := by
  constructor
  · intro hcovers item hitem
    obtain ⟨fuel, pages, hrun, _, _⟩ := hcovers
    obtain ⟨htiles, hfits⟩ := h.tiles rfl hregular hs hrun
    rw [← htiles] at hitem
    obtain ⟨page, hpage, hmem⟩ := List.mem_flatMap.mp hitem
    exact hfits page hpage item hmem
  · intro hfits
    apply @HandsOut.covers _ _ _ _ _ _ _ _ _ _ _ _ h (fun p => pos s ≤ p)
    · exact fun _ => rfl
    · exact fun s' hle item hmem => hfits item (List.drop_subset_drop_left items hle hmem)
    · exact fun s' hle _ => Nat.le_add_right_of_le hle
    · exact fun _ _ _ _ _ => List.Perm.refl _
    · exact hs
    · exact Nat.le_refl _

theorem follow_congr {step' : σ → Except ε π} (hsame : ∀ s, good s → step s = step' s)
    (hgood : ∀ s page s', good s → step s = .ok page → next page = some s' → good s')
    (fuel : Nat) {s : σ} (hs : good s) : follow step next fuel s = follow step' next fuel s := by
  induction fuel generalizing s with
  | zero => rfl
  | succ fuel ih =>
    unfold follow
    rw [← hsame s hs]
    cases hstep : step s with
    | error e => rfl
    | ok page =>
      dsimp only
      cases hnext : next page with
      | none => rfl
      | some s' =>
        dsimp only
        rw [ih (hgood s page s' hs hstep hnext)]

end Follow

/-! ### Calls that list anew -/

section Calls
variable {π ε : Type} (call : List ι → Nat × Nat → Except ε π) (next : π → Option (Nat × Nat))
  (found : π → List ι) (listings : Set (List ι)) (total : Nat)

/-- Where some call can start. -/
inductive Reached : Nat → Prop
  | start : Reached 0
  | next {p : Nat} {items : List ι} : Reached p → items ∈ listings →
      p + (budget.cut (items.drop p)).length < total →
        Reached (p + (budget.cut (items.drop p)).length)

/-- A call is known by its number and the place it starts at. -/
def CutsCalls : Prop :=
  ∀ items number p, ∃ page, call items (number, p) = .ok page ∧
    found page = budget.cut (items.drop p) ∧
    next page = if p + (found page).length < total then
      some (number + 1, p + (found page).length) else none

/-- No listing moves an item over the place. -/
def Settled (p : Nat) : Prop :=
  ∀ items ∈ listings, ∀ items' ∈ listings, (items.drop p).Perm (items'.drop p)

variable {budget call next found listings total}

theorem CutsCalls.handsOut (h : CutsCalls budget call next found total) (order : Nat → List ι) :
    HandsOut budget (fun s => call (order s.1) s) next found (fun _ => True) Prod.snd
      (fun s => order s.1) total := by
  intro s _
  obtain ⟨page, hstep, hfound, hnext⟩ := h (order s.1) s.1 s.2
  refine ⟨page, hstep, hfound, ?_⟩
  split
  · rename_i hmore
    rw [if_pos hmore] at hnext
    exact ⟨_, hnext, trivial, rfl⟩
  · rename_i hmore
    rw [if_neg hmore] at hnext
    exact hnext

/-- A place that is reached is reached by calls with some listings, and what they hand out comes
before what the calls from there on do. -/
theorem CutsCalls.reached (h : CutsCalls budget call next found total) (hne : listings.Nonempty)
    {p : Nat} (hp : Reached budget listings total p) :
    ∃ (number : Nat) (order : Nat → List ι) (before : List ι), (∀ i, order i ∈ listings) ∧
      ∀ order' : Nat → List ι, (∀ i < number, order' i = order i) → ∀ fuel pages,
        follow (fun s => call (order' s.1) s) next fuel (0, 0) = some (pages, none) →
          ∃ fuel' pages', follow (fun s => call (order' s.1) s) next fuel' (number, p) =
            some (pages', none) ∧ pages.flatMap found = before ++ pages'.flatMap found := by
  induction hp with
  | start =>
    obtain ⟨items, hitems⟩ := hne
    exact ⟨0, fun _ => items, [], fun _ => hitems, fun _ _ fuel pages hrun =>
      ⟨fuel, pages, hrun, rfl⟩⟩
  | @next p items _ hitems hmore ih =>
    obtain ⟨number, order, before, horder, hruns⟩ := ih
    refine ⟨number + 1, Function.update order number items,
      before ++ budget.cut (items.drop p), ?_, ?_⟩
    · intro i
      by_cases hi : i = number
      · rw [hi, Function.update_self]
        exact hitems
      · rw [Function.update_of_ne hi]
        exact horder i
    · intro order' hsame fuel pages hrun
      have hbefore : ∀ i < number, order' i = order i := by
        intro i hi
        rw [hsame i (by omega), Function.update_of_ne (by omega)]
      obtain ⟨fuel', pages', hrun', hpages⟩ := hruns order' hbefore fuel pages hrun
      have hnow : order' number = items := by
        rw [hsame number (Nat.lt_succ_self _), Function.update_self]
      obtain ⟨page, hstep, hfound, hnext⟩ := h items number p
      rw [hfound, if_pos hmore] at hnext
      cases fuel' with
      | zero => contradiction
      | succ fuel' =>
        unfold follow at hrun'
        dsimp only at hrun'
        rw [hnow, hstep] at hrun'
        dsimp only at hrun'
        rw [hnext] at hrun'
        simp only [Option.map_eq_some_iff, Prod.exists, Prod.mk.injEq] at hrun'
        obtain ⟨rest, failure, hrest, rfl, rfl⟩ := hrun'
        refine ⟨fuel', rest, hrest, ?_⟩
        rw [hpages, List.flatMap_cons, hfound, List.append_assoc]

/-- Calls that list anew cover all items, whatever the listings, exactly when all items fit and no
item can move over a place where a call stops. -/
theorem CutsCalls.covers_iff {items : List ι} (h : CutsCalls budget call next found total)
    (hperm : ∀ items' ∈ listings, items'.Perm items) (hitems : items ∈ listings)
    (htotal : items.length = total) (hregular : ∀ items' ∈ listings, budget.regular items') :
    (∀ order : Nat → List ι, (∀ i, order i ∈ listings) →
        Covers (fun s => call (order s.1) s) next found (0, 0) items) ↔
      (∀ item ∈ items, budget.fits item) ∧
        ∀ p, Reached budget listings total p → Settled listings p := by
  have hlength : ∀ items' ∈ listings, items'.length = total := fun items' hmem =>
    (hperm items' hmem).length_eq.trans htotal
  constructor
  · intro hcovers
    constructor
    · obtain ⟨fuel, pages, hrun, _, _⟩ := hcovers (fun _ => items) fun _ => hitems
      obtain ⟨htiles, hfits⟩ := (h.handsOut fun _ => items).tiles htotal (hregular _ hitems)
        trivial hrun
      intro item hitem
      rw [List.drop_zero] at htiles
      rw [← htiles] at hitem
      obtain ⟨page, hpage, hmem⟩ := List.mem_flatMap.mp hitem
      exact hfits page hpage item hmem
    · intro p hp
      obtain ⟨number, order, before, horder, hruns⟩ := h.reached ⟨items, hitems⟩ hp
      have hleft : ∀ items' ∈ listings, (before ++ items'.drop p).Perm items := by
        intro items' hitems'
        let order' (i : Nat) : List ι := if i < number then order i else items'
        have horder' : ∀ i, order' i ∈ listings := by
          intro i
          by_cases hi : i < number
          · rw [show order' i = order i from if_pos hi]
            exact horder i
          · rw [show order' i = items' from if_neg hi]
            exact hitems'
        obtain ⟨fuel, pages, hrun, hpages, _⟩ := hcovers order' horder'
        obtain ⟨fuel', pages', hrun', hsplit⟩ := hruns order' (fun i hi => if_pos hi) fuel pages hrun
        have hconst : follow (fun s => call items' s) next fuel' (number, p) =
            some (pages', none) := by
          rw [← hrun']
          symm
          apply @follow_congr _ _ _ _ _ (fun s => number ≤ s.1)
          · intro s hs
            rw [show order' s.1 = items' from if_neg (Nat.not_lt.mpr hs)]
          · intro s page s' hs hstep hnext
            obtain ⟨page', hstep', _, hnext'⟩ := h (order' s.1) s.1 s.2
            obtain rfl : page = page' := Except.ok.inj (hstep.symm.trans hstep')
            rw [hnext] at hnext'
            split at hnext'
            · rw [Option.some.inj hnext']
              exact Nat.le_succ_of_le hs
            · contradiction
          · exact Nat.le_refl _
        have htiles := ((h.handsOut fun _ => items').tiles (hlength items' hitems')
          (hregular _ hitems') trivial hconst).1
        rw [hsplit, htiles] at hpages
        exact hpages
      intro items' hitems' items'' hitems''
      exact (List.perm_append_left_iff before).mp
        ((hleft items' hitems').trans (hleft items'' hitems'').symm)
  · intro ⟨hfits, hsettled⟩ order horder
    have hcovers := @HandsOut.covers _ _ _ _ _ _ _ _ _ _ _ _ (h.handsOut order)
      (Reached budget listings total) (fun s => hlength _ (horder s.1))
      (fun s _ item hmem => hfits item ((hperm _ (horder s.1)).mem_iff.mp (List.mem_of_mem_drop hmem)))
      (fun s hp hmore => .next hp (horder s.1) hmore)
      (fun s s' p hp _ => hsettled p hp _ (horder s.1) _ (horder s'.1)) (0, 0) trivial
      .start
    obtain ⟨fuel, pages, hrun, hpages, hprogress⟩ := hcovers
    exact ⟨fuel, pages, hrun, hpages.trans (hperm _ (horder 0)), hprogress⟩

end Calls

/-! ### Pages of one size -/

/-- As many of the items as a page has room for. -/
def sized (size : Nat) (hsize : 0 < size) : Budget ι where
  kept _ := size
  fits _ := True
  regular _ := True
  regular_drop _ _ _ := trivial
  first _ _ _ := hsize
  taken _ _ _ _ := trivial

end Budget

section Paged
variable {σ π ι ε : Type} {step : σ → Except ε π} {next : π → Option σ} {found : π → List ι}

/-- Following ends, and the pages one after another are the answer. -/
def Paged (step : σ → Except ε π) (next : π → Option σ) (found : π → List ι) (s : σ)
    (answer : List ι) : Prop :=
  ∃ fuel pages, follow step next fuel s = some (pages, none) ∧ pages.flatMap found = answer

theorem Budget.HandsOut.paged {budget : Budget ι} {good : σ → Prop} {pos : σ → Nat}
    {items : List ι}
    (h : Budget.HandsOut budget step next found good pos (fun _ => items) items.length)
    (hregular : budget.regular items) (hfits : ∀ item, budget.fits item) {s : σ} (hs : good s) :
    Paged step next found s (items.drop (pos s)) := by
  obtain ⟨fuel, pages, hrun, _⟩ := (h.covers_iff hregular hs).mpr fun item _ => hfits item
  exact ⟨fuel, pages, hrun, (h.tiles rfl hregular hs hrun).1⟩

/-- Where each page names a next one, following does not end. -/
theorem not_paged {J : σ → Prop}
    (hmore : ∀ s page, J s → step s = .ok page → ∃ s', next page = some s' ∧ J s') {s : σ}
    (hs : J s) (answer : List ι) : ¬ Paged step next found s answer := by
  intro h
  obtain ⟨fuel, pages, hrun, hanswer⟩ := h
  clear hanswer
  induction fuel generalizing s pages with
  | zero => contradiction
  | succ fuel ih =>
    match hstep : step s with
    | .error e => simp [follow, hstep] at hrun
    | .ok page =>
      obtain ⟨s', hnext, hs'⟩ := hmore s page hs hstep
      obtain ⟨fuel', rest, hfuel, _, hrest⟩ := (follow_more hstep hnext).mp hrun
      obtain rfl : fuel = fuel' := by omega
      exact ih hs' rest hrest

end Paged

end AgentSpreadsheet.Library
