import Mathlib.Data.List.Sort
import Mathlib.Order.Defs.LinearOrder

/-! Comparisons that need not be orders. A list sorted by a comparison is settled by its
elements as far as the comparison is a total order on them. Items that are compared by place
where both have one, and by text otherwise, are so ordered only if no text comes between two
places in the wrong order. -/
namespace AgentSpreadsheet.Library

section Sorting
variable {α : Type} (cmp : α → α → Ordering)

/-- A total order on the elements of a list, which tells all of them apart. -/
structure OrdersTotally (items : List α) : Prop where
  refl : ∀ a ∈ items, cmp a a = .eq
  swap : ∀ a ∈ items, ∀ b ∈ items, cmp b a = (cmp a b).swap
  trans : ∀ a ∈ items, ∀ b ∈ items, ∀ c ∈ items,
    cmp a b ≠ .gt → cmp b c ≠ .gt → cmp a c ≠ .gt
  same : ∀ a ∈ items, ∀ b ∈ items, cmp a b = .eq → a = b

/-- A stable sort. -/
def sortBy (items : List α) : List α := items.mergeSort fun a b => cmp a b != .gt

variable {cmp} {items items' : List α}

theorem sortBy_perm : (sortBy cmp items).Perm items := List.mergeSort_perm _ _

theorem OrdersTotally.of_mem (h : OrdersTotally cmp items) (hmem : ∀ a ∈ items', a ∈ items) :
    OrdersTotally cmp items' where
  refl a ha := h.refl a (hmem a ha)
  swap a ha b hb := h.swap a (hmem a ha) b (hmem b hb)
  trans a ha b hb c hc := h.trans a (hmem a ha) b (hmem b hb) c (hmem c hc)
  same a ha b hb := h.same a (hmem a ha) b (hmem b hb)

theorem OrdersTotally.pairwise (h : OrdersTotally cmp items) :
    (sortBy cmp items).Pairwise fun a b => cmp a b ≠ .gt := by
  -- Among its own elements, taken as a type, the comparison is an order.
  let attached : List {a // a ∈ items} := items.attach
  let within (a b : {a // a ∈ items}) : Bool := cmp a.1 b.1 != .gt
  have hsorted : (attached.mergeSort within).map Subtype.val = sortBy cmp items := by
    have hmap := @List.map_mergeSort _ _ within (fun a b => cmp a b != .gt) Subtype.val attached
      fun _ _ _ _ => rfl
    rw [hmap, List.attach_map_subtype_val]
    rfl
  have horder : List.Pairwise (fun a b => within a b = true) (attached.mergeSort within) := by
    apply List.pairwise_mergeSort
    · intro a b c hab hbc
      simp only [within, bne_iff_ne] at *
      exact h.trans a a.2 b b.2 c c.2 hab hbc
    · intro a b
      have hswap := h.swap a a.2 b b.2
      simp only [within]
      rw [hswap]
      cases cmp a.1 b.1 <;> rfl
  rw [← hsorted, List.pairwise_map]
  exact horder.imp fun hab => bne_iff_ne.mp hab

/-- The order in which the elements come does not matter. -/
theorem OrdersTotally.sortBy_eq (h : OrdersTotally cmp items) (hperm : items'.Perm items) :
    sortBy cmp items' = sortBy cmp items := by
  have h' : OrdersTotally cmp items' := h.of_mem fun a ha => hperm.mem_iff.mp ha
  apply List.Perm.eq_of_pairwise _ h'.pairwise h.pairwise
    (sortBy_perm.trans (hperm.trans sortBy_perm.symm))
  intro a b ha hb hab hba
  have hma : a ∈ items := hperm.mem_iff.mp (sortBy_perm.mem_iff.mp ha)
  have hmb : b ∈ items := sortBy_perm.mem_iff.mp hb
  apply h.same a hma b hmb
  rw [h.swap a hma b hmb] at hba
  match hcmp : cmp a b with
  | .eq => rfl
  | .lt => simp [hcmp] at hba
  | .gt => exact absurd hcmp hab

/-- A comparison of parts that are ordered totally, with a key of each item for the rest. -/
theorem OrdersTotally.then_key {β κ : Type} [LinearOrder κ] {parts : List α}
    (h : OrdersTotally cmp parts) {part : β → α} {key : β → κ} {entries : List β}
    (hpart : ∀ e ∈ entries, part e ∈ parts)
    (hkey : ∀ e ∈ entries, ∀ e' ∈ entries, key e = key e' → e = e') :
    OrdersTotally (fun e e' => (cmp (part e) (part e')).then (compare (key e) (key e'))) entries where
  refl a ha := by
    rw [h.refl _ (hpart a ha), Ordering.eq_then]
    exact compare_eq_iff_eq.mpr rfl
  swap a ha b hb := by
    have hrest : compare (key b) (key a) = (compare (key a) (key b)).swap :=
      Std.OrientedOrd.eq_swap
    rw [h.swap _ (hpart a ha) _ (hpart b hb), Ordering.swap_then, hrest]
  trans a ha b hb c hc := by
    intro hab hbc
    have hle {x y : β} (hxy : (cmp (part x) (part y)).then (compare (key x) (key y)) ≠ .gt) :
        cmp (part x) (part y) ≠ .gt ∧ (cmp (part x) (part y) = .eq → key x ≤ key y) := by
      cases hparts : cmp (part x) (part y) with
      | lt => exact ⟨by simp, by simp⟩
      | gt => simp [hparts] at hxy
      | eq =>
        rw [hparts, Ordering.eq_then] at hxy
        exact ⟨by simp, fun _ => compare_le_iff_le.mp hxy⟩
    have hparts := h.trans _ (hpart a ha) _ (hpart b hb) _ (hpart c hc) (hle hab).1 (hle hbc).1
    cases hac : cmp (part a) (part c) with
    | gt => exact absurd hac hparts
    | lt => simp
    | eq =>
      -- The parts of the outer two are one, and so is that of the one between them.
      have houter := h.same _ (hpart a ha) _ (hpart c hc) hac
      have hback := h.swap _ (hpart a ha) _ (hpart b hb)
      have hfirst : cmp (part a) (part b) = .eq := by
        have hbc' := (hle hbc).1
        rw [← houter, hback] at hbc'
        cases hcmp : cmp (part a) (part b) with
        | eq => rfl
        | gt => exact absurd hcmp (hle hab).1
        | lt => simp [hcmp] at hbc'
      have hsecond : cmp (part b) (part c) = .eq := by
        rw [← houter, hback, hfirst]
        rfl
      rw [Ordering.eq_then]
      exact compare_le_iff_le.mpr (((hle hab).2 hfirst).trans ((hle hbc).2 hsecond))
  same a ha b hb heq := by
    rw [Ordering.then_eq_eq] at heq
    exact hkey a ha b hb (compare_eq_iff_eq.mp heq.2)

theorem OrdersTotally.congr {cmp' : α → α → Ordering} (h : OrdersTotally cmp items)
    (hsame : ∀ a ∈ items, ∀ b ∈ items, cmp' a b = cmp a b) : OrdersTotally cmp' items where
  refl a ha := by rw [hsame a ha a ha, h.refl a ha]
  swap a ha b hb := by rw [hsame a ha b hb, hsame b hb a ha, h.swap a ha b hb]
  trans a ha b hb c hc := by
    rw [hsame a ha b hb, hsame b hb c hc, hsame a ha c hc]
    exact h.trans a ha b hb c hc
  same a ha b hb := by
    rw [hsame a ha b hb]
    exact h.same a ha b hb

/-- The greater key first. -/
def byKeyDown {κ : Type} [LinearOrder κ] (key : α → κ) (a b : α) : Ordering :=
  compare (key b) (key a)

theorem byKeyDown_ne_gt {κ : Type} [LinearOrder κ] {key : α → κ} {a b : α} :
    byKeyDown key a b ≠ .gt ↔ key b ≤ key a :=
  compare_le_iff_le

theorem byKeyDown_total {κ : Type} [LinearOrder κ] {key : α → κ}
    (h : ∀ a ∈ items, ∀ b ∈ items, key a = key b → a = b) : OrdersTotally (byKeyDown key) items where
  refl a _ := compare_eq_iff_eq.mpr rfl
  swap a _ b _ := Std.OrientedOrd.eq_swap
  trans a _ b _ c _ hab hbc :=
    byKeyDown_ne_gt.mpr ((byKeyDown_ne_gt.mp hbc).trans (byKeyDown_ne_gt.mp hab))
  same a ha b hb heq := h a ha b hb (compare_eq_iff_eq.mp heq).symm

/-- The smaller key first. -/
def byKeyUp {κ : Type} [LinearOrder κ] (key : α → κ) (a b : α) : Ordering :=
  compare (key a) (key b)

theorem byKeyUp_total {κ : Type} [LinearOrder κ] {key : α → κ}
    (h : ∀ a ∈ items, ∀ b ∈ items, key a = key b → a = b) : OrdersTotally (byKeyUp key) items where
  refl a _ := compare_eq_iff_eq.mpr rfl
  swap a _ b _ := Std.OrientedOrd.eq_swap
  trans a _ b _ c _ hab hbc :=
    compare_le_iff_le.mpr ((compare_le_iff_le.mp hab).trans (compare_le_iff_le.mp hbc))
  same a ha b hb heq := h a ha b hb (compare_eq_iff_eq.mp heq)

theorem sortBy_map {β : Type} {cmp' : β → β → Ordering} {f : α → β}
    (h : ∀ a b, cmp' (f a) (f b) = cmp a b) : sortBy cmp' (items.map f) = (sortBy cmp items).map f := by
  unfold sortBy
  rw [List.map_mergeSort]
  intro a _ b _
  rw [h]

/-- Items with one key keep their order. -/
theorem sortBy_keeps {κ : Type} [LinearOrder κ] {key : α → κ} {a b : α} (hkey : key a = key b)
    (h : [a, b].Sublist items) : [a, b].Sublist (sortBy (byKeyDown key) items) := by
  apply List.pair_sublist_mergeSort _ _ _ h
  · intro x y z hxy hyz
    rw [bne_iff_ne, byKeyDown_ne_gt] at hxy hyz ⊢
    exact hyz.trans hxy
  · intro x y
    rw [Bool.or_eq_true, bne_iff_ne, bne_iff_ne, byKeyDown_ne_gt, byKeyDown_ne_gt]
    exact le_total _ _
  · rw [bne_iff_ne, byKeyDown_ne_gt, hkey]

theorem not_both_orders {items : List α} (h : items.Nodup) {a b : α} (hab : [a, b].Sublist items)
    (hba : [b, a].Sublist items) : False := by
  induction items with
  | nil => exact absurd (List.eq_nil_of_sublist_nil hab) (List.cons_ne_nil _ _)
  | cons first rest ih =>
    have hnew := (List.nodup_cons.mp h).1
    have hrest := (List.nodup_cons.mp h).2
    cases hab with
    | cons _ hab =>
      cases hba with
      | cons _ hba => exact ih hrest hab hba
      | cons_cons _ hba => exact hnew (hab.subset (by simp))
    | cons_cons _ hab =>
      cases hba with
      | cons _ hba => exact hnew (hba.subset (by simp))
      | cons_cons _ hba => exact hnew (hab.subset (by simp))

end Sorting

section Mixed
variable {α γ τ π : Type} [LinearOrder γ] [LinearOrder τ] [LinearOrder π]
  (group : α → γ) (text : α → τ) (place : τ → Option π)

/-- Items of one group are compared by place, then text, if both have a place, and by text
otherwise. -/
def mixedCompare (a b : α) : Ordering :=
  (compare (group a) (group b)).then
    (match place (text a), place (text b) with
    | some p, some q => (compare p q).then (compare (text a) (text b))
    | _, _ => compare (text a) (text b))

/-- No two items have the same group and text. -/
def ToldApart (items : List α) : Prop :=
  ∀ a ∈ items, ∀ b ∈ items, group a = group b → text a = text b → a = b

/-- No item without a place has its text between those of two items of its group whose texts
are in the opposite order of their places. -/
def NothingBetween (items : List α) : Prop :=
  ∀ a ∈ items, ∀ b ∈ items, ∀ c ∈ items, group a = group c → group b = group c →
    ∀ p q, place (text a) = some p → place (text b) = some q → place (text c) = none → p < q →
      ¬ (text b < text c ∧ text c < text a)

/-- The order within a group. -/
def MixedLE (a b : α) : Prop :=
  match place (text a), place (text b) with
  | some p, some q => p < q ∨ p = q ∧ text a ≤ text b
  | _, _ => text a ≤ text b

variable {group text place} {items : List α} {a b c : α}

theorem mixedCompare_ne_gt : mixedCompare group text place a b ≠ .gt ↔
    group a < group b ∨ group a = group b ∧ MixedLE text place a b := by
  unfold mixedCompare MixedLE
  rcases lt_trichotomy (group a) (group b) with hlt | heq | hgt
  · rw [compare_lt_iff_lt.mpr hlt]
    simp [hlt]
  · rw [compare_eq_iff_eq.mpr heq, Ordering.eq_then]
    simp only [heq, lt_irrefl, true_and, false_or]
    split
    · rename_i p q _ _
      rcases lt_trichotomy p q with hpq | hpq | hpq
      · rw [compare_lt_iff_lt.mpr hpq]
        simp [hpq]
      · rw [compare_eq_iff_eq.mpr hpq, Ordering.eq_then, compare_le_iff_le]
        simp [hpq]
      · rw [compare_gt_iff_gt.mpr hpq]
        simp [hpq.not_gt, hpq.ne']
    · exact compare_le_iff_le
  · rw [compare_gt_iff_gt.mpr hgt]
    simp [hgt.not_gt, hgt.ne']

theorem mixedCompare_swap :
    mixedCompare group text place b a = (mixedCompare group text place a b).swap := by
  have hswap {δ : Type} [LinearOrder δ] (x y : δ) : compare y x = (compare x y).swap :=
    Std.OrientedOrd.eq_swap
  unfold mixedCompare
  rw [Ordering.swap_then, ← hswap]
  congr 1
  cases place (text a) with
  | none => cases place (text b) <;> exact hswap _ _
  | some p =>
    cases place (text b) with
    | none => exact hswap _ _
    | some q =>
      dsimp only
      rw [Ordering.swap_then, ← hswap, ← hswap]

theorem mixedCompare_eq : mixedCompare group text place a b = .eq ↔
    group a = group b ∧ text a = text b := by
  unfold mixedCompare
  rw [Ordering.then_eq_eq, compare_eq_iff_eq]
  constructor
  · intro ⟨hgroup, htext⟩
    split at htext
    · rw [Ordering.then_eq_eq, compare_eq_iff_eq, compare_eq_iff_eq] at htext
      exact ⟨hgroup, htext.2⟩
    · exact ⟨hgroup, compare_eq_iff_eq.mp htext⟩
  · intro ⟨hgroup, htext⟩
    refine ⟨hgroup, ?_⟩
    rw [htext]
    split
    · rename_i hp hq
      rw [hp] at hq
      rw [Option.some.inj hq, compare_eq_iff_eq.mpr rfl, compare_eq_iff_eq.mpr rfl]
      rfl
    · exact compare_eq_iff_eq.mpr rfl

omit [LinearOrder γ] in
/-- Within a group, with nothing between. -/
theorem NothingBetween.trans (h : NothingBetween group text place items) (ha : a ∈ items)
    (hb : b ∈ items) (hc : c ∈ items) (hab : group a = group b) (hbc : group b = group c)
    (hle : MixedLE text place a b) (hle' : MixedLE text place b c) : MixedLE text place a c := by
  have hnone (x y z : α) (hx : x ∈ items) (hy : y ∈ items) (hz : z ∈ items)
      (hxz : group x = group z) (hyz : group y = group z) :=
    h x hx y hy z hz hxz hyz
  have hplace {x y : α} (p : π) (hx : place (text x) = some p) (hy : place (text y) = none) :
      text x ≠ text y := by
    intro heq
    rw [heq, hy] at hx
    contradiction
  unfold MixedLE at *
  cases hpa : place (text a) with
  | none =>
    rw [hpa] at hle
    cases hpb : place (text b) with
    | none =>
      rw [hpb] at hle hle'
      exact le_trans hle hle'
    | some q =>
      rw [hpb] at hle hle'
      cases hpc : place (text c) with
      | none =>
        rw [hpc] at hle'
        exact le_trans hle hle'
      | some r =>
        rw [hpc] at hle'
        dsimp only at *
        rcases hle' with hlt | ⟨_, htext⟩
        · by_contra hgt
          apply hnone b c a hb hc ha hab.symm (hbc.symm.trans hab.symm) q r hpb hpc hpa hlt
          exact ⟨not_le.mp hgt, lt_of_le_of_ne hle (hplace q hpb hpa).symm⟩
        · exact le_trans hle htext
  | some p =>
    cases hpb : place (text b) with
    | none =>
      rw [hpa, hpb] at hle
      rw [hpb] at hle'
      dsimp only at *
      cases hpc : place (text c) with
      | none => exact le_trans hle hle'
      | some r =>
        dsimp only
        rcases lt_trichotomy p r with hlt | heq | hgt
        · exact .inl hlt
        · exact .inr ⟨heq, le_trans hle hle'⟩
        · exact absurd ⟨lt_of_le_of_ne hle (hplace p hpa hpb),
            lt_of_le_of_ne hle' (hplace r hpc hpb).symm⟩
            (hnone c a b hc ha hb hbc.symm hab r p hpc hpa hpb hgt)
    | some q =>
      rw [hpa, hpb] at hle
      rw [hpb] at hle'
      cases hpc : place (text c) with
      | none =>
        rw [hpc] at hle'
        dsimp only at *
        rcases hle with hlt | ⟨_, htext⟩
        · by_contra hgt
          apply hnone a b c ha hb hc (hab.trans hbc) hbc p q hpa hpb hpc hlt
          exact ⟨lt_of_le_of_ne hle' (hplace q hpb hpc), not_le.mp hgt⟩
        · exact le_trans htext hle'
      | some r =>
        rw [hpc] at hle'
        dsimp only at *
        rcases hle with hlt | ⟨rfl, htext⟩
        · rcases hle' with hlt' | ⟨rfl, _⟩
          · exact .inl (lt_trans hlt hlt')
          · exact .inl hlt
        · rcases hle' with hlt' | ⟨rfl, htext'⟩
          · exact .inl hlt'
          · exact .inr ⟨rfl, le_trans htext htext'⟩

/-- The mixed comparison is a total order of the items exactly when they are told apart and
nothing is between. -/
theorem mixedCompare_total_iff : OrdersTotally (mixedCompare group text place) items ↔
    ToldApart group text items ∧ NothingBetween group text place items := by
  constructor
  · intro h
    constructor
    · intro a ha b hb hgroup htext
      exact h.same a ha b hb (mixedCompare_eq.mpr ⟨hgroup, htext⟩)
    · intro a ha b hb c hc hac hbc p q hp hq hr hpq ⟨hlow, hhigh⟩
      have hab : mixedCompare group text place a b ≠ .gt :=
        mixedCompare_ne_gt.mpr (.inr ⟨hac.trans hbc.symm, by simp [MixedLE, hp, hq, hpq]⟩)
      have hb' : mixedCompare group text place b c ≠ .gt :=
        mixedCompare_ne_gt.mpr (.inr ⟨hbc, by simp [MixedLE, hr, hlow.le]⟩)
      rcases mixedCompare_ne_gt.mp (h.trans a ha b hb c hc hab hb') with hlt | ⟨_, hle⟩
      · exact absurd hac hlt.ne
      · simp only [MixedLE, hp, hr] at hle
        exact absurd hhigh hle.not_gt
  · intro ⟨hapart, hnone⟩
    constructor
    · intro a _
      exact mixedCompare_eq.mpr ⟨rfl, rfl⟩
    · intro a _ b _
      exact mixedCompare_swap
    · intro a ha b hb c hc hab hbc
      rw [mixedCompare_ne_gt] at hab hbc ⊢
      rcases hab with hlt | ⟨hgroup, hle⟩
      · rcases hbc with hlt' | ⟨hgroup', _⟩
        · exact .inl (lt_trans hlt hlt')
        · exact .inl (hgroup' ▸ hlt)
      · rcases hbc with hlt' | ⟨hgroup', hle'⟩
        · exact .inl (hgroup ▸ hlt')
        · exact .inr ⟨hgroup.trans hgroup', hnone.trans ha hb hc hgroup hgroup' hle hle'⟩
    · intro a ha b hb heq
      have hboth := mixedCompare_eq.mp heq
      exact hapart a ha b hb hboth.1 hboth.2

end Mixed

end AgentSpreadsheet.Library
