import Mathlib.Data.List.Induction
import Mathlib.Data.List.Sort

/-! Lists of items that go by keys. An item placed takes out the others of its key. -/
namespace AgentSpreadsheet.Library

section Keyed
variable {α κ : Type*} [DecidableEq κ] (key : α → κ)

def without (k : κ) (items : List α) : List α := items.filter fun item => key item != k

def place (item : α) (items : List α) : List α := without key (key item) items ++ [item]

/-- One item is wanted where `on` holds, and elsewhere nothing changes. -/
def Placed (on : α → Prop) [DecidablePred on] (item : α) (before after : List α) : Prop :=
  after.filter (fun x => on x) = [item] ∧
    after.filter (fun x => ¬ on x) = before.filter (fun x => ¬ on x)

def Cleared (on : α → Prop) [DecidablePred on] (before after : List α) : Prop :=
  after.filter (fun x => on x) = [] ∧
    after.filter (fun x => ¬ on x) = before.filter (fun x => ¬ on x)

variable {key} {k : κ} {item : α} {items : List α} {on : α → Prop} [DecidablePred on]

theorem without_eq_self (h : ∀ x ∈ items, key x ≠ k) : without key k items = items := by
  unfold without
  rw [List.filter_eq_self]
  intro x hx
  exact bne_iff_ne.mpr (h x hx)

theorem mem_without {x : α} : x ∈ without key k items ↔ x ∈ items ∧ key x ≠ k := by
  simp [without]

theorem without_without : without key k (without key k items) = without key k items :=
  without_eq_self fun _ hx => (mem_without.mp hx).2

theorem without_append (before after : List α) :
    without key k (before ++ after) = without key k before ++ without key k after :=
  List.filter_append _ _

theorem without_place : without key (key item) (place key item items) =
    without key (key item) items := by
  unfold place
  rw [without_append, without_without]
  simp [without]

theorem place_place : place key item (place key item items) = place key item items :=
  congrArg (· ++ [item]) without_place

theorem filter_place : (place key item items).filter (fun x => key x == key item) = [item] := by
  have hnone : (without key (key item) items).filter (fun x => key x == key item) = [] := by
    rw [List.filter_eq_nil_iff]
    intro x hx
    simpa using (mem_without.mp hx).2
  unfold place
  rw [List.filter_append, hnone]
  simp

theorem filter_without (p : α → Bool) :
    (without key k items).filter p = without key k (items.filter p) := by
  unfold without
  rw [List.filter_filter, List.filter_filter]
  congr 1
  funext x
  exact Bool.and_comm _ _

theorem without_eq_nil : without key k items = [] ↔ ∀ x ∈ items, key x = k := by
  simp [without]

/-- Taking out a key takes out what is there and nothing else when the key tells them apart. -/
theorem cleared_without_iff :
    Cleared on items (without key k items) ↔ ∀ x ∈ items, on x ↔ key x = k := by
  unfold Cleared
  rw [filter_without, filter_without, without_eq_nil]
  constructor
  · intro ⟨hgone, hkept⟩ x hx
    constructor
    · intro hon
      exact hgone x (List.mem_filter.mpr ⟨hx, decide_eq_true hon⟩)
    · intro hkey
      by_contra hoff
      have hmem : x ∈ items.filter (fun x => ¬ on x) :=
        List.mem_filter.mpr ⟨hx, decide_eq_true hoff⟩
      rw [← hkept] at hmem
      exact (mem_without.mp hmem).2 hkey
  · intro h
    constructor
    · intro x hx
      have hx' := List.mem_filter.mp hx
      exact (h x hx'.1).mp (of_decide_eq_true hx'.2)
    · apply without_eq_self
      intro x hx hkey
      have hx' := List.mem_filter.mp hx
      exact of_decide_eq_true hx'.2 ((h x hx'.1).mpr hkey)

/-- A placed item stands alone when whatever is there has its key. -/
theorem placed_place_iff {other : α} (hon : on item) (hkey : ∀ x ∈ items, key x = key item → on x) :
    Placed on other items (place key item items) ↔
      other = item ∧ ∀ x ∈ items, on x → key x = key item := by
  have hoff : [item].filter (fun x => ¬ on x) = [] := by simp [hon]
  have hitem : [item].filter (fun x => on x) = [item] := by simp [hon]
  unfold Placed place
  rw [List.filter_append, List.filter_append, hoff, hitem, List.append_nil]
  constructor
  · intro ⟨honly, hkept⟩
    have hlength := congrArg List.length honly
    rw [List.length_append, List.length_singleton, List.length_singleton] at hlength
    have hnone : (without key (key item) items).filter (fun x => on x) = [] :=
      List.eq_nil_of_length_eq_zero (by omega)
    rw [hnone, List.nil_append, List.cons.injEq] at honly
    have hcleared := cleared_without_iff.mp ⟨hnone, hkept⟩
    exact ⟨honly.1.symm, fun x hx => (hcleared x hx).mp⟩
  · intro ⟨hother, honly⟩
    have hcleared := cleared_without_iff.mpr fun x hx => ⟨honly x hx, hkey x hx⟩
    rw [hcleared.1, hother]
    exact ⟨rfl, hcleared.2⟩

/-! Items put in one after another. -/

variable (key) in
def placed (items : List α) : List α := items.foldl (fun kept item => place key item kept) []

theorem mem_place {x : α} : x ∈ place key item items ↔ x = item ∨ x ∈ items ∧ key x ≠ key item := by
  unfold place
  rw [List.mem_append, mem_without, List.mem_singleton]
  exact or_comm

variable (key) in
/-- Of each key one item is kept, and it is one of those put in. -/
theorem placed_spec (items : List α) :
    ((placed key items).Pairwise fun a b => key a ≠ key b) ∧
      (∀ x ∈ placed key items, x ∈ items) ∧
      ∀ x ∈ items, ∃ y ∈ placed key items, key y = key x := by
  induction items using List.reverseRecOn with
  | nil => simp [placed]
  | append_singleton items item ih =>
    obtain ⟨hapart, hsub, hkeys⟩ := ih
    have hplace : placed key (items ++ [item]) = place key item (placed key items) := by
      simp [placed, List.foldl_append]
    rw [hplace]
    refine ⟨?_, ?_, ?_⟩
    · unfold place
      rw [List.pairwise_append]
      refine ⟨hapart.filter _, List.pairwise_singleton _ _, ?_⟩
      intro x hx y hy
      rw [List.mem_singleton.mp hy]
      exact (mem_without.mp hx).2
    · intro x hx
      rcases mem_place.mp hx with rfl | ⟨hx, _⟩
      · exact List.mem_append_right _ List.mem_cons_self
      · exact List.mem_append_left _ (hsub x hx)
    · intro x hx
      by_cases hkey : key x = key item
      · exact ⟨item, mem_place.mpr (.inl rfl), hkey.symm⟩
      · have hx' : x ∈ items := by
          rcases List.mem_append.mp hx with hx | hx
          · exact hx
          · exact absurd (congrArg key (List.mem_singleton.mp hx)) hkey
        obtain ⟨y, hy, hyx⟩ := hkeys x hx'
        exact ⟨y, mem_place.mpr (.inr ⟨hy, fun h => hkey (hyx.symm.trans h)⟩), hyx⟩

/-- Items of one key that are one may be put in in any order. -/
theorem placed_perm {items' : List α} (h : items.Perm items')
    (htold : ∀ a ∈ items, ∀ b ∈ items, key a = key b → a = b) :
    (placed key items).Perm (placed key items') := by
  have hnodup (xs : List α) : (placed key xs).Nodup :=
    (placed_spec key xs).1.imp fun hne heq => hne (congrArg key heq)
  have hsub {xs ys : List α} (hperm : xs.Perm ys) (hone : ∀ a ∈ ys, ∀ b ∈ ys, key a = key b → a = b)
      {x : α} (hx : x ∈ placed key xs) : x ∈ placed key ys := by
    have hmem := hperm.mem_iff.mp ((placed_spec key xs).2.1 x hx)
    obtain ⟨y, hy, hkey⟩ := (placed_spec key ys).2.2 x hmem
    exact hone y ((placed_spec key ys).2.1 y hy) x hmem hkey ▸ hy
  rw [List.perm_ext_iff_of_nodup (hnodup items) (hnodup items')]
  intro x
  constructor
  · exact hsub h fun a ha b hb => htold a (h.mem_iff.mpr ha) b (h.mem_iff.mpr hb)
  · exact hsub h.symm htold

theorem find?_eq_some_of_apart (h : items.Pairwise fun a b => key a ≠ key b) {x : α} :
    items.find? (fun a => key a = k) = some x ↔ x ∈ items ∧ key x = k := by
  constructor
  · intro hfind
    have hkey := List.find?_some hfind
    exact ⟨List.mem_of_find?_eq_some hfind, of_decide_eq_true hkey⟩
  · intro ⟨hx, hkey⟩
    induction h with
    | nil => cases hx
    | @cons a rest hne _ ih =>
      rcases List.mem_cons.mp hx with rfl | hx
      · simp [hkey]
      · have hother : key a ≠ k := fun heq => hne x hx (heq.trans hkey.symm)
        simpa [hother] using ih hx

theorem find?_perm {items' : List α} (hperm : items.Perm items')
    (h : items.Pairwise fun a b => key a ≠ key b) :
    items.find? (fun a => key a = k) = items'.find? (fun a => key a = k) := by
  have h' := hperm.pairwise h fun hne => hne.symm
  ext x
  rw [find?_eq_some_of_apart h, find?_eq_some_of_apart h', hperm.mem_iff]

theorem find?_placed (items : List α) : (placed key items).find? (fun a => key a = k) =
    (items.filter fun a => key a = k).getLast? := by
  induction items using List.reverseRecOn with
  | nil => rfl
  | append_singleton items item ih =>
    have hplace : placed key (items ++ [item]) = place key item (placed key items) := by
      simp [placed, List.foldl_append]
    rw [hplace, List.filter_append]
    unfold place
    rw [List.find?_append]
    by_cases hkey : key item = k
    · have hnone : (without key (key item) (placed key items)).find? (fun a => key a = k) = none := by
        rw [List.find?_eq_none]
        intro x hx
        simpa [← hkey] using (mem_without.mp hx).2
      rw [hnone]
      simp [hkey]
    · have hkept : (without key (key item) (placed key items)).find? (fun a => key a = k) =
          (placed key items).find? fun a => key a = k := by
        unfold without
        rw [List.find?_filter]
        congr 1
        funext x
        by_cases hx : key x = k
        · simp [hx, Ne.symm hkey]
        · simp [hx]
      rw [hkept, ih]
      simp [hkey]

end Keyed

/-- Parts that are put together are in no order if all but one are empty. -/
theorem flatMap_perm {α β : Type*} {f : α → List β} {items items' : List α}
    (h : items.Perm items') (hone : items.Pairwise fun a b => f a = [] ∨ f b = []) :
    items.flatMap f = items'.flatMap f := by
  induction h with
  | nil => rfl
  | cons a _ ih =>
    rw [List.flatMap_cons, List.flatMap_cons, ih hone.of_cons]
  | swap a b rest =>
    have hempty := (List.pairwise_cons.mp hone).1 a List.mem_cons_self
    rcases hempty with hempty | hempty <;> simp [List.flatMap_cons, hempty]
  | trans h _ ih ih' => exact (ih hone).trans (ih' (h.pairwise hone fun hab => hab.symm))

/-- Items in the order of their keys stand in one order if the keys tell them apart. -/
theorem sorted_perm {α κ : Type*} [LinearOrder κ] {key : α → κ} {items items' : List α}
    (h : items.Perm items') (hsorted : items.Pairwise fun a b => key a ≤ key b)
    (hsorted' : items'.Pairwise fun a b => key a ≤ key b)
    (htold : ∀ a ∈ items, ∀ b ∈ items, key a = key b → a = b) : items = items' := by
  apply h.eq_of_pairwise _ hsorted hsorted'
  intro a b ha hb hab hba
  exact htold a ha b (h.mem_iff.mpr hb) (le_antisymm hab hba)

theorem pairwise_key_insertionSort {α κ : Type*} [LinearOrder κ] (key : α → κ) (items : List α) :
    (items.insertionSort fun a b => key a ≤ key b).Pairwise fun a b => key a ≤ key b := by
  have htotal : Std.Total fun a b => key a ≤ key b := ⟨fun a b => le_total (key a) (key b)⟩
  have htrans : IsTrans α fun a b => key a ≤ key b := ⟨fun _ _ _ => le_trans⟩
  exact List.pairwise_insertionSort _ items

/-- A stable sort by a key leaves the items of one key in their order. -/
theorem filter_insertionSort {α κ : Type*} [LinearOrder κ] (key : α → κ) (k : κ) (items : List α) :
    (items.insertionSort fun a b => key a ≤ key b).filter (fun a => key a = k) =
      items.filter fun a => key a = k := by
  have hsub : (items.filter fun a => key a = k).Sublist
      (items.insertionSort fun a b => key a ≤ key b) := by
    apply List.sublist_insertionSort _ List.filter_sublist
    rw [List.pairwise_filter]
    refine List.pairwise_of_forall ?_
    intro a b ha hb
    rw [of_decide_eq_true ha, of_decide_eq_true hb]
  have hfilter := hsub.filter fun a => decide (key a = k)
  rw [List.filter_filter] at hfilter
  simp only [Bool.and_self] at hfilter
  exact (hfilter.eq_of_length ((List.perm_insertionSort _ items).filter _).length_eq.symm).symm

end AgentSpreadsheet.Library
