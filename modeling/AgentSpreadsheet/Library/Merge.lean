import Mathlib.Order.Lattice
import Mathlib.Order.Compare
import Mathlib.Data.List.Forall2

/-! Two ascending lists, walked side by side. -/
namespace AgentSpreadsheet.Library

/-- What a walk meets: a key of one list only, or of both. -/
inductive Meeting (α β : Type) where
  | left (a : α)
  | right (b : β)
  | both (a : α) (b : β)

section Walk
variable {α β κ : Type} [LinearOrder κ] (f : α → κ) (g : β → κ)

def walk : List α → List β → List (Meeting α β)
  | [], ys => ys.map .right
  | x :: xs, [] => (x :: xs).map .left
  | x :: xs, y :: ys =>
    match compare (f x) (g y) with
    | .lt => .left x :: walk xs (y :: ys)
    | .gt => .right y :: walk (x :: xs) ys
    | .eq => .both x y :: walk xs ys
termination_by xs ys => xs.length + ys.length

def Meeting.key : Meeting α β → κ
  | .left a => f a
  | .right b => g b
  | .both a _ => f a

/-- The keys of the list ascend. -/
def Ascending (xs : List α) : Prop := xs.Pairwise fun a b => f a < f b

variable {f g}

theorem lt_of_ascending {x : α} {xs : List α} {k : κ} (h : Ascending f (x :: xs)) (hk : k ≤ f x)
    {a : α} (ha : a ∈ xs) : k < f a :=
  lt_of_le_of_lt hk ((List.pairwise_cons.mp h).1 a ha)

/-- Whether an element that has its key to itself is met. -/
def Meets (f : α → κ) (g : β → κ) (xs : List α) (ys : List β) : Meeting α β → Prop
  | .left a => a ∈ xs ∧ ∀ b ∈ ys, f a ≠ g b
  | .right b => b ∈ ys ∧ ∀ a ∈ xs, f a ≠ g b
  | .both a b => a ∈ xs ∧ b ∈ ys ∧ f a = g b

/-- The walk meets each key once: with the one element that has it, or with both. -/
theorem mem_walk_iff {xs : List α} {ys : List β} (hx : Ascending f xs) (hy : Ascending g ys)
    (m : Meeting α β) : m ∈ walk f g xs ys ↔ Meets f g xs ys m := by
  fun_induction walk f g xs ys with
  | case1 ys => cases m <;> simp [Meets]
  | case2 x xs => cases m <;> simp [Meets]
  | case3 x xs y ys hlt ih =>
    -- the left head is behind every key of the right list
    have hhead := compare_lt_iff_lt.mp hlt
    have halone : ∀ b ∈ y :: ys, f x ≠ g b := by
      intro b hb
      rcases List.mem_cons.mp hb with hb | hb
      · rw [hb]
        exact ne_of_lt hhead
      · exact (lt_of_ascending hy (le_of_lt hhead) hb).ne
    rw [List.mem_cons, ih hx.of_cons hy]
    cases m with
    | left a =>
      simp only [Meets, Meeting.left.injEq, List.mem_cons]
      constructor
      · rintro (rfl | h)
        · exact ⟨.inl rfl, fun b hb => halone b (List.mem_cons.mpr hb)⟩
        · exact ⟨.inr h.1, h.2⟩
      · rintro ⟨rfl | ha, h⟩
        · exact .inl rfl
        · exact .inr ⟨ha, h⟩
    | right b =>
      simp only [Meets, reduceCtorEq, false_or, List.forall_mem_cons]
      constructor
      · intro h
        exact ⟨h.1, halone b h.1, h.2⟩
      · intro h
        exact ⟨h.1, h.2.2⟩
    | both a b =>
      simp only [Meets, reduceCtorEq, false_or]
      constructor
      · intro h
        exact ⟨List.mem_cons_of_mem _ h.1, h.2⟩
      · intro ⟨ha, hb, heq⟩
        rcases List.mem_cons.mp ha with ha | ha
        · rw [ha] at heq
          exact absurd heq (halone b hb)
        · exact ⟨ha, hb, heq⟩
  | case4 x xs y ys hgt ih =>
    have hhead := compare_gt_iff_gt.mp hgt
    have halone : ∀ a ∈ x :: xs, f a ≠ g y := by
      intro a ha
      rcases List.mem_cons.mp ha with ha | ha
      · rw [ha]
        exact ne_of_gt hhead
      · exact (lt_of_ascending hx (le_of_lt hhead) ha).ne'
    rw [List.mem_cons, ih hx hy.of_cons]
    cases m with
    | left a =>
      simp only [Meets, reduceCtorEq, false_or, List.forall_mem_cons]
      constructor
      · intro h
        exact ⟨h.1, halone a h.1, h.2⟩
      · intro h
        exact ⟨h.1, h.2.2⟩
    | right b =>
      simp only [Meets, Meeting.right.injEq, List.mem_cons]
      constructor
      · rintro (rfl | h)
        · exact ⟨.inl rfl, fun a ha => halone a (List.mem_cons.mpr ha)⟩
        · exact ⟨.inr h.1, h.2⟩
      · rintro ⟨rfl | hb, h⟩
        · exact .inl rfl
        · exact .inr ⟨hb, h⟩
    | both a b =>
      simp only [Meets, reduceCtorEq, false_or]
      constructor
      · intro h
        exact ⟨h.1, List.mem_cons_of_mem _ h.2.1, h.2.2⟩
      · intro ⟨ha, hb, heq⟩
        rcases List.mem_cons.mp hb with hb | hb
        · rw [hb] at heq
          exact absurd heq (halone a ha)
        · exact ⟨ha, hb, heq⟩
  | case5 x xs y ys heq ih =>
    have hhead := compare_eq_iff_eq.mp heq
    have hleft : ∀ a ∈ xs, f a ≠ g y := by
      intro a ha
      exact (lt_of_ascending hx (le_of_eq hhead.symm) ha).ne'
    have hright : ∀ b ∈ ys, f x ≠ g b := by
      intro b hb
      exact (lt_of_ascending hy (le_of_eq hhead) hb).ne
    rw [List.mem_cons, ih hx.of_cons hy.of_cons]
    cases m with
    | left a =>
      simp only [Meets, reduceCtorEq, false_or, List.forall_mem_cons]
      constructor
      · intro h
        exact ⟨List.mem_cons_of_mem _ h.1, hleft a h.1, h.2⟩
      · intro ⟨ha, hne, h⟩
        rcases List.mem_cons.mp ha with ha | ha
        · rw [ha] at hne
          exact absurd hhead hne
        · exact ⟨ha, h⟩
    | right b =>
      simp only [Meets, reduceCtorEq, false_or, List.forall_mem_cons]
      constructor
      · intro h
        exact ⟨List.mem_cons_of_mem _ h.1, hright b h.1, h.2⟩
      · intro ⟨hb, hne, h⟩
        rcases List.mem_cons.mp hb with hb | hb
        · rw [hb] at hne
          exact absurd hhead hne
        · exact ⟨hb, h⟩
    | both a b =>
      simp only [Meets, Meeting.both.injEq, List.mem_cons]
      constructor
      · rintro (⟨rfl, rfl⟩ | h)
        · exact ⟨.inl rfl, .inl rfl, hhead⟩
        · exact ⟨.inr h.1, .inr h.2.1, h.2.2⟩
      · rintro ⟨rfl | ha, rfl | hb, hab⟩
        · exact .inl ⟨rfl, rfl⟩
        · exact absurd hab (hright b hb)
        · exact absurd hab (hleft a ha)
        · exact .inr ⟨ha, hb, hab⟩

theorem lt_key_of_mem_walk {xs : List α} {ys : List β} (hx : Ascending f xs)
    (hy : Ascending g ys) {k : κ} (hxk : ∀ a ∈ xs, k < f a) (hyk : ∀ b ∈ ys, k < g b)
    {m : Meeting α β} (hm : m ∈ walk f g xs ys) : k < m.key f g := by
  rw [mem_walk_iff hx hy] at hm
  cases m with
  | left a => exact hxk a hm.1
  | right b => exact hyk b hm.1
  | both a b => exact hxk a hm.1

theorem ascending_walk {xs : List α} {ys : List β} (hx : Ascending f xs) (hy : Ascending g ys) :
    Ascending (Meeting.key f g) (walk f g xs ys) := by
  fun_induction walk f g xs ys with
  | case1 ys => exact List.pairwise_map.mpr hy
  | case2 x xs => exact List.pairwise_map.mpr hx
  | case3 x xs y ys hlt ih =>
    have hhead := compare_lt_iff_lt.mp hlt
    apply List.pairwise_cons.mpr ⟨?_, ih hx.of_cons hy⟩
    intro m hm
    apply lt_key_of_mem_walk hx.of_cons hy _ _ hm
    · intro a ha
      exact lt_of_ascending hx le_rfl ha
    · intro b hb
      rcases List.mem_cons.mp hb with hb | hb
      · rw [hb]
        exact hhead
      · exact lt_of_ascending hy (le_of_lt hhead) hb
  | case4 x xs y ys hgt ih =>
    have hhead := compare_gt_iff_gt.mp hgt
    apply List.pairwise_cons.mpr ⟨?_, ih hx hy.of_cons⟩
    intro m hm
    apply lt_key_of_mem_walk hx hy.of_cons _ _ hm
    · intro a ha
      rcases List.mem_cons.mp ha with ha | ha
      · rw [ha]
        exact hhead
      · exact lt_of_ascending hx (le_of_lt hhead) ha
    · intro b hb
      exact lt_of_ascending hy le_rfl hb
  | case5 x xs y ys heq ih =>
    have hhead := compare_eq_iff_eq.mp heq
    apply List.pairwise_cons.mpr ⟨?_, ih hx.of_cons hy.of_cons⟩
    intro m hm
    apply lt_key_of_mem_walk hx.of_cons hy.of_cons _ _ hm
    · intro a ha
      exact lt_of_ascending hx le_rfl ha
    · intro b hb
      exact lt_of_ascending hy (le_of_eq hhead) hb

/-- From the other side a walk meets the same places in the same order. -/
theorem walk_mirrored {R : Meeting α β → Meeting β α → Prop} (hleft : ∀ a, R (.left a) (.right a))
    (hright : ∀ b, R (.right b) (.left b)) (hboth : ∀ a b, f a = g b → R (.both a b) (.both b a))
    (xs : List α) (ys : List β) : List.Forall₂ R (walk f g xs ys) (walk g f ys xs) := by
  fun_induction walk f g xs ys with
  | case1 ys =>
    cases ys with
    | nil =>
      rw [walk]
      exact .nil
    | cons y ys =>
      rw [walk, List.forall₂_map_left_iff, List.forall₂_map_right_iff, List.forall₂_same]
      exact fun b _ => hright b
  | case2 x xs =>
    rw [walk, List.forall₂_map_left_iff, List.forall₂_map_right_iff, List.forall₂_same]
    exact fun a _ => hleft a
  | case3 x xs y ys hlt ih =>
    rw [walk, compare_gt_iff_gt.mpr (compare_lt_iff_lt.mp hlt)]
    exact ih.cons (hleft x)
  | case4 x xs y ys hgt ih =>
    rw [walk, compare_lt_iff_lt.mpr (compare_gt_iff_gt.mp hgt)]
    exact ih.cons (hright y)
  | case5 x xs y ys heq ih =>
    have hkey := compare_eq_iff_eq.mp heq
    rw [walk, compare_eq_iff_eq.mpr hkey.symm]
    exact ih.cons (hboth x y hkey)
end Walk

end AgentSpreadsheet.Library
