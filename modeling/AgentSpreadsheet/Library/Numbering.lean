import Mathlib.Data.List.Nodup
import Mathlib.Data.List.Count
import Mathlib.Logic.Function.Basic

/-! Repeated items, told apart by their number. The first of several stays as it is, and a
numbered one can be an item that was there already. -/
namespace AgentSpreadsheet.Library

section Numbering
variable {α : Type} [DecidableEq α] (mark : α → Nat → α)

/-- Each item with the number of equal ones before it. -/
def numberRepeats (seen : α → Nat) : List α → List α
  | [] => []
  | a :: rest => mark a (seen a) :: numberRepeats (Function.update seen a (seen a + 1)) rest

/-- Marks tell items and numbers apart, and no item is its own repeat. -/
structure MarksRepeats : Prop where
  first : ∀ a, mark a 0 = a
  inj : ∀ a b k l, mark a (k + 1) = mark b (l + 1) → a = b ∧ k = l
  moved : ∀ a k, mark a (k + 1) ≠ a

variable {mark} {items : List α} {seen : α → Nat} {a : α}

@[simp] theorem numberRepeats_length : (numberRepeats mark seen items).length = items.length := by
  induction items generalizing seen with
  | nil => rfl
  | cons a rest ih => exact congrArg (· + 1) ih

theorem numberRepeats_getElem? (i : Nat) : (numberRepeats mark seen items)[i]? =
    items[i]?.map fun a => mark a (seen a + (items.take i).count a) := by
  induction items generalizing seen i with
  | nil => rfl
  | cons a rest ih =>
    unfold numberRepeats
    cases i with
    | zero => simp
    | succ i =>
      rw [List.getElem?_cons_succ, List.getElem?_cons_succ, ih, List.take_succ_cons]
      cases rest[i]? with
      | none => rfl
      | some b =>
        rw [Option.map_some, Option.map_some, List.count_cons]
        by_cases hab : a = b
        · rw [hab, Function.update_self, beq_self_eq_true, if_pos rfl, Nat.add_right_comm,
            Nat.add_assoc]
        · have hba : b ≠ a := fun h => hab h.symm
          rw [Function.update_of_ne hba]
          simp [hab]

/-- Each number below the count of an item is the number of one of its places. -/
theorem exists_occurrence {k : Nat} (h : k < items.count a) :
    ∃ i, items[i]? = some a ∧ (items.take i).count a = k := by
  induction items generalizing k with
  | nil => exact absurd h (Nat.not_lt_zero k)
  | cons b rest ih =>
    rw [List.count_cons] at h
    by_cases hba : b = a
    · rw [hba] at h ⊢
      cases k with
      | zero => exact ⟨0, rfl, rfl⟩
      | succ k =>
        obtain ⟨i, hi, hcount⟩ := @ih k (by simp at h; exact h)
        refine ⟨i + 1, hi, ?_⟩
        rw [List.take_succ_cons, List.count_cons_self, hcount]
    · obtain ⟨i, hi, hcount⟩ := @ih k (by simpa [hba] using h)
      refine ⟨i + 1, hi, ?_⟩
      rw [List.take_succ_cons, List.count_cons_of_ne hba, hcount]

theorem count_take_lt {i j : Nat} (hij : i < j) (hi : items[i]? = some a) :
    (items.take i).count a < (items.take j).count a := by
  have hsucc : (items.take (i + 1)).count a = (items.take i).count a + 1 := by
    rw [List.take_add_one, hi, Option.toList_some, List.count_append, List.count_singleton_self]
  have hprefix : (items.take (i + 1)).count a ≤ (items.take j).count a :=
    (List.take_sublist_take_left hij).count_le a
  omega

theorem count_take_lt_count {i : Nat} (hi : items[i]? = some a) :
    (items.take i).count a < items.count a := by
  have hlength := (List.getElem?_eq_some_iff.mp hi).1
  have hlt := count_take_lt hlength hi
  rw [List.take_length] at hlt
  exact hlt

theorem numberRepeats_once (hmark : MarksRepeats mark) {i : Nat} (hi : items[i]? = some a)
    (hcount : items.count a = 1) : (numberRepeats mark (fun _ => 0) items)[i]? = some a := by
  have hbefore := count_take_lt_count hi
  have hzero : (items.take i).count a = 0 := by omega
  rw [numberRepeats_getElem?, hi, Option.map_some, hzero, hmark.first]

/-- The numbered items are distinct exactly when none of the repeats is an item itself. -/
theorem numberRepeats_nodup_iff (hmark : MarksRepeats mark) :
    (numberRepeats mark (fun _ => 0) items).Nodup ↔
      ∀ a ∈ items, ∀ k, k + 1 < items.count a → mark a (k + 1) ∉ items := by
  have hplace {i : Nat} {a : α} (hi : items[i]? = some a) :
      (numberRepeats mark (fun _ => 0) items)[i]? = some (mark a ((items.take i).count a)) := by
    rw [numberRepeats_getElem?, hi, Option.map_some, Nat.zero_add]
  have hlength {i : Nat} {a : α} (hi : items[i]? = some a) :
      i < (numberRepeats mark (fun _ => 0) items).length := by
    rw [numberRepeats_length]
    exact (List.getElem?_eq_some_iff.mp hi).1
  constructor
  · intro hnodup a _ k hk hmem
    obtain ⟨j, hj, hjcount⟩ := exists_occurrence hk
    obtain ⟨i, hi, hicount⟩ := exists_occurrence (List.count_pos_iff.mpr hmem)
    have hsame : (numberRepeats mark (fun _ => 0) items)[i]? =
        (numberRepeats mark (fun _ => 0) items)[j]? := by
      rw [hplace hi, hplace hj, hicount, hjcount, hmark.first]
    have hij := (List.getElem?_inj (hlength hi) hnodup).mp hsame
    rw [hij, hj] at hi
    exact hmark.moved a k (Option.some.inj hi).symm
  · intro hfree
    rw [List.nodup_iff_getElem?_ne_getElem?]
    intro i j hij hj heq
    rw [numberRepeats_length] at hj
    obtain ⟨b, hb⟩ : ∃ b, items[j]? = some b := ⟨_, List.getElem?_eq_getElem hj⟩
    obtain ⟨a, ha⟩ : ∃ a, items[i]? = some a :=
      ⟨_, List.getElem?_eq_getElem (Nat.lt_trans hij hj)⟩
    rw [hplace ha, hplace hb] at heq
    have heq := Option.some.inj heq
    have hacount := count_take_lt_count ha
    have hbcount := count_take_lt_count hb
    have hamem := List.mem_of_getElem? ha
    have hbmem := List.mem_of_getElem? hb
    cases hk : (items.take i).count a with
    | zero =>
      cases hl : (items.take j).count b with
      | zero =>
        rw [hk, hl, hmark.first, hmark.first] at heq
        have hlt := count_take_lt hij ha
        rw [heq, hl] at hlt
        omega
      | succ l =>
        rw [hk, hl, hmark.first] at heq
        rw [heq] at hamem
        exact hfree b hbmem l (by omega) hamem
    | succ k =>
      cases hl : (items.take j).count b with
      | zero =>
        rw [hk, hl, hmark.first] at heq
        rw [← heq] at hbmem
        exact hfree a hamem k (by omega) hbmem
      | succ l =>
        rw [hk, hl] at heq
        have hsame := hmark.inj a b k l heq
        have hlt := count_take_lt hij ha
        rw [hk, hsame.1, hl, hsame.2] at hlt
        exact absurd hlt (Nat.lt_irrefl _)

end Numbering

end AgentSpreadsheet.Library
