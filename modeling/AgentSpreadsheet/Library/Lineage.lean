import Mathlib.Data.Finmap
import Mathlib.Data.List.Nodup

/-! Ancestry in a forest of parent pointers. `parent c = some none` is a root and
`parent c = none` an unknown node; a derivation of `Lineage` is finite, so it
carries the acyclicity of the walk that follows it. -/
namespace AgentSpreadsheet.Library

/-- `nodes` is the path from a root down to `tip`. -/
inductive Lineage (parent : α → Option (Option α)) : Option α → List α → Prop
  | base : Lineage parent none []
  | child {node : α} {up : Option α} {above : List α} :
      parent node = some up → Lineage parent up above → Lineage parent (some node) (above ++ [node])

namespace Lineage
variable {parent parent' : α → Option (Option α)} {tip : Option α} {nodes nodes' : List α}

theorem unique (h : Lineage parent tip nodes) (h' : Lineage parent tip nodes') :
    nodes = nodes' := by
  induction h generalizing nodes' with
  | base =>
    cases h' with
    | base => rfl
  | child hup _ ih =>
    cases h' with
    | child hup' habove' =>
      have hsame := Option.some.inj (hup.symm.trans hup')
      subst hsame
      rw [ih habove']

theorem mono (hle : ∀ c p, parent c = some p → parent' c = some p)
    (h : Lineage parent tip nodes) : Lineage parent' tip nodes := by
  induction h with
  | base => exact .base
  | child hup _ ih => exact .child (hle _ _ hup) ih

/-- A lineage reads the parents of its own nodes. -/
theorem congr (h : Lineage parent tip nodes) (heq : ∀ c ∈ nodes, parent' c = parent c) :
    Lineage parent' tip nodes := by
  induction h with
  | base => exact .base
  | @child node up above hup _ ih =>
    refine .child ((heq node (by simp)).trans hup) (ih fun c hc => heq c ?_)
    exact List.mem_append_left _ hc

theorem getLast?_eq (h : Lineage parent tip nodes) : nodes.getLast? = tip := by
  cases h with
  | base => rfl
  | child _ _ => simp

theorem tip_mem {c : α} (h : Lineage parent (some c) nodes) : c ∈ nodes :=
  List.mem_of_getLast? h.getLast?_eq

/-- Every node of a lineage ends a lineage of its own, an initial part. -/
theorem ancestor (h : Lineage parent tip nodes) {c : α} (hc : c ∈ nodes) :
    ∃ above below, nodes = above ++ c :: below ∧ Lineage parent (some c) (above ++ [c]) := by
  induction h with
  | base => simp at hc
  | @child node up above hup habove ih =>
    rcases List.mem_append.mp hc with hmem | hmem
    · obtain ⟨first, rest, heq, hl⟩ := ih hmem
      exact ⟨first, rest ++ [node], by simp [heq], hl⟩
    · rw [List.mem_singleton.mp hmem]
      exact ⟨above, [], rfl, .child hup habove⟩

theorem known (h : Lineage parent tip nodes) {c : α} (hc : c ∈ nodes) :
    ∃ up, parent c = some up := by
  obtain ⟨_, _, _, hl⟩ := h.ancestor hc
  generalize hnodes : _ ++ [c] = nodes at hl
  cases hl with
  | child hup _ => exact ⟨_, hup⟩

theorem nodup (h : Lineage parent tip nodes) : nodes.Nodup := by
  induction h with
  | base => exact List.nodup_nil
  | @child node up above hup habove ih =>
    refine List.nodup_append'.mpr ⟨ih, List.nodup_singleton node, ?_⟩
    intro c hc hc'
    obtain rfl := List.mem_singleton.mp hc'
    -- a repeated node would have two lineages of different length
    obtain ⟨first, rest, heq, hl⟩ := habove.ancestor hc
    have hlen := congrArg List.length (hl.unique (.child hup habove))
    simp only [heq, List.length_append, List.length_cons, List.length_nil] at hlen
    omega

theorem child_inv {c : α} (h : Lineage parent (some c) nodes) :
    ∃ up above, parent c = some up ∧ Lineage parent up above ∧ nodes = above ++ [c] := by
  cases h with
  | child hup habove => exact ⟨_, _, hup, habove, rfl⟩

theorem parent_of_split (h : Lineage parent tip nodes) {above below : List α} {c : α}
    (hsplit : nodes = above ++ c :: below) :
    parent c = some above.getLast? ∧ Lineage parent above.getLast? above := by
  induction h generalizing below with
  | base => simp at hsplit
  | @child node up above' hup habove ih =>
    rcases List.eq_nil_or_concat below with rfl | ⟨inner, last, rfl⟩
    · obtain ⟨rfl, hnode⟩ := List.append_inj' hsplit rfl
      obtain rfl := List.singleton_inj.mp hnode
      rw [habove.getLast?_eq]
      exact ⟨hup, habove⟩
    · apply ih
      have hsplit' : above' ++ [node] = (above ++ c :: inner) ++ [last] := by simp [hsplit]
      exact (List.append_inj' hsplit' rfl).1

theorem parent_of_mem (h : Lineage parent tip nodes) {c : α} (hc : c ∈ nodes) :
    ∃ above below, nodes = above ++ c :: below ∧ parent c = some above.getLast? ∧
      Lineage parent above.getLast? above := by
  obtain ⟨above, below, hsplit⟩ := List.append_of_mem hc
  exact ⟨above, below, hsplit, h.parent_of_split hsplit⟩

theorem parent_injective (h : Lineage parent tip nodes) {c d : α} (hc : c ∈ nodes)
    (hd : d ∈ nodes) (hparent : parent c = parent d) : c = d := by
  obtain ⟨above, below, heq, hup, hl⟩ := h.parent_of_mem hc
  obtain ⟨above', below', heq', hup', hl'⟩ := h.parent_of_mem hd
  rw [hup, hup'] at hparent
  have hlast := Option.some.inj hparent
  rw [hlast] at hl
  obtain rfl := hl.unique hl'
  rw [heq] at heq'
  exact (List.cons.inj (List.append_cancel_left heq')).1

theorem mem_of_parent_mem (h : Lineage parent tip nodes) {c d : α} (hc : c ∈ nodes)
    (hparent : parent c = some (some d)) : d ∈ nodes := by
  obtain ⟨above, below, heq, hup, _⟩ := h.parent_of_mem hc
  have hlast : above.getLast? = some d := Option.some.inj (hup.symm.trans hparent)
  rw [heq]
  exact List.mem_append_left _ (List.mem_of_getLast? hlast)

end Lineage

end AgentSpreadsheet.Library
