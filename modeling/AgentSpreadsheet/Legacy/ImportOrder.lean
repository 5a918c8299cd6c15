import AgentSpreadsheet.Legacy.ImportReplay
import AgentSpreadsheet.Library.Lineage

/-! The order of an imported journal. What a branch adds to the events ordered so
far is the end of its path, so that its events follow one another in the journal
and the first of them comes from an event that is there. -/
namespace AgentSpreadsheet.Legacy
open Library

def parentOf (log : List OpEvent) (id : String) : Option (Option String) :=
  (findEvent log id).map (·.parentId)

section Paths
variable {log : List OpEvent} {tip : Option String} {path done : List String}

theorem parentOf_eq_some {id : String} {up : Option String} :
    parentOf log id = some up ↔ ∃ event, findEvent log id = some event ∧ event.parentId = up :=
  Option.map_eq_some_iff

theorem parentOf_of_mem {id : String} (h : id ∈ log.map (·.opId)) :
    ∃ up, parentOf log id = some up := by
  obtain ⟨event, hevent⟩ := findEvent_of_mem h
  exact ⟨_, parentOf_eq_some.mpr ⟨event, hevent, rfl⟩⟩

theorem mem_of_parentOf {id : String} {up : Option String} (h : parentOf log id = some up) :
    id ∈ log.map (·.opId) := by
  obtain ⟨event, hevent, _⟩ := parentOf_eq_some.mp h
  obtain ⟨hmem, rfl⟩ := findEvent_some hevent
  exact List.mem_map_of_mem hmem

theorem walk_eq {fuel : Nat} {result : List String} (h : Lineage (parentOf log) tip path)
    (hfuel : path.length < fuel) (hnew : ∀ id ∈ path, id ∉ result) :
    walk log fuel tip result = .ok (path ++ result) := by
  induction h generalizing fuel result with
  | base =>
    cases fuel with
    | zero => omega
    | succ fuel => rfl
  | @child node up above hup habove ih =>
    cases fuel with
    | zero => omega
    | succ fuel =>
      obtain ⟨event, hevent, rfl⟩ := parentOf_eq_some.mp hup
      unfold walk
      rw [if_neg (hnew node (by simp)), hevent]
      dsimp only
      rw [List.length_append, List.length_singleton] at hfuel
      rw [ih (by omega) ?_, List.append_assoc, List.singleton_append]
      intro id hid hmem
      rcases List.mem_cons.mp hmem with rfl | hmem
      · have hnodup := (Lineage.child hup habove).nodup
        exact (List.nodup_append'.mp hnodup).2.2 hid (by simp)
      · exact hnew id (List.mem_append_left _ hid) hmem

theorem ancestry_eq (h : Lineage (parentOf log) tip path) : ancestry log tip = .ok path := by
  have hsub : path ⊆ log.map (·.opId) := by
    intro id hid
    obtain ⟨up, hup⟩ := h.known hid
    exact mem_of_parentOf hup
  have hlength := (List.subperm_of_subset h.nodup hsub).length_le
  rw [List.length_map] at hlength
  unfold ancestry
  rw [walk_eq h (by omega) (by simp), List.append_nil]

theorem Ancestor.mem_path {a b : String} (h : Ancestor log a b)
    (hpath : Lineage (parentOf log) (some b) path) : a ∈ path := by
  induction h generalizing path with
  | refl => exact hpath.tip_mem
  | step found parent _ ih =>
    obtain ⟨up, above, hup, habove, rfl⟩ := hpath.child_inv
    obtain ⟨event, hevent, hup⟩ := parentOf_eq_some.mp hup
    rw [found] at hevent
    obtain rfl := Option.some.inj hevent
    rw [parent] at hup
    subst hup
    exact List.mem_append_left _ (ih habove)

def Closed (log : List OpEvent) (done : List String) : Prop :=
  ∀ id ∈ done, ∀ p, parentOf log id = some (some p) → p ∈ done

theorem Closed.holdsPath (h : Closed log done) {b : String}
    (hpath : Lineage (parentOf log) (some b) path) (hb : b ∈ done) : ∀ id ∈ path, id ∈ done := by
  generalize htip : some b = tip at hpath
  induction hpath generalizing b with
  | base => simp
  | @child node up above hup habove ih =>
    obtain rfl := Option.some.inj htip
    intro id hid
    rcases List.mem_append.mp hid with hid | hid
    · cases up with
      | none =>
        cases habove with
        | base => cases hid
      | some p => exact ih (h _ hb p hup) rfl id hid
    · exact List.mem_singleton.mp hid ▸ hb

theorem Closed.split (h : Closed log done) (hpath : Lineage (parentOf log) tip path) :
    ∃ shared own, path = shared ++ own ∧ (∀ id ∈ shared, id ∈ done) ∧ ∀ id ∈ own, id ∉ done := by
  induction hpath with
  | base => exact ⟨[], [], rfl, by simp, by simp⟩
  | @child node up above hup habove ih =>
    by_cases hnode : node ∈ done
    · exact ⟨above ++ [node], [], by simp, h.holdsPath (.child hup habove) hnode, by simp⟩
    · obtain ⟨shared, own, rfl, hshared, hown⟩ := ih
      refine ⟨shared, own ++ [node], by simp, hshared, fun id hid => ?_⟩
      rcases List.mem_append.mp hid with hid | hid
      · exact hown id hid
      · exact List.mem_singleton.mp hid ▸ hnode

theorem Closed.extend (h : Closed log done) {shared own : List String}
    (hpath : Lineage (parentOf log) tip (shared ++ own)) (hshared : ∀ id ∈ shared, id ∈ done) :
    Closed log (done ++ own) := by
  intro id hid p hp
  rcases List.mem_append.mp hid with hid | hid
  · exact List.mem_append_left _ (h id hid p hp)
  · rcases List.mem_append.mp (hpath.mem_of_parent_mem (List.mem_append_right _ hid) hp) with
      hmem | hmem
    · exact List.mem_append_left _ (hshared p hmem)
    · exact List.mem_append_right _ hmem

theorem addPath_shared {shared own : List String} (hshared : ∀ id ∈ shared, id ∈ done) :
    addPath done (shared ++ own) = addPath done own := by
  unfold addPath
  rw [List.foldl_append]
  congr 1
  induction shared with
  | nil => rfl
  | cons id rest ih =>
    rw [List.foldl_cons, if_pos (hshared id List.mem_cons_self)]
    exact ih fun x hx => hshared x (List.mem_cons_of_mem _ hx)

theorem addPath_own {own : List String} (hnodup : own.Nodup) (hown : ∀ id ∈ own, id ∉ done) :
    addPath done own = done ++ own := by
  induction own generalizing done with
  | nil => exact (List.append_nil done).symm
  | cons id rest ih =>
    obtain ⟨hid, hrest⟩ := List.nodup_cons.mp hnodup
    have hstep : addPath done (id :: rest) = addPath (done ++ [id]) rest := by
      unfold addPath
      rw [List.foldl_cons, if_neg (hown id List.mem_cons_self)]
    rw [hstep, ih hrest ?_, List.append_assoc, List.singleton_append]
    intro x hx hmem
    rcases List.mem_append.mp hmem with hmem | hmem
    · exact hown x (List.mem_cons_of_mem _ hx) hmem
    · exact hid (List.mem_singleton.mp hmem ▸ hx)

end Paths

end AgentSpreadsheet.Legacy
