import Mathlib.Data.List.Basic
import Mathlib.Data.List.Nodup

/-! Logs of compare-and-swaps. Every entry takes a version to another; linked, it
starts from the version the entry before it left. -/
namespace AgentSpreadsheet.Library

section Versions
variable {Entry Version Key : Type} (before after : Entry → Version) (first : Version)

/-- The versions a log has gone through. -/
def versions (log : List Entry) : List Version := first :: log.map after

/-- The version a log ends at. -/
def currentVersion (log : List Entry) : Version := (log.getLast?.map after).getD first

def Linked (log : List Entry) : Prop := log.map before <+: versions after first log

variable {before after first} {log log' : List Entry} {entry : Entry} {key : Version → Key}

@[simp] theorem versions_concat :
    versions after first (log ++ [entry]) = versions after first log ++ [after entry] := by
  simp [versions]

@[simp] theorem currentVersion_concat :
    currentVersion after first (log ++ [entry]) = after entry := by
  simp [currentVersion]

theorem currentVersion_mem : currentVersion after first log ∈ versions after first log := by
  unfold currentVersion versions
  cases hlast : log.getLast? with
  | none => simp
  | some entry =>
    have hmem := List.mem_of_getLast? hlast
    exact List.mem_cons_of_mem _ (List.mem_map_of_mem hmem)

theorem Linked.nil : Linked before after first [] := List.nil_prefix

/-- A linked log starts from all its versions but the last. -/
theorem Linked.versions_eq (h : Linked before after first log) :
    versions after first log = log.map before ++ [currentVersion after first log] := by
  obtain ⟨rest, hrest⟩ := h
  have hlength := congrArg List.length hrest
  simp only [versions, List.length_append, List.length_map, List.length_cons] at hlength
  obtain ⟨last, rfl⟩ := List.length_eq_one_iff.mp (show rest.length = 1 by omega)
  rw [← hrest]
  have hlast := congrArg List.getLast? hrest
  rw [List.getLast?_concat] at hlast
  unfold versions currentVersion at *
  rw [List.getLast?_cons, List.getLast?_map] at hlast
  rw [Option.some.inj hlast]

theorem Linked.concat (h : Linked before after first log)
    (hentry : before entry = currentVersion after first log) :
    Linked before after first (log ++ [entry]) := by
  unfold Linked
  rw [versions_concat, h.versions_eq, List.map_append, List.map_singleton, hentry]
  exact List.prefix_append _ _

theorem Linked.starts_distinct (h : Linked before after first log)
    (hdistinct : ((versions after first log).map key).Nodup) :
    log.Pairwise fun a b => key (before a) ≠ key (before b) := by
  have hstarts := hdistinct.sublist (h.sublist.map key)
  rw [List.map_map] at hstarts
  exact List.pairwise_map.mp hstarts

theorem eq_of_currentVersion (hgrown : log <+: log')
    (hdistinct : ((versions after first log').map key).Nodup)
    (hsame : key (currentVersion after first log') = key (currentVersion after first log)) :
    log' = log := by
  obtain ⟨more, rfl⟩ := hgrown
  rcases List.eq_nil_or_concat more with rfl | ⟨init, last, rfl⟩
  · simp
  · rw [List.concat_eq_append, ← List.append_assoc] at hdistinct hsame
    rw [versions_concat, List.map_append] at hdistinct
    rw [currentVersion_concat] at hsame
    have hmem : key (currentVersion after first log) ∈
        (versions after first (log ++ init)).map key := by
      refine List.mem_map_of_mem ?_
      have hsub : versions after first log ⊆ versions after first (log ++ init) := by
        simp [versions]
      exact hsub currentVersion_mem
    rw [← hsame] at hmem
    exact absurd (List.mem_singleton.mpr rfl) ((List.nodup_append'.mp hdistinct).2.2 hmem)

end Versions

end AgentSpreadsheet.Library
