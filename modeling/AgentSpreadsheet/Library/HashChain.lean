import Mathlib.Data.List.Induction
import Mathlib.Data.List.Basic

/-! Hash-chained records. An envelope binds its place, its record and the hash of
the envelope before it, so with a collision-free hash the last hash of a chain
determines the whole chain. -/
namespace AgentSpreadsheet.Library

structure Envelope (α : Type) where
  sequence : Nat
  record : α
  previousHash : Option String
  hash : String
  deriving DecidableEq

variable {α : Type} (hash : Nat → α → Option String → String)

/-- The envelope that continues a chain with a record. -/
def nextEnvelope (entries : List (Envelope α)) (record : α) : Envelope α :=
  let sequence := entries.length + 1
  let previousHash := entries.getLast?.map (·.hash)
  { sequence, record, previousHash, hash := hash sequence record previousHash }

/-- The chain of a list of records. -/
def chain (records : List α) : List (Envelope α) :=
  records.foldl (fun entries record => entries ++ [nextEnvelope hash entries record]) []

@[simp] theorem chain_nil : chain hash [] = [] := rfl

theorem chain_concat (records : List α) (record : α) :
    chain hash (records ++ [record]) =
      chain hash records ++ [nextEnvelope hash (chain hash records) record] := by
  simp [chain]

@[simp] theorem chain_map_record (records : List α) :
    (chain hash records).map (·.record) = records := by
  induction records using List.reverseRecOn with
  | nil => rfl
  | append_singleton records record ih =>
    rw [chain_concat, List.map_append, ih]
    rfl

@[simp] theorem length_chain (records : List α) : (chain hash records).length = records.length := by
  rw [← congrArg List.length (chain_map_record hash records), List.length_map]

theorem forall_chain_record {p : α → Prop} (records : List α) :
    (∀ entry ∈ chain hash records, p entry.record) ↔ ∀ record ∈ records, p record := by
  have hmap := List.forall_mem_map (f := Envelope.record) (l := chain hash records) (P := p)
  rw [chain_map_record] at hmap
  exact hmap.symm

theorem chain_take (records : List α) (k : Nat) :
    chain hash (records.take k) = (chain hash records).take k := by
  induction records using List.reverseRecOn with
  | nil => simp
  | append_singleton records record ih =>
    by_cases hk : k ≤ records.length
    · rw [chain_concat, List.take_append_of_le_length hk,
        List.take_append_of_le_length (by simpa using hk), ih]
    · rw [List.take_of_length_le (by simp; omega), List.take_of_length_le (by simp; omega)]

theorem chain_getElem? {records : List α} {i : Nat} {entry : Envelope α}
    (h : (chain hash records)[i]? = some entry) :
    records[i]? = some entry.record ∧ entry.sequence = i + 1 := by
  induction records using List.reverseRecOn with
  | nil => simp at h
  | append_singleton records record ih =>
    rw [chain_concat, List.getElem?_append, length_chain] at h
    rw [List.getElem?_append]
    split at h
    · rename_i hi
      rw [if_pos hi]
      exact ih h
    · rename_i hi
      rw [if_neg hi]
      rw [List.getElem?_singleton] at h
      split at h
      · rename_i hindex
        obtain rfl := Option.some.inj h
        simp only [hindex, nextEnvelope, length_chain]
        exact ⟨rfl, by omega⟩
      · cases h

/-- Two chains that end in the same hash are the same chain. -/
theorem chain_injective_of_last
    (hfree : ∀ n a p m b q, hash n a p = hash m b q → n = m ∧ a = b ∧ p = q)
    {records others : List α}
    (hlast : (chain hash records).getLast?.map (·.hash) =
      (chain hash others).getLast?.map (·.hash)) : records = others := by
  induction records using List.reverseRecOn generalizing others with
  | nil =>
    rcases List.eq_nil_or_concat' others with rfl | ⟨inner, last, rfl⟩
    · rfl
    · simp [chain_concat] at hlast
  | append_singleton records record ih =>
    rcases List.eq_nil_or_concat' others with rfl | ⟨inner, last, rfl⟩
    · simp [chain_concat] at hlast
    · simp only [chain_concat, List.getLast?_concat, Option.map_some, Option.some.injEq,
        nextEnvelope] at hlast
      obtain ⟨_, hrecord, hprevious⟩ := hfree _ _ _ _ _ _ hlast
      rw [ih hprevious, hrecord]

end AgentSpreadsheet.Library
