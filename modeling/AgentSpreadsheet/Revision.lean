import AgentSpreadsheet.Library.Guard

/-! Revision identities of a resident workbook. A revision is a resource epoch
with two 64-bit counters; journals and clients carry it as text. -/
namespace AgentSpreadsheet
open Library

abbrev Result := Except String

structure ResidentRevision where
  epoch : String
  /-- Advances for committed document transitions only. -/
  document : UInt64
  /-- Workbook generation; complete calculation publication advances it too. -/
  state : UInt64
  deriving DecidableEq, Repr

/-- `resident:{epoch}:{document}:{state}`. -/
def ResidentRevision.stateRevisionId (r : ResidentRevision) : String :=
  "resident:" ++ r.epoch ++ ":" ++ toString r.document.toNat ++ ":" ++ toString r.state.toNat

/-- Decimal `u64` parsing: an optional plus sign, at least one ASCII digit, and
a value below `2^64`. -/
def parseU64 (text : List Char) : Option UInt64 :=
  let digits := match text with
    | '+' :: rest => rest
    | _ => text
  if digits.isEmpty || !digits.all Char.isDigit then none
  else if Nat.ofDigitChars 10 digits 0 < 2 ^ 64 then
    some (UInt64.ofNat (Nat.ofDigitChars 10 digits 0))
  else none

def parseRevision (revision : String) : Result ResidentRevision :=
  match revision.toList.splitOn ':' with
  | [scheme, epoch, document, state] => do
    ensure (scheme = "resident".toList ∧ epoch ≠ []) "invalid resident revision identity"
    let document ← required (parseU64 document) "invalid digit found in string"
    let state ← required (parseU64 state) "invalid digit found in string"
    pure ⟨String.ofList epoch, document, state⟩
  | _ => .error "invalid resident revision identity"

theorem parseU64_toDigits (n : UInt64) : parseU64 (Nat.toDigits 10 n.toNat) = some n := by
  have hne : Nat.toDigits 10 n.toNat ≠ [] := Nat.toDigits_ne_nil
  have hdigits : ∀ c ∈ Nat.toDigits 10 n.toNat, c.isDigit = true := fun c hc =>
    Nat.isDigit_of_mem_toDigits (by decide) (by decide) hc
  have hhead : (match Nat.toDigits 10 n.toNat with
      | '+' :: rest => rest
      | _ => Nat.toDigits 10 n.toNat) = Nat.toDigits 10 n.toNat := by
    split
    · rename_i rest heq
      have := hdigits '+' (by rw [heq]; exact List.mem_cons_self)
      exact absurd this (by decide)
    · rfl
  unfold parseU64
  simp only [hhead]
  rw [if_neg (by simpa [hne] using hdigits), Nat.ofDigitChars_ten_toDigits,
    if_pos n.toNat_lt, UInt64.ofNat_toNat]

/-- Reading back the text of a revision whose epoch has no separator. -/
theorem parseRevision_stateRevisionId (r : ResidentRevision) (hne : r.epoch ≠ "")
    (hsep : ':' ∉ r.epoch.toList) : parseRevision r.stateRevisionId = .ok r := by
  have digitsSep (n : Nat) : ∀ c ∈ Nat.toDigits 10 n, (c == ':') = false := by
    intro c hc
    have := Nat.isDigit_of_mem_toDigits (by decide) (by decide) hc
    cases h : c == ':'
    · rfl
    · rw [beq_iff_eq.mp h] at this
      exact absurd this (by decide)
  have hsep' : ∀ c ∈ r.epoch.toList, (c == ':') = false := by
    intro c hc
    exact beq_false_of_ne fun h => hsep (h ▸ hc)
  have hscheme : ∀ c ∈ "resident".toList, (c == ':') = false := by
    have hall : "resident".toList.all (fun c => !(c == ':')) = true := by decide +kernel
    intro c hc
    simpa using List.all_eq_true.mp hall c hc
  have htext : r.stateRevisionId.toList = "resident".toList ++ ':' :: (r.epoch.toList ++
      ':' :: (Nat.toDigits 10 r.document.toNat ++ ':' :: Nat.toDigits 10 r.state.toNat)) := by
    simp [ResidentRevision.stateRevisionId]
  have hsplit : r.stateRevisionId.toList.splitOn ':' = ["resident".toList, r.epoch.toList,
      Nat.toDigits 10 r.document.toNat, Nat.toDigits 10 r.state.toNat] := by
    rw [htext]
    unfold List.splitOn
    rw [List.splitOnP_append_cons_of_forall_mem hscheme ':' rfl,
      List.splitOnP_append_cons_of_forall_mem hsep' ':' rfl,
      List.splitOnP_append_cons_of_forall_mem (digitsSep _) ':' rfl,
      List.splitOnP_eq_singleton (digitsSep _)]
  have hepoch : r.epoch.toList ≠ [] := fun h => hne (String.toList_eq_nil_iff.mp h)
  unfold parseRevision
  rw [hsplit]
  simp [hepoch, parseU64_toDigits]

example : parseRevision "resident:e:1:02" = .ok ⟨"e", 1, 2⟩ := by
  decide +kernel
example : parseRevision "resident::1:2" = .error "invalid resident revision identity" := by
  decide +kernel

end AgentSpreadsheet
