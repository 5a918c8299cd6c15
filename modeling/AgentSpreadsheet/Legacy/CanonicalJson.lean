import AgentSpreadsheet.Legacy.Store
import AgentSpreadsheet.Library.Decimals
import AgentSpreadsheet.Library.JsonText
import AgentSpreadsheet.Library.MixedOrder
import AgentSpreadsheet.Library.Pointwise
import Mathlib.Data.String.Basic

/-! The canonical text of a payload. Its hash is taken of this text, and so is the hash of the
sealed event that carries the payload. -/
namespace AgentSpreadsheet.Legacy
open Library

/-! ### The text -/

section Text
variable {ν : Type} (texts : NumberTexts ν)

def compareKeys {α : Type} : String × α → String × α → Ordering := byKeyUp Prod.fst

def entryText (entry : String × List Char) : List Char := quoted entry.1 ++ ':' :: entry.2

mutual
/-- The texts of the values are made before the entries are sorted. -/
def canonicalText : Json ν → List Char
  | .null => ['n', 'u', 'l', 'l']
  | .bool true => ['t', 'r', 'u', 'e']
  | .bool false => ['f', 'a', 'l', 's', 'e']
  | .number n => texts.text n
  | .string text => quoted text
  | .array items => '[' :: ([','].intercalate (itemTexts items) ++ [']'])
  | .object entries =>
    '\x7b' :: ([','].intercalate ((sortBy compareKeys (valueTexts entries)).map entryText) ++ ['\x7d'])

def itemTexts : List (Json ν) → List (List Char)
  | [] => []
  | item :: rest => canonicalText item :: itemTexts rest

def valueTexts : List (String × Json ν) → List (String × List Char)
  | [] => []
  | (key, value) :: rest => (key, canonicalText value) :: valueTexts rest
end

def canonicalJson (value : Json ν) : String := String.ofList (canonicalText texts value)

def withText (entry : String × Json ν) : String × List Char := (entry.1, canonicalText texts entry.2)

variable {texts}

theorem itemTexts_eq (items : List (Json ν)) : itemTexts texts items = items.map (canonicalText texts) := by
  induction items with
  | nil => rw [itemTexts, List.map_nil]
  | cons item rest ih => rw [itemTexts, ih, List.map_cons]

theorem valueTexts_eq (entries : List (String × Json ν)) :
    valueTexts texts entries = entries.map (withText texts) := by
  induction entries with
  | nil => rw [valueTexts, List.map_nil]
  | cons entry rest ih =>
    rw [valueTexts, ih, List.map_cons]
    rfl

theorem canonicalText_array (items : List (Json ν)) : canonicalText texts (.array items) =
    '[' :: ([','].intercalate (items.map (canonicalText texts)) ++ [']']) := by
  rw [canonicalText, itemTexts_eq]

/-- The entries may be sorted first. -/
theorem canonicalText_object (entries : List (String × Json ν)) :
    canonicalText texts (.object entries) = '\x7b' :: ([','].intercalate
      ((sortBy compareKeys entries).map fun entry => entryText (withText texts entry)) ++ ['\x7d']) := by
  have hsort : sortBy compareKeys (entries.map (withText texts)) =
      (sortBy compareKeys entries).map (withText texts) :=
    sortBy_map fun _ _ => rfl
  rw [canonicalText, valueTexts_eq, hsort, List.map_map]
  rfl

/-! ### Different kinds start differently -/

inductive Kind where
  | null | yes | no | number | string | array | object
  deriving DecidableEq

def kindOf (c : Char) : Option Kind :=
  if isNumberChar c then some .number
  else if c = 'n' then some .null else if c = 't' then some .yes else if c = 'f' then some .no
  else if c = '"' then some .string else if c = '[' then some .array
  else if c = '\x7b' then some .object else none

def kind : Json ν → Kind
  | .null => .null
  | .bool true => .yes
  | .bool false => .no
  | .number _ => .number
  | .string _ => .string
  | .array _ => .array
  | .object _ => .object

theorem canonicalText_head (value : Json ν) (rest : List Char) :
    ∃ c tail, canonicalText texts value ++ rest = c :: tail ∧ kindOf c = some (kind value) := by
  cases value with
  | null => exact ⟨_, _, rfl, rfl⟩
  | bool b => cases b <;> exact ⟨_, _, rfl, rfl⟩
  | number n =>
    obtain ⟨c, tail, htext, hplain⟩ := texts.head n rest
    exact ⟨c, tail, htext, if_pos hplain⟩
  | string text => exact ⟨_, _, rfl, rfl⟩
  | array items =>
    rw [canonicalText]
    exact ⟨_, _, rfl, rfl⟩
  | object entries =>
    rw [canonicalText]
    exact ⟨_, _, rfl, rfl⟩

theorem kind_eq {a b : Json ν} {x y : List Char}
    (h : canonicalText texts a ++ x = canonicalText texts b ++ y) : kind a = kind b := by
  obtain ⟨c, tail, hc, hkind⟩ := @canonicalText_head ν texts a x
  obtain ⟨d, tail', hd, hkind'⟩ := @canonicalText_head ν texts b y
  rw [hc, hd] at h
  rw [(List.cons.inj h).1, hkind'] at hkind
  exact (Option.some.inj hkind).symm

theorem canonicalText_ne_close (value : Json ν) (rest : List Char) :
    (canonicalText texts value ++ rest).head? ≠ some ']' := by
  obtain ⟨c, tail, hc, hkind⟩ := @canonicalText_head ν texts value rest
  rw [hc]
  intro hclose
  have hnone : kindOf ']' = none := by decide
  rw [Option.some.inj hclose, hnone] at hkind
  cases hkind

/-! ### Texts are told apart -/

def breaks : List Char := [',', ']', '\x7d']

def SameEntry (entry entry' : String × Json ν) : Prop :=
  entry.1 = entry'.1 ∧ entry.2.Same entry'.2

theorem entryText_told {entry entry' : String × Json ν}
    (h : ReadsApart (AtBreak breaks) (entry.2.Same entry'.2) (canonicalText texts entry.2)
      (canonicalText texts entry'.2)) :
    ReadsApart (AtBreak breaks) (SameEntry entry entry') (entryText (withText texts entry))
      (entryText (withText texts entry')) := by
  intro x y hx hy heq
  unfold entryText withText at heq
  rw [List.append_assoc, List.append_assoc] at heq
  have hkey := quoted_told heq
  have hvalue := h x y hx hy (List.cons.inj hkey.2).2
  exact ⟨⟨hkey.1, hvalue.1⟩, hvalue.2⟩

/-- Sorted entries that agree are entries that agree in some order. -/
theorem same_object {entries entries' : List (String × Json ν)}
    (h : List.Forall₂ SameEntry (sortBy compareKeys entries) (sortBy compareKeys entries')) :
    Json.Same (.object entries) (.object entries') := by
  obtain ⟨reordered, hsame, hperm⟩ := List.perm_comp_forall₂ sortBy_perm.symm h
  have hkeys : entries.map Prod.fst = reordered.map Prod.fst := by
    rw [← List.forall₂_eq_eq_eq, List.forall₂_map_left_iff, List.forall₂_map_right_iff]
    exact hsame.imp fun _ _ hentry => hentry.1
  have hvalues : List.Forall₂ Json.Same (entries.map Prod.snd) (reordered.map Prod.snd) := by
    rw [List.forall₂_map_left_iff, List.forall₂_map_right_iff]
    exact hsame.imp fun _ _ hentry => hentry.2
  exact .object hkeys hvalues (hperm.trans sortBy_perm)

theorem canonicalText_told (a b : Json ν) : ReadsApart (AtBreak breaks) (a.Same b)
    (canonicalText texts a) (canonicalText texts b) := by
  induction a using Json.inductionOn generalizing b with
  | null =>
    intro x y hx hy heq
    have hkind := kind_eq heq
    cases b with
    | null => exact ⟨.null, List.append_cancel_left heq⟩
    | bool b => cases b <;> cases hkind
    | number | string | array | object => cases hkind
  | bool first =>
    intro x y hx hy heq
    have hkind := kind_eq heq
    cases b with
    | bool second =>
      cases first <;> cases second <;> first
        | cases hkind; done
        | exact ⟨.bool _, List.append_cancel_left heq⟩
    | null | number | string | array | object => cases first <;> cases hkind
  | number m =>
    intro x y hx hy heq
    have hkind := kind_eq heq
    cases b with
    | number n =>
      have htold := texts.told hx hy heq
      rw [htold.1]
      exact ⟨.number n, htold.2⟩
    | bool b => cases b <;> cases hkind
    | null | string | array | object => cases hkind
  | string s =>
    intro x y hx hy heq
    have hkind := kind_eq heq
    cases b with
    | string t =>
      have htold := quoted_told heq
      rw [htold.1]
      exact ⟨.string t, htold.2⟩
    | bool b => cases b <;> cases hkind
    | null | number | array | object => cases hkind
  | array items ih =>
    intro x y hx hy heq
    have hkind := kind_eq heq
    cases b with
    | array items' =>
      rw [canonicalText_array, canonicalText_array, List.cons_append, List.cons_append,
        List.append_assoc, List.append_assoc] at heq
      have htold := intercalate_told (by decide : ',' ∈ breaks) (by decide : ']' ∈ breaks)
        (by decide) (fun item _ => canonicalText_ne_close item)
        (fun item _ => canonicalText_ne_close item) (fun item hitem item' _ => ih item hitem item')
        (List.cons.inj heq).2
      exact ⟨.array htold.1, htold.2⟩
    | bool b => cases b <;> cases hkind
    | null | number | string | object => cases hkind
  | object entries ih =>
    intro x y hx hy heq
    have hkind := kind_eq heq
    cases b with
    | object entries' =>
      rw [canonicalText_object, canonicalText_object, List.cons_append, List.cons_append,
        List.append_assoc, List.append_assoc] at heq
      have htold := intercalate_told (by decide : ',' ∈ breaks) (by decide : '\x7d' ∈ breaks)
        (by decide) (fun entry _ x => by simp [entryText, quoted])
        (fun entry _ x => by simp [entryText, quoted])
        (fun entry hentry entry' _ =>
          entryText_told (ih entry (sortBy_perm.mem_iff.mp hentry) entry'.2))
        (List.cons.inj heq).2
      exact ⟨same_object htold.1, htold.2⟩
    | bool b => cases b <;> cases hkind
    | null | number | string | array => cases hkind

/-! ### The order of keys does not matter -/

theorem compareKeys_total {α : Type} {entries : List (String × α)}
    (h : (entries.map Prod.fst).Nodup) : OrdersTotally compareKeys entries :=
  byKeyUp_total fun _ ha _ hb hkey => List.inj_on_of_nodup_map h ha hb hkey

theorem map_withText (entries : List (String × Json ν)) : entries.map (withText texts) =
    (entries.map Prod.fst).zip ((entries.map Prod.snd).map (canonicalText texts)) := by
  induction entries with
  | nil => rfl
  | cons entry rest ih =>
    rw [List.map_cons, ih]
    rfl

theorem canonicalText_same {a b : Json ν} (ha : a.Keyed) (hb : b.Keyed) (h : a.Same b) :
    canonicalText texts a = canonicalText texts b := by
  induction a using Json.inductionOn generalizing b with
  | null | bool | number | string =>
    cases h
    rfl
  | array items ih =>
    cases h with
    | array hsame =>
      cases ha with
      | array hitems =>
        cases hb with
        | array hitems' =>
          rw [canonicalText_array, canonicalText_array, map_eq_of_forall₂ hsame
            fun item hitem item' hitem' => ih item hitem (hitems item hitem) (hitems' item' hitem')]
  | object entries ih =>
    cases h with
    | @object _ reordered entries' hkeys hvalues hperm =>
      cases ha with
      | object hnodup hentries =>
        cases hb with
        | object hnodup' hentries' =>
          have htexts : (entries.map Prod.snd).map (canonicalText texts) =
              (reordered.map Prod.snd).map (canonicalText texts) := by
            apply map_eq_of_forall₂ hvalues
            intro value hvalue value' hvalue'
            obtain ⟨entry, hentry, rfl⟩ := List.mem_map.mp hvalue
            obtain ⟨entry', hentry', rfl⟩ := List.mem_map.mp hvalue'
            exact ih entry hentry (hentries entry hentry)
              (hentries' entry' (hperm.mem_iff.mp hentry'))
          have hsort : sortBy compareKeys (reordered.map (withText texts)) =
              sortBy compareKeys (entries'.map (withText texts)) := by
            apply OrdersTotally.sortBy_eq _ (hperm.map _)
            apply compareKeys_total
            rw [List.map_map]
            exact hnodup'
          rw [canonicalText, canonicalText, valueTexts_eq, valueTexts_eq, map_withText, hkeys,
            htexts, ← map_withText, hsort]

/-- Texts are equal exactly for values that are equal up to the order of keys. -/
theorem canonicalText_eq_iff {a b : Json ν} (ha : a.Keyed) (hb : b.Keyed) :
    canonicalText texts a = canonicalText texts b ↔ a.Same b := by
  constructor
  · intro h
    have hnone : AtBreak breaks ([] : List Char) := fun c hc => by cases hc
    exact (canonicalText_told a b [] [] hnone hnone (by rw [h])).1
  · exact canonicalText_same ha hb

end Text

/-! ### Hashes of payloads and of events -/

/-- A payload. The map of an object holds a key once. -/
abbrev Payload (ν : Type) := {value : Json ν // value.Keyed}

/-- A digest without collisions, and the JSON text of an event, which has all its fields. -/
structure EventDigest where
  digest : String → String
  digest_injective : ∀ s t, digest s = digest t → s = t
  toJson : OpEvent → String
  toJson_injective : ∀ e f, toJson e = toJson f → e = f

section Hashes
variable {ν : Type} (texts : NumberTexts ν) (hashes : EventDigest)

def canonicalPayloadHash (payload : Payload ν) : String :=
  "sha256:" ++ hashes.digest (canonicalJson texts payload.1)

/-- An event with another payload. The map of the JSON library is in the order of its keys, so
the text of the payload within the event is the canonical one too. -/
def OpEvent.withPayload (event : OpEvent) (payload : Payload ν) : OpEvent :=
  { event with
    payload := canonicalJson texts payload.1
    canonicalPayloadHash := Legacy.canonicalPayloadHash texts hashes payload }

variable {Archive : Type} (tools : Tools Archive)

def EventDigest.toTools : Tools Archive :=
  { tools with recordHash := fun event => "sha256:" ++ hashes.digest (hashes.toJson event) }

theorem sha256_inj {s t : String} (h : "sha256:" ++ hashes.digest s = "sha256:" ++ hashes.digest t) :
    s = t := by
  have htext := congrArg String.toList h
  rw [String.toList_append, String.toList_append] at htext
  exact hashes.digest_injective s t (String.toList_inj.mp (List.append_cancel_left htext))

end Hashes

/-! ### Integers as numbers -/

theorem isNumberChar_integerText (n : ℤ) : ∀ c ∈ integerText n, isNumberChar c = true := by
  have hdigits : ∀ c ∈ Nat.toDigits 10 n.natAbs, isNumberChar c = true := by
    intro c hc
    simp [isNumberChar, Nat.isDigit_of_mem_toDigits (by decide) (by decide) hc]
  unfold integerText
  split
  · intro c hc
    rcases List.mem_cons.mp hc with hc | hc
    · rw [hc]
      decide
    · exact hdigits c hc
  · exact hdigits

def integerTexts : NumberTexts ℤ where
  text := integerText
  injective m n h := by
    have hread := congrArg readInteger h
    rw [readInteger_integerText, readInteger_integerText] at hread
    exact Option.some.inj hread
  nonempty n h := by
    have hread := readInteger_integerText n
    rw [h] at hread
    cases hread
  plain := isNumberChar_integerText

example : canonicalJson integerTexts (.array [.number (-12), .null, .string "x\"\n"]) =
    "[-12,null,\"x\\\"\\n\"]" := by decide +kernel

end AgentSpreadsheet.Legacy
