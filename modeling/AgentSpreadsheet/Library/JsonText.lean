import AgentSpreadsheet.Library.Unambiguous

/-! JSON values and the texts of their scalars. -/
namespace AgentSpreadsheet.Library

/-- The entries of an object in some order. `ν` are the numbers. -/
inductive Json (ν : Type) where
  | null
  | bool (b : Bool)
  | number (n : ν)
  | string (text : String)
  | array (items : List (Json ν))
  | object (entries : List (String × Json ν))

section Values
variable {ν : Type}

/-- A property of all values, by their parts. -/
theorem Json.inductionOn {P : Json ν → Prop} (null : P .null) (bool : ∀ b, P (.bool b))
    (number : ∀ n, P (.number n)) (string : ∀ text, P (.string text))
    (array : ∀ items, (∀ item ∈ items, P item) → P (.array items))
    (object : ∀ entries, (∀ entry ∈ entries, P entry.2) → P (.object entries)) :
    ∀ value, P value
  | .null => null
  | .bool b => bool b
  | .number n => number n
  | .string text => string text
  | .array items =>
    array items fun item _ => Json.inductionOn null bool number string array object item
  | .object entries =>
    object entries fun entry _ => Json.inductionOn null bool number string array object entry.2
termination_by value => sizeOf value
decreasing_by
  · rename_i hitem
    have hsize := List.sizeOf_lt_of_mem hitem
    simp only [Json.array.sizeOf_spec]
    omega
  · rename_i hentry
    have hsize := List.sizeOf_lt_of_mem hentry
    have hvalue : sizeOf entry.2 < sizeOf entry := by
      cases entry
      simp only [Prod.mk.sizeOf_spec]
      omega
    simp only [Json.object.sizeOf_spec]
    omega

/-- No object has a key twice, at any depth. -/
inductive Json.Keyed : Json ν → Prop
  | null : Json.Keyed .null
  | bool (b : Bool) : Json.Keyed (.bool b)
  | number (n : ν) : Json.Keyed (.number n)
  | string (text : String) : Json.Keyed (.string text)
  | array {items : List (Json ν)} : (∀ item ∈ items, Json.Keyed item) → Json.Keyed (.array items)
  | object {entries : List (String × Json ν)} : (entries.map Prod.fst).Nodup →
      (∀ entry ∈ entries, Json.Keyed entry.2) → Json.Keyed (.object entries)

/-- Equal up to the order of the keys of objects, at any depth. -/
inductive Json.Same : Json ν → Json ν → Prop
  | null : Json.Same .null .null
  | bool (b : Bool) : Json.Same (.bool b) (.bool b)
  | number (n : ν) : Json.Same (.number n) (.number n)
  | string (text : String) : Json.Same (.string text) (.string text)
  | array {items items' : List (Json ν)} : List.Forall₂ Json.Same items items' →
      Json.Same (.array items) (.array items')
  | object {entries reordered entries' : List (String × Json ν)} :
      entries.map Prod.fst = reordered.map Prod.fst →
      List.Forall₂ Json.Same (entries.map Prod.snd) (reordered.map Prod.snd) →
      reordered.Perm entries' → Json.Same (.object entries) (.object entries')

end Values

/-! ### Strings -/

section Strings

def hexValue (c : Char) : Nat := if c.isDigit then c.toNat - '0'.toNat else c.toNat - 'a'.toNat + 10

/-- The characters that are written with a letter. -/
def shortEscapes : List (Char × Char) :=
  [('"', '"'), ('\\', '\\'), ('\x08', 'b'), ('\x0c', 'f'), ('\n', 'n'), ('\r', 'r'), ('\t', 't')]

/-- A character of a string. The other control characters are written with their number. -/
def escapeChar (c : Char) : List Char :=
  match shortEscapes.lookup c with
  | some letter => ['\\', letter]
  | none =>
    if c.toNat < 32 then
      ['\\', 'u', '0', '0', Nat.digitChar (c.toNat / 16), Nat.digitChar (c.toNat % 16)]
    else [c]

/-- After a backslash. -/
def unescapeLetter (letter : Char) (rest : List Char) : Option (Char × List Char) :=
  match shortEscapes.find? (fun escape => escape.2 = letter), rest with
  | some escape, rest => some (escape.1, rest)
  | none, _ :: _ :: high :: low :: rest =>
    some (Char.ofNat (hexValue high * 16 + hexValue low), rest)
  | none, _ => none

def unescapeChar : List Char → Option (Char × List Char)
  | [] => none
  | c :: rest =>
    if c = '"' then none
    else if c = '\\' then rest.head?.bind fun letter => unescapeLetter letter rest.tail
    else some (c, rest)

def quoted (text : String) : List Char := '"' :: (text.toList.flatMap escapeChar ++ ['"'])

theorem hexValue_digitChar {d : Nat} (h : d < 16) : hexValue (Nat.digitChar d) = d := by
  have hall : ∀ d : Fin 16, hexValue (Nat.digitChar d.val) = d.val := by decide
  exact hall ⟨d, h⟩

theorem unescapeChar_plain {c : Char} (hquote : c ≠ '"') (hslash : c ≠ '\\') (rest : List Char) :
    unescapeChar (c :: rest) = some (c, rest) := by
  simp [unescapeChar, hquote, hslash]

theorem unescapeChar_escapeChar (c : Char) (rest : List Char) :
    unescapeChar (escapeChar c ++ rest) = some (c, rest) := by
  unfold escapeChar
  cases hlookup : shortEscapes.lookup c with
  | some letter =>
    have hall : ∀ escape ∈ shortEscapes,
        shortEscapes.find? (fun other => other.2 = escape.2) = some escape := by decide
    have hmem : (c, letter) ∈ shortEscapes := by
      obtain ⟨before, after, hlist, -⟩ := List.lookup_eq_some_iff.mp hlookup
      rw [hlist]
      simp
    have hescape := hall (c, letter) hmem
    change unescapeLetter letter rest = _
    unfold unescapeLetter
    rw [hescape]
  | none =>
    have hnone := List.lookup_eq_none_iff.mp hlookup
    have hquote : c ≠ '"' := by simpa using hnone ('"', '"') (by decide)
    have hslash : c ≠ '\\' := by simpa using hnone ('\\', '\\') (by decide)
    dsimp only
    by_cases hcontrol : c.toNat < 32
    · have hhigh := @hexValue_digitChar (c.toNat / 16) (by omega)
      have hlow := @hexValue_digitChar (c.toNat % 16) (by omega)
      have hnumber : c.toNat / 16 * 16 + c.toNat % 16 = c.toNat := by omega
      rw [if_pos hcontrol]
      change some (Char.ofNat (hexValue (Nat.digitChar (c.toNat / 16)) * 16 +
        hexValue (Nat.digitChar (c.toNat % 16))), rest) = _
      rw [hhigh, hlow, hnumber, Char.ofNat_toNat]
    · rw [if_neg hcontrol]
      exact unescapeChar_plain hquote hslash rest

/-- Quoted strings are told apart whatever follows. -/
theorem quoted_told {s t : String} {rest rest' : List Char}
    (h : quoted s ++ rest = quoted t ++ rest') : s = t ∧ rest = rest' := by
  unfold quoted at h
  rw [List.cons_append, List.cons_append, List.append_assoc, List.append_assoc] at h
  have htext := @flatMap_told Char Char rest rest' escapeChar unescapeChar '"'
    unescapeChar_escapeChar (fun _ => rfl) s.toList t.toList (List.cons.inj h).2
  exact ⟨String.toList_inj.mp htext.1, htext.2⟩

end Strings

/-! ### Numbers -/

/-- A character of the text of a number. -/
def isNumberChar (c : Char) : Bool := c.isDigit || ['-', '+', '.', 'e', 'E'].contains c

/-- The texts of numbers are told apart and have the characters of numbers. -/
structure NumberTexts (ν : Type) where
  text : ν → List Char
  injective : ∀ m n, text m = text n → m = n
  nonempty : ∀ n, text n ≠ []
  plain : ∀ n, ∀ c ∈ text n, isNumberChar c = true

section Numbers
variable {ν : Type} (texts : NumberTexts ν)

theorem NumberTexts.told {m n : ν} {rest rest' : List Char} (hrest : AtBreak [',', ']', '\x7d'] rest)
    (hrest' : AtBreak [',', ']', '\x7d'] rest') (h : texts.text m ++ rest = texts.text n ++ rest') :
    m = n ∧ rest = rest' := by
  have hrun := run_told (texts.plain m) (texts.plain n) (by decide) hrest hrest' h
  exact ⟨texts.injective m n hrun.1, hrun.2⟩

/-- The first character of a number's text. -/
theorem NumberTexts.head (n : ν) (rest : List Char) :
    ∃ c tail, texts.text n ++ rest = c :: tail ∧ isNumberChar c = true := by
  cases htext : texts.text n with
  | nil => exact absurd htext (texts.nonempty n)
  | cons c tail =>
    have hplain := texts.plain n c
    rw [htext] at hplain
    exact ⟨c, tail ++ rest, rfl, hplain List.mem_cons_self⟩

end Numbers

end AgentSpreadsheet.Library
