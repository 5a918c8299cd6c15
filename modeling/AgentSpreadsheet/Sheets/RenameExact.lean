import AgentSpreadsheet.Sheets.Rename

/-! What a rename of a sheet leaves of the references, and what renaming back does. The
sheet part of a reference is taken to end at its first exclamation mark, which may be part
of the name; and formulas without a reference are written back as well. -/
namespace AgentSpreadsheet.Sheets
open Library

/-! ### Names at the ends of which no whitespace is -/

section Trim
variable {text : List Char}

theorem dropWhile_trimmed (h : ∀ c, text.head? = some c → Legacy.isWhitespace c = false) :
    text.dropWhile Legacy.isWhitespace = text := by
  cases text with
  | nil => rfl
  | cons c rest => rw [List.dropWhile_cons, h c rfl, if_neg Bool.false_ne_true]

theorem head_dropWhile {c : Char} (h : (text.dropWhile Legacy.isWhitespace).head? = some c) :
    Legacy.isWhitespace c = false := by
  have hnot := List.head?_dropWhile_not Legacy.isWhitespace text
  rw [h] at hnot
  simpa using hnot

theorem trim_of_trimmed {name : String} (h : Trimmed name.toList) : Legacy.trim name = name := by
  unfold Legacy.trim
  rw [dropWhile_trimmed h.1, dropWhile_trimmed, List.reverse_reverse, String.ofList_toList]
  intro c hc
  rw [List.head?_reverse] at hc
  exact h.2 c hc

theorem trimmed_trim (name : String) : Trimmed (Legacy.trim name).toList := by
  unfold Legacy.trim
  rw [String.toList_ofList]
  constructor
  · intro c hc
    rw [List.head?_reverse] at hc
    have hsuffix := List.dropWhile_suffix Legacy.isWhitespace
      (l := (name.toList.dropWhile Legacy.isWhitespace).reverse)
    obtain ⟨before, hbefore⟩ := hsuffix
    have hlast : (name.toList.dropWhile Legacy.isWhitespace).reverse.getLast? = some c := by
      rw [← hbefore, List.getLast?_append, hc]
      rfl
    rw [List.getLast?_reverse] at hlast
    exact head_dropWhile hlast
  · intro c hc
    rw [List.getLast?_reverse] at hc
    exact head_dropWhile hc

end Trim

/-! ### Sheet parts -/

section Parts
variable {name name' tail tail' value : List Char} {token : FormulaToken} {sheet sheet' : String}

theorem trimmed_quoted : Trimmed ('\'' :: (doubled '\'' name ++ ['\''])) := by
  constructor
  · intro c hc
    simp only [List.head?_cons, Option.some.injEq] at hc
    subst hc
    rfl
  · intro c hc
    rw [← List.cons_append, List.getLast?_concat] at hc
    simp only [Option.some.injEq] at hc
    subst hc
    rfl

theorem matches_quoted : sheetPartMatches (String.ofList ('\'' :: (doubled '\'' name ++ ['\'']))) sheet =
    decide (name = sheet.toList) := by
  have htrim : Legacy.trim (String.ofList ('\'' :: (doubled '\'' name ++ ['\'']))) =
      String.ofList ('\'' :: (doubled '\'' name ++ ['\''])) := by
    apply trim_of_trimmed
    rw [String.toList_ofList]
    exact trimmed_quoted
  have hunquoted : unquoted ('\'' :: (doubled '\'' name ++ ['\''])) = some (doubled '\'' name) := by
    have hlast : (doubled '\'' name ++ ['\'']).getLast? = some '\'' := List.getLast?_concat
    change (if (doubled '\'' name ++ ['\'']).getLast? = some '\'' then _ else _) = _
    rw [if_pos hlast, List.dropLast_concat]
  unfold sheetPartMatches
  rw [htrim]
  simp only [String.toList_ofList, hunquoted, undoubled_doubled]

theorem matches_bare (hquote : name.head? ≠ some '\'') (htrimmed : Trimmed name) :
    sheetPartMatches (String.ofList name) sheet = decide (name = sheet.toList) := by
  have htrim : Legacy.trim (String.ofList name) = String.ofList name := by
    apply trim_of_trimmed
    rwa [String.toList_ofList]
  have hunquoted : unquoted name = none := by
    unfold unquoted
    split
    · exact absurd rfl hquote
    · rfl
  unfold sheetPartMatches
  rw [htrim]
  simp only [String.toList_ofList, hunquoted, decide_eq_decide]
  constructor
  · intro h
    rw [← h, String.toList_ofList]
  · intro h
    rw [h, String.ofList_toList]

theorem splitOnce_list {before after : List Char} {text : String} (h : '!' ∉ before)
    (htext : text.toList = before ++ '!' :: after) :
    splitOnce '!' text = some (String.ofList before, String.ofList after) := by
  unfold splitOnce
  rw [htext, span_append h]

theorem recognised_plain (hrange : token.isRange = true)
    (href : RefersTo token.value.toList name tail) (hplain : '!' ∉ name) :
    recognised sheet token = if name = sheet.toList then some (String.ofList tail) else none := by
  unfold recognised
  rw [if_pos hrange]
  generalize hvalue : token.value.toList = value at href
  cases href with
  | quoted =>
    have hpart : '!' ∉ '\'' :: (doubled '\'' name ++ ['\'']) := by
      simp [mem_doubled, hplain]
    rw [splitOnce_list hpart (by simpa using hvalue), Option.bind_some]
    dsimp only
    rw [matches_quoted]
    simp
  | bare _ hne hno hquote htrimmed =>
    rw [splitOnce_list hplain hvalue, Option.bind_some]
    dsimp only
    rw [matches_bare hquote htrimmed]
    simp

theorem recognised_none (h : token.isRange = true → '!' ∉ token.value.toList) :
    recognised sheet token = none := by
  unfold recognised
  split
  · rename_i hrange
    rw [splitOnce_none (h hrange)]
    rfl
  · rfl

theorem recognised_split {rest : String} (h : recognised sheet token = some rest) :
    ∃ part : List Char, '!' ∉ part ∧ token.value.toList = part ++ '!' :: rest.toList := by
  unfold recognised at h
  split at h
  · obtain ⟨⟨part, after⟩, hsplit, hmatch⟩ := Option.bind_eq_some_iff.mp h
    dsimp only at hmatch
    split at hmatch
    · injection hmatch with hmatch
      subst hmatch
      unfold splitOnce at hsplit
      rw [List.span_eq_takeWhile_dropWhile] at hsplit
      cases hdrop : token.value.toList.dropWhile (fun c => decide (c ≠ '!')) with
      | nil =>
        rw [hdrop] at hsplit
        contradiction
      | cons c more =>
        rw [hdrop] at hsplit
        injection hsplit with hsplit
        injection hsplit with hpart hafter
        refine ⟨token.value.toList.takeWhile (fun c => decide (c ≠ '!')), ?_, ?_⟩
        · intro hmem
          have hne := List.mem_takeWhile_imp hmem
          simp at hne
        · have hc := List.head?_dropWhile_not (fun c => decide (c ≠ '!')) token.value.toList
          rw [hdrop] at hc
          simp only [List.head?_cons, ne_eq, decide_not, Bool.not_eq_eq_eq_not, Bool.not_false,
            decide_eq_true_eq] at hc
          subst hc
          rw [← hafter, String.toList_ofList, ← hdrop, List.takeWhile_append_dropWhile]
    · contradiction
  · contradiction

theorem RefersTo.unique (h : RefersTo value name tail) (h' : RefersTo value name' tail') :
    name = name' ∧ tail = tail' := by
  generalize hvalue : value = value' at h'
  cases h with
  | quoted =>
    cases h' with
    | quoted =>
      injection hvalue with _ hvalue
      obtain ⟨hname, hrest⟩ := quoted_injective (by simp) (by simp) hvalue
      exact ⟨hname, by simpa using hrest⟩
    | bare _ hne _ hquote _ =>
      cases name' with
      | nil => contradiction
      | cons c more =>
        injection hvalue with hc _
        rw [← hc] at hquote
        exact absurd rfl hquote
  | bare _ hne hno hquote _ =>
    cases h' with
    | quoted =>
      cases name with
      | nil => contradiction
      | cons c more =>
        injection hvalue with hc _
        rw [hc] at hquote
        exact absurd rfl hquote
    | bare _ _ hno' _ _ =>
      have hspan := congrArg (List.span (· ≠ '!')) hvalue
      rw [span_append hno, span_append hno'] at hspan
      injection hspan with hname hrest
      exact ⟨hname, by simpa using hrest⟩

theorem recognised_cut (href : RefersTo token.value.toList name tail) (hmark : '!' ∈ name)
    {rest : String} (h : recognised sheet token = some rest) : rest.toList ≠ tail := by
  obtain ⟨part, hpart, hvalue⟩ := recognised_split h
  intro hsame
  generalize token.value.toList = value at href hvalue
  cases href with
  | bare _ _ hno _ _ => exact hno hmark
  | quoted =>
    rw [hsame] at hvalue
    have hends : '\'' :: (doubled '\'' name ++ ['\'']) ++ '!' :: tail = part ++ '!' :: tail := by
      simpa using hvalue
    have hparts := List.append_cancel_right hends
    rw [← hparts] at hpart
    simp [mem_doubled, hmark] at hpart

/-! ### The new prefix -/

theorem sheetNameNeedsQuoting_of_mem {c : Char} (hmem : c ∈ sheet.toList)
    (hquoted : c ∈ quotedCharacters) : sheetNameNeedsQuoting sheet = true := by
  unfold sheetNameNeedsQuoting
  cases hlist : sheet.toList with
  | nil =>
    rw [hlist] at hmem
    contradiction
  | cons first rest =>
    have hany : (first :: rest).any (· ∈ quotedCharacters) = true := by
      rw [hlist] at hmem
      exact List.any_eq_true.mpr ⟨c, hmem, decide_eq_true hquoted⟩
    simp [hany]

theorem formatSheetPrefix_spells (hne : sheet ≠ "") (htrimmed : Trimmed sheet.toList) :
    ∃ part : List Char, (formatSheetPrefix sheet).toList = part ++ ['!'] ∧
      sheetPartMatches (String.ofList part) sheet = true ∧
      ∀ tail, RefersTo (part ++ '!' :: tail) sheet.toList tail := by
  unfold formatSheetPrefix
  split
  · refine ⟨'\'' :: (doubled '\'' sheet.toList ++ ['\'']), ?_, ?_, fun tail => ?_⟩
    · simp [doubled]
    · rw [matches_quoted, decide_eq_true rfl]
    · have hquoted := RefersTo.quoted sheet.toList tail
      simpa using hquoted
  · rename_i hbare
    have hno (c : Char) (hc : c ∈ quotedCharacters) : c ∉ sheet.toList :=
      fun hmem => hbare (sheetNameNeedsQuoting_of_mem hmem hc)
    have hquote : sheet.toList.head? ≠ some '\'' :=
      fun hhead => hno '\'' (by decide) (List.mem_of_head? hhead)
    refine ⟨sheet.toList, by simp, ?_, fun tail => ?_⟩
    · rw [matches_bare hquote htrimmed, decide_eq_true rfl]
    · exact .bare tail (by simpa using hne) (hno '!' (by decide)) hquote htrimmed

end Parts

/-! ### One reference -/

section Tokens
variable {oldName newName : String} {token token' token'' : FormulaToken}

/-- A range token with an exclamation mark is a reference with its sheet part. -/
def FormulaToken.WellFormed (token : FormulaToken) : Prop :=
  token.isRange = true → '!' ∈ token.value.toList →
    ∃ name tail, RefersTo token.value.toList name tail

def Renamed (oldName newName : String) (token token' : FormulaToken) : Prop :=
  token'.isRange = token.isRange ∧ token'.value = renamedValue oldName newName token

/-- A reference to the old sheet is one to the new sheet, in a spelling that is recognised;
every other token is as before. -/
structure Retargeted (oldName newName : String) (token token' : FormulaToken) : Prop where
  isRange : token'.isRange = token.isRange
  target : ∀ tail, token.isRange = true → RefersTo token.value.toList oldName.toList tail →
    RefersTo token'.value.toList newName.toList tail ∧
      ∃ part : List Char, token'.value.toList = part ++ '!' :: tail ∧
        sheetPartMatches (String.ofList part) newName = true
  others : ¬token.Mentions oldName → token'.value = token.value

structure Restored (token token'' : FormulaToken) : Prop where
  isRange : token''.isRange = token.isRange
  target : ∀ name tail, token.isRange = true → RefersTo token.value.toList name tail →
    RefersTo token''.value.toList name tail

/-- The reference is not cut inside its sheet's name, neither to miss the old name nor to
find it. -/
def UncutForward (oldName : String) (token : FormulaToken) : Prop :=
  token.isRange = true → ∀ name tail, RefersTo token.value.toList name tail →
    (name = oldName.toList → '!' ∉ name) ∧ ('!' ∈ name → recognised oldName token = none)

/-- The same when renaming back, where no other reference has the new name already. -/
def UncutBack (oldName newName : String) (token : FormulaToken) : Prop :=
  token.isRange = true → ∀ name tail, RefersTo token.value.toList name tail →
    (name = oldName.toList → '!' ∉ newName.toList) ∧
    ('!' ∉ name → name ≠ newName.toList) ∧ ('!' ∈ name → recognised newName token = none)

theorem renamedValue_none (h : recognised oldName token = none) :
    renamedValue oldName newName token = token.value := by
  unfold renamedValue
  rw [h]

theorem renamedValue_some (hne : newName ≠ "") (htrimmed : Trimmed newName.toList) {rest : String}
    (h : recognised oldName token = some rest) :
    RefersTo (renamedValue oldName newName token).toList newName.toList rest.toList ∧
      ∃ part : List Char, (renamedValue oldName newName token).toList = part ++ '!' :: rest.toList ∧
        sheetPartMatches (String.ofList part) newName = true := by
  obtain ⟨part, hprefixed, hmatches, hrefers⟩ := formatSheetPrefix_spells hne htrimmed
  have hvalue : (renamedValue oldName newName token).toList = part ++ '!' :: rest.toList := by
    unfold renamedValue
    rw [h]
    simp [hprefixed]
  rw [hvalue]
  exact ⟨hrefers rest.toList, part, rfl, hmatches⟩

theorem recognised_congr (hrange : token'.isRange = token.isRange)
    (hvalue : token'.value = token.value) (name : String) :
    recognised name token' = recognised name token := by
  unfold recognised
  rw [hrange, hvalue]

variable (hold : oldName ≠ "") (holdTrimmed : Trimmed oldName.toList) (hnew : newName ≠ "")
  (hnewTrimmed : Trimmed newName.toList) (hdiffer : oldName ≠ newName)

include hnew hnewTrimmed in
theorem renamed_cut (hrenamed : Renamed oldName newName token token') {name tail : List Char}
    (href : RefersTo token.value.toList name tail) (hmark : '!' ∈ name) {rest : String}
    (h : recognised oldName token = some rest) {sheet : List Char} :
    ¬RefersTo token'.value.toList sheet tail := by
  intro hlost
  rw [hrenamed.2] at hlost
  obtain ⟨hrefers, -⟩ := renamedValue_some hnew hnewTrimmed h
  exact recognised_cut href hmark h (hrefers.unique hlost).2

theorem UncutForward.unrecognised (h : UncutForward oldName token) (hformed : token.WellFormed)
    (hother : ¬token.Mentions oldName) : recognised oldName token = none := by
  by_cases hmark : token.isRange = true ∧ '!' ∈ token.value.toList
  · obtain ⟨name, tail, href⟩ := hformed hmark.1 hmark.2
    by_cases hname : '!' ∈ name
    · exact (h hmark.1 name tail href).2 hname
    · rw [recognised_plain hmark.1 href hname, if_neg]
      intro hsame
      rw [hsame] at href
      exact hother ⟨hmark.1, tail, href⟩
  · exact recognised_none fun hrange hmem => hmark ⟨hrange, hmem⟩

include hnew hnewTrimmed hdiffer in
theorem retargeted_iff (hformed : token.WellFormed) (hrenamed : Renamed oldName newName token token') :
    Retargeted oldName newName token token' ↔ UncutForward oldName token := by
  constructor
  · intro h hrange name tail href
    have hplain : name = oldName.toList → '!' ∉ name := by
      intro hname hmark
      subst hname
      have htarget := (h.target tail hrange href).1
      cases hrecognised : recognised oldName token with
      | some rest => exact renamed_cut hnew hnewTrimmed hrenamed href hmark hrecognised htarget
      | none =>
        rw [hrenamed.2, renamedValue_none hrecognised] at htarget
        have hsame := (href.unique htarget).1
        exact hdiffer (String.toList_inj.mp hsame)
    refine ⟨hplain, fun hmark => ?_⟩
    have hother : ¬token.Mentions oldName := by
      intro hmentions
      obtain ⟨tail', href'⟩ := hmentions.2
      exact hplain (href.unique href').1 hmark
    cases hrecognised : recognised oldName token with
    | none => rfl
    | some rest =>
      have hlost : ¬RefersTo token'.value.toList name tail :=
        renamed_cut hnew hnewTrimmed hrenamed href hmark hrecognised
      rw [h.others hother] at hlost
      exact absurd href hlost
  · intro h
    refine ⟨hrenamed.1, fun tail hrange href => ?_, fun hother => ?_⟩
    · have hplain := (h hrange _ tail href).1 rfl
      have hrecognised := @recognised_plain _ _ _ oldName hrange href hplain
      rw [if_pos rfl] at hrecognised
      have htarget := renamedValue_some hnew hnewTrimmed hrecognised
      rw [String.toList_ofList, ← hrenamed.2] at htarget
      exact htarget
    · rw [hrenamed.2]
      exact renamedValue_none (h.unrecognised hformed hother)

include hold holdTrimmed hnew hnewTrimmed hdiffer in
theorem restored_iff (hformed : token.WellFormed) (hforward : UncutForward oldName token)
    (hrenamed : Renamed oldName newName token token')
    (hback : Renamed newName oldName token' token'') :
    Restored token token'' ↔ UncutBack oldName newName token := by
  have hretargeted := (retargeted_iff hnew hnewTrimmed hdiffer hformed hrenamed).mpr hforward
  -- what is not of the old sheet is renamed back from what it was
  have hkept (name tail : List Char) (href : RefersTo token.value.toList name tail)
      (hname : name ≠ oldName.toList) : token'.value = token.value := by
    apply hretargeted.others
    intro hmentions
    obtain ⟨tail', href'⟩ := hmentions.2
    exact hname (href.unique href').1
  constructor
  · intro h hrange name tail href
    have htarget := h.target name tail hrange href
    have hrange' : token'.isRange = true := hrenamed.1.trans hrange
    refine ⟨fun hname hmark => ?_, fun hplain hname => ?_, fun hmark => ?_⟩
    · subst hname
      have href' := (hretargeted.target tail hrange href).1
      cases hrecognised : recognised newName token' with
      | some rest => exact renamed_cut hold holdTrimmed hback href' hmark hrecognised htarget
      | none =>
        rw [hback.2, renamedValue_none hrecognised] at htarget
        exact hdiffer (String.toList_inj.mp (htarget.unique href').1)
    · have hdiff : name ≠ oldName.toList :=
        fun hsame => hdiffer (String.toList_inj.mp (hsame.symm.trans hname))
      have hvalue := hkept name tail href hdiff
      have hrecognised := @recognised_plain _ _ _ newName hrange' (hvalue ▸ href) hplain
      rw [if_pos hname] at hrecognised
      have hlost := (renamedValue_some hold holdTrimmed hrecognised).1
      rw [← hback.2] at hlost
      exact hdiff (htarget.unique hlost).1
    · have hdiff : name ≠ oldName.toList := fun hname => (hforward hrange name tail href).1 hname hmark
      have hvalue := hkept name tail href hdiff
      cases hrecognised : recognised newName token with
      | none => rfl
      | some rest =>
        rw [← recognised_congr hrenamed.1 hvalue] at hrecognised
        exact absurd htarget
          (renamed_cut hold holdTrimmed hback (hvalue ▸ href) hmark hrecognised)
  · intro h
    refine ⟨hback.1.trans hrenamed.1, fun name tail hrange href => ?_⟩
    have hrange' : token'.isRange = true := hrenamed.1.trans hrange
    obtain ⟨hplainNew, hother, huncut⟩ := h hrange name tail href
    by_cases hname : name = oldName.toList
    · subst hname
      have href' := (hretargeted.target tail hrange href).1
      have hrecognised := @recognised_plain _ _ _ newName hrange' href' (hplainNew rfl)
      rw [if_pos rfl] at hrecognised
      have htarget := (renamedValue_some hold holdTrimmed hrecognised).1
      rw [String.toList_ofList, ← hback.2] at htarget
      exact htarget
    · have hvalue := hkept name tail href hname
      have hnone : recognised newName token' = none := by
        by_cases hmark : '!' ∈ name
        · rw [recognised_congr hrenamed.1 hvalue]
          exact huncut hmark
        · rw [recognised_plain hrange' (hvalue ▸ href) hmark, if_neg (hother hmark)]
      rw [hback.2, renamedValue_none hnone, hvalue]
      exact href

end Tokens

/-! ### One formula -/

section Formulas
variable {formula : List Char} {tokens tokens' tokens'' : List FormulaToken} {cursor : Nat}

/-- The tokens are pieces of the formula, one after another. -/
def Tiles (formula : List Char) : Nat → List FormulaToken → Prop
  | cursor, [] => cursor ≤ formula.length
  | cursor, token :: rest => cursor ≤ token.start ∧ token.start ≤ token.stop ∧
      token.stop ≤ formula.length ∧
      token.value.toList = (formula.take token.stop).drop token.start ∧ Tiles formula token.stop rest

theorem splice_same {value : FormulaToken → String} (htiles : Tiles formula cursor tokens)
    (hsame : ∀ token ∈ tokens, value token = token.value) :
    splice formula value cursor tokens = formula.drop cursor := by
  induction tokens generalizing cursor with
  | nil => rfl
  | cons token rest ih =>
    obtain ⟨hstart, hstop, hlength, hvalue, hrest⟩ := htiles
    have htail := ih hrest fun other hother => hsame other (List.mem_cons_of_mem _ hother)
    unfold splice
    rw [hsame token List.mem_cons_self, hvalue, htail]
    have hfirst : (formula.take token.start).drop cursor ++ (formula.take token.stop).drop token.start =
        (formula.take token.stop).drop cursor := by
      have hsplit := List.take_append_drop (token.start - cursor) ((formula.take token.stop).drop cursor)
      rw [List.drop_drop, ← List.drop_take, List.take_take] at hsplit
      rw [show cursor + (token.start - cursor) = token.start by omega,
        show min token.start token.stop = token.start by omega] at hsplit
      exact hsplit
    rw [hfirst]
    have hsplit := List.take_append_drop (token.stop - cursor) (formula.drop cursor)
    rw [List.drop_drop, ← List.drop_take] at hsplit
    rw [show cursor + (token.stop - cursor) = token.stop by omega] at hsplit
    exact hsplit

theorem splice_first {value : FormulaToken → String} (htiles : Tiles formula cursor tokens) :
    splice formula value 0 tokens = formula.take cursor ++ splice formula value cursor tokens := by
  cases tokens with
  | nil => exact (List.take_append_drop cursor formula).symm
  | cons token rest =>
    unfold splice
    have hsplit := List.take_append_drop cursor (formula.take token.start)
    rw [List.take_take, show min cursor token.start = cursor from Nat.min_eq_left htiles.1] at hsplit
    rw [List.drop_zero, ← List.append_assoc, ← List.append_assoc, hsplit]

theorem renamedFormula_same {text oldName newName : String}
    (htiles : Tiles text.toList cursor tokens)
    (hsame : ∀ token ∈ tokens, renamedValue oldName newName token = token.value) :
    renamedFormula oldName newName text tokens = text := by
  unfold renamedFormula
  rw [splice_first htiles, splice_same htiles hsame, List.take_append_drop, String.ofList_toList]

theorem Tiles.short (htiles : Tiles formula cursor tokens) (hlength : formula.length ≤ 1)
    {token : FormulaToken} (htoken : token ∈ tokens) {name tail : List Char} :
    ¬RefersTo token.value.toList name tail := by
  induction tokens generalizing cursor with
  | nil => contradiction
  | cons head rest ih =>
    obtain ⟨_, _, _, hvalue, hrest⟩ := htiles
    rcases List.mem_cons.mp htoken with hhead | hmem
    · subst hhead
      intro href
      have hshort : token.value.toList.length ≤ 1 := by
        rw [hvalue, List.length_drop, List.length_take]
        omega
      generalize token.value.toList = value at href hshort
      cases href with
      | quoted => simp at hshort
      | bare _ hne _ _ _ =>
        have hpos := List.length_pos_iff.mpr hne
        simp only [List.length_append, List.length_cons] at hshort
        omega
    · exact ih hrest hmem

/-- What the operations rely on of the tokenizer. The equals sign is no token. -/
def FormulaLibrary.Lawful (lib : FormulaLibrary) : Prop :=
  ∀ formula tokens, lib.tokenize formula = .ok tokens →
    Tiles formula.toList 1 tokens ∧ ∀ token ∈ tokens, token.WellFormed

/-- A formula with renamed references is read as the renamed tokens, and the same when they
are renamed back. -/
def FormulaLibrary.Rereads (lib : FormulaLibrary) (oldName newName : String)
    (rename : String → String → List FormulaToken → σ → σ) (read : σ → String) (site : σ) : Prop :=
  ∀ tokens, lib.tokenize (read site) = .ok tokens →
    ∃ tokens', lib.tokenize (read (rename oldName newName tokens site)) = .ok tokens' ∧
      List.Forall₂ (Renamed oldName newName) tokens tokens' ∧
      ∃ tokens'', lib.tokenize (read (rename newName oldName tokens'
        (rename oldName newName tokens site))) = .ok tokens'' ∧
        List.Forall₂ (Renamed newName oldName) tokens' tokens''

end Formulas

/-! ### Cells and defined names -/

section Sites
variable (lib : FormulaLibrary) (oldName newName : String)

def Retargets (formula formula' : String) : Prop :=
  ∀ tokens, lib.tokenize formula = .ok tokens → ∃ tokens', lib.tokenize formula' = .ok tokens' ∧
    List.Forall₂ (Retargeted oldName newName) tokens tokens'

def Restores (formula formula'' : String) : Prop :=
  ∀ tokens, lib.tokenize formula = .ok tokens → ∃ tokens'', lib.tokenize formula'' = .ok tokens'' ∧
    List.Forall₂ Restored tokens tokens''

/-- The formula is read and has no reference to the old sheet. -/
def Unmentioned (formula : String) : Prop :=
  ∃ tokens, lib.tokenize formula = .ok tokens ∧ ∀ token ∈ tokens, ¬token.Mentions oldName

def CellExact (cell cell' cell'' : FormulaCell) : Prop :=
  ∀ text, cell.formula = some text → text ≠ "" →
    ∃ text' text'', cell'.formula = some text' ∧ cell''.formula = some text'' ∧
      Retargets lib oldName newName (withEquals text) (withEquals text') ∧
      (Unmentioned lib oldName (withEquals text) → text' = text ∧ cell'.value = cell.value) ∧
      Restores lib (withEquals text) (withEquals text'')

/-- The reference without the prefix that a rename replaces. -/
def unprefixed (token : FormulaToken) : String := (recognised oldName token).getD token.value

/-- The renamed text has an equals sign or a parenthesis and is no plain address, which
would be left to the workbook library. -/
def StaysFormula (name : DefinedName) : Prop :=
  name.hadEquals = true ∨ '(' ∈ newName.toList ∨
    ∀ tokens, lib.tokenize name.formula = .ok tokens →
      '(' ∈ splice name.formula.toList (unprefixed oldName) 0 tokens

def NameExact (name name' name'' : DefinedName) : Prop :=
  name.looksLikeFormula = true →
    Retargets lib oldName newName name.formula name'.formula ∧
    (Unmentioned lib oldName name.formula → name' = name) ∧
    (StaysFormula lib oldName newName name → Restores lib name.formula name''.formula)

/-- Under which a cell is renamed exactly. A formula without a reference to the old sheet
must have no result to lose. -/
def CellSound (policy : FormulaParsePolicy) (cell : FormulaCell) : Prop :=
  ∀ text tokens, cell.formula = some text → text ≠ "" → lib.tokenize (withEquals text) = .ok tokens →
    if policy = .off then ∀ token ∈ tokens, ¬token.Mentions oldName
    else (∀ token ∈ tokens, UncutForward oldName token) ∧
      (∀ token ∈ tokens, UncutBack oldName newName token) ∧
      ((∀ token ∈ tokens, ¬token.Mentions oldName) →
        text.toList.head? ≠ some '=' ∧ cell.value = lib.guessTypedData "")

def NameSound (policy : FormulaParsePolicy) (name : DefinedName) : Prop :=
  ∀ tokens, name.looksLikeFormula = true → lib.tokenize name.formula = .ok tokens →
    if policy = .off then ∀ token ∈ tokens, ¬token.Mentions oldName
    else (∀ token ∈ tokens, UncutForward oldName token) ∧
      (StaysFormula lib oldName newName name → ∀ token ∈ tokens, UncutBack oldName newName token)

end Sites

/-- What a rename writes into a cell with the text. -/
def renamedText (oldName newName : String) (tokens : List FormulaToken) (text : String) : String :=
  stripEquals (renamedFormula oldName newName (withEquals text) tokens)

section Lists
variable {oldName newName : String} {tokens tokens' tokens'' : List FormulaToken}

theorem forall₂_of_forall {R S : FormulaToken → FormulaToken → Prop} {P : FormulaToken → Prop}
    (hrelated : List.Forall₂ R tokens tokens') (hformed : ∀ token ∈ tokens, token.WellFormed)
    (hiff : ∀ token token', token.WellFormed → R token token' → (S token token' ↔ P token)) :
    List.Forall₂ S tokens tokens' ↔ ∀ token ∈ tokens, P token := by
  induction hrelated with
  | nil => simp
  | @cons token token' rest rest' hrelated hrest ih =>
    rw [List.forall_mem_cons] at hformed
    rw [List.forall₂_cons, List.forall_mem_cons, ih hformed.2, hiff token token' hformed.1 hrelated]

variable (hold : oldName ≠ "") (holdTrimmed : Trimmed oldName.toList) (hnew : newName ≠ "")
  (hnewTrimmed : Trimmed newName.toList) (hdiffer : oldName ≠ newName)
  (hformed : ∀ token ∈ tokens, token.WellFormed)
  (hrenamed : List.Forall₂ (Renamed oldName newName) tokens tokens')

include hnew hnewTrimmed hdiffer hformed hrenamed in
theorem all_retargeted_iff : List.Forall₂ (Retargeted oldName newName) tokens tokens' ↔
    ∀ token ∈ tokens, UncutForward oldName token :=
  forall₂_of_forall hrenamed hformed fun _ _ hformed hrenamed =>
    retargeted_iff hnew hnewTrimmed hdiffer hformed hrenamed

include hold holdTrimmed hnew hnewTrimmed hdiffer hformed hrenamed in
theorem all_restored_iff (hback : List.Forall₂ (Renamed newName oldName) tokens' tokens'')
    (hforward : ∀ token ∈ tokens, UncutForward oldName token) :
    List.Forall₂ Restored tokens tokens'' ↔ ∀ token ∈ tokens, UncutBack oldName newName token := by
  induction hrenamed generalizing tokens'' with
  | nil =>
    cases hback
    simp
  | @cons token token' rest rest' hrenamed hrest ih =>
    cases hback with
    | @cons _ token'' _ rest'' hback hbacks =>
      rw [List.forall_mem_cons] at hformed hforward
      rw [List.forall₂_cons, List.forall_mem_cons, ih hformed.2 hbacks hforward.2,
        restored_iff hold holdTrimmed hnew hnewTrimmed hdiffer hformed.1 hforward.1 hrenamed hback]

/-- What is not renamed keeps its references, if none was to the old sheet. -/
theorem all_retargeted_self (hdiffer : oldName ≠ newName) :
    List.Forall₂ (Retargeted oldName newName) tokens tokens ↔
      ∀ token ∈ tokens, ¬token.Mentions oldName := by
  rw [List.forall₂_same]
  refine forall₂_congr fun token _ => ?_
  constructor
  · intro h hmentions
    obtain ⟨hrange, tail, href⟩ := hmentions
    have htarget := (h.target tail hrange href).1
    exact hdiffer (String.toList_inj.mp (href.unique htarget).1)
  · intro h
    exact ⟨rfl, fun tail hrange href => absurd ⟨hrange, tail, href⟩ h, fun _ => rfl⟩

theorem all_restored_self : List.Forall₂ Restored tokens tokens :=
  List.forall₂_same.mpr fun _ _ => ⟨rfl, fun _ _ _ href => href⟩

end Lists

/-! #### Cells -/

section Cells
variable {lib : FormulaLibrary} {policy : FormulaParsePolicy} {oldName newName : String}
  {cell cell' cell'' : FormulaCell} {sheetName address text : String}
  {tokens tokens' : List FormulaToken} {errors errors' : List FormulaParseError}

theorem stripEquals_cons {rest : List Char} {text : String} (h : text.toList = '=' :: rest) :
    stripEquals text = String.ofList rest := by
  unfold stripEquals
  rw [h]
  rfl

theorem stripEquals_withEquals (h : text.toList.head? ≠ some '=') :
    stripEquals (withEquals text) = text := by
  unfold withEquals
  have hlist : ("=" ++ text).toList = '=' :: text.toList := by simp
  rw [if_neg h, stripEquals_cons hlist, String.ofList_toList]

theorem stripEquals_ne (h : text.toList.head? = some '=') : stripEquals text ≠ text := by
  cases hlist : text.toList with
  | nil =>
    rw [hlist] at h
    contradiction
  | cons c rest =>
    rw [hlist] at h
    injection h with hc
    subst hc
    rw [stripEquals_cons hlist]
    intro hsame
    have hlength := congrArg (fun text => text.toList.length) hsame
    simp [hlist] at hlength

/-- A tokenizer error is reported unless the policy is to fail. -/
theorem tokensOf_cases {formula context : String} {parsed : Result (List FormulaToken)}
    (h : tokensOf lib policy formula context = .ok parsed) :
    (∃ tokens, lib.tokenize formula = .ok tokens ∧ parsed = .ok tokens) ∨
    ∃ message, (policy ≠ .fail ∧ ∀ tokens, lib.tokenize formula ≠ .ok tokens) ∧
      parsed = .error message := by
  unfold tokensOf at h
  split at h
  · rename_i tokens htokens
    exact .inl ⟨tokens, htokens, (Except.ok.inj h).symm⟩
  · rename_i message htokens
    split at h
    · contradiction
    · rename_i hpolicy
      refine .inr ⟨message, ⟨hpolicy, fun tokens hok => ?_⟩, (Except.ok.inj h).symm⟩
      rw [htokens] at hok
      contradiction

theorem tokensOf_ok {formula context : String}
    (h : policy ≠ .fail ∨ ∃ tokens, lib.tokenize formula = .ok tokens) :
    ∃ parsed, tokensOf lib policy formula context = .ok parsed := by
  unfold tokensOf
  cases htokens : lib.tokenize formula with
  | ok tokens => exact ⟨_, rfl⟩
  | error message =>
    rcases h with hpolicy | ⟨tokens, hok⟩
    · exact ⟨_, if_neg hpolicy⟩
    · rw [htokens] at hok
      contradiction

theorem renameCell_cases (h : renameCell lib policy oldName newName sheetName address cell =
      .ok (cell', errors)) :
    (cell' = cell ∧ (policy = .off ∨ ∀ text, cell.formula = some text → text ≠ "" →
      policy ≠ .fail ∧ ∀ tokens, lib.tokenize (withEquals text) ≠ .ok tokens)) ∨
    (policy ≠ .off ∧ ∃ text tokens, cell.formula = some text ∧ text ≠ "" ∧
      lib.tokenize (withEquals text) = .ok tokens ∧
      cell' = { cell with
        formula := some (renamedText oldName newName tokens text)
        value := lib.guessTypedData "" }) := by
  unfold renameCell at h
  split at h
  · rename_i hnone
    injection h with h
    injection h with hcell
    refine .inl ⟨hcell.symm, .inr fun text hsome => ?_⟩
    rw [hnone] at hsome
    contradiction
  · rename_i text hsome
    split at h
    · rename_i hskip
      injection h with h
      injection h with hcell
      refine .inl ⟨hcell.symm, hskip.symm.imp_right fun hempty text' hsome' hne => ?_⟩
      rw [hsome] at hsome'
      exact absurd ((Option.some.inj hsome').symm.trans hempty) hne
    · rename_i hskip
      rw [not_or] at hskip
      simp only [bind_eq_ok] at h
      obtain ⟨parsed, hparsed, h⟩ := h
      rcases tokensOf_cases hparsed with ⟨tokens, htokens, rfl⟩ | ⟨message, hunread, rfl⟩
      · simp only [pure_eq_ok, Prod.mk.injEq] at h
        exact .inr ⟨hskip.2, text, tokens, hsome, hskip.1, htokens, h.1.symm⟩
      · simp only [pure_eq_ok, Prod.mk.injEq] at h
        refine .inl ⟨h.1.symm, .inr fun text' hsome' _ => ?_⟩
        rw [hsome] at hsome'
        rw [← Option.some.inj hsome']
        exact hunread

/-- A cell is renamed when the tokenizer reads its formula, or whatever the policy lets pass. -/
theorem renameCell_ok (h : policy ≠ .fail ∨ ∀ text, cell.formula = some text → text ≠ "" →
      ∃ tokens, lib.tokenize (withEquals text) = .ok tokens) :
    ∃ cell' errors, renameCell lib policy oldName newName sheetName address cell =
      .ok (cell', errors) := by
  unfold renameCell
  split
  · exact ⟨_, _, rfl⟩
  · rename_i text hsome
    split
    · exact ⟨_, _, rfl⟩
    · rename_i hskip
      rw [not_or] at hskip
      obtain ⟨parsed, hparsed⟩ := tokensOf_ok
        (h.imp_right fun hreads => hreads text hsome hskip.1)
      rw [hparsed]
      cases parsed <;> exact ⟨_, _, rfl⟩

theorem renameCell_off (h : renameCell lib .off oldName newName sheetName address cell =
    .ok (cell', errors)) : cell' = cell := by
  rcases renameCell_cases h with hsame | ⟨hoff, _⟩
  · exact hsame.1
  · contradiction

theorem renameCell_read (hpolicy : policy ≠ .off) (hlib : lib.Lawful)
    (hsome : cell.formula = some text) (htokens : lib.tokenize (withEquals text) = .ok tokens)
    (h : renameCell lib policy oldName newName sheetName address cell = .ok (cell', errors)) :
    cell'.formula = some (renamedText oldName newName tokens text) ∧
      (text ≠ "" → cell'.value = lib.guessTypedData "") := by
  rcases renameCell_cases h with ⟨hsame, hskip⟩ | ⟨-, text', tokens', hsome', hne, htokens', hcell⟩
  · have hempty : text = "" := by
      by_contra hne
      rcases hskip with hoff | hunread
      · exact hpolicy hoff
      · exact (hunread text hsome hne).2 tokens htokens
    subst hempty
    refine ⟨?_, fun hne => absurd rfl hne⟩
    rw [hsame, hsome]
    have htiles := (hlib _ _ htokens).1
    have hunchanged : renamedFormula oldName newName (withEquals "") tokens = withEquals "" := by
      refine renamedFormula_same htiles fun token htoken => renamedValue_none ?_
      apply recognised_none
      intro hrange hmark
      obtain ⟨name, tail, href⟩ := (hlib _ _ htokens).2 token htoken hrange hmark
      exact htiles.short (by decide) htoken href
    unfold renamedText
    rw [hunchanged]
    rfl
  · rw [hsome] at hsome'
    have htext : text = text' := Option.some.inj hsome'
    subst htext
    rw [htokens] at htokens'
    injection htokens' with htokens'
    subst htokens'
    rw [hcell]
    exact ⟨rfl, fun _ => rfl⟩

theorem renameCell_unread (hunread : ∀ text, cell.formula = some text → ∀ tokens,
      lib.tokenize (withEquals text) ≠ .ok tokens)
    (h : renameCell lib policy oldName newName sheetName address cell = .ok (cell', errors)) :
    cell' = cell := by
  rcases renameCell_cases h with hsame | ⟨-, text, tokens, hsome, -, htokens, -⟩
  · exact hsame.1
  · exact absurd htokens (hunread text hsome tokens)

theorem renamedFormula_unmentioned {formula : String} (hlib : lib.Lawful)
    (htokens : lib.tokenize formula = .ok tokens)
    (hforward : ∀ token ∈ tokens, UncutForward oldName token)
    (hunmentioned : ∀ token ∈ tokens, ¬token.Mentions oldName) :
    renamedFormula oldName newName formula tokens = formula := by
  obtain ⟨htiles, hformed⟩ := hlib _ _ htokens
  refine renamedFormula_same htiles fun token htoken => renamedValue_none ?_
  exact (hforward token htoken).unrecognised (hformed token htoken) (hunmentioned token htoken)

variable (hold : oldName ≠ "") (holdTrimmed : Trimmed oldName.toList) (hnew : newName ≠ "")
  (hnewTrimmed : Trimmed newName.toList) (hdiffer : oldName ≠ newName) (hlib : lib.Lawful)

include hold holdTrimmed hnew hnewTrimmed hdiffer hlib in
theorem cellExact_iff {sheetName' address' : String}
    (hrereads : ∀ text, cell.formula = some text →
      lib.Rereads oldName newName renamedText withEquals text)
    (hrename : renameCell lib policy oldName newName sheetName address cell = .ok (cell', errors))
    (hback : renameCell lib policy newName oldName sheetName' address' cell' =
      .ok (cell'', errors')) :
    CellExact lib oldName newName cell cell' cell'' ↔
      CellSound lib oldName newName policy cell := by
  by_cases hoff : policy = .off
  · subst hoff
    have hsame := renameCell_off hrename
    have hsame' := renameCell_off hback
    rw [hsame'.trans hsame, hsame]
    constructor
    · intro h text tokens hsome hne htokens
      obtain ⟨text', text'', hsome', -, hretargets, -⟩ := h text hsome hne
      rw [hsome] at hsome'
      rw [← Option.some.inj hsome'] at hretargets
      obtain ⟨tokens', htokens', hall⟩ := hretargets tokens htokens
      rw [htokens] at htokens'
      injection htokens' with htokens'
      subst htokens'
      rw [if_pos rfl]
      exact (all_retargeted_self hdiffer).mp hall
    · intro h text hsome hne
      refine ⟨text, text, hsome, hsome, fun tokens htokens => ?_, fun _ => ⟨rfl, rfl⟩,
        fun tokens htokens => ⟨tokens, htokens, all_restored_self⟩⟩
      have hunmentioned := h text tokens hsome hne htokens
      rw [if_pos rfl] at hunmentioned
      exact ⟨tokens, htokens, (all_retargeted_self hdiffer).mpr hunmentioned⟩
  · constructor
    · intro h text tokens hsome hne htokens
      obtain ⟨tokens', htokens', hrenamed, tokens'', htokens'', hrenamedBack⟩ :=
        hrereads text hsome tokens htokens
      obtain ⟨hcell', hvalue⟩ := renameCell_read hoff hlib hsome htokens hrename
      obtain ⟨hcell'', -⟩ := renameCell_read hoff hlib hcell' htokens' hback
      obtain ⟨text', text'', hsome', hsome'', hretargets, hkept, hrestores⟩ := h text hsome hne
      rw [hcell'] at hsome'
      rw [hcell''] at hsome''
      rw [← Option.some.inj hsome'] at hretargets hkept
      rw [← Option.some.inj hsome''] at hrestores
      have hforward : ∀ token ∈ tokens, UncutForward oldName token := by
        obtain ⟨found, hfound, hall⟩ := hretargets tokens htokens
        rw [htokens'] at hfound
        injection hfound with hfound
        subst hfound
        exact (all_retargeted_iff hnew hnewTrimmed hdiffer (hlib _ _ htokens).2 hrenamed).mp hall
      rw [if_neg hoff]
      refine ⟨hforward, ?_, fun hunmentioned => ?_⟩
      · obtain ⟨found, hfound, hall⟩ := hrestores tokens htokens
        rw [htokens''] at hfound
        injection hfound with hfound
        subst hfound
        exact (all_restored_iff hold holdTrimmed hnew hnewTrimmed hdiffer (hlib _ _ htokens).2
          hrenamed hrenamedBack hforward).mp hall
      · obtain ⟨htext, hresult⟩ := hkept ⟨tokens, htokens, hunmentioned⟩
        refine ⟨fun hequals => ?_, hresult.symm.trans (hvalue hne)⟩
        have hread : withEquals text = text := if_pos hequals
        unfold renamedText at htext
        rw [renamedFormula_unmentioned hlib htokens hforward hunmentioned, hread] at htext
        exact stripEquals_ne hequals htext
    · intro h text hsome hne
      cases htokens : lib.tokenize (withEquals text) with
      | error message =>
        have hunread (text' : String) (hsome' : cell.formula = some text')
            (tokens : List FormulaToken) : lib.tokenize (withEquals text') ≠ .ok tokens := by
          rw [hsome] at hsome'
          rw [← Option.some.inj hsome', htokens]
          exact nofun
        have hsame : cell' = cell := renameCell_unread hunread hrename
        rw [hsame] at hback
        have hsame' : cell'' = cell := renameCell_unread hunread hback
        rw [hsame', hsame]
        refine ⟨text, text, hsome, hsome, fun tokens hok => ?_, fun _ => ⟨rfl, rfl⟩,
          fun tokens hok => ?_⟩
        · exact absurd hok (hunread text hsome tokens)
        · exact absurd hok (hunread text hsome tokens)
      | ok tokens =>
        have hsound := h text tokens hsome hne htokens
        rw [if_neg hoff] at hsound
        obtain ⟨hforward, huncut, hkept⟩ := hsound
        obtain ⟨tokens', htokens', hrenamed, tokens'', htokens'', hrenamedBack⟩ :=
          hrereads text hsome tokens htokens
        obtain ⟨hcell', hvalue⟩ := renameCell_read hoff hlib hsome htokens hrename
        obtain ⟨hcell'', -⟩ := renameCell_read hoff hlib hcell' htokens' hback
        refine ⟨_, _, hcell', hcell'', fun found hfound => ?_, fun hunmentioned => ?_,
          fun found hfound => ?_⟩
        · rw [htokens] at hfound
          injection hfound with hfound
          subst hfound
          exact ⟨tokens', htokens', (all_retargeted_iff hnew hnewTrimmed hdiffer
            (hlib _ _ htokens).2 hrenamed).mpr hforward⟩
        · obtain ⟨found, hfound, hnone⟩ := hunmentioned
          rw [htokens] at hfound
          injection hfound with hfound
          subst hfound
          obtain ⟨hequals, hcleared⟩ := hkept hnone
          refine ⟨?_, (hvalue hne).trans hcleared.symm⟩
          unfold renamedText
          rw [renamedFormula_unmentioned hlib htokens hforward hnone]
          exact stripEquals_withEquals hequals
        · rw [htokens] at hfound
          injection hfound with hfound
          subst hfound
          exact ⟨tokens'', htokens'', (all_restored_iff hold holdTrimmed hnew hnewTrimmed hdiffer
            (hlib _ _ htokens).2 hrenamed hrenamedBack hforward).mpr huncut⟩

end Cells

end AgentSpreadsheet.Sheets
