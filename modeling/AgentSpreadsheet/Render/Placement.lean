import AgentSpreadsheet.Render.NumberFormat
import Mathlib.Data.List.DropRight

/-! Where the digits of a number belong. The integer digits are given to the placeholders before the
point from the last one on, the first one has what is left over; each placeholder after the point
has one digit, less the zeros at the end. -/
namespace AgentSpreadsheet.Render

/-! ### Placeholders -/

def integerTokens (tokens : List Token) : List Token :=
  (tokens.takeWhile (· ≠ .point)).filter Token.isDigit

def decimalTokens (tokens : List Token) : List Token :=
  (tokens.dropWhile (· ≠ .point)).filter Token.isDigit

def Token.mark : Token → Option Mark
  | percent => some (.scale '%')
  | literal c => some (.literal c)
  | _ => none

def textMarks (tokens : List Token) : List Mark := tokens.filterMap Token.mark

def Mark.digit : Mark → Option Char
  | number c => some c
  | _ => none

def numbers (marks : List Mark) : List Char := marks.filterMap Mark.digit

def texts (marks : List Mark) : List Mark := marks.filter fun mark => mark.digit.isNone

/-! ### Digits by placeholder -/

def groupedDigits (grouping : Bool) (integer : List Char) : List (List Char) :=
  integer.zipIdx.map fun (c, index) =>
    if grouping = true ∧ 0 < index ∧ (integer.length - index) % 3 = 0 then [',', c] else [c]

def trails (place : Token × Char) : Bool := place.1 ≠ .zero && place.2 == '0'

def trailingPlaces (tokens : List Token) (decimal : List Char) : List (Token × Char) :=
  (tokens.zip decimal).rtakeWhile trails

/-- A zero that need not be shown is dropped, or a blank. -/
def shownDecimals (tokens : List Token) (decimal : List Char) : List (List Char) :=
  ((tokens.zip decimal).rdropWhile trails).map (fun place => [place.2]) ++
    (trailingPlaces tokens decimal).map fun place => if place.1 = .question then [' '] else []

def placedDecimals : (decimals : List (List Char)) → List Token → List Mark
  | _, [] => []
  | decimals, token :: rest =>
    match token.mark with
    | some mark => mark :: placedDecimals decimals rest
    | none =>
      if token.isDigit then (decimals.headD []).map .number ++ placedDecimals decimals.tail rest
      else placedDecimals decimals rest

/-- The tokens in order, each placeholder with its digits. `groups` are the integer digits that are
left. -/
def placed (decimals : List (List Char)) : (groups : List (List Char)) → List Token → List Mark
  | _, [] => []
  | groups, token :: rest =>
    match token.mark with
    | some mark => mark :: placed decimals groups rest
    | none =>
      if token.isDigit then
        let count := groups.length - (integerTokens rest).length
        (groups.take count).flatten.map .number ++ placed decimals (groups.drop count) rest
      else if token = .point then
        (groups.flatten ++ if decimals.flatten = [] then [] else ['.']).map .number ++
          placedDecimals decimals rest
      else placed decimals groups rest

/-! ### Numbers and texts -/

section Lists
variable {marks marks' : List Mark} {tokens : List Token}

@[simp] theorem numbers_append : numbers (marks ++ marks') = numbers marks ++ numbers marks' :=
  List.filterMap_append

@[simp] theorem texts_append : texts (marks ++ marks') = texts marks ++ texts marks' :=
  List.filter_append _ _

@[simp] theorem numbers_map_number (cs : List Char) : numbers (cs.map .number) = cs := by
  unfold numbers
  rw [List.filterMap_map]
  exact List.filterMap_some

@[simp] theorem texts_map_number (cs : List Char) : texts (cs.map .number) = [] := by
  unfold texts
  rw [List.filter_eq_nil_iff]
  intro mark hmark
  obtain ⟨c, _, rfl⟩ := List.mem_map.mp hmark
  simp [Mark.digit]

theorem mark_digit {token : Token} {mark : Mark} (h : token.mark = some mark) :
    mark.digit = none := by
  unfold Token.mark at h
  split at h
  · rw [← Option.some.inj h]
    rfl
  · rw [← Option.some.inj h]
    rfl
  · contradiction

theorem numbers_cons_text {mark : Mark} (h : mark.digit = none) :
    numbers (mark :: marks) = numbers marks :=
  List.filterMap_cons_none h

theorem texts_cons_text {mark : Mark} (h : mark.digit = none) :
    texts (mark :: marks) = mark :: texts marks :=
  List.filter_cons_of_pos (by rw [h]; rfl)

theorem texts_textMarks (tokens : List Token) : texts (textMarks tokens) = textMarks tokens := by
  unfold texts
  rw [List.filter_eq_self]
  intro mark hmark
  obtain ⟨token, _, htoken⟩ := List.mem_filterMap.mp hmark
  rw [mark_digit htoken]
  rfl

theorem numbers_textMarks (tokens : List Token) : numbers (textMarks tokens) = [] := by
  unfold numbers
  rw [List.filterMap_eq_nil_iff]
  intro mark hmark
  obtain ⟨token, _, htoken⟩ := List.mem_filterMap.mp hmark
  exact mark_digit htoken

/-- Without characters of the number there are texts only. -/
theorem texts_of_numbers_nil (h : numbers marks = []) : texts marks = marks := by
  unfold numbers at h
  unfold texts
  rw [List.filterMap_eq_nil_iff] at h
  rw [List.filter_eq_self]
  intro mark hmark
  rw [h mark hmark]
  rfl

theorem textMarks_cons_some {token : Token} {mark : Mark} (h : token.mark = some mark) :
    textMarks (token :: tokens) = mark :: textMarks tokens :=
  List.filterMap_cons_some h

theorem textMarks_cons_none {token : Token} (h : token.mark = none) :
    textMarks (token :: tokens) = textMarks tokens :=
  List.filterMap_cons_none h

/-! ### Counting placeholders -/

theorem integerTokens_point (tokens : List Token) : integerTokens (.point :: tokens) = [] := rfl

theorem decimalTokens_point (tokens : List Token) :
    decimalTokens (.point :: tokens) = tokens.filter Token.isDigit := by
  simp [decimalTokens, List.dropWhile, Token.isDigit]

theorem integerTokens_cons {token : Token} (h : token ≠ .point) :
    integerTokens (token :: tokens) =
      if token.isDigit then token :: integerTokens tokens else integerTokens tokens := by
  unfold integerTokens
  rw [List.takeWhile_cons_of_pos (by simpa using h), List.filter_cons]

theorem decimalTokens_cons {token : Token} (h : token ≠ .point) :
    decimalTokens (token :: tokens) = decimalTokens tokens := by
  unfold decimalTokens
  rw [List.dropWhile_cons_of_pos (by simpa using h)]

theorem mark_not_digit {token : Token} {mark : Mark} (h : token.mark = some mark) :
    token.isDigit = false ∧ token ≠ .point ∧ token.isNumeric = false := by
  cases token <;> first | exact ⟨rfl, by decide, rfl⟩ | contradiction | simp [Token.isDigit, Token.isNumeric]

/-! ### What is placed -/

theorem numbers_placedDecimals {decimals : List (List Char)}
    (h : decimals.length = (tokens.filter Token.isDigit).length) :
    numbers (placedDecimals decimals tokens) = decimals.flatten := by
  induction tokens generalizing decimals with
  | nil =>
    rw [List.eq_nil_of_length_eq_zero h]
    rfl
  | cons token rest ih =>
    unfold placedDecimals
    split
    · rename_i mark hmark
      rw [List.filter_cons_of_neg (by rw [(mark_not_digit hmark).1]; simp)] at h
      rw [numbers_cons_text (mark_digit hmark), ih h]
    · split
      · rename_i hdigit
        rw [List.filter_cons_of_pos hdigit] at h
        cases decimals with
        | nil => contradiction
        | cons piece decimals =>
          rw [numbers_append, numbers_map_number, List.tail_cons, ih (Nat.succ.inj h)]
          rfl
      · rename_i hdigit
        rw [List.filter_cons_of_neg hdigit] at h
        exact ih h

theorem texts_placedDecimals (decimals : List (List Char)) (tokens : List Token) :
    texts (placedDecimals decimals tokens) = textMarks tokens := by
  induction tokens generalizing decimals with
  | nil => rfl
  | cons token rest ih =>
    unfold placedDecimals
    split
    · rename_i mark hmark
      rw [texts_cons_text (mark_digit hmark), ih, textMarks_cons_some hmark]
    · rename_i hmark
      rw [textMarks_cons_none hmark]
      split
      · rw [texts_append, texts_map_number, ih, List.nil_append]
      · exact ih _

def numberText (integer decimal : List Char) : List Char :=
  if decimal = [] then integer else integer ++ '.' :: decimal

theorem numbers_placed {decimals groups : List (List Char)}
    (hplaces : integerTokens tokens ≠ [] ∨ .point ∈ tokens ∨ groups = [])
    (h : decimals.length = (decimalTokens tokens).length) :
    numbers (placed decimals groups tokens) = numberText groups.flatten decimals.flatten := by
  induction tokens generalizing groups with
  | nil =>
    have hgroups : groups = [] := by
      rcases hplaces with hplaces | hplaces | hplaces
      · exact absurd rfl hplaces
      · exact absurd hplaces List.not_mem_nil
      · exact hplaces
    rw [List.eq_nil_of_length_eq_zero h, hgroups]
    rfl
  | cons token rest ih =>
    unfold placed
    split
    · rename_i mark hmark
      obtain ⟨hdigit, hpoint, _⟩ := mark_not_digit hmark
      rw [integerTokens_cons hpoint, hdigit, if_neg (by simp), List.mem_cons,
        or_iff_right (Ne.symm hpoint)] at hplaces
      rw [decimalTokens_cons hpoint] at h
      rw [numbers_cons_text (mark_digit hmark), ih hplaces h]
    · split
      · rename_i hmark hdigit
        have hpoint : token ≠ .point := by
          intro heq
          rw [heq] at hdigit
          contradiction
        rw [decimalTokens_cons hpoint] at h
        have hrest : integerTokens rest ≠ [] ∨ .point ∈ rest ∨
            groups.drop (groups.length - (integerTokens rest).length) = [] := by
          by_cases hnone : integerTokens rest = []
          · right
            right
            rw [hnone]
            exact List.drop_length
          · exact .inl hnone
        rw [numbers_append, numbers_map_number, ih hrest h]
        have hsplit : (groups.take (groups.length - (integerTokens rest).length)).flatten ++
            (groups.drop (groups.length - (integerTokens rest).length)).flatten =
              groups.flatten := by
          rw [← List.flatten_append, List.take_append_drop]
        unfold numberText
        split
        · exact hsplit
        · rw [← List.append_assoc, hsplit]
      · split
        · rename_i hpoint
          rw [hpoint, decimalTokens_point] at h
          rw [numbers_append, numbers_map_number, numbers_placedDecimals h]
          unfold numberText
          split
          · rename_i hnone
            rw [hnone, List.append_nil, List.append_nil]
          · rw [List.append_assoc]
            rfl
        · rename_i hdigit hpoint
          rw [integerTokens_cons hpoint, if_neg hdigit, List.mem_cons,
            or_iff_right (Ne.symm hpoint)] at hplaces
          rw [decimalTokens_cons hpoint] at h
          exact ih hplaces h

theorem texts_placed (decimals groups : List (List Char)) (tokens : List Token) :
    texts (placed decimals groups tokens) = textMarks tokens := by
  induction tokens generalizing groups with
  | nil => rfl
  | cons token rest ih =>
    unfold placed
    split
    · rename_i mark hmark
      rw [texts_cons_text (mark_digit hmark), ih, textMarks_cons_some hmark]
    · rename_i hmark
      rw [textMarks_cons_none hmark]
      split
      · rw [texts_append, texts_map_number, ih, List.nil_append]
      · split
        · rw [texts_append, texts_map_number, texts_placedDecimals, List.nil_append]
        · exact ih _

/-! ### Texts among the digits -/

def placedAfter (decimals groups : List (List Char)) (before after : List Token) : List Mark :=
  if .point ∈ before then placedDecimals (decimals.drop (decimalTokens before).length) after
  else
    placed decimals (if integerTokens before = [] then groups
      else groups.drop (groups.length - (integerTokens after).length)) after

theorem integerTokens_append {before : List Token} (h : .point ∉ before) (after : List Token) :
    integerTokens (before ++ after) = integerTokens before ++ integerTokens after := by
  induction before with
  | nil => rfl
  | cons token rest ih =>
    rw [List.mem_cons, not_or] at h
    rw [List.cons_append, integerTokens_cons (Ne.symm h.1), integerTokens_cons (Ne.symm h.1), ih h.2]
    split <;> rfl

theorem placedDecimals_text {token : Token} {mark : Mark} (hmark : token.mark = some mark)
    (decimals : List (List Char)) (before after : List Token) : ∃ front,
      placedDecimals decimals (before ++ token :: after) =
        front ++ mark :: placedDecimals (decimals.drop (before.filter Token.isDigit).length) after := by
  induction before generalizing decimals with
  | nil =>
    apply Exists.intro []
    rw [List.nil_append, placedDecimals, hmark]
    rfl
  | cons first before ih =>
    rw [List.cons_append, placedDecimals]
    split
    · rename_i other hother
      obtain ⟨front, hfront⟩ := ih decimals
      rw [hfront, List.filter_cons_of_neg (by rw [(mark_not_digit hother).1]; simp)]
      exact ⟨other :: front, rfl⟩
    · split
      · rename_i hdigit
        obtain ⟨front, hfront⟩ := ih decimals.tail
        rw [hfront, List.filter_cons_of_pos hdigit, List.length_cons, ← List.drop_one, List.drop_drop,
          Nat.add_comm 1]
        exact ⟨(decimals.headD []).map .number ++ front, by rw [List.append_assoc]⟩
      · rename_i hdigit
        rw [List.filter_cons_of_neg hdigit]
        exact ih decimals

/-- A text stands before all that is placed after it. -/
theorem placed_text {token : Token} {mark : Mark} (hmark : token.mark = some mark)
    (decimals groups : List (List Char)) (before after : List Token) : ∃ front,
      placed decimals groups (before ++ token :: after) =
        front ++ mark :: placedAfter decimals groups before after := by
  have htoken := mark_not_digit hmark
  induction before generalizing groups with
  | nil =>
    apply Exists.intro []
    rw [List.nil_append, placed, hmark]
    rfl
  | cons first before ih =>
    have hsame (hfirst : first ≠ .point) (hdigit : first.isDigit = false) :
        placedAfter decimals groups (first :: before) after =
          placedAfter decimals groups before after := by
      have hmem : .point ∈ first :: before ↔ .point ∈ before := by
        rw [List.mem_cons, or_iff_right (Ne.symm hfirst)]
      unfold placedAfter
      simp only [hmem]
      rw [integerTokens_cons hfirst, decimalTokens_cons hfirst, hdigit,
        if_neg Bool.false_ne_true]
    rw [List.cons_append, placed]
    split
    · rename_i other hother
      obtain ⟨front, hfront⟩ := ih groups
      rw [hfront, hsame (mark_not_digit hother).2.1 (mark_not_digit hother).1]
      exact ⟨other :: front, rfl⟩
    · split
      · rename_i hnone hdigit
        have hfirst : first ≠ .point := by
          intro heq
          rw [heq] at hdigit
          contradiction
        dsimp only
        obtain ⟨front, hfront⟩ := ih
          (groups.drop (groups.length - (integerTokens (before ++ token :: after)).length))
        have hstate : placedAfter decimals
            (groups.drop (groups.length - (integerTokens (before ++ token :: after)).length)) before
            after = placedAfter decimals groups (first :: before) after := by
          have hmem : .point ∈ first :: before ↔ .point ∈ before := by
            rw [List.mem_cons, or_iff_right (Ne.symm hfirst)]
          unfold placedAfter
          simp only [hmem]
          rw [decimalTokens_cons hfirst]
          split
          · rfl
          · rename_i hpoint
            rw [integerTokens_cons hfirst, if_pos hdigit, if_neg (List.cons_ne_nil _ _),
              integerTokens_append hpoint, integerTokens_cons htoken.2.1, htoken.1]
            simp only [Bool.false_eq_true, if_false]
            split
            · rename_i hnone
              rw [hnone, List.nil_append]
            · rw [List.drop_drop, List.length_drop, List.length_append]
              congr 2
              omega
        rw [hfront, hstate]
        exact ⟨_ ++ front, by rw [List.append_assoc]⟩
      · split
        · rename_i hpoint
          obtain ⟨front, hfront⟩ := placedDecimals_text hmark decimals before after
          have hstate : placedAfter decimals groups (first :: before) after =
              placedDecimals (decimals.drop (before.filter Token.isDigit).length) after := by
            unfold placedAfter
            rw [if_pos (by rw [hpoint]; exact List.mem_cons_self), hpoint, decimalTokens_point]
          rw [hfront, hstate]
          exact ⟨_ ++ front, by rw [List.append_assoc]⟩
        · rename_i hdigit hpoint
          rw [hsame hpoint (Bool.eq_false_iff.mpr hdigit)]
          exact ih groups

/-- Something of the number stands after `before`, at a placeholder of `after` or at its point. -/
def tailShown (groups decimals : List (List Char)) (before after : List Token) : Prop :=
  if .point ∈ before then (decimals.drop (decimalTokens before).length).flatten ≠ []
  else groups ≠ [] ∧ integerTokens after ≠ [] ∨ .point ∈ after ∧ decimals.flatten ≠ []

theorem decimalTokens_append_point {before : List Token} (h : .point ∈ before) (after : List Token) :
    decimalTokens (before ++ after) = decimalTokens before ++ after.filter Token.isDigit := by
  induction before with
  | nil => exact absurd h List.not_mem_nil
  | cons token rest ih =>
    by_cases htoken : token = .point
    · rw [htoken, List.cons_append, decimalTokens_point, decimalTokens_point, List.filter_append]
    · rw [List.mem_cons, or_iff_right (Ne.symm htoken)] at h
      rw [List.cons_append, decimalTokens_cons htoken, decimalTokens_cons htoken, ih h]

theorem decimalTokens_append {before : List Token} (h : .point ∉ before) (after : List Token) :
    decimalTokens (before ++ after) = decimalTokens after := by
  induction before with
  | nil => rfl
  | cons token rest ih =>
    rw [List.mem_cons, not_or] at h
    rw [List.cons_append, decimalTokens_cons (Ne.symm h.1), ih h.2]

theorem decimalTokens_of_not_mem {tokens : List Token} (h : .point ∉ tokens) :
    decimalTokens tokens = [] := by
  have hall := decimalTokens_append h []
  rw [List.append_nil] at hall
  exact hall

theorem numberText_eq_nil {integer decimal : List Char} :
    numberText integer decimal = [] ↔ integer = [] ∧ decimal = [] := by
  unfold numberText
  split
  · rename_i hnone
    simp [hnone]
  · rename_i hsome
    simp [hsome]

theorem numbers_placedAfter {decimals groups : List (List Char)} {token : Token}
    {before after : List Token} (hgroups : ∀ group ∈ groups, group ≠ [])
    (htoken : token.isDigit = false ∧ token ≠ .point)
    (hplace : ∃ first ∈ before, first.isDigit = true ∨ first = .point)
    (h : decimals.length = (decimalTokens (before ++ token :: after)).length) :
    numbers (placedAfter decimals groups before after) = [] ↔
      ¬ tailShown groups decimals before after := by
  unfold placedAfter tailShown
  split
  · rename_i hpoint
    have hcount : (decimals.drop (decimalTokens before).length).length =
        (after.filter Token.isDigit).length := by
      rw [decimalTokens_append_point hpoint, List.filter_cons_of_neg (by rw [htoken.1]; simp),
        List.length_append] at h
      rw [List.length_drop]
      omega
    rw [numbers_placedDecimals hcount, not_not]
  · rename_i hpoint
    have hbefore : integerTokens before ≠ [] := by
      obtain ⟨first, hfirst, hdigit⟩ := hplace
      have hother : first ≠ .point := fun heq => hpoint (heq ▸ hfirst)
      have htaken : before.takeWhile (fun token => decide (token ≠ .point)) = before := by
        rw [List.takeWhile_eq_self_iff]
        intro other hmem
        rw [decide_eq_true_iff]
        exact fun heq => hpoint (heq ▸ hmem)
      intro hnone
      unfold integerTokens at hnone
      rw [htaken, List.filter_eq_nil_iff] at hnone
      cases hdigit with
      | inl hdigit => exact hnone first hfirst hdigit
      | inr heq => exact hother heq
    have hcount : decimals.length = (decimalTokens after).length := by
      rw [decimalTokens_append hpoint, decimalTokens_cons htoken.2] at h
      exact h
    rw [if_neg hbefore, numbers_placed _ hcount, numberText_eq_nil]
    · have hflat : (groups.drop (groups.length - (integerTokens after).length)).flatten = [] ↔
          groups = [] ∨ integerTokens after = [] := by
        rw [List.flatten_eq_nil_iff]
        constructor
        · intro hall
          by_contra hboth
          rw [not_or] at hboth
          have hgroupsPos := List.length_pos_of_ne_nil hboth.1
          have hafterPos := List.length_pos_of_ne_nil hboth.2
          have hsome : groups.drop (groups.length - (integerTokens after).length) ≠ [] := by
            rw [ne_eq, List.drop_eq_nil_iff]
            omega
          obtain ⟨group, rest, hdrop⟩ := List.exists_cons_of_ne_nil hsome
          have hmem : group ∈ groups.drop (groups.length - (integerTokens after).length) := by
            rw [hdrop]
            exact List.mem_cons_self
          exact hgroups group (List.mem_of_mem_drop hmem) (hall group hmem)
        · intro hnone group hgroup
          cases hnone with
          | inl hnone =>
            rw [hnone, List.drop_nil] at hgroup
            exact absurd hgroup List.not_mem_nil
          | inr hnone =>
            rw [hnone, List.length_nil, Nat.sub_zero, List.drop_length] at hgroup
            exact absurd hgroup List.not_mem_nil
      rw [hflat]
      by_cases hafter : .point ∈ after
      · simp only [hafter, true_and]
        tauto
      · have hnone : decimals.flatten = [] := by
          rw [decimalTokens_of_not_mem hafter] at hcount
          rw [List.eq_nil_of_length_eq_zero hcount]
          rfl
        simp only [hafter, hnone, false_and, or_false, and_true]
        tauto
    · by_cases hafter : integerTokens after = []
      · right
        right
        rw [hafter]
        exact List.drop_length
      · exact .inl hafter

end Lists

end AgentSpreadsheet.Render
