import AgentSpreadsheet.Render.Digits

/-! What the two passes over the tokens do: the first counts the placeholders, the second puts all of
the number out where the first placeholder stands. -/
namespace AgentSpreadsheet.Render
open Library

section Analysis
variable {analysis analysis' : Analysis} {tokens : List Token} {token : Token}
  {next : Option Token}

def Analysis.extended (analysis : Analysis) (tokens : List Token) : Pattern where
  integerZeros := analysis.pattern.integerZeros +
    if analysis.seenPoint then 0 else (integerTokens tokens).count .zero
  integerPlaces := analysis.pattern.integerPlaces +
    if analysis.seenPoint then 0 else (integerTokens tokens).length
  decimalTokens := analysis.pattern.decimalTokens ++
    if analysis.seenPoint then tokens.filter Token.isDigit else decimalTokens tokens
  grouping := analysis.pattern.grouping || tokens.contains .comma
  percentCount := analysis.pattern.percentCount + tokens.count .percent
  exponent := none

theorem extended_nil (h : analysis.pattern.exponent = none) :
    analysis.extended [] = analysis.pattern := by
  unfold Analysis.extended
  obtain ⟨pattern, _, _, _⟩ := analysis
  obtain ⟨_, _, _, _, _, _⟩ := pattern
  simp_all [integerTokens, decimalTokens]

/-- A placeholder counts before the point or after it. -/
theorem step_digit (hdigit : token.isDigit = true) (h : analysis.pattern.exponent = none) :
    analysis.step token next = some { analysis with
      seenDigit := true
      pattern :=
        if analysis.seenPoint then
          { analysis.pattern with decimalTokens := analysis.pattern.decimalTokens ++ [token] }
        else { analysis.pattern with
          integerPlaces := analysis.pattern.integerPlaces + 1
          integerZeros := analysis.pattern.integerZeros + if token = .zero then 1 else 0 } } := by
  unfold Analysis.step
  cases token with
  | zero | hash | question =>
    cases hpoint : analysis.seenPoint <;> simp [h, hpoint]
  | _ => contradiction

theorem extended_digit (hdigit : token.isDigit = true) (hstep : analysis.step token next = some analysis')
    (h : analysis.pattern.exponent = none) (tokens : List Token) :
    analysis'.extended tokens = analysis.extended (token :: tokens) := by
  have hpoint : token ≠ .point := fun heq => by
    rw [heq] at hdigit
    contradiction
  have hother : token ≠ .comma ∧ token ≠ .percent := by
    constructor <;> exact fun heq => by
      rw [heq] at hdigit
      contradiction
  rw [step_digit hdigit h] at hstep
  rw [← Option.some.inj hstep]
  unfold Analysis.extended
  rw [integerTokens_cons hpoint, decimalTokens_cons hpoint, if_pos hdigit,
    List.filter_cons_of_pos hdigit, List.contains_cons, List.count_cons_of_ne hother.2]
  have hcomma : (Token.comma == token) = false := beq_eq_false_iff_ne.mpr (Ne.symm hother.1)
  cases analysis.seenPoint with
  | true => simp only [if_true, hcomma, Bool.false_or, List.append_assoc, List.singleton_append]
  | false =>
    simp only [Bool.false_eq_true, if_false, List.count_cons, List.length_cons, beq_iff_eq, hcomma,
      Bool.false_or]
    congr 1 <;> omega

theorem extended_other (hpoint : token ≠ .point) (hdigit : token.isDigit = false) :
    analysis.extended (token :: tokens) = { analysis.extended tokens with
      grouping := analysis.pattern.grouping || (.comma == token || tokens.contains .comma)
      percentCount := analysis.pattern.percentCount + (token :: tokens).count .percent } := by
  have hnot : ¬ token.isDigit = true := by
    rw [hdigit]
    decide
  unfold Analysis.extended
  rw [integerTokens_cons hpoint, decimalTokens_cons hpoint, if_neg hnot,
    List.filter_cons_of_neg hnot, List.contains_cons]

theorem step_extended (hnone : ∀ explicitPlus, token ≠ .exponent explicitPlus)
    (h : analysis.pattern.exponent = none) (hstep : analysis.step token next = some analysis')
    (tokens : List Token) :
    analysis'.pattern.exponent = none ∧
      analysis'.extended tokens = analysis.extended (token :: tokens) ∧ token ≠ .text := by
  cases token with
  | zero | hash | question =>
    refine ⟨?_, extended_digit rfl hstep h tokens, nofun⟩
    rw [step_digit rfl h] at hstep
    rw [← Option.some.inj hstep]
    dsimp only
    split <;> exact h
  | point =>
    unfold Analysis.step at hstep
    dsimp only at hstep
    split at hstep
    · contradiction
    · rename_i hfirst
      rw [Bool.or_eq_true, not_or] at hfirst
      rw [← Option.some.inj hstep]
      refine ⟨h, ?_, nofun⟩
      unfold Analysis.extended
      rw [if_neg hfirst.1, if_neg hfirst.1, if_neg hfirst.1, integerTokens_point,
        decimalTokens_point, List.contains_cons, List.count_cons_of_ne (by exact nofun)]
      rfl
  | comma =>
    unfold Analysis.step at hstep
    dsimp only at hstep
    split at hstep
    · contradiction
    · rw [← Option.some.inj hstep, extended_other (by exact nofun) rfl]
      refine ⟨h, ?_, nofun⟩
      unfold Analysis.extended
      rw [List.count_cons_of_ne (by exact nofun), beq_self_eq_true]
      dsimp only
      rw [Bool.true_or, Bool.or_true]
  | percent =>
    rw [← Option.some.inj hstep, extended_other (by exact nofun) rfl]
    refine ⟨h, ?_, nofun⟩
    unfold Analysis.extended
    rw [List.count_cons_self, Nat.add_assoc, Nat.add_comm 1]
    rfl
  | exponent explicitPlus => exact absurd rfl (hnone explicitPlus)
  | text => contradiction
  | literal c =>
    rw [← Option.some.inj hstep, extended_other (by exact nofun) rfl]
    refine ⟨h, ?_, nofun⟩
    unfold Analysis.extended
    rw [List.count_cons_of_ne (by exact nofun)]
    rfl

theorem analyzeFrom_extended (hnone : ∀ explicitPlus, .exponent explicitPlus ∉ tokens)
    (h : analysis.pattern.exponent = none) (hrun : analyzeFrom analysis tokens = some analysis') :
    analysis'.pattern = analysis.extended tokens ∧ .text ∉ tokens := by
  induction tokens generalizing analysis with
  | nil =>
    rw [extended_nil h, ← Option.some.inj hrun]
    exact ⟨rfl, List.not_mem_nil⟩
  | cons token rest ih =>
    unfold analyzeFrom at hrun
    obtain ⟨after, hstep, hrest⟩ := Option.bind_eq_some_iff.mp hrun
    have htoken (explicitPlus : Bool) : token ≠ .exponent explicitPlus := fun heq =>
      hnone explicitPlus (heq ▸ List.mem_cons_self)
    obtain ⟨hexponent, hextended, htext⟩ := step_extended htoken h hstep rest
    obtain ⟨hpattern, hrestText⟩ := ih
      (fun explicitPlus hmem => hnone explicitPlus (List.mem_cons_of_mem _ hmem)) hexponent hrest
    rw [hpattern, hextended, List.mem_cons, not_or]
    exact ⟨rfl, Ne.symm htext, hrestText⟩

theorem analyzeFrom_head (hseen : analysis.seenDigit = false) :
    analyzeFrom analysis (.comma :: tokens) = none := by
  unfold analyzeFrom Analysis.step
  simp [hseen]

theorem analyzeFrom_first (hseen : analysis.seenDigit = false)
    (hrun : analyzeFrom analysis tokens = some analysis') :
    ∀ first ∈ (tokens.dropWhile fun token => !token.isNumeric).head?,
      first.isDigit = true ∨ first = .point := by
  induction tokens generalizing analysis with
  | nil => exact nofun
  | cons token rest ih =>
    by_cases hnumeric : token.isNumeric = true
    · rw [List.dropWhile_cons_of_neg (by simp [hnumeric])]
      intro first hfirst
      rw [List.head?_cons, Option.mem_some_iff] at hfirst
      rw [← hfirst]
      cases token with
      | zero | hash | question => exact .inl rfl
      | point => exact .inr rfl
      | comma =>
        rw [analyzeFrom_head hseen] at hrun
        contradiction
      | _ => contradiction
    · rw [List.dropWhile_cons_of_pos (by simp [hnumeric])]
      unfold analyzeFrom at hrun
      obtain ⟨after, hstep, hrest⟩ := Option.bind_eq_some_iff.mp hrun
      apply ih _ hrest
      unfold Analysis.step at hstep
      cases token with
      | percent | literal c =>
        rw [← Option.some.inj hstep]
        exact hseen
      | exponent explicitPlus =>
        dsimp only at hstep
        split at hstep
        · contradiction
        · rw [← Option.some.inj hstep]
          exact hseen
      | text => contradiction
      | _ => exact absurd rfl hnumeric

def fixedPattern (tokens : List Token) : Pattern where
  integerZeros := (integerTokens tokens).count .zero
  integerPlaces := (integerTokens tokens).length
  decimalTokens := decimalTokens tokens
  grouping := tokens.contains .comma
  percentCount := tokens.count .percent

theorem analyze_fixed {pattern : Pattern} (hnone : ∀ explicitPlus, .exponent explicitPlus ∉ tokens)
    (h : analyze tokens = some pattern) : pattern = fixedPattern tokens ∧ .text ∉ tokens ∧
      ∀ first ∈ (tokens.dropWhile fun token => !token.isNumeric).head?,
        first.isDigit = true ∨ first = .point := by
  unfold analyze at h
  obtain ⟨after, hrun, hresult⟩ := Option.bind_eq_some_iff.mp h
  obtain ⟨hpattern, htext⟩ := analyzeFrom_extended hnone rfl hrun
  refine ⟨?_, htext, analyzeFrom_first rfl hrun⟩
  have hfixed : (Analysis.extended {} tokens) = fixedPattern tokens := by
    unfold Analysis.extended fixedPattern
    simp
  have hexponent : after.pattern.exponent = none := by
    rw [hpattern, hfixed]
    rfl
  split at hresult
  · contradiction
  · rw [hexponent] at hresult
    rw [← Option.some.inj hresult, hpattern, hfixed]

end Analysis

/-! ### One block of digits -/

section Emit
variable {tokens : List Token}

theorem isNumeric_noMark {token : Token} (h : token.isNumeric = true) : token.mark = none := by
  cases token <;> first | rfl | contradiction

theorem emit_after (integer decimal : List Char) (hnone : ∀ explicitPlus, .exponent explicitPlus ∉ tokens)
    (htext : .text ∉ tokens) : emit integer decimal [] true tokens = some (textMarks tokens) := by
  induction tokens with
  | nil => exact emit_nil _ _ _ _
  | cons token rest ih =>
    rw [List.mem_cons, not_or] at htext
    have hrest := ih (fun explicitPlus hmem => hnone explicitPlus (List.mem_cons_of_mem _ hmem)) htext.2
    cases token with
    | exponent explicitPlus => exact absurd List.mem_cons_self (hnone explicitPlus)
    | text => exact absurd rfl htext.1
    | percent =>
      rw [emit_percent, hrest, textMarks_cons_some rfl]
      rfl
    | literal c =>
      rw [emit_literal, hrest, textMarks_cons_some rfl]
      rfl
    | zero | hash | question | point | comma =>
      rw [emit_numeric _ _ _ _ _ rfl, if_pos rfl, hrest, textMarks_cons_none rfl]

/-- Texts, the number, texts. -/
theorem emit_block (integer decimal : List Char)
    (hnone : ∀ explicitPlus, .exponent explicitPlus ∉ tokens) (htext : .text ∉ tokens)
    (hsome : ∃ token ∈ tokens, token.isNumeric = true) :
    emit integer decimal [] false tokens =
      some (textMarks (tokens.takeWhile fun token => !token.isNumeric) ++
        (numberBlock integer decimal ++ textMarks (tokens.dropWhile fun token => !token.isNumeric))) := by
  induction tokens with
  | nil =>
    obtain ⟨token, hmem, _⟩ := hsome
    exact absurd hmem List.not_mem_nil
  | cons token rest ih =>
    rw [List.mem_cons, not_or] at htext
    have hrestNone : ∀ explicitPlus, .exponent explicitPlus ∉ rest := fun explicitPlus hmem =>
      hnone explicitPlus (List.mem_cons_of_mem _ hmem)
    have hrest (hother : token.isNumeric = false) := ih hrestNone htext.2 (by
      obtain ⟨first, hmem, hnumeric⟩ := hsome
      cases List.mem_cons.mp hmem with
      | inl heq =>
        rw [heq, hother] at hnumeric
        contradiction
      | inr hmem => exact ⟨first, hmem, hnumeric⟩)
    by_cases hnumeric : token.isNumeric = true
    · rw [emit_numeric _ _ _ _ _ hnumeric, if_neg Bool.false_ne_true,
        emit_after integer decimal hrestNone htext.2, List.takeWhile_cons_of_neg (by simp [hnumeric]),
        List.dropWhile_cons_of_neg (by simp [hnumeric]),
        textMarks_cons_none (isNumeric_noMark hnumeric)]
      rfl
    · rw [Bool.not_eq_true] at hnumeric
      rw [List.takeWhile_cons_of_pos (by simp [hnumeric]),
        List.dropWhile_cons_of_pos (by simp [hnumeric])]
      cases token with
      | exponent explicitPlus => exact absurd List.mem_cons_self (hnone explicitPlus)
      | text => exact absurd rfl htext.1
      | percent =>
        rw [emit_percent, hrest hnumeric, textMarks_cons_some rfl]
        rfl
      | literal c =>
        rw [emit_literal, hrest hnumeric, textMarks_cons_some rfl]
        rfl
      | _ => contradiction

end Emit

/-! ### When one block is enough -/

section Block
variable {decimals groups : List (List Char)} {tokens : List Token}

theorem placed_other {token : Token} (h : token.isNumeric = false)
    (decimals groups : List (List Char)) (tokens : List Token) :
    placed decimals groups (token :: tokens) =
      textMarks [token] ++ placed decimals groups tokens := by
  cases token with
  | percent | literal c | text | exponent explicitPlus => rfl
  | _ => contradiction

theorem placed_before (decimals groups : List (List Char)) {before : List Token}
    (h : ∀ token ∈ before, token.isNumeric = false) (after : List Token) :
    placed decimals groups (before ++ after) = textMarks before ++ placed decimals groups after := by
  induction before with
  | nil => rfl
  | cons token rest ih =>
    rw [List.cons_append, placed_other (h token List.mem_cons_self),
      ih fun other hother => h other (List.mem_cons_of_mem _ hother), ← List.append_assoc]
    congr 1
    exact Eq.symm (@List.filterMap_append _ _ [token] rest Token.mark)

theorem texts_placedAfter (decimals groups : List (List Char)) (before after : List Token) :
    texts (placedAfter decimals groups before after) = textMarks after := by
  unfold placedAfter
  split
  · exact texts_placedDecimals _ _
  · exact texts_placed _ _ _

theorem map_numbers {marks : List Mark} (h : texts marks = []) :
    marks = (numbers marks).map .number := by
  induction marks with
  | nil => rfl
  | cons mark rest ih =>
    cases mark with
    | number c =>
      rw [show numbers (.number c :: rest) = c :: numbers rest from rfl, List.map_cons, ← ih h]
    | _ => contradiction

theorem numbers_after {front back rest : List Mark} {mark : Mark} {number : List Char}
    (h : front ++ mark :: back = number.map .number ++ rest) (hmark : mark.digit = none)
    (hrest : numbers rest = []) : numbers back = [] := by
  rcases List.append_eq_append_iff.mp h with ⟨gap, hnumber, hback⟩ | ⟨gap, _, hback⟩
  · cases gap with
    | nil =>
      rw [List.nil_append] at hback
      rw [← hback, numbers_cons_text hmark] at hrest
      exact hrest
    | cons first gap =>
      have hfirst : mark = first := (List.cons.inj hback).1
      have hmem : mark ∈ number.map .number := by
        rw [hnumber, hfirst]
        exact List.mem_append_right _ List.mem_cons_self
      obtain ⟨c, _, rfl⟩ := List.mem_map.mp hmem
      contradiction
  · rw [hback, numbers_append, numbers_cons_text hmark] at hrest
    exact (List.append_eq_nil_iff.mp hrest).2

theorem tailShown_before {before : List Token} (h : ∀ token ∈ before, token.isNumeric = false)
    (groups decimals : List (List Char)) (between after : List Token) :
    tailShown groups decimals (before ++ between) after ↔
      tailShown groups decimals between after := by
  have hpoint : .point ∉ before := fun hmem => Bool.noConfusion (h .point hmem)
  unfold tailShown
  rw [decimalTokens_append hpoint]
  simp [hpoint]

/-- One block puts the number where it belongs when nothing of it belongs after a text that stands
among its placeholders. -/
theorem block_placed_iff (hgroups : ∀ group ∈ groups, group ≠ [])
    (hdecimals : decimals.length = (decimalTokens tokens).length)
    (hplaces : integerTokens tokens ≠ [] ∨ .point ∈ tokens ∨ groups = [])
    (hfirst : ∀ first ∈ (tokens.dropWhile fun token => !token.isNumeric).head?,
      first.isDigit = true ∨ first = .point) :
    textMarks (tokens.takeWhile fun token => !token.isNumeric) ++
        ((numberText groups.flatten decimals.flatten).map .number ++
          textMarks (tokens.dropWhile fun token => !token.isNumeric)) =
        placed decimals groups tokens ↔
      ∀ before token after, tokens = before ++ token :: after → token.mark ≠ none →
        (∃ first ∈ before, first.isDigit = true ∨ first = .point) →
        ¬ tailShown groups decimals before after := by
  have hbefore : ∀ token ∈ tokens.takeWhile fun token => !token.isNumeric,
      token.isNumeric = false := fun token hmem => by simpa using List.mem_takeWhile_imp hmem
  have hsplit : (tokens.takeWhile fun token => !token.isNumeric) ++
      (tokens.dropWhile fun token => !token.isNumeric) = tokens := List.takeWhile_append_dropWhile
  have hnumbers := @numbers_placed tokens decimals groups hplaces hdecimals
  revert hbefore hsplit hfirst
  generalize (tokens.takeWhile fun token => !token.isNumeric) = before
  generalize (tokens.dropWhile fun token => !token.isNumeric) = rest
  intro hfirst hbefore hsplit
  have hplaced : placed decimals groups tokens = textMarks before ++ placed decimals groups rest := by
    rw [← hsplit, placed_before _ _ hbefore]
  rw [hplaced, numbers_append, numbers_textMarks, List.nil_append] at hnumbers
  rw [hplaced, List.append_cancel_left_eq, ← hnumbers]
  have hafter {between after : List Token} {token : Token} {mark : Mark}
      (hrest : rest = between ++ token :: after) (hmark : token.mark = some mark)
      (hplace : ∃ first ∈ between, first.isDigit = true ∨ first = .point) :
      numbers (placedAfter decimals groups between after) = [] ↔
        ¬ tailShown groups decimals between after := by
    have hother := mark_not_digit hmark
    apply numbers_placedAfter hgroups ⟨hother.1, hother.2.1⟩ hplace
    rw [hdecimals, ← hsplit, hrest]
    have hpoint : .point ∉ before := fun hmem => Bool.noConfusion (hbefore .point hmem)
    rw [decimalTokens_append hpoint]
  constructor
  · intro hblock between token after htokens htoken hplace
    obtain ⟨mark, hmark⟩ := Option.ne_none_iff_exists'.mp htoken
    obtain ⟨first, hmem, hdigit⟩ := hplace
    have hnumeric : first.isNumeric = true := by
      cases hdigit with
      | inl hdigit => cases first <;> first | rfl | contradiction
      | inr hpoint =>
        rw [hpoint]
        rfl
    rw [htokens] at hsplit
    rcases List.append_eq_append_iff.mp hsplit with ⟨gap, hbetween, hrest⟩ | ⟨gap, hbetween, _⟩
    · rw [hbetween, tailShown_before hbefore]
      have hgap : first ∈ gap := by
        rw [hbetween] at hmem
        cases List.mem_append.mp hmem with
        | inl hmem =>
          rw [hbefore first hmem] at hnumeric
          contradiction
        | inr hmem => exact hmem
      rw [← hafter hrest hmark ⟨first, hgap, hdigit⟩]
      obtain ⟨front, hfront⟩ := placed_text hmark decimals groups gap after
      rw [← hrest] at hfront
      rw [hfront] at hblock
      exact numbers_after hblock.symm (mark_digit hmark) (numbers_textMarks rest)
    · rw [hbefore first (by rw [hbetween]; exact List.mem_append_left _ hmem)] at hnumeric
      contradiction
  · intro hall
    have htexts := texts_placed decimals groups rest
    cases hfind : rest.find? fun token => token.mark.isSome with
    | none =>
      have hnone : textMarks rest = [] := by
        unfold textMarks
        rw [List.filterMap_eq_nil_iff]
        intro token hmem
        have hnot := List.find?_eq_none.mp hfind token hmem
        exact Option.not_isSome_iff_eq_none.mp hnot
      rw [hnone, List.append_nil, ← map_numbers (htexts.trans hnone)]
    | some token =>
      -- The first text among the placeholders has nothing of the number after it.
      obtain ⟨hsome, between, after, hrest, hbetween⟩ := List.find?_eq_some_iff_append.mp hfind
      obtain ⟨mark, hmark⟩ := Option.isSome_iff_exists.mp hsome
      have hplace : ∃ first ∈ between, first.isDigit = true ∨ first = .point := by
        cases between with
        | nil =>
          rw [hrest, List.nil_append, List.head?_cons] at hfirst
          have hother := mark_not_digit hmark
          cases hfirst token rfl with
          | inl hdigit =>
            rw [hother.1] at hdigit
            contradiction
          | inr hpoint => exact absurd hpoint hother.2.1
        | cons first between =>
          rw [hrest, List.cons_append, List.head?_cons] at hfirst
          exact ⟨first, List.mem_cons_self, hfirst first rfl⟩
      have hshown : ¬ tailShown groups decimals between after := by
        rw [← tailShown_before hbefore groups decimals between after]
        obtain ⟨first, hmem, hdigit⟩ := hplace
        apply hall (before ++ between) token after
        · rw [← hsplit, hrest, List.append_assoc]
        · rw [hmark]
          exact nofun
        · exact ⟨first, List.mem_append_right _ hmem, hdigit⟩
      have hback := (hafter hrest hmark hplace).mpr hshown
      obtain ⟨front, hfront⟩ := placed_text hmark decimals groups between after
      have hbetweenMarks : textMarks between = [] := by
        unfold textMarks
        rw [List.filterMap_eq_nil_iff]
        intro other hmem
        simpa using hbetween other hmem
      have hmarks : textMarks rest = mark :: textMarks after := by
        unfold textMarks at hbetweenMarks ⊢
        rw [hrest, List.filterMap_append, hbetweenMarks, List.nil_append,
          List.filterMap_cons_some hmark]
      rw [← hrest] at hfront
      have hfrontTexts : texts front = [] := by
        rw [hfront, texts_append, texts_cons_text (mark_digit hmark), texts_placedAfter,
          hmarks] at htexts
        exact List.append_left_eq_self.mp htexts
      have hbackMarks : placedAfter decimals groups between after = textMarks after := by
        rw [← texts_placedAfter decimals groups between after]
        exact (texts_of_numbers_nil hback).symm
      rw [hfront, numbers_append, numbers_cons_text (mark_digit hmark), hback, List.append_nil,
        ← map_numbers hfrontTexts, hmarks, hbackMarks]

end Block

end AgentSpreadsheet.Render
