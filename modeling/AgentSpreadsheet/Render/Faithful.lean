import AgentSpreadsheet.Render.Emission

/-! Whether a formatted number says what its code asks for. The digits are put out as one block, so
that it does when nothing of the number belongs after a literal that stands among its placeholders,
no blank stands before the section, and only the first of the places with zeros at the end may be
one for a blank. -/
namespace AgentSpreadsheet.Render
open Library

/-- The tokens of a section, the blanks before it included. -/
def sectionTokens (sectionText : List Char) : Option (List Token) := do
  let (_, body) ← takeColor sectionText
  let tokens ← tokenize body
  some ((sectionText.takeWhile Legacy.isWhitespace).map Token.literal ++ tokens)

def roundedTo (places : Nat) (x : ℚ) : ℚ := roundAway (x * 10 ^ places) / 10 ^ places

/-- The digits of a number before the point and after it, as the tokens ask for them. -/
structure Numeral (tokens : List Token) (magnitude : ℚ) (integer decimal : List Char) : Prop where
  digits : (integer ++ decimal).all Char.isDigit = true
  places : decimal.length = (decimalTokens tokens).length
  value : scaled (integer ++ decimal) decimal.length 0 =
    roundedTo (decimalTokens tokens).length (magnitude * 100 ^ tokens.count .percent)
  zeros : (integerTokens tokens).count .zero ≤ integer.length

def Mark.isScale : Mark → Bool
  | scale _ => true
  | _ => false

/-- As many percent signs as the section has, and without them a sign where one is asked for, the
digits of the number at their placeholders, and the literals in between. -/
def Faithful (tokens : List Token) (magnitude : ℚ) (signed : Bool) (formatted : Formatted) : Prop :=
  formatted.marks.countP Mark.isScale = tokens.count .percent ∧
    ∃ integer decimal, Numeral tokens magnitude integer decimal ∧
      (formatted.marks.filter fun mark => !mark.isScale) =
        (if signed then [.sign] else []) ++
          placed (shownDecimals (decimalTokens tokens) decimal)
            (groupedDigits (tokens.contains .comma) integer) (tokens.filter (· ≠ .percent))

/-! ### The condition -/

def shownCount (tokens : List Token) (magnitude : ℚ) : Nat :=
  (roundAway (magnitude * 100 ^ tokens.count .percent * 10 ^ (decimalTokens tokens).length)).toNat

def integerShown (tokens : List Token) (count : Nat) : Prop :=
  decimalTokens tokens = [] ∨ .zero ∈ integerTokens tokens ∨
    10 ^ (decimalTokens tokens).length ≤ count

/-- A digit of the number, or its point, belongs after `before`. -/
def digitsAfter (tokens : List Token) (count : Nat) (before after : List Token) : Prop :=
  if .point ∈ before then ¬ dropped (after.filter Token.isDigit) count
  else integerShown tokens count ∧ integerTokens after ≠ [] ∨
    .point ∈ after ∧ ¬ dropped (decimalTokens after) count

structure Undivided (sectionText : List Char) (tokens : List Token) (count : Nat) : Prop where
  blanks : sectionText.takeWhile Legacy.isWhitespace = []
  places : ¬ laterBlank (decimalTokens tokens) count
  literals : ∀ before c after, tokens = before ++ .literal c :: after →
    (∃ first ∈ before, first.isDigit = true ∨ first = .point) →
    ¬ digitsAfter tokens count before after

/-! ### Sections with placeholders -/

section Sections
variable {tokens : List Token} {body sectionText : List Char} {magnitude : ℚ}

/-- A placeholder is read from its own character. -/
theorem tokenizeFrom_digit {inQuotes : Bool} (h : tokenizeFrom inQuotes body = some tokens)
    {token : Token} (hmem : token ∈ tokens) (hdigit : token.isDigit = true) :
    ∃ c ∈ body, c = '0' ∨ c = '#' ∨ c = '?' := by
  have hkeep {rest : Option (List Token)} {tokens : List Token} {other : Token}
      (hother : other.isDigit = false) (hmap : rest.map (other :: ·) = some tokens)
      (hmem : token ∈ tokens) : ∃ after, rest = some after ∧ token ∈ after := by
    obtain ⟨after, hafter, rfl⟩ := Option.map_eq_some_iff.mp hmap
    refine ⟨after, hafter, ?_⟩
    cases List.mem_cons.mp hmem with
    | inl heq =>
      rw [← heq, hdigit] at hother
      contradiction
    | inr hmem => exact hmem
  have hcons {c : Char} {rest : List Char} (hrest : ∃ c ∈ rest, c = '0' ∨ c = '#' ∨ c = '?') :
      ∃ c' ∈ c :: rest, c' = '0' ∨ c' = '#' ∨ c' = '?' := by
    obtain ⟨c', hmem, hplain⟩ := hrest
    exact ⟨c', List.mem_cons_of_mem _ hmem, hplain⟩
  fun_induction tokenizeFrom inQuotes body generalizing tokens with
  | case1 =>
    rw [← Option.some.inj h] at hmem
    exact absurd hmem List.not_mem_nil
  | case2 rest ih => exact hcons (ih h hmem)
  | case3 c rest _ ih =>
    obtain ⟨after, hafter, hmem⟩ := hkeep rfl h hmem
    exact hcons (ih hafter hmem)
  | case4 rest ih => exact hcons (ih h hmem)
  | case6 escaped rest _ ih =>
    obtain ⟨after, hafter, hmem⟩ := hkeep rfl h hmem
    exact hcons (hcons (ih hafter hmem))
  | case8 skipped rest _ _ ih =>
    obtain ⟨after, hafter, hmem⟩ := hkeep rfl h hmem
    exact hcons (hcons (ih hafter hmem))
  | case10 skipped rest _ _ _ ih => exact hcons (hcons (ih h hmem))
  | case11 c _ _ _ _ _ rest ih =>
    obtain ⟨after, hafter, hmem⟩ := hkeep rfl h hmem
    exact hcons (hcons (ih hafter hmem))
  | case12 c _ _ _ _ _ rest ih =>
    obtain ⟨after, hafter, hmem⟩ := hkeep rfl h hmem
    exact hcons (hcons (ih hafter hmem))
  | case13 c rest _ _ _ _ _ _ _ ih =>
    obtain ⟨after, hafter, hmem⟩ := hkeep rfl h hmem
    exact hcons (ih hafter hmem)
  | case14 c rest _ _ _ _ _ ih =>
    obtain ⟨first, hfirst, hrest⟩ := Option.bind_eq_some_iff.mp h
    obtain ⟨after, hafter, hsome⟩ := Option.bind_eq_some_iff.mp hrest
    rw [← Option.some.inj hsome] at hmem
    cases List.mem_cons.mp hmem with
    | inl heq =>
      refine ⟨c, List.mem_cons_self, ?_⟩
      rw [← heq] at hfirst
      unfold plainToken at hfirst
      by_contra hother
      rw [not_or, not_or] at hother
      rw [if_neg hother.1, if_neg hother.2.1, if_neg hother.2.2] at hfirst
      split_ifs at hfirst <;> cases Option.some.inj hfirst <;> contradiction
    | inr hmem => exact hcons (ih hafter hmem)
  | _ => contradiction

theorem mem_trimBlanks {c : Char} (hmem : c ∈ body) (hc : Legacy.isWhitespace c = false) :
    c ∈ trimBlanks body := by
  have hdrop {chars : List Char} (hmem : c ∈ chars) : c ∈ chars.dropWhile Legacy.isWhitespace := by
    rw [← @List.takeWhile_append_dropWhile _ Legacy.isWhitespace chars, List.mem_append] at hmem
    cases hmem with
    | inl hmem =>
      rw [List.mem_takeWhile_imp hmem] at hc
      contradiction
    | inr hmem => exact hmem
  unfold trimBlanks
  rw [List.mem_reverse]
  exact hdrop (List.mem_reverse.mpr (hdrop hmem))

theorem not_general (h : tokenize body = some tokens) (hdigit : tokens.any Token.isDigit = true) :
    trimBlanks body ≠ [] ∧ (trimBlanks body).map Char.toLower ≠ "general".toList := by
  obtain ⟨token, hmem, htoken⟩ := List.any_eq_true.mp hdigit
  obtain ⟨c, hc, hplain⟩ := tokenizeFrom_digit h hmem htoken
  have htrim : c ∈ trimBlanks body := by
    apply mem_trimBlanks hc
    rcases hplain with rfl | rfl | rfl <;> decide
  constructor
  · exact List.ne_nil_of_mem htrim
  · intro hgeneral
    have hlower : c.toLower ∈ "general".toList := by
      rw [← hgeneral]
      exact List.mem_map_of_mem htrim
    rcases hplain with rfl | rfl | rfl <;> revert hlower <;> decide

theorem any_numeric (hdigit : tokens.any Token.isDigit = true) :
    ∃ token ∈ tokens, token.isNumeric = true := by
  obtain ⟨token, hmem, htoken⟩ := List.any_eq_true.mp hdigit
  refine ⟨token, hmem, ?_⟩
  cases token <;> first | rfl | contradiction

theorem renderSection_block {tools : NumberTools} {forceNegativeSign : Bool} {formatted : Formatted}
    {color : Option Rgba} (hrender : renderSection tools sectionText magnitude forceNegativeSign =
      some formatted) (htake : takeColor sectionText = some (color, body))
    (htokens : tokenize body = some tokens) (hdigit : tokens.any Token.isDigit = true)
    (hnone : ∀ explicitPlus, .exponent explicitPlus ∉ tokens) :
    (.text ∉ tokens ∧ ∀ first ∈ (tokens.dropWhile fun token => !token.isNumeric).head?,
        first.isDigit = true ∨ first = .point) ∧
      ∃ integer decimal,
        renderFixed (magnitude * 100 ^ tokens.count .percent) (fixedPattern tokens) =
          some (integer, decimal) ∧
        formatted.marks =
          (if forceNegativeSign &&
              (magnitude * 100 ^ tokens.count .percent ≠ 0 || integer ≠ []) then [.sign] else []) ++
            (textMarks (tokens.takeWhile fun token => !token.isNumeric) ++
              (numberBlock integer decimal ++
                textMarks (tokens.dropWhile fun token => !token.isNumeric))) := by
  obtain ⟨hempty, hgeneral⟩ := not_general htokens hdigit
  unfold renderSection at hrender
  rw [htake] at hrender
  simp only [Option.bind_eq_bind, Option.bind_some, hempty, hgeneral, if_false, htokens, hdigit,
    Bool.not_true, Bool.false_eq_true] at hrender
  obtain ⟨pattern, hpattern, hrender⟩ := Option.bind_eq_some_iff.mp hrender
  obtain ⟨rfl, htext, hfirst⟩ := analyze_fixed hnone hpattern
  refine ⟨⟨htext, hfirst⟩, ?_⟩
  have hexponent : (fixedPattern tokens).exponent = none := rfl
  rw [hexponent] at hrender
  obtain ⟨digits, hdigits, hmarks⟩ := Option.bind_eq_some_iff.mp hrender
  obtain ⟨⟨integer, decimal⟩, hfixed, rfl⟩ := Option.map_eq_some_iff.mp hdigits
  obtain ⟨marks, hemit, hformatted⟩ := Option.bind_eq_some_iff.mp hmarks
  rw [emit_block integer decimal hnone htext (any_numeric hdigit)] at hemit
  refine ⟨integer, decimal, hfixed, ?_⟩
  rw [← Option.some.inj hformatted, ← Option.some.inj hemit]
  have hsign {signed : Bool} {marks : List Mark} :
      (if signed = true then Mark.sign :: marks else marks) =
        (if signed = true then [.sign] else []) ++ marks := by cases signed <;> rfl
  exact hsign

theorem roundAway_nonneg {x : ℚ} (h : 0 ≤ x) : 0 ≤ roundAway x := by
  unfold roundAway
  rw [if_pos h]
  exact Int.floor_nonneg.mpr (by linarith)

theorem renderFixed_numeral {integer decimal : List Char} (hmagnitude : 0 ≤ magnitude)
    (h : renderFixed (magnitude * 100 ^ tokens.count .percent) (fixedPattern tokens) =
      some (integer, decimal)) (hdigit : tokens.any Token.isDigit = true) :
    ∃ shown rest, Numeral tokens magnitude shown rest ∧
      integer = (groupedDigits (tokens.contains .comma) shown).flatten ∧
      decimal = dropTrailing (decimalTokens tokens).zipIdx.reverse rest ∧
      digitsNat rest = shownCount tokens magnitude % 10 ^ (decimalTokens tokens).length ∧
      (shown ≠ [] ↔ integerShown tokens (shownCount tokens magnitude)) := by
  unfold renderFixed at h
  dsimp only [fixedPattern] at h
  split at h
  · contradiction
  · have hpair := Option.some.inj h
    have hinteger := (congrArg Prod.fst hpair).symm
    have hdecimal := (congrArg Prod.snd hpair).symm
    dsimp only at hinteger hdecimal
    have hcount : (shownCount tokens magnitude : ℤ) = roundAway
        (magnitude * 100 ^ tokens.count .percent * 10 ^ (decimalTokens tokens).length) :=
      Int.toNat_of_nonneg (roundAway_nonneg (by positivity))
    change integer = (if tokens.contains .comma = true then groupThousands (integerDigits
      (fixedPattern tokens) (fixedDigits (shownCount tokens magnitude) (decimalTokens tokens).length).1)
      else integerDigits (fixedPattern tokens)
        (fixedDigits (shownCount tokens magnitude) (decimalTokens tokens).length).1) at hinteger
    change decimal = dropTrailing (decimalTokens tokens).zipIdx.reverse
      (fixedDigits (shownCount tokens magnitude) (decimalTokens tokens).length).2 at hdecimal
    revert hcount hinteger hdecimal
    generalize shownCount tokens magnitude = count
    intro hcount hinteger hdecimal
    obtain ⟨hlength, hdigits, hvalue⟩ := fixedDigits_decimal count (decimalTokens tokens).length
    obtain ⟨hall, hpart, hzeros, hnil⟩ := integerDigits_facts (fixedPattern tokens)
      (count / 10 ^ (decimalTokens tokens).length)
    refine ⟨_, _, ⟨?_, hlength, ?_, hzeros⟩, ?_, hdecimal, hvalue, ?_⟩
    · rw [List.all_append, hall, hdigits]
      rfl
    · unfold scaled roundedTo
      rw [digitsNat_append, hpart, hvalue, hlength, ← hcount, Nat.div_add_mod', zero_sub, zpow_neg,
        zpow_natCast, div_eq_mul_inv]
      rfl
    · rw [flatten_groupedDigits]
      exact hinteger
    · rw [ne_eq, hnil, Nat.div_eq_zero_iff]
      have hplace : decimalTokens tokens = [] → integerTokens tokens ≠ [] := by
        intro hnone hempty
        obtain ⟨token, hmem, htoken⟩ := List.any_eq_true.mp hdigit
        have hfilter : token ∈ integerTokens tokens ++ decimalTokens tokens := by
          unfold integerTokens decimalTokens
          rw [← List.filter_append, List.takeWhile_append_dropWhile]
          exact List.mem_filter.mpr ⟨hmem, htoken⟩
        rw [hnone, hempty] at hfilter
        exact absurd hfilter List.not_mem_nil
      have hpow : 0 < 10 ^ (decimalTokens tokens).length := Nat.pow_pos (by decide)
      unfold integerShown fixedPattern
      dsimp only
      rw [List.length_eq_zero_iff, List.count_eq_zero, List.length_pos_iff]
      by_cases hnone : decimalTokens tokens = []
      · simp [hnone, hplace hnone]
      · simp only [hnone, and_false, not_false_eq_true, and_true, false_or]
        rw [not_and_or, not_not, or_comm]
        apply or_congr_right
        omega

/-! ### The number that is shown -/

theorem takeWhile_numberText {integer : List Char} (h : ∀ c ∈ integer, c ≠ '.') (decimal : List Char) :
    (numberText integer decimal).takeWhile (· ≠ '.') = integer ∧
      (numberText integer decimal).dropWhile (· ≠ '.') =
        if decimal = [] then [] else '.' :: decimal := by
  have hall : ∀ c ∈ integer, decide (c ≠ '.') = true := fun c hc => decide_eq_true (h c hc)
  unfold numberText
  split
  · exact ⟨List.takeWhile_eq_self_iff.mpr hall, List.dropWhile_eq_nil_iff.mpr hall⟩
  · rw [List.takeWhile_append_of_pos hall, List.dropWhile_append_of_pos hall]
    exact ⟨List.append_nil _, rfl⟩

theorem numberText_inj {integer integer' decimal decimal' : List Char}
    (h : ∀ c ∈ integer, c ≠ '.') (h' : ∀ c ∈ integer', c ≠ '.')
    (heq : numberText integer decimal = numberText integer' decimal') :
    integer = integer' ∧ decimal = decimal' := by
  obtain ⟨htake, hdrop⟩ := takeWhile_numberText h decimal
  obtain ⟨htake', hdrop'⟩ := takeWhile_numberText h' decimal'
  rw [heq, htake'] at htake
  rw [heq, hdrop'] at hdrop
  refine ⟨htake.symm, ?_⟩
  split at hdrop
  · rename_i hnone'
    split at hdrop
    · rename_i hnone
      rw [hnone, hnone']
    · contradiction
  · split at hdrop
    · contradiction
    · exact (List.cons.inj hdrop).2.symm

theorem groupedDigits_plain (grouping : Bool) {integer : List Char}
    (h : integer.all Char.isDigit = true) :
    ∀ c ∈ (groupedDigits grouping integer).flatten, c ≠ '.' := by
  intro c hmem hpoint
  obtain ⟨group, hgroup, hc⟩ := List.mem_flatten.mp hmem
  obtain ⟨⟨digit, index⟩, hplace, rfl⟩ := List.mem_map.mp hgroup
  have hdigit : digit.isDigit = true :=
    List.all_eq_true.mp h digit (List.fst_mem_of_mem_zipIdx hplace)
  dsimp only at hc
  have hcase : c = ',' ∨ c = digit := by
    split at hc
    · simpa using hc
    · exact .inr (List.mem_singleton.mp hc)
  cases hcase with
  | inl hcomma =>
    rw [hpoint] at hcomma
    contradiction
  | inr heq =>
    rw [← heq, hpoint] at hdigit
    contradiction

variable {integer integer' decimal decimal' : List Char}

theorem numeral_unique (h : Numeral tokens magnitude integer decimal)
    (h' : Numeral tokens magnitude integer decimal') : decimal = decimal' := by
  have hdecimal := (List.all_append ▸ h.digits : (integer.all Char.isDigit &&
    decimal.all Char.isDigit) = true)
  have hdecimal' := (List.all_append ▸ h'.digits : (integer.all Char.isDigit &&
    decimal'.all Char.isDigit) = true)
  rw [Bool.and_eq_true] at hdecimal hdecimal'
  have hlength : decimal.length = decimal'.length := h.places.trans h'.places.symm
  have hvalue := h.value.trans h'.value.symm
  unfold scaled at hvalue
  rw [hlength] at hvalue
  have hpow : (10 : ℚ) ^ ((0 : ℤ) - decimal'.length) ≠ 0 := zpow_ne_zero _ (by norm_num)
  have hnat : digitsNat (integer ++ decimal) = digitsNat (integer ++ decimal') := by
    exact_mod_cast mul_right_cancel₀ hpow hvalue
  rw [digitsNat_append, digitsNat_append, hlength] at hnat
  exact digitsNat_inj hdecimal.2 hdecimal'.2 hlength (Nat.add_left_cancel hnat)

theorem shown_unique (h : Numeral tokens magnitude integer decimal)
    (h' : Numeral tokens magnitude integer' decimal') (grouping : Bool) {shown shown' : List Char}
    (heq : numberText (groupedDigits grouping integer).flatten shown =
      numberText (groupedDigits grouping integer').flatten shown') :
    integer = integer' ∧ decimal = decimal' ∧ shown = shown' := by
  have hdigits := h.digits
  have hdigits' := h'.digits
  rw [List.all_append, Bool.and_eq_true] at hdigits hdigits'
  obtain ⟨hgroups, hshown⟩ := numberText_inj (groupedDigits_plain grouping hdigits.1)
    (groupedDigits_plain grouping hdigits'.1) heq
  have hinteger : integer = integer' := by
    rw [← filter_groupedDigits grouping hdigits.1, hgroups, filter_groupedDigits grouping hdigits'.1]
  rw [← hinteger] at h'
  exact ⟨hinteger, numeral_unique h h', hshown⟩

/-! ### Places of a count -/

theorem dropped_mod {places : List Token} {count n : Nat} (h : places.length ≤ n) :
    dropped places (count % 10 ^ n) ↔ dropped places count := by
  unfold dropped
  rw [Nat.dvd_mod_iff (Nat.pow_dvd_pow 10 h)]

theorem laterBlank_mod {places : List Token} {count : Nat} :
    laterBlank places (count % 10 ^ places.length) ↔ laterBlank places count := by
  have hdvd {front rest : List Token} {token : Token} (hsplit : places = front ++ token :: rest) :
      10 ^ (rest.length + 1) ∣ count % 10 ^ places.length ↔ 10 ^ (rest.length + 1) ∣ count := by
    apply Nat.dvd_mod_iff (Nat.pow_dvd_pow 10 _)
    rw [hsplit, List.length_append, List.length_cons]
    omega
  constructor
  · rintro ⟨front, token, rest, hsplit, hzero, hquestion, hcount⟩
    exact ⟨front, token, rest, hsplit, hzero, hquestion, (hdvd hsplit).mp hcount⟩
  · rintro ⟨front, token, rest, hsplit, hzero, hquestion, hcount⟩
    exact ⟨front, token, rest, hsplit, hzero, hquestion, (hdvd hsplit).mpr hcount⟩

theorem tailShown_iff {count : Nat} {before after : List Token} {c : Char}
    (htokens : tokens = before ++ .literal c :: after)
    (hlength : decimal.length = (decimalTokens tokens).length)
    (hdigits : decimal.all Char.isDigit = true)
    (hvalue : digitsNat decimal = count % 10 ^ (decimalTokens tokens).length)
    (hinteger : integer ≠ [] ↔ integerShown tokens count) (grouping : Bool) :
    tailShown (groupedDigits grouping integer) (shownDecimals (decimalTokens tokens) decimal) before
        after ↔ digitsAfter tokens count before after := by
  have hplaces : ∀ token ∈ decimalTokens tokens, token.isDigit = true := fun token hmem =>
    (List.mem_filter.mp hmem).2
  have hdropped (n : Nat) := @dropped_iff (decimalTokens tokens) decimal n hlength.symm hplaces hdigits
  unfold tailShown digitsAfter
  split
  · rename_i hpoint
    have hdrop : (decimalTokens tokens).drop (decimalTokens before).length =
        after.filter Token.isDigit := by
      rw [htokens, decimalTokens_append_point hpoint, List.drop_left]
      exact List.filter_cons_of_neg (by simp [Token.isDigit])
    have hle : (after.filter Token.isDigit).length ≤ (decimalTokens tokens).length := by
      rw [← hdrop, List.length_drop]
      omega
    rw [ne_eq, hdropped, hdrop, hvalue, dropped_mod hle]
  · rename_i hpoint
    have hsame : decimalTokens tokens = decimalTokens after := by
      rw [htokens, decimalTokens_append hpoint, decimalTokens_cons (by intro h; cases h)]
    have hall := hdropped 0
    rw [List.drop_zero, List.drop_zero, hvalue, dropped_mod (Nat.le_refl _)] at hall
    rw [ne_eq, ne_eq (shownDecimals _ _).flatten, hall, hsame, groupedDigits_eq_nil, ← hinteger]

/-! ### Without percent signs -/

theorem filter_while {α : Type} {p q : α → Bool} (h : ∀ a, p a = false → q a = true) (l : List α) :
    (l.filter p).takeWhile q = (l.takeWhile q).filter p ∧
      (l.filter p).dropWhile q = (l.dropWhile q).filter p := by
  induction l with
  | nil => exact ⟨rfl, rfl⟩
  | cons a rest ih =>
    by_cases hp : p a = true
    · rw [List.filter_cons_of_pos hp]
      by_cases hq : q a = true
      · rw [List.takeWhile_cons_of_pos hq, List.takeWhile_cons_of_pos hq,
          List.dropWhile_cons_of_pos hq, List.dropWhile_cons_of_pos hq, List.filter_cons_of_pos hp,
          ih.1]
        exact ⟨rfl, ih.2⟩
      · rw [List.takeWhile_cons_of_neg hq, List.takeWhile_cons_of_neg hq,
          List.dropWhile_cons_of_neg hq, List.dropWhile_cons_of_neg hq, List.filter_cons_of_pos hp]
        exact ⟨rfl, rfl⟩
    · have hq : q a = true := h a (Bool.eq_false_iff.mpr hp)
      rw [List.filter_cons_of_neg hp, List.takeWhile_cons_of_pos hq, List.dropWhile_cons_of_pos hq,
        List.filter_cons_of_neg hp]
      exact ih

/-- The tokens that put out something besides percent signs. -/
def written (tokens : List Token) : List Token := tokens.filter (· ≠ .percent)

theorem filter_digits_written (tokens : List Token) :
    (written tokens).filter Token.isDigit = tokens.filter Token.isDigit := by
  unfold written
  rw [List.filter_filter]
  apply List.filter_congr
  intro token _
  cases token <;> rfl

theorem integerTokens_written (tokens : List Token) :
    integerTokens (written tokens) = integerTokens tokens := by
  unfold integerTokens written
  rw [(filter_while (by
    intro token htoken
    have hpercent : token = .percent := by simpa using htoken
    rw [hpercent]
    rfl) tokens).1]
  exact filter_digits_written _

theorem decimalTokens_written (tokens : List Token) :
    decimalTokens (written tokens) = decimalTokens tokens := by
  unfold decimalTokens written
  rw [(filter_while (by
    intro token htoken
    have hpercent : token = .percent := by simpa using htoken
    rw [hpercent]
    rfl) tokens).2]
  exact filter_digits_written _

theorem point_mem_written : .point ∈ written tokens ↔ .point ∈ tokens := by
  unfold written
  simp

theorem textMarks_written (tokens : List Token) :
    textMarks (written tokens) = (textMarks tokens).filter fun mark => !mark.isScale := by
  induction tokens with
  | nil => rfl
  | cons token rest ih =>
    unfold written at ih ⊢
    cases token with
    | literal c =>
      rw [List.filter_cons_of_pos (by simp), textMarks_cons_some rfl, textMarks_cons_some rfl, ih]
      rfl
    | percent =>
      rw [List.filter_cons_of_neg (by simp), textMarks_cons_some rfl, ih]
      rfl
    | _ => rw [List.filter_cons_of_pos (by simp), textMarks_cons_none rfl, textMarks_cons_none rfl, ih]

theorem countP_textMarks (tokens : List Token) :
    (textMarks tokens).countP Mark.isScale = tokens.count .percent := by
  induction tokens with
  | nil => rfl
  | cons token rest ih =>
    cases token with
    | literal c =>
      rw [textMarks_cons_some rfl, List.count_cons_of_ne (by simp), ← ih]
      rfl
    | percent =>
      rw [textMarks_cons_some rfl, List.count_cons_self, ← ih, List.countP_cons_of_pos rfl]
    | _ => rw [textMarks_cons_none rfl, List.count_cons_of_ne (by simp), ih]

theorem tailShown_written (groups decimals : List (List Char)) (before after : List Token) :
    tailShown groups decimals (written before) (written after) ↔
      tailShown groups decimals before after := by
  unfold tailShown
  rw [integerTokens_written, decimalTokens_written]
  simp only [point_mem_written]

/-- The texts among the placeholders are the literals. -/
theorem written_literals (groups decimals : List (List Char)) :
    (∀ before token after, written tokens = before ++ token :: after → token.mark ≠ none →
        (∃ first ∈ before, first.isDigit = true ∨ first = .point) →
        ¬ tailShown groups decimals before after) ↔
      ∀ before c after, tokens = before ++ .literal c :: after →
        (∃ first ∈ before, first.isDigit = true ∨ first = .point) →
        ¬ tailShown groups decimals before after := by
  have hplace {before : List Token} :
      (∃ first ∈ written before, first.isDigit = true ∨ first = .point) ↔
        ∃ first ∈ before, first.isDigit = true ∨ first = .point := by
    unfold written
    constructor
    · rintro ⟨first, hmem, hfirst⟩
      exact ⟨first, (List.mem_filter.mp hmem).1, hfirst⟩
    · rintro ⟨first, hmem, hfirst⟩
      refine ⟨first, List.mem_filter.mpr ⟨hmem, ?_⟩, hfirst⟩
      cases first <;> simp_all [Token.isDigit]
  constructor
  · intro hall before c after htokens hfirst
    rw [← tailShown_written]
    apply hall _ (.literal c) _ _ (by simp [Token.mark]) (hplace.mpr hfirst)
    unfold written
    rw [htokens, List.filter_append, List.filter_cons_of_pos (by simp)]
  · intro hall before token after hwritten hmark hfirst
    unfold written at hwritten
    obtain ⟨front, rest, htokens, hfront, hrest⟩ := List.filter_eq_append_iff.mp hwritten
    obtain ⟨skipped, tail, hsplit, hskipped, htoken, htail⟩ := List.filter_eq_cons_iff.mp hrest
    obtain ⟨c, rfl⟩ : ∃ c, token = .literal c := by
      cases token <;> simp_all [Token.mark]
    have hbefore : before = written (front ++ skipped) := by
      unfold written
      rw [List.filter_append, hfront, List.filter_eq_nil_iff.mpr hskipped, List.append_nil]
    rw [hbefore] at hfirst
    rw [hbefore, show after = written tail from htail.symm, tailShown_written]
    exact hall _ c tail (by rw [htokens, hsplit, List.append_assoc]) (hplace.mp hfirst)

/-! ### Sections as one block -/

theorem chosenSection_forced {value : ℚ} {code : String}
    (h : chosenSection value code = some (sectionText, true)) : value ≠ 0 := by
  unfold chosenSection at h
  obtain ⟨sections, _, h⟩ := Option.bind_eq_some_iff.mp h
  split at h
  · contradiction
  · have hforced := congrArg Prod.snd (Option.some.inj h)
    exact ne_of_lt (of_decide_eq_true hforced)
  · cases congrArg Prod.snd (Option.some.inj h)
  · cases congrArg Prod.snd (Option.some.inj h)

/-- A section put out as one block, with the digits it is made of. -/
structure Blocked (tokens : List Token) (magnitude : ℚ) (signed : Bool) (formatted : Formatted)
    (integer decimal : List Char) : Prop where
  numeral : Numeral tokens magnitude integer decimal
  count : digitsNat decimal =
    shownCount tokens magnitude % 10 ^ (decimalTokens tokens).length
  shown : integer ≠ [] ↔ integerShown tokens (shownCount tokens magnitude)
  first : ∀ first ∈ (tokens.dropWhile fun token => !token.isNumeric).head?,
    first.isDigit = true ∨ first = .point
  marks : formatted.marks = (if signed then [.sign] else []) ++
    (textMarks (tokens.takeWhile fun token => !token.isNumeric) ++
      ((numberText (groupedDigits (tokens.contains .comma) integer).flatten
          (dropTrailing (decimalTokens tokens).zipIdx.reverse decimal)).map .number ++
        textMarks (tokens.dropWhile fun token => !token.isNumeric)))

theorem formatNumber_blocked {tools : NumberTools} {value : ℚ} {code : String} {forced : Bool}
    {formatted : Formatted} (hsection : chosenSection value code = some (sectionText, forced))
    (htokens : sectionTokens sectionText = some tokens)
    (hdigit : tokens.any Token.isDigit = true)
    (hexponent : ∀ explicitPlus, .exponent explicitPlus ∉ tokens)
    (hformat : formatNumber tools value code = some formatted) :
    ∃ rest integer decimal,
      tokens = (sectionText.takeWhile Legacy.isWhitespace).map Token.literal ++ rest ∧
        rest.any Token.isDigit = true ∧ Blocked rest |value| forced formatted integer decimal := by
  unfold sectionTokens at htokens
  obtain ⟨⟨color, body⟩, htake, htokens⟩ := Option.bind_eq_some_iff.mp htokens
  obtain ⟨rest, hrest, htokens⟩ := Option.bind_eq_some_iff.mp htokens
  have hsplit := (Option.some.inj htokens).symm
  have hrestDigit : rest.any Token.isDigit = true := by
    rw [hsplit, List.any_append, Bool.or_eq_true] at hdigit
    cases hdigit with
    | inl hblank =>
      rw [List.any_map, List.any_eq_true] at hblank
      obtain ⟨c, _, hc⟩ := hblank
      contradiction
    | inr hdigit => exact hdigit
  have hrestNone (explicitPlus : Bool) : .exponent explicitPlus ∉ rest := fun hmem =>
    hexponent explicitPlus (by rw [hsplit]; exact List.mem_append_right _ hmem)
  unfold formatNumber at hformat
  split at hformat
  · contradiction
  · rw [hsection] at hformat
    obtain ⟨⟨_, hfirst⟩, shown, after, hfixed, hmarks⟩ :=
      renderSection_block hformat htake hrest hrestDigit hrestNone
    obtain ⟨integer, decimal, hnumeral, rfl, rfl, hcount, hshown⟩ :=
      renderFixed_numeral (abs_nonneg value) hfixed hrestDigit
    refine ⟨rest, integer, decimal, hsplit, hrestDigit, hnumeral, hcount, hshown, hfirst, ?_⟩
    have hsigned (shown : Bool) :
        (forced && (decide (|value| * 100 ^ rest.count .percent ≠ 0) || shown)) = forced := by
      cases hforced : forced with
      | false => rfl
      | true =>
        rw [hforced] at hsection
        have hscaled : |value| * 100 ^ rest.count .percent ≠ 0 :=
          mul_ne_zero (abs_ne_zero.mpr (chosenSection_forced hsection)) (by positivity)
        rw [decide_eq_true hscaled]
        rfl
    rw [hmarks, hsigned]
    rfl

variable {signed : Bool} {formatted : Formatted}

theorem not_numeric_percent (token : Token) (htoken : decide (token ≠ .percent) = false) :
    (!token.isNumeric) = true := by
  have heq : token = .percent := by simpa using htoken
  rw [heq]
  rfl

theorem filter_block (h : Blocked tokens magnitude signed formatted integer decimal) :
    (formatted.marks.filter fun mark => !mark.isScale) = (if signed then [.sign] else []) ++
      (textMarks ((written tokens).takeWhile fun token => !token.isNumeric) ++
        ((numberText (groupedDigits (tokens.contains .comma) integer).flatten
            (dropTrailing (decimalTokens tokens).zipIdx.reverse decimal)).map .number ++
          textMarks ((written tokens).dropWhile fun token => !token.isNumeric))) := by
  have hwhile := filter_while not_numeric_percent tokens
  have hnumber (text : List Char) :
      ((text.map Mark.number).filter fun mark => !mark.isScale) = text.map .number := by
    rw [List.filter_eq_self]
    intro mark hmem
    obtain ⟨c, _, rfl⟩ := List.mem_map.mp hmem
    rfl
  rw [h.marks, List.filter_append, List.filter_append, List.filter_append, hnumber,
    ← textMarks_written, ← textMarks_written]
  unfold written
  rw [hwhile.1, hwhile.2]
  cases signed <;> rfl

theorem countP_block (h : Blocked tokens magnitude signed formatted integer decimal) :
    formatted.marks.countP Mark.isScale = tokens.count .percent := by
  have hnumber (text : List Char) : (text.map Mark.number).countP Mark.isScale = 0 := by
    rw [List.countP_eq_zero]
    intro mark hmem
    obtain ⟨c, _, rfl⟩ := List.mem_map.mp hmem
    exact Bool.false_ne_true
  have hsign : (if signed then [Mark.sign] else []).countP Mark.isScale = 0 := by
    cases signed <;> rfl
  rw [h.marks, List.countP_append, List.countP_append, List.countP_append, hnumber, hsign,
    countP_textMarks, countP_textMarks, Nat.zero_add, Nat.zero_add, ← List.count_append,
    List.takeWhile_append_dropWhile]

/-- A block says what its tokens ask for when only the first place with a zero at the end is one for
a blank and no digit belongs after a literal. -/
theorem blocked_faithful_iff (h : Blocked tokens magnitude signed formatted integer decimal)
    (hdigit : tokens.any Token.isDigit = true) :
    Faithful tokens magnitude signed formatted ↔
      ¬ laterBlank (decimalTokens tokens) (shownCount tokens magnitude) ∧
        ∀ before c after, tokens = before ++ .literal c :: after →
          (∃ first ∈ before, first.isDigit = true ∨ first = .point) →
          ¬ digitsAfter tokens (shownCount tokens magnitude) before after := by
  have hdigits := h.numeral.digits
  rw [List.all_append, Bool.and_eq_true] at hdigits
  have hplaces : ∀ token ∈ decimalTokens tokens, token.isDigit = true := fun token hmem =>
    (List.mem_filter.mp hmem).2
  have hdropped := dropTrailing_eq_iff h.numeral.places.symm hplaces hdigits.2
  have hlater := laterBlank_iff h.numeral.places.symm hdigits.2
  rw [h.count, laterBlank_mod] at hlater
  have hblank : dropTrailing (decimalTokens tokens).zipIdx.reverse decimal =
        (shownDecimals (decimalTokens tokens) decimal).flatten ↔
      ¬ laterBlank (decimalTokens tokens) (shownCount tokens magnitude) := by
    rw [hdropped, ← hlater]
    simp only [ne_eq, not_exists, not_and]
  have hany (groups : List (List Char)) : integerTokens (written tokens) ≠ [] ∨
      .point ∈ written tokens ∨ groups = [] := by
    rw [integerTokens_written, point_mem_written]
    by_cases hpoint : .point ∈ tokens
    · exact .inr (.inl hpoint)
    · left
      intro hnone
      obtain ⟨token, hmem, htoken⟩ := List.any_eq_true.mp hdigit
      have hall : tokens.takeWhile (fun token => decide (token ≠ .point)) = tokens := by
        rw [List.takeWhile_eq_self_iff]
        intro other hother
        exact decide_eq_true fun heq => hpoint (heq ▸ hother)
      unfold integerTokens at hnone
      rw [hall, List.filter_eq_nil_iff] at hnone
      exact hnone token hmem htoken
  have hlength {decimal : List Char} (hplaces : decimal.length = (decimalTokens tokens).length) :
      (shownDecimals (decimalTokens tokens) decimal).length =
        (decimalTokens (written tokens)).length := by
    rw [decimalTokens_written, length_shownDecimals hplaces.symm]
  have hfirst : ∀ first ∈ ((written tokens).dropWhile fun token => !token.isNumeric).head?,
      first.isDigit = true ∨ first = .point := by
    unfold written
    rw [(filter_while not_numeric_percent tokens).2]
    have hhead := h.first
    cases hrest : tokens.dropWhile fun token => !token.isNumeric with
    | nil => exact nofun
    | cons first rest =>
      rw [hrest, List.head?_cons] at hhead
      rw [List.filter_cons_of_pos]
      · exact hhead
      · apply decide_eq_true
        rintro rfl
        rcases hhead .percent rfl with hpercent | hpercent <;> contradiction
  have hblock := block_placed_iff (groupedDigits_ne_nil (tokens.contains .comma) integer)
    (hlength h.numeral.places) (hany _) hfirst
  rw [written_literals] at hblock
  have hliterals : (∀ before c after, tokens = before ++ .literal c :: after →
        (∃ first ∈ before, first.isDigit = true ∨ first = .point) →
        ¬ tailShown (groupedDigits (tokens.contains .comma) integer)
          (shownDecimals (decimalTokens tokens) decimal) before after) ↔
      ∀ before c after, tokens = before ++ .literal c :: after →
        (∃ first ∈ before, first.isDigit = true ∨ first = .point) →
        ¬ digitsAfter tokens (shownCount tokens magnitude) before after := by
    apply forall_congr'
    intro before
    apply forall_congr'
    intro c
    apply forall_congr'
    intro after
    apply imp_congr_right
    intro htokens
    rw [tailShown_iff htokens h.numeral.places hdigits.2 h.count h.shown]
  rw [hliterals] at hblock
  unfold Faithful
  rw [and_iff_right (countP_block h), filter_block h]
  constructor
  · rintro ⟨integer', decimal', hnumeral', hmarks⟩
    have hplaced := List.append_cancel_left hmarks
    have hnumbers := congrArg numbers hplaced
    rw [numbers_append, numbers_append, numbers_map_number, numbers_textMarks, numbers_textMarks,
      List.nil_append, List.append_nil, show tokens.filter (· ≠ .percent) = written tokens from rfl,
      numbers_placed (hany _) (hlength hnumeral'.places)] at hnumbers
    obtain ⟨rfl, rfl, hshown⟩ := shown_unique h.numeral hnumeral' _ hnumbers
    rw [hshown] at hplaced
    exact ⟨hblank.mp hshown, hblock.mp hplaced⟩
  · rintro ⟨hlater, hafter⟩
    refine ⟨integer, decimal, h.numeral, ?_⟩
    rw [hblank.mpr hlater]
    exact congrArg _ (hblock.mpr hafter)

theorem blanks_unfaithful {blanks : List Char}
    (h : Blocked tokens magnitude signed formatted integer decimal) (hblanks : blanks ≠ []) :
    ¬ Faithful (blanks.map Token.literal ++ tokens) magnitude signed formatted := by
  rintro ⟨_, integer', decimal', _, hmarks⟩
  rw [filter_block h] at hmarks
  have htexts := congrArg texts (List.append_cancel_left hmarks)
  rw [texts_append, texts_append, texts_map_number, texts_textMarks, texts_textMarks,
    List.nil_append, texts_placed, List.filter_append] at htexts
  have hsplit : textMarks ((written tokens).takeWhile fun token => !token.isNumeric) ++
      textMarks ((written tokens).dropWhile fun token => !token.isNumeric) =
        textMarks (written tokens) := by
    unfold textMarks
    rw [← List.filterMap_append, List.takeWhile_append_dropWhile]
  have hfirst : textMarks ((blanks.map Token.literal).filter (· ≠ .percent)) =
      blanks.map Mark.literal := by
    rw [List.filter_eq_self.mpr]
    · unfold textMarks
      rw [List.filterMap_map]
      exact congrFun List.filterMap_eq_map blanks
    · intro token hmem
      obtain ⟨c, _, rfl⟩ := List.mem_map.mp hmem
      exact decide_eq_true nofun
  rw [hsplit, show textMarks ((blanks.map Token.literal).filter (· ≠ .percent) ++
      tokens.filter (· ≠ .percent)) = textMarks ((blanks.map Token.literal).filter (· ≠ .percent)) ++
        textMarks (written tokens) from List.filterMap_append, hfirst] at htexts
  have hnone := List.append_left_eq_self.mp htexts.symm
  exact hblanks (List.map_eq_nil_iff.mp hnone)

variable {tools : NumberTools} {value : ℚ} {code : String} {forced : Bool}

theorem faithful_iff_of_blocked {blanks rest : List _} (hsplit : tokens = blanks.map Token.literal ++ rest)
    (hblanks : sectionText.takeWhile Legacy.isWhitespace = blanks)
    (hdigit : rest.any Token.isDigit = true)
    (h : Blocked rest magnitude signed formatted integer decimal) :
    Faithful tokens magnitude signed formatted ↔
      Undivided sectionText tokens (shownCount tokens magnitude) := by
  by_cases hnone : blanks = []
  · rw [hnone, List.map_nil, List.nil_append] at hsplit
    rw [hsplit, blocked_faithful_iff h hdigit]
    constructor
    · rintro ⟨hplaces, hliterals⟩
      exact ⟨hblanks.trans hnone, hplaces, hliterals⟩
    · intro hundivided
      exact ⟨hundivided.places, hundivided.literals⟩
  · rw [hsplit]
    apply iff_of_false (blanks_unfaithful h hnone)
    intro hundivided
    exact hnone (hblanks.symm.trans hundivided.blanks)

/-- The text of a number says what its code asks for exactly when no blank stands before the
section, no digit belongs after a literal that stands among the placeholders, and of the places with
zeros at the end none but the first is one for a blank. -/
theorem number_faithful_iff (hsection : chosenSection value code = some (sectionText, forced))
    (htokens : sectionTokens sectionText = some tokens) (hdigit : tokens.any Token.isDigit = true)
    (hexponent : ∀ explicitPlus, .exponent explicitPlus ∉ tokens)
    (hformat : formatNumber tools value code = some formatted) :
    Faithful tokens |value| forced formatted ↔
      Undivided sectionText tokens (shownCount tokens |value|) := by
  obtain ⟨rest, integer, decimal, hsplit, hrest, hblocked⟩ :=
    formatNumber_blocked hsection htokens hdigit hexponent hformat
  exact faithful_iff_of_blocked hsplit rfl hrest hblocked

/-- Neither is reached by the samples. -/
def sampleTools : NumberTools := ⟨fun _ => ['0'], fun _ _ _ => none⟩

def sampleTokens : List Token := [.zero, .point, .zero, .percent]

def sampleMarks : List Mark :=
  [.number '5', .number '7', .number '.', .number '3', .scale '%']

theorem samplePercent_faithful : Faithful sampleTokens |(5727 / 10000 : ℚ)| false ⟨sampleMarks, none⟩ := by
  have hsection : chosenSection (5727 / 10000) "0.0%;[Red]-0.0%" =
      some (['0', '.', '0', '%'], false) := by decide +kernel
  have hformat : formatNumber sampleTools (5727 / 10000) "0.0%;[Red]-0.0%" =
      some ⟨sampleMarks, none⟩ := by decide +kernel
  have hexponent (explicitPlus : Bool) : .exponent explicitPlus ∉ sampleTokens := by
    cases explicitPlus <;> decide
  apply (number_faithful_iff hsection (by decide +kernel) (by decide) hexponent hformat).mpr
  refine ⟨by decide +kernel, ?_, ?_⟩
  · rintro ⟨front, token, rest, hplaces, _, hquestion, _⟩
    have hmem : Token.question ∈ decimalTokens sampleTokens := by
      rw [hplaces]
      exact List.mem_append_right _ (List.mem_cons_of_mem _ hquestion)
    revert hmem
    decide
  · intro before c after htokens _
    have hmem : Token.literal c ∈ sampleTokens := by
      rw [htokens]
      exact List.mem_append_right _ List.mem_cons_self
    simp [sampleTokens] at hmem

/-- A telephone number has its hyphen put after all of its digits. -/
theorem hyphen_displaced : ¬ ∀ (tools : NumberTools) (value : ℚ) (code : String)
    (sectionText : List Char) (forced : Bool) (tokens : List Token) (formatted : Formatted),
    chosenSection value code = some (sectionText, forced) → sectionTokens sectionText = some tokens →
    tokens.any Token.isDigit = true → (∀ explicitPlus, .exponent explicitPlus ∉ tokens) →
    formatNumber tools value code = some formatted → Faithful tokens |value| forced formatted := by
  intro hall
  have hsection : chosenSection 5551234 "000-0000" =
      some (['0', '0', '0', '-', '0', '0', '0', '0'], false) := by decide +kernel
  have htokens : sectionTokens ['0', '0', '0', '-', '0', '0', '0', '0'] =
      some [.zero, .zero, .zero, .literal '-', .zero, .zero, .zero, .zero] := by decide +kernel
  have hformat : formatNumber sampleTools 5551234 "000-0000" =
      some ⟨['5', '5', '5', '1', '2', '3', '4'].map .number ++ [.literal '-'], none⟩ := by
    decide +kernel
  have hexponent (explicitPlus : Bool) : Token.exponent explicitPlus ∉
      [.zero, .zero, .zero, .literal '-', .zero, .zero, .zero, .zero] := by
    cases explicitPlus <;> decide
  have hdigit : [Token.zero, .zero, .zero, .literal '-', .zero, .zero, .zero, .zero].any
      Token.isDigit = true := by decide
  obtain ⟨rest, integer, decimal, hsplit, hrest, hblocked⟩ :=
    formatNumber_blocked hsection htokens hdigit hexponent hformat
  have hundivided := (faithful_iff_of_blocked hsplit rfl hrest hblocked).mp
    (hall _ _ _ _ _ _ _ hsection htokens hdigit hexponent hformat)
  apply hundivided.literals [.zero, .zero, .zero] '-' [.zero, .zero, .zero, .zero] rfl
    ⟨.zero, by decide, .inl rfl⟩
  unfold digitsAfter integerShown
  rw [if_neg (by decide)]
  exact .inl ⟨.inl (by decide), by decide⟩

end Sections

end AgentSpreadsheet.Render
