import AgentSpreadsheet.Library.Decimals
import AgentSpreadsheet.Render.Placement

/-! The digits a fixed format puts out. Zeros after the point are read from the last placeholder on,
so that a blank is only left where no other placeholder is dropped or blanked before it. -/
namespace AgentSpreadsheet.Render
open Library

/-! ### Groups -/

theorem groupFrom_eq (count index : Nat) (digits : List Char) :
    groupFrom count index digits =
      ((digits.zipIdx index).map fun (c, index) =>
        if 0 < index ∧ (count - index) % 3 = 0 then [',', c] else [c]).flatten := by
  induction digits generalizing index with
  | nil => rfl
  | cons c rest ih =>
    unfold groupFrom
    rw [List.zipIdx_cons, List.map_cons, List.flatten_cons, ih (index + 1)]
    dsimp only
    split <;> rfl

theorem flatten_groupedDigits (grouping : Bool) (integer : List Char) :
    (groupedDigits grouping integer).flatten =
      if grouping = true then groupThousands integer else integer := by
  unfold groupedDigits
  cases grouping with
  | true =>
    unfold groupThousands
    simp only [true_and, if_true]
    exact (groupFrom_eq _ _ _).symm
  | false =>
    simp only [Bool.false_eq_true, false_and, if_false]
    have hsingle : (integer.zipIdx.map fun place => [place.1]) =
        (integer.zipIdx.map Prod.fst).map List.singleton := by
      rw [List.map_map]
      rfl
    rw [hsingle, List.zipIdx_map_fst]
    exact List.flatMap_singleton' integer

theorem groupedDigits_ne_nil (grouping : Bool) (integer : List Char) :
    ∀ group ∈ groupedDigits grouping integer, group ≠ [] := by
  intro group hgroup
  obtain ⟨place, _, rfl⟩ := List.mem_map.mp hgroup
  dsimp only
  split <;> exact List.cons_ne_nil _ _

theorem groupedDigits_eq_nil {grouping : Bool} {integer : List Char} :
    groupedDigits grouping integer = [] ↔ integer = [] := by
  unfold groupedDigits
  rw [List.map_eq_nil_iff, List.zipIdx_eq_nil_iff]

theorem filter_groupedDigits (grouping : Bool) {integer : List Char}
    (h : integer.all Char.isDigit = true) :
    (groupedDigits grouping integer).flatten.filter Char.isDigit = integer := by
  unfold groupedDigits
  have hpiece : ∀ (index : Nat) (digits : List Char), digits.all Char.isDigit = true →
      (((digits.zipIdx index).map fun (c, index) =>
        if grouping = true ∧ 0 < index ∧ (integer.length - index) % 3 = 0 then [',', c]
        else [c]).flatten).filter Char.isDigit = digits := by
    intro index digits hdigits
    induction digits generalizing index with
    | nil => rfl
    | cons c rest ih =>
      rw [List.all_cons, Bool.and_eq_true] at hdigits
      rw [List.zipIdx_cons, List.map_cons, List.flatten_cons, List.filter_append,
        ih (index + 1) hdigits.2]
      dsimp only
      split
      · rw [List.filter_cons_of_neg (by decide), List.filter_cons_of_pos hdigits.1]
        rfl
      · rw [List.filter_cons_of_pos hdigits.1]
        rfl
  exact hpiece 0 integer h

/-! ### Zeros at the end -/

section Trailing
variable {tokens : List Token} {decimal : List Char} {token : Token} {c : Char}

theorem shownDecimals_concat (h : tokens.length = decimal.length) (token : Token) (c : Char) :
    shownDecimals (tokens ++ [token]) (decimal ++ [c]) =
      if trails (token, c) = true then
        shownDecimals tokens decimal ++ [if token = .question then [' '] else []]
      else (decimal ++ [c]).map List.singleton := by
  unfold shownDecimals trailingPlaces
  rw [List.zip_append h, List.zip_cons_cons, List.zip_nil_right]
  split
  · rename_i htrails
    rw [List.rdropWhile_concat_pos _ _ _ htrails, List.rtakeWhile_concat_pos _ _ _ htrails,
      List.map_append, List.append_assoc]
    rfl
  · rename_i hshown
    rw [List.rdropWhile_concat_neg _ _ _ hshown, List.rtakeWhile_concat_neg _ _ _ hshown,
      List.map_nil, List.append_nil, List.map_append, List.map_append]
    have hzip : ((tokens.zip decimal).map fun place => [place.2]) =
        ((tokens.zip decimal).map Prod.snd).map List.singleton := by
      rw [List.map_map]
      rfl
    rw [hzip, List.map_snd_zip (by omega)]
    rfl

theorem trailingPlaces_concat (h : tokens.length = decimal.length) (token : Token) (c : Char) :
    trailingPlaces (tokens ++ [token]) (decimal ++ [c]) =
      if trails (token, c) = true then trailingPlaces tokens decimal ++ [(token, c)] else [] := by
  unfold trailingPlaces
  rw [List.zip_append h, List.zip_cons_cons, List.zip_nil_right, List.rtakeWhile_concat]

theorem length_shownDecimals (h : tokens.length = decimal.length) :
    (shownDecimals tokens decimal).length = tokens.length := by
  unfold shownDecimals trailingPlaces
  rw [List.length_append, List.length_map, List.length_map, ← List.length_append,
    List.rdropWhile_append_rtakeWhile, List.length_zip, ← h, Nat.min_self]

theorem dropTrailing_concat (h : tokens.length = decimal.length) (token : Token) (c : Char) :
    dropTrailing (tokens ++ [token]).zipIdx.reverse (decimal ++ [c]) =
      if token = .hash ∧ c = '0' then dropTrailing tokens.zipIdx.reverse decimal
      else if token = .question ∧ c = '0' then
        dropTrailing tokens.zipIdx.reverse (decimal ++ [' '])
      else decimal ++ [c] := by
  have hget : (decimal ++ [c])[decimal.length]? = some c := by simp
  have hset : (decimal ++ [c]).set decimal.length ' ' = decimal ++ [' '] := by simp
  rw [List.zipIdx_append, List.reverse_append]
  simp only [List.zipIdx_singleton, List.reverse_singleton, List.singleton_append, dropTrailing,
    Nat.zero_add, hget, hset, Option.some.injEq, List.length_append, List.length_singleton, h,
    if_true, List.take_left]

theorem dropTrailing_blank (h : tokens.length = decimal.length) (token : Token) (c : Char) :
    dropTrailing (tokens ++ [token]).zipIdx.reverse (decimal ++ [c] ++ [' ']) =
      if token = .hash ∧ c = '0' then dropTrailing tokens.zipIdx.reverse decimal
      else decimal ++ [c] ++ [' '] := by
  have hget : (decimal ++ [c] ++ [' '])[decimal.length]? = some c := by simp
  have htake : (decimal ++ [c] ++ [' ']).take decimal.length = decimal := by simp
  rw [List.zipIdx_append, List.reverse_append]
  simp only [List.zipIdx_singleton, List.reverse_singleton, List.singleton_append, dropTrailing,
    Nat.zero_add, hget, htake, Option.some.injEq, List.length_append, List.length_singleton, h]
  have hmore : ¬ decimal.length + 1 = decimal.length + 1 + 1 := by omega
  rw [if_neg hmore, ite_self]

theorem trails_iff {token : Token} {c : Char} (hdigit : token.isDigit = true) :
    trails (token, c) = true ↔ (token = .hash ∨ token = .question) ∧ c = '0' := by
  unfold trails
  cases token <;> simp_all [Token.isDigit]

theorem concat_of_length {α β : Type} {as : List α} {bs : List β} {a : α}
    (h : (as ++ [a]).length = bs.length) :
    ∃ front b, bs = front ++ [b] ∧ as.length = front.length := by
  cases bs using List.reverseRecOn with
  | nil => simp at h
  | append_singleton front b => exact ⟨front, b, rfl, by simpa using h⟩

theorem dropTrailing_last (h : tokens.length = decimal.length)
    (hdigits : ∀ token ∈ tokens, token.isDigit = true) (hnone : trailingPlaces tokens decimal = []) :
    dropTrailing tokens.zipIdx.reverse (decimal ++ [' ']) = decimal ++ [' '] ∧
      shownDecimals tokens decimal = decimal.map List.singleton := by
  cases tokens using List.reverseRecOn with
  | nil =>
    rw [List.eq_nil_of_length_eq_zero h.symm]
    exact ⟨rfl, rfl⟩
  | append_singleton tokens token =>
    obtain ⟨decimal, c, rfl, hlength⟩ := concat_of_length h
    rw [trailingPlaces_concat hlength] at hnone
    have hshown : ¬ trails (token, c) = true := by
      intro htrails
      rw [if_pos htrails] at hnone
      simp at hnone
    rw [dropTrailing_blank hlength, shownDecimals_concat hlength, if_neg hshown, if_neg]
    · exact ⟨rfl, rfl⟩
    · intro hhash
      exact hshown ((trails_iff (hdigits token (by simp))).mpr ⟨.inl hhash.1, hhash.2⟩)

def blanks (text : List Char) : Nat := text.count ' '

def questions (places : List (Token × Char)) : Nat := places.countP fun place => place.1 == .question

theorem blanks_concat (text : List Char) (c : Char) :
    blanks (text ++ [c]) = blanks text + if c = ' ' then 1 else 0 := by
  unfold blanks
  rw [List.count_append, List.count_singleton]
  simp

theorem questions_concat (places : List (Token × Char)) (place : Token × Char) :
    questions (places ++ [place]) = questions places + if place.1 = .question then 1 else 0 := by
  unfold questions
  rw [List.countP_append, List.countP_singleton]
  simp

theorem blanks_eq_zero (h : decimal.all Char.isDigit = true) : blanks decimal = 0 := by
  unfold blanks
  rw [List.count_eq_zero]
  intro hmem
  have hdigit := List.all_eq_true.mp h ' ' hmem
  contradiction

theorem blanks_shownDecimals (h : tokens.length = decimal.length)
    (hdecimal : decimal.all Char.isDigit = true) :
    blanks (shownDecimals tokens decimal).flatten = questions (trailingPlaces tokens decimal) := by
  induction tokens using List.reverseRecOn generalizing decimal with
  | nil =>
    rw [List.eq_nil_of_length_eq_zero h.symm]
    rfl
  | append_singleton tokens token ih =>
    obtain ⟨decimal, c, rfl, hlength⟩ := concat_of_length h
    have hfront : decimal.all Char.isDigit = true := by
      rw [List.all_append, Bool.and_eq_true] at hdecimal
      exact hdecimal.1
    rw [shownDecimals_concat hlength, trailingPlaces_concat hlength]
    split
    · rw [List.flatten_append, questions_concat, ← ih hlength hfront]
      split
      · rw [List.flatten_singleton, blanks_concat]
        rfl
      · rw [List.flatten_singleton, List.append_nil]
        rfl
    · rw [show ((decimal ++ [c]).map List.singleton).flatten = decimal ++ [c] from
        List.flatMap_singleton' _, blanks_eq_zero hdecimal]
      rfl

/-- A blank is not put out more often than there are placeholders for one, and not at all the last
one's if another place trails before it. -/
theorem blanks_dropTrailing (h : tokens.length = decimal.length)
    (hdigits : ∀ token ∈ tokens, token.isDigit = true)
    (hdecimal : decimal.all Char.isDigit = true) :
    blanks (dropTrailing tokens.zipIdx.reverse decimal) ≤
        questions (trailingPlaces tokens decimal) ∧
      (trailingPlaces tokens decimal ≠ [] →
        blanks (dropTrailing tokens.zipIdx.reverse (decimal ++ [' '])) ≤
          questions (trailingPlaces tokens decimal)) := by
  induction tokens using List.reverseRecOn generalizing decimal with
  | nil =>
    rw [List.eq_nil_of_length_eq_zero h.symm]
    exact ⟨Nat.le_refl _, fun hnone => absurd rfl hnone⟩
  | append_singleton tokens token ih =>
    obtain ⟨decimal, c, rfl, hlength⟩ := concat_of_length h
    have htoken : token.isDigit = true := hdigits token (by simp)
    have hfront : ∀ token ∈ tokens, token.isDigit = true := fun other hother =>
      hdigits other (List.mem_append_left _ hother)
    have hboth := hdecimal
    rw [List.all_append, Bool.and_eq_true] at hboth
    obtain ⟨hdrop, hblank⟩ := ih hlength hfront hboth.1
    rw [dropTrailing_concat hlength, dropTrailing_blank hlength, trailingPlaces_concat hlength]
    by_cases htrails : trails (token, c) = true
    · rw [if_pos htrails, questions_concat]
      obtain ⟨hkind, hzero⟩ := (trails_iff htoken).mp htrails
      cases hkind with
      | inl hhash =>
        have hdropped : token = .hash ∧ c = '0' := ⟨hhash, hzero⟩
        rw [if_pos hdropped, if_pos hdropped]
        exact ⟨by omega, fun _ => by omega⟩
      | inr hquestion =>
        have hother : ¬ (token = .hash ∧ c = '0') := by
          rw [hquestion]
          exact fun hhash => Token.noConfusion hhash.1
        rw [if_neg hother, if_pos ⟨hquestion, hzero⟩, if_neg hother, if_pos hquestion]
        constructor
        · by_cases hnone : trailingPlaces tokens decimal = []
          · rw [(dropTrailing_last hlength hfront hnone).1, blanks_concat, blanks_eq_zero hboth.1,
              if_pos rfl]
            omega
          · have := hblank hnone
            omega
        · intro _
          rw [blanks_concat, blanks_eq_zero hdecimal, if_pos rfl]
          omega
    · have hhash : ¬ (token = .hash ∧ c = '0') := fun hhash =>
        htrails ((trails_iff htoken).mpr ⟨.inl hhash.1, hhash.2⟩)
      have hquestion : ¬ (token = .question ∧ c = '0') := fun hquestion =>
        htrails ((trails_iff htoken).mpr ⟨.inr hquestion.1, hquestion.2⟩)
      rw [if_neg htrails, if_neg hhash, if_neg hquestion, blanks_eq_zero hdecimal]
      exact ⟨Nat.zero_le _, fun hnone => absurd rfl hnone⟩

/-- The zeros at the end are dropped and blanked as their placeholders ask for when no placeholder
for a blank comes after another of them. -/
theorem dropTrailing_eq_iff (h : tokens.length = decimal.length)
    (hdigits : ∀ token ∈ tokens, token.isDigit = true)
    (hdecimal : decimal.all Char.isDigit = true) :
    dropTrailing tokens.zipIdx.reverse decimal = (shownDecimals tokens decimal).flatten ↔
      ∀ place ∈ (trailingPlaces tokens decimal).tail, place.1 ≠ .question := by
  induction tokens using List.reverseRecOn generalizing decimal with
  | nil =>
    rw [List.eq_nil_of_length_eq_zero h.symm]
    exact iff_of_true rfl nofun
  | append_singleton tokens token ih =>
    obtain ⟨decimal, c, rfl, hlength⟩ := concat_of_length h
    have htoken : token.isDigit = true := hdigits token (by simp)
    have hfront : ∀ token ∈ tokens, token.isDigit = true := fun other hother =>
      hdigits other (List.mem_append_left _ hother)
    have hboth := hdecimal
    rw [List.all_append, Bool.and_eq_true] at hboth
    rw [dropTrailing_concat hlength, shownDecimals_concat hlength, trailingPlaces_concat hlength]
    by_cases htrails : trails (token, c) = true
    · rw [if_pos htrails, if_pos htrails, List.flatten_append, List.flatten_singleton]
      obtain ⟨hkind, hzero⟩ := (trails_iff htoken).mp htrails
      cases hkind with
      | inl hhash =>
        rw [if_pos ⟨hhash, hzero⟩, if_neg (by rw [hhash]; exact nofun), List.append_nil,
          ih hlength hfront hboth.1]
        by_cases hnone : trailingPlaces tokens decimal = []
        · rw [hnone]
          simp
        · rw [List.tail_append_of_ne_nil hnone, List.forall_mem_append]
          simp [hhash]
      | inr hquestion =>
        have hother : ¬ (token = .hash ∧ c = '0') := by
          rw [hquestion]
          exact fun hhash => Token.noConfusion hhash.1
        rw [if_neg hother, if_pos ⟨hquestion, hzero⟩, if_pos hquestion]
        by_cases hnone : trailingPlaces tokens decimal = []
        · have hlast := dropTrailing_last hlength hfront hnone
          rw [hlast.1, hlast.2, hnone]
          exact iff_of_true (by rw [show (decimal.map List.singleton).flatten = decimal from
            List.flatMap_singleton' _]) nofun
        · -- The blank of the last place is one too many for what is left.
          apply iff_of_false
          · intro hsame
            have hcount := congrArg blanks hsame
            have hfew := (blanks_dropTrailing hlength hfront hboth.1).2 hnone
            rw [blanks_concat, blanks_shownDecimals hlength hboth.1, if_pos rfl] at hcount
            omega
          · intro hall
            rw [List.tail_append_of_ne_nil hnone] at hall
            exact hall (token, c) (List.mem_append_right _ List.mem_cons_self) hquestion
    · have hhash : ¬ (token = .hash ∧ c = '0') := fun hhash =>
        htrails ((trails_iff htoken).mpr ⟨.inl hhash.1, hhash.2⟩)
      have hquestion : ¬ (token = .question ∧ c = '0') := fun hquestion =>
        htrails ((trails_iff htoken).mpr ⟨.inr hquestion.1, hquestion.2⟩)
      rw [if_neg htrails, if_neg htrails, if_neg hhash, if_neg hquestion]
      exact iff_of_true (List.flatMap_singleton' _).symm nofun

/-! ### Multiples of powers of ten -/

theorem digitsNat_concat (decimal : List Char) (c : Char) :
    digitsNat (decimal ++ [c]) = digitsNat decimal * 10 + (c.toNat - 48) := by
  rw [digitsNat_append, digitsNat_cons]
  simp [digitsNat]

theorem ten_dvd_concat (hc : c.isDigit = true) :
    10 ∣ digitsNat (decimal ++ [c]) ↔ c = '0' := by
  rw [digitsNat_concat, Nat.dvd_add_right (Nat.dvd_mul_left _ _)]
  have hval := digit_val hc
  constructor
  · intro hdvd
    apply Char.toNat_inj.mp
    have hzero : c.toNat - 48 = 0 := Nat.eq_zero_of_dvd_of_lt hdvd (by omega)
    have hfortyEight : '0'.toNat = 48 := rfl
    omega
  · intro hzero
    rw [hzero]
    exact Nat.dvd_zero _

theorem pow_dvd_concat (n : Nat) (hc : c.isDigit = true) :
    10 ^ (n + 1) ∣ digitsNat (decimal ++ [c]) ↔ c = '0' ∧ 10 ^ n ∣ digitsNat decimal := by
  constructor
  · intro hdvd
    have hzero : c = '0' :=
      (ten_dvd_concat hc).mp (Nat.dvd_trans (Dvd.intro_left _ (Nat.pow_succ ..).symm) hdvd)
    rw [digitsNat_concat, hzero, Nat.pow_succ] at hdvd
    exact ⟨hzero, Nat.dvd_of_mul_dvd_mul_right (by decide) hdvd⟩
  · rintro ⟨rfl, hdvd⟩
    rw [digitsNat_concat, Nat.pow_succ]
    exact Nat.mul_dvd_mul_right hdvd 10

/-- Zeros fill places that drop them. -/
def dropped (places : List Token) (count : Nat) : Prop :=
  (∀ token ∈ places, token = .hash) ∧ 10 ^ places.length ∣ count

/-- A place for a blank comes after another place, and zeros that need not be shown fill both. -/
def laterBlank (places : List Token) (count : Nat) : Prop :=
  ∃ front token rest, places = front ++ token :: rest ∧ .zero ∉ token :: rest ∧
    .question ∈ rest ∧ 10 ^ (rest.length + 1) ∣ count

theorem dropped_iff {n : Nat} (h : tokens.length = decimal.length)
    (hdigits : ∀ token ∈ tokens, token.isDigit = true)
    (hdecimal : decimal.all Char.isDigit = true) :
    ((shownDecimals tokens decimal).drop n).flatten = [] ↔
      dropped (tokens.drop n) (digitsNat decimal) := by
  induction tokens using List.reverseRecOn generalizing decimal with
  | nil =>
    rw [List.eq_nil_of_length_eq_zero h.symm, List.drop_nil]
    exact iff_of_true (by simp [shownDecimals, trailingPlaces]) ⟨nofun, Nat.one_dvd _⟩
  | append_singleton tokens token ih =>
    obtain ⟨decimal, c, rfl, hlength⟩ := concat_of_length h
    have htoken : token.isDigit = true := hdigits token (by simp)
    have hfront : ∀ token ∈ tokens, token.isDigit = true := fun other hother =>
      hdigits other (List.mem_append_left _ hother)
    rw [List.all_append, Bool.and_eq_true] at hdecimal
    have hc : c.isDigit = true := by simpa using hdecimal.2
    have hshown := length_shownDecimals hlength
    by_cases hn : n ≤ tokens.length
    · have hplaces : dropped ((tokens ++ [token]).drop n) (digitsNat (decimal ++ [c])) ↔
          (token = .hash ∧ c = '0') ∧ dropped (tokens.drop n) (digitsNat decimal) := by
        unfold dropped
        rw [List.drop_append_of_le_length hn, List.forall_mem_append, List.length_append,
          List.length_singleton, pow_dvd_concat _ hc, List.forall_mem_singleton]
        tauto
      rw [hplaces, ← ih hlength hfront hdecimal.1, shownDecimals_concat hlength]
      split
      · rename_i htrails
        obtain ⟨hkind, hzero⟩ := (trails_iff htoken).mp htrails
        rw [List.drop_append_of_le_length (by omega), List.flatten_append,
          List.append_eq_nil_iff, List.flatten_singleton]
        cases hkind with
        | inl hhash => simp [hhash, hzero]
        | inr hquestion => simp [hquestion]
      · rename_i hkept
        apply iff_of_false
        · rw [← List.map_drop, show (((decimal ++ [c]).drop n).map List.singleton).flatten =
            (decimal ++ [c]).drop n from List.flatMap_singleton' _, List.drop_eq_nil_iff,
            List.length_append, List.length_singleton]
          omega
        · exact fun hboth => hkept ((trails_iff htoken).mpr ⟨.inl hboth.1.1, hboth.1.2⟩)
    · have hall : tokens.length + 1 ≤ n := by omega
      rw [List.drop_eq_nil_of_le (by rw [length_shownDecimals h]; simpa using hall),
        List.drop_eq_nil_of_le (by simpa using hall)]
      exact iff_of_true rfl ⟨nofun, Nat.one_dvd _⟩

theorem trailingPlaces_ne_nil (h : tokens.length = decimal.length)
    (hdecimal : decimal.all Char.isDigit = true) :
    trailingPlaces tokens decimal ≠ [] ↔ ∃ front token rest, tokens = front ++ token :: rest ∧
      .zero ∉ token :: rest ∧ 10 ^ (rest.length + 1) ∣ digitsNat decimal := by
  cases tokens using List.reverseRecOn with
  | nil => simp [trailingPlaces]
  | append_singleton tokens token =>
    obtain ⟨decimal, c, rfl, hlength⟩ := concat_of_length h
    rw [List.all_append, Bool.and_eq_true] at hdecimal
    have hc : c.isDigit = true := by simpa using hdecimal.2
    rw [trailingPlaces_concat hlength]
    have htrails : trails (token, c) = true ↔ token ≠ .zero ∧ c = '0' := by simp [trails]
    constructor
    · intro hsome
      have hlast : token ≠ .zero ∧ c = '0' := by
        rw [← htrails]
        by_contra hnot
        exact hsome (if_neg hnot)
      refine ⟨tokens, token, [], rfl, by simpa using Ne.symm hlast.1, ?_⟩
      exact (pow_dvd_concat 0 hc).mpr ⟨hlast.2, Nat.one_dvd _⟩
    · rintro ⟨front, first, rest, hsplit, hzero, hdvd⟩
      have hlast : token ∈ first :: rest := by
        have hget := congrArg List.getLast? hsplit
        rw [List.getLast?_concat, List.getLast?_append_cons] at hget
        exact List.mem_of_getLast? hget.symm
      rw [if_pos (htrails.mpr ⟨fun heq => hzero (heq ▸ hlast), ((pow_dvd_concat _ hc).mp hdvd).1⟩)]
      simp

theorem laterBlank_iff (h : tokens.length = decimal.length)
    (hdecimal : decimal.all Char.isDigit = true) :
    (∃ place ∈ (trailingPlaces tokens decimal).tail, place.1 = .question) ↔
      laterBlank tokens (digitsNat decimal) := by
  induction tokens using List.reverseRecOn generalizing decimal with
  | nil => simp [trailingPlaces, laterBlank]
  | append_singleton tokens token ih =>
    obtain ⟨decimal, c, rfl, hlength⟩ := concat_of_length h
    rw [List.all_append, Bool.and_eq_true] at hdecimal
    have hc : c.isDigit = true := by simpa using hdecimal.2
    have htrails : trails (token, c) = true ↔ token ≠ .zero ∧ c = '0' := by simp [trails]
    have hsplits : laterBlank (tokens ++ [token]) (digitsNat (decimal ++ [c])) ↔
        trails (token, c) = true ∧ (laterBlank tokens (digitsNat decimal) ∨
          token = .question ∧ trailingPlaces tokens decimal ≠ []) := by
      rw [trailingPlaces_ne_nil hlength hdecimal.1, htrails]
      constructor
      · rintro ⟨front, first, rest, hsplit, hzero, hquestion, hdvd⟩
        cases rest using List.reverseRecOn with
        | nil => exact absurd hquestion List.not_mem_nil
        | append_singleton rest last =>
          rw [← List.cons_append, ← List.append_assoc] at hsplit
          obtain ⟨htokens, hlast⟩ := List.append_inj' hsplit rfl
          have htoken : token = last := List.singleton_inj.mp hlast
          rw [List.length_append, List.length_singleton, pow_dvd_concat _ hc] at hdvd
          rw [← List.cons_append, List.mem_append, not_or, List.mem_singleton, ← htoken] at hzero
          rw [List.mem_append, List.mem_singleton, ← htoken] at hquestion
          refine ⟨⟨Ne.symm hzero.2, hdvd.1⟩, ?_⟩
          cases hquestion with
          | inl hquestion => exact .inl ⟨front, first, rest, htokens, hzero.1, hquestion, hdvd.2⟩
          | inr hquestion =>
            exact .inr ⟨hquestion.symm, front, first, rest, htokens, hzero.1, hdvd.2⟩
      · rintro ⟨hlast, hcase⟩
        have hbuild {front rest : List Token} {first : Token} (htokens : tokens = front ++ first :: rest)
            (hzero : .zero ∉ first :: rest) (hquestion : .question ∈ rest ∨ token = .question)
            (hdvd : 10 ^ (rest.length + 1) ∣ digitsNat decimal) :
            laterBlank (tokens ++ [token]) (digitsNat (decimal ++ [c])) := by
          refine ⟨front, first, rest ++ [token], by rw [htokens]; simp, ?_, ?_, ?_⟩
          · rw [← List.cons_append, List.mem_append, not_or, List.mem_singleton]
            exact ⟨hzero, Ne.symm hlast.1⟩
          · rw [List.mem_append, List.mem_singleton]
            exact hquestion.imp_right Eq.symm
          · rw [List.length_append, List.length_singleton, pow_dvd_concat _ hc]
            exact ⟨hlast.2, hdvd⟩
        rcases hcase with ⟨front, first, rest, htokens, hzero, hquestion, hdvd⟩ |
          ⟨hquestion, front, first, rest, htokens, hzero, hdvd⟩
        · exact hbuild htokens hzero (.inl hquestion) hdvd
        · exact hbuild htokens hzero (.inr hquestion) hdvd
    rw [hsplits, trailingPlaces_concat hlength, ← ih hlength hdecimal.1]
    by_cases hlast : trails (token, c) = true
    · rw [if_pos hlast, and_iff_right hlast]
      by_cases hnone : trailingPlaces tokens decimal = []
      · simp [hnone]
      · rw [List.tail_append_of_ne_nil hnone]
        simp only [List.mem_append, List.mem_singleton, or_and_right, exists_or, exists_eq_left,
          ne_eq, hnone, not_false_eq_true, and_true]
    · rw [if_neg hlast]
      simp [hlast]

end Trailing

/-! ### Digits of a count -/

theorem fixedDigits_decimal (count places : Nat) :
    (fixedDigits count places).2.length = places ∧
      (fixedDigits count places).2.all Char.isDigit = true ∧
      digitsNat (fixedDigits count places).2 = count % 10 ^ places := by
  unfold fixedDigits
  dsimp only
  split
  · rename_i hnone
    rw [hnone, Nat.pow_zero, Nat.mod_one]
    exact ⟨rfl, rfl, rfl⟩
  · rename_i hsome
    have hlt : count % 10 ^ places < 10 ^ places := Nat.mod_lt _ (Nat.pow_pos (by decide))
    have hlength : (Nat.toDigits 10 (count % 10 ^ places)).length ≤ places :=
      (Nat.length_toDigits_le_iff (by decide) (Nat.pos_of_ne_zero hsome)).mpr hlt
    refine ⟨?_, all_leftpad (toDigits_all _) _, ?_⟩
    · rw [List.length_leftpad, Nat.max_eq_left hlength]
    · rw [digitsNat_leftpad, digitsNat_toDigits]

theorem integerDigits_facts (pattern : Pattern) (part : Nat) :
    (integerDigits pattern (Nat.toDigits 10 part)).all Char.isDigit = true ∧
      digitsNat (integerDigits pattern (Nat.toDigits 10 part)) = part ∧
      pattern.integerZeros ≤ (integerDigits pattern (Nat.toDigits 10 part)).length ∧
      (integerDigits pattern (Nat.toDigits 10 part) = [] ↔ part = 0 ∧ pattern.integerZeros = 0 ∧
        ¬ (0 < pattern.integerPlaces ∧ pattern.decimalTokens.length = 0)) := by
  unfold integerDigits
  dsimp only
  rw [dropWhile_toDigits]
  have hall : (if part = 0 then [] else Nat.toDigits 10 part).all Char.isDigit = true := by
    split
    · rfl
    · exact toDigits_all part
  have hvalue : digitsNat (if part = 0 then [] else Nat.toDigits 10 part) = part := by
    split
    · rename_i hzero
      rw [hzero]
      rfl
    · exact digitsNat_toDigits part
  have hnil : (if part = 0 then [] else Nat.toDigits 10 part) = [] ↔ part = 0 := by
    split
    · rename_i hzero
      exact iff_of_true rfl hzero
    · rename_i hpos
      exact iff_of_false Nat.toDigits_ne_nil hpos
  revert hall hvalue hnil
  generalize (if part = 0 then [] else Nat.toDigits 10 part) = digits
  intro hall hvalue hnil
  have hpadded : List.replicate (pattern.integerZeros - digits.length) '0' ++ digits = [] ↔
      part = 0 ∧ pattern.integerZeros = 0 := by
    rw [List.append_eq_nil_iff, hnil, List.replicate_eq_nil_iff]
    constructor
    · rintro ⟨hzeros, hpart⟩
      rw [hnil.mpr hpart, List.length_nil] at hzeros
      exact ⟨hpart, hzeros⟩
    · rintro ⟨hpart, hzeros⟩
      rw [hzeros]
      exact ⟨Nat.zero_sub _, hpart⟩
  split
  · rename_i hlone
    obtain ⟨hnone, hzeros, hplaces⟩ := hlone
    obtain ⟨hpart, _⟩ := hpadded.mp hnone
    rw [hpart, hzeros]
    exact ⟨rfl, rfl, Nat.zero_le _, iff_of_false (List.cons_ne_nil _ _) fun hboth =>
      hboth.2.2 hplaces⟩
  · rename_i hother
    refine ⟨?_, ?_, ?_, ?_⟩
    · rw [List.all_append, hall, Bool.and_true]
      simp
    · rw [digitsNat_append, digitsNat_zeros fun c hc => List.eq_of_mem_replicate hc, hvalue,
        Nat.zero_mul, Nat.zero_add]
    · rw [List.length_append, List.length_replicate]
      omega
    · constructor
      · intro hnone
        obtain ⟨hpart, hzeros⟩ := hpadded.mp hnone
        exact ⟨hpart, hzeros, fun hplaces => hother ⟨hnone, hzeros, hplaces⟩⟩
      · rintro ⟨hpart, hzeros, _⟩
        exact hpadded.mpr ⟨hpart, hzeros⟩

end AgentSpreadsheet.Render
