import AgentSpreadsheet.Analysis.Dependents
import AgentSpreadsheet.Library.Numbering
import AgentSpreadsheet.Library.Unambiguous
import AgentSpreadsheet.Tables.Filters

/-! Headers that come more than once get a number. The number can make a header that is there
already. -/
namespace AgentSpreadsheet.Tables
open Library Search

/-- The headers of a session's table. Blank ones are called column. -/
def dedupeHeadersInPlace : List String → (String → Nat) → List String
  | [], _ => []
  | header :: rest, counts =>
    let base := if Legacy.trim header = "" then "column" else header
    (if counts base = 0 then base else base ++ "_" ++ toString (counts base + 1)) ::
      dedupeHeadersInPlace rest (Function.update counts base (counts base + 1))

/-- A row under its headers. Of equal headers the last one stands. -/
def keyedRow {β : Type} (headers : List String) (values : List β) : String → Option β :=
  (headers.zip values).foldl (fun map (header, value) => Function.update map header (some value))
    fun _ => none

def suffixed (header : String) (count : Nat) : String :=
  if 0 < count then header ++ "_" ++ toString (count + 1) else header

section Dedupe
variable {headers : List String} {seen : String → Nat}

theorem dedupeHeaders_eq (h : ∀ header ∈ headers, Legacy.trim header ≠ "") :
    dedupeHeaders headers seen = numberRepeats suffixed seen headers := by
  induction headers generalizing seen with
  | nil => rfl
  | cons header rest ih =>
    unfold dedupeHeaders numberRepeats
    rw [if_neg (h header List.mem_cons_self)]
    dsimp only
    rw [ih fun name hname => h name (List.mem_cons_of_mem _ hname)]
    rfl

theorem dedupeHeadersInPlace_eq (h : ∀ header ∈ headers, Legacy.trim header ≠ "") :
    dedupeHeadersInPlace headers seen = numberRepeats suffixed seen headers := by
  induction headers generalizing seen with
  | nil => rfl
  | cons header rest ih =>
    unfold dedupeHeadersInPlace numberRepeats
    rw [if_neg (h header List.mem_cons_self)]
    dsimp only
    rw [ih fun name hname => h name (List.mem_cons_of_mem _ hname)]
    unfold suffixed
    by_cases hzero : seen header = 0
    · simp [hzero]
    · simp [hzero, Nat.pos_of_ne_zero hzero]

theorem toString_inj {m n : Nat} (h : (toString m).toList = (toString n).toList) : m = n := by
  rw [Analysis.toString_digits, Analysis.toString_digits] at h
  have hread := congrArg (fun digits => Nat.ofDigitChars 10 digits 0) h
  rw [Nat.ofDigitChars_ten_toDigits, Nat.ofDigitChars_ten_toDigits] at hread
  exact hread

theorem suffixed_inj {a b : String} {k l : Nat}
    (h : suffixed a (k + 1) = suffixed b (l + 1)) : a = b ∧ k = l := by
  have hlist := congrArg (fun text => text.toList.reverse) h
  have hsuffixed (name : String) (n : Nat) : (suffixed name (n + 1)).toList.reverse =
      (toString (n + 2)).toList.reverse ++ '_' :: name.toList.reverse := by
    simp [suffixed]
  have hdigits (n : Nat) : ∀ c ∈ (toString n).toList.reverse, c.isDigit = true := by
    intro c hc
    rw [List.mem_reverse, Analysis.toString_digits] at hc
    exact Nat.isDigit_of_mem_toDigits (by decide) (by decide) hc
  have hbreak (rest : List Char) : AtBreak ['_'] ('_' :: rest) := by
    intro c hc
    exact Option.some.inj hc ▸ List.mem_singleton.mpr rfl
  rw [hsuffixed, hsuffixed] at hlist
  have hparts := run_told (hdigits _) (hdigits _) (by decide) (hbreak _) (hbreak _) hlist
  have hnumber := toString_inj (List.reverse_inj.mp hparts.1)
  have hname := String.toList_inj.mp (List.reverse_inj.mp (List.cons.inj hparts.2).2)
  exact ⟨hname, by omega⟩

theorem suffixed_marks : MarksRepeats suffixed where
  first _ := rfl
  inj _ _ _ _ := suffixed_inj
  moved a k h := by
    have hlength := congrArg (fun text => text.toList.length) h
    simp [suffixed] at hlength

theorem keyedRow_getElem {β : Type} {names : List String} {values : List β} (hnodup : names.Nodup)
    {i : Nat} {name : String} {value : β} (hname : names[i]? = some name)
    (hvalue : values[i]? = some value) : keyedRow names values name = some value := by
  have hmem : (name, value) ∈ names.zip values := by
    apply List.mem_of_getElem? (i := i)
    rw [List.getElem?_zip_eq_some]
    exact ⟨hname, hvalue⟩
  unfold keyedRow
  rw [foldl_update Prod.fst Prod.snd]
  cases hfind : (names.zip values).reverse.find? fun pair => pair.1 = name with
  | none =>
    have hnone := List.find?_eq_none.mp hfind (name, value) (List.mem_reverse.mpr hmem)
    simp at hnone
  | some found =>
    obtain ⟨j, hj⟩ := List.mem_iff_getElem?.mp (List.mem_reverse.mp (List.mem_of_find?_eq_some hfind))
    have hpair := List.getElem?_zip_eq_some.mp hj
    have hsame : found.1 = name := by simpa using List.find?_some hfind
    have hij : i = j := by
      apply (List.getElem?_inj (List.getElem?_eq_some_iff.mp hname).1 hnodup).mp
      rw [hname, hpair.1, hsame]
    rw [← hij, hvalue] at hpair
    exact hpair.2.symm

/-- What the headers of a table are to be: distinct, with those unchanged that are there once, so
that a row has an entry for each column. -/
structure HeadersTold (headers names : List String) : Prop where
  length : names.length = headers.length
  once : ∀ (i : Nat) (header : String), headers[i]? = some header → headers.count header = 1 →
    names[i]? = some header
  distinct : names.Nodup
  keyed : ∀ {β : Type} (values : List β) (i : Nat) (name : String) (value : β),
    names[i]? = some name → values[i]? = some value → keyedRow names values name = some value

/-- No header is the number of an earlier one: another header, an underscore and a number up to
the count of that header. -/
def NoSuffixed (headers : List String) : Prop :=
  ∀ header ∈ headers, ∀ k, 2 ≤ k → k ≤ headers.count header →
    header ++ "_" ++ toString k ∉ headers

theorem headersTold_iff : HeadersTold headers (numberRepeats suffixed (fun _ => 0) headers) ↔
    NoSuffixed headers := by
  have hnodup := @numberRepeats_nodup_iff _ _ _ headers suffixed_marks
  constructor
  · intro h header hheader k htwo hk
    have hfree := hnodup.mp h.distinct header hheader (k - 2) (by omega)
    have hsuffixed : suffixed header (k - 2 + 1) = header ++ "_" ++ toString k := by
      have hk : k - 2 + 1 + 1 = k := by omega
      rw [suffixed, if_pos (by omega), hk]
    rw [hsuffixed] at hfree
    exact hfree
  · intro h
    have hdistinct := hnodup.mpr fun header hheader k hk =>
      h header hheader (k + 2) (by omega) (by omega)
    exact {
      length := numberRepeats_length
      once := fun i header hi hcount => numberRepeats_once suffixed_marks hi hcount
      distinct := hdistinct
      keyed := fun values i name value hname hvalue => keyedRow_getElem hdistinct hname hvalue }

/-- Both ways of numbering headers tell them apart exactly when no header is the number of
another. -/
theorem dedupe_headers_iff (headers : List String)
    (h : ∀ header ∈ headers, Legacy.trim header ≠ "") :
    (HeadersTold headers (dedupeHeadersInPlace headers fun _ => 0) ∧
      HeadersTold headers (dedupeHeaders headers fun _ => 0)) ↔ NoSuffixed headers := by
  rw [dedupeHeadersInPlace_eq h, dedupeHeaders_eq h, headersTold_iff, and_self]

theorem dedupe_headers_iff_twice :
    HeadersTold ["Dup", "Dup"] (dedupeHeadersInPlace ["Dup", "Dup"] fun _ => 0) ∧
      HeadersTold ["Dup", "Dup"] (dedupeHeaders ["Dup", "Dup"] fun _ => 0) := by
  apply (dedupe_headers_iff ["Dup", "Dup"] (by decide)).mpr
  intro header hheader k htwo hk hmem
  have hname : header = "Dup" := by simpa using hheader
  have hsuffixed : header ++ "_" ++ toString k = "Dup" := by simpa using hmem
  rw [hname] at hk hsuffixed
  have hcount : k ≤ 2 := hk
  have htwo : k = 2 := by omega
  rw [htwo] at hsuffixed
  exact absurd hsuffixed (by decide)

/-- The second of two equal headers gets the text of a third one, whose column replaces its. -/
theorem numbered_header_collides :
    ¬∀ headers : List String, (∀ header ∈ headers, Legacy.trim header ≠ "") →
      (dedupeHeadersInPlace headers fun _ => 0).Nodup ∧ (dedupeHeaders headers fun _ => 0).Nodup := by
  intro hall
  have hnodup := (hall ["A", "A", "A_2"] (by decide)).2
  exact absurd hnodup (by decide)

end Dedupe

end AgentSpreadsheet.Tables
