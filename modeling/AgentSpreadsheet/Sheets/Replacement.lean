import AgentSpreadsheet.Library.Matches
import AgentSpreadsheet.Sheets.Transform

/-! Text replaced in formulas. Offsets count the bytes of UTF-8, as the program's do: slicing
panics where an offset falls inside a character. -/
namespace AgentSpreadsheet.Sheets
open Library

/-! ### Text by bytes -/

def byteLen (text : List Char) : Nat := (text.map Char.utf8Size).sum

def notCharBoundary : String := "byte index is not a char boundary"

/-- `&text[offset..]` -/
def sliceFrom : List Char → Nat → Except String (List Char)
  | text, 0 => .ok text
  | [], _ + 1 => .error notCharBoundary
  | c :: rest, offset + 1 =>
    if c.utf8Size ≤ offset + 1 then sliceFrom rest (offset + 1 - c.utf8Size)
    else .error notCharBoundary

/-- `&text[..offset]` -/
def sliceTo : List Char → Nat → Except String (List Char)
  | _, 0 => .ok []
  | [], _ + 1 => .error notCharBoundary
  | c :: rest, offset + 1 =>
    if c.utf8Size ≤ offset + 1 then do
      let taken ← sliceTo rest (offset + 1 - c.utf8Size)
      pure (c :: taken)
    else .error notCharBoundary

/-- `str::find`: the offset of the first occurrence. -/
def strFind (pattern : List Char) : List Char → Option Nat
  | [] => if pattern.isPrefixOf [] then some 0 else none
  | c :: rest =>
    if pattern.isPrefixOf (c :: rest) then some 0
    else (strFind pattern rest).map (· + c.utf8Size)

def toAsciiLowercase (text : List Char) : List Char := text.map Char.toLower

/-! ### The replacement -/

/-- The loop that rebuilds a formula from its own slices, cut at the occurrences in the
lower-cased copy. `fuel` bounds its rounds. -/
def rebuildFormula (formula formulaLower findLower replace : List Char) (findLen : Nat) :
    Nat → Nat → List Char → Option (Except String (List Char))
  | 0, _, _ => none
  | fuel + 1, cursor, result =>
    match sliceFrom formulaLower cursor with
    | .error e => some (.error e)
    | .ok hay =>
      match strFind findLower hay with
      | some pos =>
        match sliceFrom formula cursor >>= (sliceTo · pos) with
        | .error e => some (.error e)
        | .ok gap =>
          rebuildFormula formula formulaLower findLower replace findLen fuel
            (cursor + pos + findLen) (result ++ gap ++ replace)
      | none => some (do
          let tail ← sliceFrom formula cursor
          pure (result ++ tail))

/-- The formula after a replacement of plain text, `none` where it stays. Without fuel left
the replacement is still running. -/
def ReplaceInFormulasOp.replacePlain (op : ReplaceInFormulasOp) (fuel : Nat) (formula : String) :
    Option (Except String (Option String)) :=
  if op.caseSensitive then
    some (.ok (if (strFind op.find.toList formula.toList).isSome then
      some (replaceAll op.find op.replace formula) else none))
  else
    let findLower := toAsciiLowercase op.find.toList
    let formulaLower := toAsciiLowercase formula.toList
    if (strFind findLower formulaLower).isNone then some (.ok none)
    else (rebuildFormula formula.toList formulaLower findLower op.replace.toList
      (byteLen op.find.toList) fuel 0 []).map fun rebuilt =>
        rebuilt.map fun text => some (String.ofList text)

/-! ### What it is for -/

/-- Characters that the operation takes for one another. -/
def ReplaceInFormulasOp.same (op : ReplaceInFormulasOp) (c d : Char) : Bool :=
  if op.caseSensitive then c == d else c.toLower == d.toLower

/-- The leftmost occurrences of the searched text, as the operation compares it, are replaced. -/
def ReplaceInFormulasOp.Exact (op : ReplaceInFormulasOp) (formula out : String) : Prop :=
  Replaced (occurs op.same op.find.toList) op.find.toList.length op.replace.toList 0
    formula.toList out.toList

def ReplaceInFormulasOp.Terminates (op : ReplaceInFormulasOp) (formula : String) : Prop :=
  ∃ fuel out, op.replacePlain fuel formula = some (.ok out) ∧
    op.Exact formula (out.getD formula)

/-! ### Slices -/

@[simp] theorem byteLen_nil : byteLen [] = 0 := rfl

@[simp] theorem byteLen_cons (c : Char) (text : List Char) :
    byteLen (c :: text) = c.utf8Size + byteLen text := by
  simp [byteLen]

@[simp] theorem byteLen_append (text text' : List Char) :
    byteLen (text ++ text') = byteLen text + byteLen text' := by
  simp [byteLen]

theorem sliceFrom_append (before after : List Char) :
    sliceFrom (before ++ after) (byteLen before) = .ok after := by
  induction before with
  | nil => simp [sliceFrom]
  | cons c rest ih =>
    have hpos := c.utf8Size_pos
    obtain ⟨offset, hoffset⟩ : ∃ offset, byteLen (c :: rest) = offset + 1 :=
      ⟨byteLen (c :: rest) - 1, by simp only [byteLen_cons]; omega⟩
    have hrest : offset + 1 - c.utf8Size = byteLen rest := by
      rw [← hoffset, byteLen_cons]
      omega
    rw [hoffset, List.cons_append, sliceFrom, if_pos (by rw [← hoffset, byteLen_cons]; omega),
      hrest, ih]

theorem sliceTo_append (before after : List Char) :
    sliceTo (before ++ after) (byteLen before) = .ok before := by
  induction before with
  | nil => simp [sliceTo]
  | cons c rest ih =>
    have hpos := c.utf8Size_pos
    obtain ⟨offset, hoffset⟩ : ∃ offset, byteLen (c :: rest) = offset + 1 :=
      ⟨byteLen (c :: rest) - 1, by simp only [byteLen_cons]; omega⟩
    have hrest : offset + 1 - c.utf8Size = byteLen rest := by
      rw [← hoffset, byteLen_cons]
      omega
    rw [hoffset, List.cons_append, sliceTo, if_pos (by rw [← hoffset, byteLen_cons]; omega), hrest,
      ih]
    rfl

theorem utf8Size_toLower (c : Char) : c.toLower.utf8Size = c.utf8Size := by
  by_cases hupper : c.val ≥ 'A'.val ∧ c.val ≤ 'Z'.val
  · have hlower : c.toLower.val = c.val + 32 := by
      unfold Char.toLower
      rw [dif_pos hupper]
      rfl
    unfold Char.utf8Size
    rw [hlower, if_pos, if_pos]
    · grind
    · grind
  · unfold Char.toLower
    rw [dif_neg hupper]


/-! ### Occurrences -/

section Search
variable {f : Char → Char} {pattern text : List Char}

theorem isPrefixOf_map :
    (pattern.map f).isPrefixOf (text.map f) = occurs (fun c d => f c == f d) pattern text := by
  induction pattern generalizing text with
  | nil => rfl
  | cons p pattern ih =>
    cases text with
    | nil => rfl
    | cons c text =>
      rw [List.map_cons, List.map_cons, List.isPrefixOf, ih]
      rfl

theorem byteLen_of_alike (hsize : ∀ c, (f c).utf8Size = c.utf8Size) {found : List Char}
    (h : List.Forall₂ (fun c d => (f c == f d) = true) pattern found) :
    byteLen found = byteLen pattern := by
  induction h with
  | nil => rfl
  | @cons p c pattern found hsame _ ih =>
    have hlen : c.utf8Size = p.utf8Size := by
      rw [← hsize c, ← hsize p, eq_of_beq hsame]
    rw [byteLen_cons, byteLen_cons, ih, hlen]

/-- Nothing is found: there is no occurrence. -/
theorem strFind_none (h : strFind (pattern.map f) (text.map f) = none) :
    ∀ i, i ≤ text.length → occurs (fun c d => f c == f d) pattern (text.drop i) = false := by
  induction text with
  | nil =>
    intro i hi
    have hbegins := @isPrefixOf_map f pattern []
    rw [Nat.le_zero.mp hi, List.drop_zero, ← hbegins]
    rw [List.map_nil, strFind] at h
    split at h
    · contradiction
    · rename_i hnot
      exact Bool.eq_false_iff.mpr hnot
  | cons c rest ih =>
    intro i hi
    rw [List.map_cons, strFind] at h
    split at h
    · contradiction
    · rename_i hfront
      cases i with
      | zero =>
        rw [List.drop_zero, ← isPrefixOf_map]
        exact Bool.eq_false_iff.mpr hfront
      | succ i =>
        rw [List.drop_succ_cons]
        exact ih (Option.map_eq_none_iff.mp h) i (by simpa using hi)

theorem strFind_some (hsize : ∀ c, (f c).utf8Size = c.utf8Size) {offset : Nat}
    (h : strFind (pattern.map f) (text.map f) = some offset) :
    ∃ gap found rest, text = gap ++ (found ++ rest) ∧ byteLen gap = offset ∧
      List.Forall₂ (fun c d => (f c == f d) = true) pattern found ∧
      ∀ i, i < gap.length →
        occurs (fun c d => f c == f d) pattern ((gap ++ (found ++ rest)).drop i) = false := by
  have hfront (text : List Char) (hbegins : (pattern.map f).isPrefixOf (text.map f) = true) :
      ∃ found rest, text = found ++ rest ∧
        List.Forall₂ (fun c d => (f c == f d) = true) pattern found := by
    rw [isPrefixOf_map] at hbegins
    exact occurs_iff.mp hbegins
  induction text generalizing offset with
  | nil =>
    rw [List.map_nil, strFind] at h
    split at h
    · rename_i hbegins
      obtain ⟨found, rest, htext, halike⟩ := hfront [] hbegins
      exact ⟨[], found, rest, htext, Option.some.inj h, halike, fun i hi => absurd hi (Nat.not_lt_zero i)⟩
    · contradiction
  | cons c text ih =>
    rw [List.map_cons, strFind] at h
    split at h
    · rename_i hbegins
      obtain ⟨found, rest, htext, halike⟩ := hfront (c :: text) hbegins
      exact ⟨[], found, rest, htext, Option.some.inj h, halike, fun i hi => absurd hi (Nat.not_lt_zero i)⟩
    · rename_i hnot
      obtain ⟨offset', hrest, rfl⟩ := Option.map_eq_some_iff.mp h
      obtain ⟨gap, found, rest, htext, hoffset, halike, hfirst⟩ := ih hrest
      refine ⟨c :: gap, found, rest, by rw [htext, List.cons_append], ?_, halike, fun i hi => ?_⟩
      · rw [byteLen_cons, hoffset, hsize]
        omega
      · cases i with
        | zero =>
          rw [List.drop_zero, List.cons_append, ← htext, ← isPrefixOf_map]
          exact Bool.eq_false_iff.mpr hnot
        | succ i =>
          rw [List.cons_append, List.drop_succ_cons]
          exact hfirst i (by simpa using hi)

end Search

/-! ### Replacement that tells cases apart -/

theorem isPrefixOf_eq_occurs (pattern text : List Char) :
    pattern.isPrefixOf text = occurs (· == ·) pattern text := by
  have hmap := @isPrefixOf_map id pattern text
  rwa [List.map_id, List.map_id] at hmap

theorem replaceChars_nil {replace text : List Char} {fuel : Nat} (h : text.length < fuel) :
    Replaced (occurs (· == ·) []) 0 replace 0 text (replaceChars [] replace fuel text) := by
  induction fuel generalizing text with
  | zero => omega
  | succ fuel ih =>
    cases text with
    | nil =>
      have hend : Replaced (occurs (· == ·) ([] : List Char)) 0 replace 1 [] [] := by
        apply Replaced.done
        intro i hlow hhigh
        exact absurd (hlow.trans hhigh) (by simp)
      have hfront := @Replaced.front _ _ _ replace [] [] [] rfl rfl hend
      simpa [replaceChars] using hfront
    | cons c rest =>
      have hrest := @ih rest (by simpa using h)
      exact @Replaced.front _ _ _ replace _ [] (c :: rest) rfl rfl hrest.shift

theorem replaceChars_cons {p : Char} {pattern replace text : List Char} {fuel : Nat}
    (h : text.length < fuel) :
    Replaced (occurs (· == ·) (p :: pattern)) (p :: pattern).length replace 0 text
      (replaceChars (p :: pattern) replace fuel text) := by
  induction fuel generalizing text with
  | zero => omega
  | succ fuel ih =>
    cases text with
    | nil =>
      apply Replaced.done
      intro i _ _
      rw [List.drop_nil]
      rfl
    | cons c rest =>
      rw [List.length_cons] at h
      unfold replaceChars
      dsimp only
      split
      · rename_i hbegins
        rw [isPrefixOf_eq_occurs] at hbegins
        obtain ⟨found, after, htext, halike⟩ := occurs_iff.mp hbegins
        have hlength := halike.length_eq
        have hdrop : (c :: rest).drop (p :: pattern).length = after := by
          rw [htext, hlength, List.drop_left]
        have hless : after.length < fuel := by
          have hwhole := congrArg List.length htext
          rw [List.length_append, List.length_cons, ← hlength, List.length_cons] at hwhole
          omega
        rw [hdrop, htext]
        rw [htext] at hbegins
        exact Replaced.front hbegins hlength.symm (by simpa using ih hless)
      · rename_i hnot
        rw [isPrefixOf_eq_occurs] at hnot
        exact (ih (by omega)).skip (Bool.eq_false_iff.mpr hnot)

theorem replaceAll_exact (find replace text : String) :
    Replaced (occurs (· == ·) find.toList) find.toList.length replace.toList 0 text.toList
      (replaceAll find replace text).toList := by
  have hfuel : text.toList.length < text.length + 1 := by
    rw [String.length_toList]
    omega
  unfold replaceAll
  rw [String.toList_ofList]
  match find.toList with
  | [] => exact replaceChars_nil hfuel
  | p :: pattern => exact replaceChars_cons hfuel

/-! ### Replacement that does not -/

section Rebuild
variable {formula find replace : List Char}

/-- The loop from a cursor behind `before`: what is ahead is replaced, with as much fuel as
there are characters ahead. -/
theorem rebuildFormula_exact (hfind : find ≠ []) {before ahead result : List Char}
    {fuel : Nat} (h : ahead.length < fuel) :
    ∃ out, rebuildFormula (before ++ ahead) (toAsciiLowercase (before ++ ahead))
        (toAsciiLowercase find) replace (byteLen find) fuel (byteLen before) result =
          some (.ok (result ++ out)) ∧
      Replaced (occurs (fun c d => c.toLower == d.toLower) find) find.length replace 0 ahead out := by
  induction fuel generalizing before ahead result with
  | zero => omega
  | succ fuel ih =>
    have hlower : sliceFrom (toAsciiLowercase (before ++ ahead)) (byteLen before) =
        .ok (toAsciiLowercase ahead) := by
      have hbytes : byteLen (toAsciiLowercase before) = byteLen before := by
        simp [byteLen, toAsciiLowercase, Function.comp_def, utf8Size_toLower]
      unfold toAsciiLowercase at *
      rw [List.map_append, ← hbytes, sliceFrom_append]
    unfold rebuildFormula
    rw [hlower]
    dsimp only
    match hfound : strFind (toAsciiLowercase find) (toAsciiLowercase ahead) with
    | none =>
      refine ⟨ahead, ?_, .done fun i _ hi => strFind_none hfound i hi⟩
      dsimp only
      rw [sliceFrom_append]
      rfl
    | some pos =>
      obtain ⟨gap, found, rest, rfl, hpos, halike, hfirst⟩ := strFind_some utf8Size_toLower hfound
      have hbytes := byteLen_of_alike utf8Size_toLower halike
      have hlength := halike.length_eq
      have hshort : rest.length < fuel := by
        have hpositive := List.length_pos_iff.mpr hfind
        simp only [List.length_append] at h
        omega
      have hcursor : byteLen before + pos + byteLen find = byteLen (before ++ gap ++ found) := by
        simp only [byteLen_append]
        omega
      have hslices : (sliceFrom (before ++ (gap ++ (found ++ rest))) (byteLen before) >>=
          (sliceTo · pos)) = .ok gap := by
        rw [sliceFrom_append, ← hpos]
        exact sliceTo_append gap (found ++ rest)
      obtain ⟨out, hout, hreplaced⟩ := @ih (before ++ gap ++ found) rest (result ++ gap ++ replace)
        hshort
      refine ⟨gap ++ (replace ++ out), ?_, ?_⟩
      · dsimp only
        rw [hslices, hcursor]
        simpa [List.append_assoc] using hout
      · have hhere : occurs (fun c d => c.toLower == d.toLower) find (found ++ rest) = true :=
          occurs_iff.mpr ⟨found, rest, rfl, halike⟩
        apply Replaced.next gap found rest (Nat.zero_le _) (fun i _ hi => hfirst i hi) hhere
          hlength.symm
        rwa [show 1 - find.length = 0 by have := List.length_pos_iff.mpr hfind; omega]

theorem rebuildFormula_nil (fuel : Nat) (result : List Char) :
    rebuildFormula formula (toAsciiLowercase formula) [] replace 0 fuel 0 result = none := by
  induction fuel generalizing result with
  | zero => rfl
  | succ fuel ih =>
    have hfound (text : List Char) : strFind [] text = some 0 := by
      cases text <;> rfl
    have hslice (text : List Char) : sliceFrom text 0 = .ok text := by
      cases text <;> rfl
    have hempty (text : List Char) : sliceTo text 0 = .ok [] := by
      cases text <;> rfl
    unfold rebuildFormula
    rw [hslice]
    dsimp only
    rw [hfound, hslice]
    change (match sliceTo formula 0 with | .error e => _ | .ok gap => _) = _
    rw [hempty]
    exact ih _

end Rebuild

namespace ReplaceInFormulasOp
variable {op : ReplaceInFormulasOp} {formula : String}

theorem same_of_caseSensitive (h : op.caseSensitive = true) : op.same = (· == ·) := by
  funext c d
  simp [same, h]

theorem same_of_not (h : op.caseSensitive = false) :
    op.same = fun c d => c.toLower == d.toLower := by
  funext c d
  simp [same, h]

theorem terminates_of_caseSensitive (h : op.caseSensitive = true) : op.Terminates formula := by
  unfold Terminates Exact replacePlain
  rw [same_of_caseSensitive h, h]
  simp only [if_true]
  match hfound : strFind op.find.toList formula.toList with
  | some _ => exact ⟨0, some _, rfl, replaceAll_exact op.find op.replace formula⟩
  | none =>
    refine ⟨0, none, rfl, .done fun i _ hi => ?_⟩
    have hnone := @strFind_none id op.find.toList formula.toList
    rw [List.map_id, List.map_id] at hnone
    exact hnone hfound i hi

theorem terminates_of_find (h : op.caseSensitive = false) (hfind : op.find ≠ "") :
    op.Terminates formula := by
  have hpattern : op.find.toList ≠ [] := fun hnil => hfind (String.toList_eq_nil_iff.mp hnil)
  unfold Terminates Exact replacePlain
  rw [h, same_of_not h]
  simp only [Bool.false_eq_true, if_false]
  match hfound : strFind (toAsciiLowercase op.find.toList) (toAsciiLowercase formula.toList) with
  | none => exact ⟨0, none, rfl, .done fun i _ hi => strFind_none hfound i hi⟩
  | some _ =>
    obtain ⟨out, hout, hreplaced⟩ := @rebuildFormula_exact op.find.toList op.replace.toList hpattern
      [] formula.toList [] (formula.toList.length + 1) (Nat.lt_succ_self _)
    refine ⟨formula.toList.length + 1, some (String.ofList out), ?_, ?_⟩
    · simp only [List.nil_append, byteLen_nil] at hout
      simp only [Option.isNone_some, Bool.false_eq_true, if_false]
      rw [hout]
      rfl
    · rw [Option.getD_some, String.toList_ofList]
      exact hreplaced

theorem not_terminates (h : op.caseSensitive = false) (hfind : op.find = "") :
    ¬ op.Terminates formula := by
  intro ⟨fuel, out, hout, _⟩
  have hfound : strFind [] (toAsciiLowercase formula.toList) = some 0 := by
    cases toAsciiLowercase formula.toList <;> rfl
  unfold replacePlain at hout
  rw [h, hfind] at hout
  simp only [Bool.false_eq_true, if_false] at hout
  change (if (strFind [] (toAsciiLowercase formula.toList)).isNone then _ else
    (rebuildFormula _ _ [] _ 0 fuel 0 []).map _) = _ at hout
  rw [hfound, rebuildFormula_nil] at hout
  simp at hout

end ReplaceInFormulasOp

/-- Plain text is replaced exactly, and the replacement ends, unless an empty text is searched
for without telling cases apart. -/
theorem plain_replacement_exact_iff (op : ReplaceInFormulasOp) (formula : String) :
    op.Terminates formula ↔ op.caseSensitive = true ∨ op.find ≠ "" := by
  constructor
  · intro h
    by_contra hnot
    rw [not_or, not_not, Bool.not_eq_true] at hnot
    exact ReplaceInFormulasOp.not_terminates hnot.1 hnot.2 h
  · intro h
    cases hcase : op.caseSensitive with
    | true => exact ReplaceInFormulasOp.terminates_of_caseSensitive hcase
    | false =>
      rcases h with h | h
      · rw [hcase] at h
        contradiction
      · exact ReplaceInFormulasOp.terminates_of_find hcase h

/-- Searched for in any case, an empty text is found for ever. -/
theorem empty_replacement_runs_on :
    ¬ (⟨"Model", "", "B", none, false, false⟩ : ReplaceInFormulasOp).Terminates "A1*2" :=
  ReplaceInFormulasOp.not_terminates rfl rfl

example : (⟨"Model", "sum", "MAX", none, false, false⟩ : ReplaceInFormulasOp).replacePlain 9
    "Sum(é)+sUm(1)" = some (.ok (some "MAX(é)+MAX(1)")) := by decide

end AgentSpreadsheet.Sheets
