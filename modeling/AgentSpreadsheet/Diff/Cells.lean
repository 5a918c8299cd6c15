import AgentSpreadsheet.Analysis.AddressOrder
import AgentSpreadsheet.Library.Merge
import AgentSpreadsheet.Sheets.Floats

/-! The difference of two sheets, from two streams of cells. -/
namespace AgentSpreadsheet.Diff
open Library Sheets

/-! ### Addresses -/

structure CellAddress where
  col : Nat
  row : Nat
  original : String
  deriving DecidableEq, Repr

/-- One more letter of a column, in 32 bits that wrap. -/
def letterDigit (col : Nat) (letter : Char) : Option Nat :=
  if letter.isAlpha then some ((col * 26 + (letter.toUpper.toNat - 'A'.toNat + 1)) % 2 ^ 32)
  else none

def colFromLetters (letters : List Char) : Option Nat := letters.foldlM letterDigit 0

/-- The address starts with its letters; its row starts at the first digit. -/
def CellAddress.parse (text : String) : Option CellAddress := do
  let digits := text.toList.dropWhile fun c => !c.isDigit
  let row ← Analysis.parseU32 digits
  let col ← colFromLetters (text.toList.takeWhile fun c => !c.isDigit)
  pure ⟨col, row, text⟩

def CellAddress.cmp (a b : CellAddress) : Ordering :=
  match compare a.row b.row with
  | .eq => compare a.col b.col
  | ord => ord

def CellAddress.key (a : CellAddress) : ℕ ×ₗ ℕ := toLex (a.row, a.col)

theorem CellAddress.cmp_eq (a b : CellAddress) : a.cmp b = compare a.key b.key := by
  have hlex : compare a.key b.key = (compare a.row b.row).then (compare a.col b.col) := by
    rw [Prod.Lex.compare_def]
    rfl
  rw [hlex]
  unfold cmp
  cases compare a.row b.row <;> rfl

/-! ### Cells -/

/-- A cell of a stream. Its address is read from the text it has there. -/
structure RawCell where
  address : CellAddress
  parsed : CellAddress.parse address.original = some address
  value : Option String
  formula : Option String
  styleId : Option Nat
  deriving DecidableEq

inductive ModificationType where
  | formulaEdit
  | recalcResult
  | valueEdit
  | styleEdit
  deriving DecidableEq, Repr

inductive CellDiff where
  | added (address : String) (value formula : Option String)
  | deleted (address : String) (oldValue : Option String)
  | modified (address : String) (subtype : ModificationType) (oldValue newValue : Option String)
      (oldFormula newFormula : Option String) (oldStyleId newStyleId : Option Nat)
  deriving DecidableEq, Repr

def CellDiff.address : CellDiff → String
  | .added address _ _ => address
  | .deleted address _ => address
  | .modified address _ _ _ _ _ _ _ => address

/-! ### The walk -/

section Compare
variable (rounding : Rounding)

def valuesEqual : Option String → Option String → Bool
  | none, none => true
  | some a, some b =>
    match parseF64 rounding a, parseF64 rounding b with
    | some fa, some fb => ((fa.sub rounding fb).abs).lt (.finite F64.tolerance)
    | _, _ => a == b
  | _, _ => false

def changeKind (base fork : RawCell) : Option ModificationType :=
  let formulaChanged := decide (base.formula ≠ fork.formula)
  let valueChanged := !valuesEqual rounding base.value fork.value
  let styleChanged := decide (base.styleId ≠ fork.styleId)
  if !formulaChanged && !valueChanged && !styleChanged then none
  else if styleChanged && !formulaChanged && !valueChanged then some .styleEdit
  else
    match formulaChanged, valueChanged, fork.formula.isSome with
    | true, _, _ => some .formulaEdit
    | false, true, true => some .recalcResult
    | false, true, false => some .valueEdit
    | false, false, _ => none

def compareCells (base fork : RawCell) : Option CellDiff :=
  (changeKind rounding base fork).map fun subtype =>
    .modified fork.address.original subtype base.value fork.value base.formula fork.formula
      (if base.styleId ≠ fork.styleId then base.styleId else none)
      (if base.styleId ≠ fork.styleId then fork.styleId else none)

def deletedCell (base : RawCell) : CellDiff := .deleted base.address.original base.value

def addedCell (fork : RawCell) : CellDiff := .added fork.address.original fork.value fork.formula

variable {ε : Type}

/-- The loop of the walk, with what was found so far. Both heads are looked at first. -/
def diffLoop (diffs : List CellDiff) : List (Except ε RawCell) → List (Except ε RawCell) →
    Except ε (List CellDiff)
  | .error e :: _, _ => .error e
  | [], .error e :: _ => .error e
  | .ok _ :: _, .error e :: _ => .error e
  | [], [] => .ok diffs
  | .ok b :: base, [] => diffLoop (diffs ++ [deletedCell b]) base []
  | [], .ok f :: fork => diffLoop (diffs ++ [addedCell f]) [] fork
  | .ok b :: base, .ok f :: fork =>
    match b.address.cmp f.address with
    | .lt => diffLoop (diffs ++ [deletedCell b]) base (.ok f :: fork)
    | .gt => diffLoop (diffs ++ [addedCell f]) (.ok b :: base) fork
    | .eq => diffLoop (diffs ++ (compareCells rounding b f).toList) base fork
termination_by base fork => base.length + fork.length

def diffStreams (base fork : List (Except ε RawCell)) : Except ε (List CellDiff) :=
  diffLoop rounding [] base fork

end Compare

/-! ### What the walk finds -/

def RawCell.position (cell : RawCell) : ℕ ×ₗ ℕ := cell.address.key

/-- Where an entry stands, by the text of its address. -/
def CellDiff.position (diff : CellDiff) : Option (ℕ ×ₗ ℕ) :=
  (CellAddress.parse diff.address).map CellAddress.key

section Walk
variable {rounding : Rounding} {ε : Type}

def diffOf (rounding : Rounding) : Meeting RawCell RawCell → Option CellDiff
  | .left b => some (deletedCell b)
  | .right f => some (addedCell f)
  | .both b f => compareCells rounding b f

/-- The loop over streams without errors is the walk over their cells. -/
theorem diffLoop_ok (diffs : List CellDiff) (base fork : List RawCell) :
    diffLoop rounding diffs (base.map Except.ok) (fork.map (Except.ok (ε := ε))) =
      .ok (diffs ++ (walk RawCell.position RawCell.position base fork).filterMap
        (diffOf rounding)) := by
  fun_induction walk RawCell.position RawCell.position base fork generalizing diffs with
  | case1 fork =>
    induction fork generalizing diffs with
    | nil => simp [diffLoop]
    | cons f fork ih =>
      simp only [List.map_cons, List.map_nil] at ih ⊢
      rw [diffLoop, ih]
      simp [diffOf]
  | case2 b base =>
    induction b :: base generalizing diffs with
    | nil => simp [diffLoop]
    | cons b base ih =>
      simp only [List.map_cons, List.map_nil] at ih ⊢
      rw [diffLoop, ih]
      simp [diffOf]
  | case3 b base f fork hlt ih =>
    have hcmp : b.address.cmp f.address = .lt := (CellAddress.cmp_eq _ _).trans hlt
    rw [List.map_cons, List.map_cons, diffLoop, hcmp]
    have hrest := ih (diffs ++ [deletedCell b])
    rw [List.map_cons] at hrest
    simp [hrest, diffOf]
  | case4 b base f fork hgt ih =>
    have hcmp : b.address.cmp f.address = .gt := (CellAddress.cmp_eq _ _).trans hgt
    rw [List.map_cons, List.map_cons, diffLoop, hcmp]
    have hrest := ih (diffs ++ [addedCell f])
    rw [List.map_cons] at hrest
    simp [hrest, diffOf]
  | case5 b base f fork heq ih =>
    have hcmp : b.address.cmp f.address = .eq := (CellAddress.cmp_eq _ _).trans heq
    rw [List.map_cons, List.map_cons, diffLoop, hcmp]
    have hrest := ih (diffs ++ (compareCells rounding b f).toList)
    simp only [hrest, List.filterMap_cons, diffOf]
    cases compareCells rounding b f <;> simp

theorem diffLoop_error {diffs : List CellDiff} {base fork : List (Except ε RawCell)}
    (h : ∃ e, .error e ∈ base ∨ .error e ∈ fork) :
    ∃ e, diffLoop rounding diffs base fork = .error e := by
  fun_induction diffLoop rounding diffs base fork with
  | case1 diffs e base fork => exact ⟨e, rfl⟩
  | case2 diffs e fork => exact ⟨e, rfl⟩
  | case3 diffs b base e fork => exact ⟨e, rfl⟩
  | case4 diffs => simp at h
  | case5 diffs b base ih =>
    apply ih
    simpa using h
  | case6 diffs f fork ih =>
    apply ih
    simpa using h
  | case7 diffs b base f fork hcmp ih =>
    apply ih
    simpa using h
  | case8 diffs b base f fork hcmp ih =>
    apply ih
    simpa using h
  | case9 diffs b base f fork hcmp ih =>
    apply ih
    simpa using h

theorem address_position (cell : RawCell) :
    (CellAddress.parse cell.address.original).map CellAddress.key = some cell.position := by
  rw [cell.parsed]
  rfl

theorem address_diffOf {m : Meeting RawCell RawCell} {d : CellDiff}
    (h : diffOf rounding m = some d) :
    d.address = (match m with
      | .left b => b
      | .right f => f
      | .both _ f => f).address.original := by
  cases m with
  | left b =>
    injection h with h
    rw [← h]
    rfl
  | right f =>
    injection h with h
    rw [← h]
    rfl
  | both b f =>
    simp only [diffOf, compareCells, Option.map_eq_some_iff] at h
    obtain ⟨_, _, hd⟩ := h
    rw [← hd]
    rfl

theorem position_diffOf {m : Meeting RawCell RawCell} {d : CellDiff}
    (hmeets : ∀ b f, m = .both b f → b.position = f.position) (h : diffOf rounding m = some d) :
    d.position = some (m.key RawCell.position RawCell.position) := by
  unfold CellDiff.position
  rw [address_diffOf h]
  cases m with
  | left b => exact address_position b
  | right f => exact address_position f
  | both b f =>
    rw [Meeting.key, hmeets b f rfl]
    exact address_position f

end Walk

/-- The difference of two streams in row-major order: one entry for each address of one
stream only and for each common address at which the cells differ, in row-major order. An
error in either stream is an error. -/
theorem diff_streams_exact (rounding : Rounding) {ε : Type} (base fork : List RawCell)
    (hbase : Ascending RawCell.position base) (hfork : Ascending RawCell.position fork) :
    (∃ diffs, diffStreams rounding (base.map Except.ok) (fork.map (Except.ok (ε := ε))) = .ok diffs ∧
      (diffs.Pairwise fun d d' => ∃ p p', d.position = some p ∧ d'.position = some p' ∧ p < p') ∧
      ∀ d, d ∈ diffs ↔
        (∃ b ∈ base, (∀ f ∈ fork, b.position ≠ f.position) ∧ d = deletedCell b) ∨
        (∃ f ∈ fork, (∀ b ∈ base, b.position ≠ f.position) ∧ d = addedCell f) ∨
        ∃ b ∈ base, ∃ f ∈ fork, b.position = f.position ∧ compareCells rounding b f = some d) ∧
    ∀ base fork : List (Except ε RawCell), (∃ e, .error e ∈ base ∨ .error e ∈ fork) →
      ∃ e, diffStreams rounding base fork = .error e := by
  have hmem (m : Meeting RawCell RawCell) := mem_walk_iff hbase hfork m
  refine ⟨⟨_, (diffLoop_ok [] base fork), ?_, ?_⟩, fun _ _ h => diffLoop_error h⟩
  · rw [List.nil_append, List.pairwise_filterMap]
    apply (ascending_walk hbase hfork).imp_of_mem
    intro m m' hm hm' hlt d hd d' hd'
    have hboth (m : Meeting RawCell RawCell) (hm : m ∈ walk RawCell.position RawCell.position base
        fork) : ∀ b f, m = .both b f → b.position = f.position := by
      intro b f heq
      rw [heq, hmem] at hm
      exact hm.2.2
    exact ⟨_, _, position_diffOf (hboth m hm) hd, position_diffOf (hboth m' hm') hd', hlt⟩
  · intro d
    rw [List.nil_append, List.mem_filterMap]
    constructor
    · intro ⟨m, hm, hd⟩
      rw [hmem] at hm
      cases m with
      | left b => exact .inl ⟨b, hm.1, hm.2, (Option.some.inj hd).symm⟩
      | right f => exact .inr (.inl ⟨f, hm.1, hm.2, (Option.some.inj hd).symm⟩)
      | both b f => exact .inr (.inr ⟨b, hm.1, f, hm.2.1, hm.2.2, hd⟩)
    · rintro (⟨b, hb, hnone, hd⟩ | ⟨f, hf, hnone, hd⟩ | ⟨b, hb, f, hf, hsame, hd⟩)
      · exact ⟨.left b, (hmem _).mpr ⟨hb, hnone⟩, congrArg some hd.symm⟩
      · exact ⟨.right f, (hmem _).mpr ⟨hf, hnone⟩, congrArg some hd.symm⟩
      · exact ⟨.both b f, (hmem _).mpr ⟨hb, hf, hsame⟩, hd⟩

section Sample

def formulaAt (address : CellAddress) (h : CellAddress.parse address.original = some address)
    (formula : String) : RawCell := ⟨address, h, none, some formula, none⟩

theorem parse_a1 : CellAddress.parse "A1" = some ⟨1, 1, "A1"⟩ := by decide

def oldA1 : RawCell := formulaAt ⟨1, 1, "A1"⟩ parse_a1 "B1"
def newA1 : RawCell := formulaAt ⟨1, 1, "A1"⟩ parse_a1 "C1"
def newB2 : RawCell := formulaAt ⟨2, 2, "B2"⟩ (by decide) "A1"

/-- A formula that is edited and a cell that is added. -/
theorem diff_streams_edit_and_addition :
    ∃ diffs, diffStreams exactRounding [.ok oldA1] [.ok newA1, .ok newB2] =
        (.ok diffs : Except Unit (List CellDiff)) ∧
      addedCell newB2 ∈ diffs ∧
      .modified "A1" .formulaEdit none none (some "B1") (some "C1") none none ∈ diffs := by
  have hpositions : oldA1.position = toLex (1, 1) ∧ newA1.position = toLex (1, 1) ∧
      newB2.position = toLex (2, 2) := ⟨rfl, rfl, rfl⟩
  have hlt : newA1.position < newB2.position := by
    rw [hpositions.2.1, hpositions.2.2, Prod.Lex.toLex_lt_toLex]
    exact .inl (by decide)
  have hexact := diff_streams_exact exactRounding (ε := Unit) [oldA1] [newA1, newB2]
    (List.pairwise_singleton _ _) (List.pairwise_pair.mpr hlt)
  obtain ⟨diffs, hdiffs, _, hmem⟩ := hexact.1
  refine ⟨diffs, hdiffs, ?_, ?_⟩
  · rw [hmem]
    refine .inr (.inl ⟨newB2, by simp, ?_, rfl⟩)
    intro b hb
    rw [List.mem_singleton.mp hb, hpositions.1, hpositions.2.2]
    decide
  · rw [hmem]
    exact .inr (.inr ⟨oldA1, by simp, newA1, by simp, rfl, rfl⟩)

end Sample

/-- The entries of one place, with the streams exchanged. -/
inductive CellDiff.Mirrors : CellDiff → CellDiff → Prop
  | added (address value formula) :
    Mirrors (.added address value formula) (.deleted address value)
  | deleted (address value formula) :
    Mirrors (.deleted address value) (.added address value formula)
  | modified {address address' : String} (subtype value value' formula formula' style style')
    (hplace : (CellAddress.parse address).map CellAddress.key =
      (CellAddress.parse address').map CellAddress.key) :
    Mirrors (.modified address subtype value value' formula formula' style style')
      (.modified address' subtype value' value formula' formula style' style)

section Mirror
variable {rounding : Rounding}

theorem valuesEqual_comm (hround : ∀ q, (rounding.round (-q)).abs = (rounding.round q).abs)
    (a b : Option String) : valuesEqual rounding a b = valuesEqual rounding b a := by
  cases a with
  | none => cases b <;> rfl
  | some s =>
    cases b with
    | none => rfl
    | some t =>
      simp only [valuesEqual]
      cases parseF64 rounding s with
      | none => cases parseF64 rounding t <;> exact Bool.beq_comm
      | some x =>
        cases parseF64 rounding t with
        | none => exact Bool.beq_comm
        | some y =>
          dsimp only
          rw [F64.abs_sub_comm hround]

theorem changeKind_comm (hround : ∀ q, (rounding.round (-q)).abs = (rounding.round q).abs)
    (base fork : RawCell) : changeKind rounding base fork = changeKind rounding fork base := by
  have hformulas : decide (base.formula ≠ fork.formula) = decide (fork.formula ≠ base.formula) :=
    decide_eq_decide.mpr ne_comm
  have hstyles : decide (base.styleId ≠ fork.styleId) = decide (fork.styleId ≠ base.styleId) :=
    decide_eq_decide.mpr ne_comm
  unfold changeKind
  rw [valuesEqual_comm hround, hformulas, hstyles]
  by_cases hformula : base.formula = fork.formula
  · rw [hformula]
  · simp [Ne.symm hformula]

theorem compareCells_mirrored (hround : ∀ q, (rounding.round (-q)).abs = (rounding.round q).abs)
    {base fork : RawCell} (hplace : base.position = fork.position) :
    Option.Rel CellDiff.Mirrors (compareCells rounding base fork)
      (compareCells rounding fork base) := by
  unfold compareCells
  rw [changeKind_comm hround fork base]
  cases changeKind rounding base fork with
  | none => exact .none
  | some subtype =>
    simp only [Option.map_some, ne_comm (a := fork.styleId)]
    refine .some (.modified _ _ _ _ _ _ _ ?_)
    rw [base.parsed, fork.parsed]
    exact congrArg some hplace.symm

/-- The differences of two sheets are those of the other direction, seen from behind. -/
theorem diff_streams_mirrored (rounding : Rounding)
    (hround : ∀ q, (rounding.round (-q)).abs = (rounding.round q).abs) {ε : Type}
    (base fork : List RawCell) :
    ∃ there back, diffStreams rounding (base.map Except.ok) (fork.map (Except.ok (ε := ε))) =
        .ok there ∧
      diffStreams rounding (fork.map Except.ok) (base.map (Except.ok (ε := ε))) = .ok back ∧
      List.Forall₂ CellDiff.Mirrors there back := by
  refine ⟨_, _, diffLoop_ok [] base fork, diffLoop_ok [] fork base, ?_⟩
  rw [List.nil_append, List.nil_append]
  refine List.rel_filterMap (R := fun m m' => Option.Rel CellDiff.Mirrors
    (diffOf rounding m) (diffOf rounding m')) (fun _ _ h => h) ?_
  refine walk_mirrored (fun b => ?_) (fun f => ?_) (fun b f hplace => ?_) base fork
  · exact .some (.deleted _ _ _)
  · exact .some (.added _ _ _)
  · exact compareCells_mirrored hround hplace

theorem exactRounding_abs (q : ℚ) :
    (exactRounding.round (-q)).abs = (exactRounding.round q).abs := by
  have hneg (q : ℚ) (h : Representable q) : Representable (-q) := by
    obtain ⟨m, e, hm, he, he', hq⟩ := h
    exact ⟨-m, e, by rwa [abs_neg], he, he', by rw [hq, Int.cast_neg, neg_mul]⟩
  by_cases h : Representable q
  · simp [exactRounding, h, hneg q h, F64.abs]
  · have hback : ¬ Representable (-q) := fun hq => h (neg_neg q ▸ hneg _ hq)
    simp [exactRounding, h, hback]

theorem diff_streams_edit_mirrored :
    ∃ there back, diffStreams exactRounding ([oldA1].map Except.ok) ([newA1, newB2].map
        (Except.ok (ε := Unit))) = .ok there ∧
      diffStreams exactRounding ([newA1, newB2].map Except.ok) ([oldA1].map
        (Except.ok (ε := Unit))) = .ok back ∧
      List.Forall₂ CellDiff.Mirrors there back :=
  diff_streams_mirrored exactRounding exactRounding_abs [oldA1] [newA1, newB2]

end Mirror

end AgentSpreadsheet.Diff
