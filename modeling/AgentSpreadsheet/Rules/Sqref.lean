import AgentSpreadsheet.Analysis.AddressOrder
import AgentSpreadsheet.Sheets.RelocationExact
import AgentSpreadsheet.Sheets.RenameExact
import Mathlib.Data.List.Chain

/-! The references of rules. A reference names ranges, with spaces between them; the code compares
references without their spaces. -/
namespace AgentSpreadsheet.Rules
open Library Sheets

def withoutSpaces (text : List Char) : List Char := text.filter (· ≠ ' ')

/-! ### What a reference denotes -/

def words (text : List Char) : List (List Char) := (text.splitOn ' ').filter (· ≠ [])

def pieceText (piece : A1Piece) : List Char := (piece.text a1Coordinates).toList

def Denotes (text : List Char) (cells : Set Sheets.Cell) : Prop :=
  ∃ pieces, (∀ piece ∈ pieces, piece.Valid) ∧ words text = pieces.map pieceText ∧
    cells = referenceCells pieces

def trimSpaces (text : List Char) : List Char :=
  ((text.dropWhile (· = ' ')).reverse.dropWhile (· = ' ')).reverse

/-- Without the spaces next to a colon. -/
def tightened (text : List Char) : List Char :=
  [':'].intercalate ((text.splitOn ':').map trimSpaces)

def targetText (target : String) : List Char :=
  tightened (Analysis.toAsciiUppercase (Legacy.trim target)).toList

def NamesRange (target : String) (piece : A1Piece) : Prop :=
  piece.Valid ∧ words (targetText target) = [pieceText piece]

/-! ### Corners -/

section Corners
variable {corner : Corner}

def cornerChars (corner : Corner) : List Char := (corner.text a1Coordinates).toList

/-- After a digit comes a digit or a colon. -/
def Tidy (text : List Char) : Prop :=
  text.IsChain fun c d => c.isDigit = true → d.isDigit = true ∨ d = ':'

structure CornerFacts (corner : Corner) : Prop where
  colon : ':' ∉ cornerChars corner
  tidy : Tidy (cornerChars corner)
  column : (∃ c ∈ cornerChars corner, c.isUpper = true) ↔ corner.col.isSome = true
  row : (∃ c ∈ cornerChars corner, c.isDigit = true) ↔ corner.row.isSome = true
  first : ∃ c, (cornerChars corner).head? = some c ∧ (c.isDigit = true → corner.col = none)
  last : corner.row.isSome = true → ∃ c, (cornerChars corner).getLast? = some c ∧ c.isDigit = true

theorem tidy_of_no_digit {text : List Char} (h : ∀ c ∈ text, c.isDigit = false) : Tidy text := by
  apply List.isChain_iff_forall_rel_of_append_cons_cons.mpr
  intro c d before after htext hdigit
  have hc := h c (by rw [htext]; simp)
  rw [hc] at hdigit
  contradiction

theorem tidy_digits {text : List Char} (h : ∀ c ∈ text, c.isDigit = true) : Tidy text := by
  apply List.isChain_iff_forall_rel_of_append_cons_cons.mpr
  intro c d before after htext _
  exact Or.inl (h d (by rw [htext]; simp))

theorem tidy_append {before after : List Char} : Tidy (before ++ after) ↔
    Tidy before ∧ Tidy after ∧ ∀ c ∈ before.getLast?, ∀ d ∈ after.head?,
      c.isDigit = true → d.isDigit = true ∨ d = ':' := List.isChain_append

/-- A letter of a column with the dollar sign before it. -/
def colPart : Option (Nat × Bool) → List Char
  | none => []
  | some (col, lock) => (lockText lock).toList ++ columnName 8 col

def rowPart : Option (Nat × Bool) → List Char
  | none => []
  | some (row, lock) => (lockText lock).toList ++ Nat.toDigits 10 row

theorem cornerChars_eq (corner : Corner) :
    cornerChars corner = colPart corner.col ++ rowPart corner.row := by
  obtain ⟨col, row⟩ := corner
  have hdigits (row : Nat) : (toString row).toList = Nat.toDigits 10 row := by
    change (Nat.repr row).toList = _
    rw [Nat.repr, String.toList_ofList]
  cases col <;> cases row <;>
    simp [cornerChars, Corner.text, a1Coordinates, colPart, rowPart, hdigits]

theorem lockText_cases (lock : Bool) : ∀ c ∈ (lockText lock).toList, c = '$' := by
  cases lock with
  | true =>
    intro c hc
    exact List.mem_singleton.mp hc
  | false => exact fun c hc => absurd hc List.not_mem_nil

theorem colPart_chars {col : Option (Nat × Bool)} :
    ∀ c ∈ colPart col, c.isDigit = false ∧ c ≠ ':' := by
  intro c hc
  cases col with
  | none => exact absurd hc List.not_mem_nil
  | some pair =>
    rcases List.mem_append.mp hc with hc | hc
    · rw [lockText_cases _ c hc]
      decide
    · have hupper := columnName_upper 8 _ c hc
      exact ⟨not_isDigit_of_isUpper hupper, (upper_plain hupper).2.2.1⟩

theorem rowPart_chars {row : Option (Nat × Bool)} :
    ∀ c ∈ rowPart row, c.isUpper = false ∧ c ≠ ':' := by
  intro c hc
  cases row with
  | none => exact absurd hc List.not_mem_nil
  | some pair =>
    rcases List.mem_append.mp hc with hc | hc
    · rw [lockText_cases _ c hc]
      decide
    · have hplain := digits_plain pair.1 c hc
      exact ⟨hplain.1, hplain.2.2.2.1⟩

theorem rowPart_tidy (row : Option (Nat × Bool)) : Tidy (rowPart row) := by
  cases row with
  | none => exact List.isChain_nil
  | some pair =>
    apply tidy_append.mpr
    refine ⟨tidy_of_no_digit fun c hc => by rw [lockText_cases _ c hc]; decide,
      tidy_digits fun c hc => Nat.isDigit_of_mem_toDigits (by decide) (by decide) hc, ?_⟩
    intro c hc d _ hdigit
    rw [lockText_cases _ c (List.mem_of_getLast? hc)] at hdigit
    exact absurd hdigit (by decide)

theorem toDigits_last (row : Nat) :
    ∃ c, (Nat.toDigits 10 row).getLast? = some c ∧ c.isDigit = true := by
  have hne : Nat.toDigits 10 row ≠ [] := Nat.toDigits_ne_nil
  exact ⟨_, List.getLast?_eq_getLast_of_ne_nil hne,
    Nat.isDigit_of_mem_toDigits (by decide) (by decide) (List.getLast_mem hne)⟩

theorem colPart_some {col : Nat} (lock : Bool) (hpos : 1 ≤ col)
    (hle : col ≤ StructureAxis.col.maxValue) :
    ∃ c rest, colPart (some (col, lock)) = c :: rest ∧
      ∃ d ∈ colPart (some (col, lock)), d.isUpper = true := by
  obtain ⟨c, letters, hname, -, hupper⟩ := columnName_letters hpos hle
  have hc := hupper c List.mem_cons_self
  unfold colPart
  dsimp only
  rw [hname]
  cases lock with
  | true => exact ⟨_, _, rfl, c, by simp, hc⟩
  | false => exact ⟨_, _, rfl, c, by simp, hc⟩

theorem rowPart_last (row : Nat) (lock : Bool) :
    ∃ c, (rowPart (some (row, lock))).getLast? = some c ∧ c.isDigit = true := by
  obtain ⟨c, hlast, hdigit⟩ := toDigits_last row
  unfold rowPart
  rw [List.getLast?_append, hlast]
  exact ⟨c, rfl, hdigit⟩

theorem cornerFacts (h : corner.Inside) : CornerFacts corner := by
  obtain ⟨col, row⟩ := corner
  have hchars : cornerChars ⟨col, row⟩ = colPart col ++ rowPart row := cornerChars_eq _
  have hcolumn (pair : Nat × Bool) (hcol : col = some pair) :
      ∃ c rest, colPart (some pair) = c :: rest ∧ ∃ d ∈ colPart (some pair), d.isUpper = true := by
    have hbounds := h.bounded .col pair.1 pair.2 hcol
    exact colPart_some pair.2 hbounds.1 hbounds.2
  constructor
  · rw [hchars]
    intro hcolon
    rcases List.mem_append.mp hcolon with hcolon | hcolon
    · exact (colPart_chars _ hcolon).2 rfl
    · exact (rowPart_chars _ hcolon).2 rfl
  · rw [hchars]
    refine tidy_append.mpr ⟨tidy_of_no_digit fun c hc => (colPart_chars c hc).1, rowPart_tidy _, ?_⟩
    intro c hc d _ hdigit
    rw [(colPart_chars c (List.mem_of_getLast? hc)).1] at hdigit
    contradiction
  · rw [hchars]
    constructor
    · intro ⟨c, hc, hupper⟩
      rcases List.mem_append.mp hc with hc | hc
      · cases col with
        | none => exact absurd hc List.not_mem_nil
        | some pair => rfl
      · rw [(rowPart_chars c hc).1] at hupper
        contradiction
    · intro hsome
      cases col with
      | none => contradiction
      | some pair =>
        obtain ⟨_, _, _, d, hd, hupper⟩ := hcolumn pair rfl
        exact ⟨d, List.mem_append_left _ hd, hupper⟩
  · rw [hchars]
    constructor
    · intro ⟨c, hc, hdigit⟩
      rcases List.mem_append.mp hc with hc | hc
      · rw [(colPart_chars c hc).1] at hdigit
        contradiction
      · cases row with
        | none => exact absurd hc List.not_mem_nil
        | some pair => rfl
    · intro hsome
      cases row with
      | none => contradiction
      | some pair =>
        obtain ⟨c, hlast, hdigit⟩ := rowPart_last pair.1 pair.2
        exact ⟨c, List.mem_append_right _ (List.mem_of_getLast? hlast), hdigit⟩
  · rw [hchars]
    cases col with
    | none =>
      cases row with
      | none => exact absurd ⟨rfl, rfl⟩ h.present
      | some pair =>
        obtain ⟨c, hlast, _⟩ := rowPart_last pair.1 pair.2
        cases hpart : rowPart (some pair) with
        | nil =>
          rw [hpart] at hlast
          contradiction
        | cons d rest => exact ⟨d, rfl, fun _ => rfl⟩
    | some pair =>
      obtain ⟨c, rest, hpart, _⟩ := hcolumn pair rfl
      rw [hpart]
      refine ⟨c, rfl, fun hdigit => ?_⟩
      rw [(colPart_chars c (hpart ▸ List.mem_cons_self)).1] at hdigit
      contradiction
  · intro hsome
    cases row with
    | none => contradiction
    | some pair =>
      obtain ⟨c, hlast, hdigit⟩ := rowPart_last pair.1 pair.2
      rw [hchars, List.getLast?_append, hlast]
      exact ⟨c, rfl, hdigit⟩

end Corners

/-! ### References without their spaces -/

section Pieces
variable {piece : A1Piece} {pieces : List A1Piece}

theorem pieceText_single (cell : Corner) : pieceText (.single cell) = cornerChars cell := rfl

theorem pieceText_range (first last : Corner) :
    pieceText (.range first last) = cornerChars first ++ ':' :: cornerChars last := by
  simp [pieceText, A1Piece.text, cornerChars]

theorem pieceText_tidy (h : piece.Valid) : Tidy (pieceText piece) := by
  cases piece with
  | single cell => exact (cornerFacts h.1).tidy
  | range first last =>
    have hfirst := cornerFacts h.1.1
    have hlast := cornerFacts h.1.2
    rw [pieceText_range]
    refine tidy_append.mpr ⟨hfirst.tidy, ?_, ?_⟩
    · apply (@tidy_append [':'] (cornerChars last)).mpr
      refine ⟨List.isChain_singleton _, hlast.tidy, ?_⟩
      intro c hc d _ hdigit
      rw [List.getLast?_singleton, Option.mem_def, Option.some.injEq] at hc
      rw [← hc] at hdigit
      exact absurd hdigit (by decide)
    · intro c _ d hd _
      rw [List.head?_cons, Option.mem_def, Option.some.injEq] at hd
      exact Or.inr hd.symm

theorem col_none_after {before after : List Char} {corner : Corner} (hcorner : corner.Inside)
    (hdigit : ∃ c, before.getLast? = some c ∧ c.isDigit = true)
    (htidy : Tidy (before ++ (cornerChars corner ++ after))) : corner.col = none := by
  have hfacts := cornerFacts hcorner
  obtain ⟨c, hlast, hdigit⟩ := hdigit
  obtain ⟨d, hhead, hcol⟩ := hfacts.first
  have hstep := (tidy_append.mp htidy).2.2 c hlast d (by rw [List.head?_append, hhead]; rfl) hdigit
  rcases hstep with hd | hd
  · exact hcol hd
  · rw [hd] at hhead
    exact absurd (List.mem_of_head? hhead) hfacts.colon

theorem rows_after_digit {before after : List Char} {next : A1Piece} (hnext : next.Valid)
    (hdigit : ∃ c, before.getLast? = some c ∧ c.isDigit = true)
    (htidy : Tidy (before ++ (pieceText next ++ after))) :
    ∃ first last, next = .range first last ∧ first.col = none := by
  cases next with
  | single cell =>
    have hcol := col_none_after hnext.1 hdigit htidy
    have hsome := hnext.2.1
    rw [hcol] at hsome
    contradiction
  | range first last =>
    rw [pieceText_range, List.append_assoc] at htidy
    exact ⟨first, last, rfl, col_none_after hnext.1.1 hdigit htidy⟩

theorem around_colon {before before' after after' : List Char} (hbefore : ':' ∉ before)
    (hbefore' : ':' ∉ before') (h : before ++ ':' :: after = before' ++ ':' :: after') :
    before = before' ∧ after = after' := by
  have hspan := congrArg (List.span (· ≠ ':')) h
  rw [span_append hbefore, span_append hbefore'] at hspan
  simpa using hspan

theorem range_present {first last : Corner} (h : (A1Piece.range first last).Valid) :
    (first.col.isSome = last.col.isSome) ∧ (first.row.isSome = last.row.isSome) :=
  ⟨h.2 .col, h.2 .row⟩

theorem range_of_colon (h : ':' ∈ pieceText piece) (hpiece : piece.Valid) :
    ∃ first last, piece = .range first last := by
  cases piece with
  | single cell => exact absurd h (cornerFacts hpiece.1).colon
  | range first last => exact ⟨first, last, rfl⟩

theorem single_alone {cell : Corner} {rest : List A1Piece} (hcell : (A1Piece.single cell).Valid)
    (hrest : ∀ other ∈ rest, other.Valid) (hpiece : piece.Valid)
    (h : cornerChars cell ++ (rest.map pieceText).flatten = pieceText piece) : rest = [] := by
  cases rest with
  | nil => rfl
  | cons next rest =>
    exfalso
    have hfacts := cornerFacts hcell.1
    have htidy := pieceText_tidy hpiece
    rw [← h, List.map_cons, List.flatten_cons] at htidy
    obtain ⟨first, last, hnext, hcol⟩ := rows_after_digit (hrest next List.mem_cons_self)
      (hfacts.last hcell.2.2) htidy
    have hvalid := hrest next List.mem_cons_self
    rw [hnext] at hvalid
    have hpresent := range_present hvalid
    have hfirst := cornerFacts hvalid.1.1
    have hlast := cornerFacts hvalid.1.2
    have hrow : last.row.isSome = true := by
      rw [← hpresent.2, Option.isSome_iff_ne_none]
      exact fun hnone => hvalid.1.1.present ⟨hcol, hnone⟩
    have htext : (cornerChars cell ++ cornerChars first) ++
        ':' :: (cornerChars last ++ (rest.map pieceText).flatten) = pieceText piece := by
      rw [← h, List.map_cons, List.flatten_cons, hnext, pieceText_range]
      simp
    obtain ⟨first', last', hrange⟩ := range_of_colon (by rw [← htext]; simp) hpiece
    rw [hrange] at hpiece
    have hfirst' := cornerFacts hpiece.1.1
    have hlast' := cornerFacts hpiece.1.2
    have hnocolon : ':' ∉ cornerChars cell ++ cornerChars first := fun hmem =>
      (List.mem_append.mp hmem).elim hfacts.colon hfirst.colon
    rw [hrange, pieceText_range] at htext
    have hparts := around_colon hnocolon hfirst'.colon htext
    -- the cell's column stands in the first corner, so there is a column in the second
    have hcol' : last'.col.isSome = true := by
      rw [← (range_present hpiece).1, ← hfirst'.column, ← hparts.1]
      obtain ⟨c, hc, hupper⟩ := hfacts.column.mpr hcell.2.1
      exact ⟨c, List.mem_append_left _ hc, hupper⟩
    obtain ⟨c, hc, hupper⟩ := hlast'.column.mpr hcol'
    rw [← hparts.2] at hc
    rcases List.mem_append.mp hc with hc | hc
    · have hsome := hlast.column.mp ⟨c, hc, hupper⟩
      rw [← hpresent.1, hcol] at hsome
      contradiction
    · cases rest with
      | nil => exact absurd hc List.not_mem_nil
      | cons third rest =>
        have hthird := hrest third (List.mem_cons_of_mem _ List.mem_cons_self)
        have htidy' := hlast'.tidy
        rw [← hparts.2, List.map_cons, List.flatten_cons] at htidy'
        obtain ⟨first'', last'', hrows, _⟩ := rows_after_digit hthird (hlast.last hrow) htidy'
        apply hlast'.colon
        rw [← hparts.2, List.map_cons, List.flatten_cons, hrows, pieceText_range]
        simp

theorem range_alone {first last : Corner} {rest : List A1Piece}
    (hrange : (A1Piece.range first last).Valid) (hrest : ∀ other ∈ rest, other.Valid)
    (hpiece : piece.Valid)
    (h : cornerChars first ++ ':' :: (cornerChars last ++ (rest.map pieceText).flatten) =
      pieceText piece) : rest = [] := by
  cases rest with
  | nil => rfl
  | cons next rest =>
    exfalso
    have hfirst := cornerFacts hrange.1.1
    have hlast := cornerFacts hrange.1.2
    obtain ⟨first', last', hrange'⟩ := range_of_colon (by rw [← h]; simp) hpiece
    rw [hrange'] at hpiece h
    rw [pieceText_range] at h
    have hfirst' := cornerFacts hpiece.1.1
    have hlast' := cornerFacts hpiece.1.2
    have hparts := around_colon hfirst.colon hfirst'.colon h
    have hnext := hrest next List.mem_cons_self
    rw [List.map_cons, List.flatten_cons] at hparts
    cases next with
    | range start stop =>
      apply hlast'.colon
      rw [← hparts.2, pieceText_range]
      simp
    | single cell =>
      have hcell := cornerFacts hnext.1
      -- the cell's row stands in the second corner, so there is a row in the first
      have hrow : last.row.isSome = true := by
        rw [← (range_present hrange).2, ← hfirst.row, hparts.1, hfirst'.row,
          (range_present hpiece).2, ← hlast'.row, ← hparts.2, pieceText_single]
        obtain ⟨c, hc, hdigit⟩ := hcell.row.mpr hnext.2.2
        exact ⟨c, List.mem_append_right _ (List.mem_append_left _ hc), hdigit⟩
      have htidy := hlast'.tidy
      rw [← hparts.2] at htidy
      obtain ⟨_, _, hrows, _⟩ := rows_after_digit hnext (hlast.last hrow) htidy
      contradiction

theorem pieceText_ne_nil (hpiece : piece.Valid) : pieceText piece ≠ [] := by
  intro hnil
  cases piece with
  | single cell =>
    obtain ⟨c, hhead, _⟩ := (cornerFacts hpiece.1).first
    rw [← pieceText_single, hnil] at hhead
    contradiction
  | range first last =>
    rw [pieceText_range] at hnil
    simp at hnil

theorem pieces_eq_singleton (hpieces : ∀ other ∈ pieces, other.Valid) (hpiece : piece.Valid)
    (h : (pieces.map pieceText).flatten = pieceText piece) : pieces = [piece] := by
  cases pieces with
  | nil => exact absurd h.symm (pieceText_ne_nil hpiece)
  | cons other rest =>
    have hother := hpieces other List.mem_cons_self
    have hrest : ∀ next ∈ rest, next.Valid := fun next hnext =>
      hpieces next (List.mem_cons_of_mem _ hnext)
    rw [List.map_cons, List.flatten_cons] at h
    have hnil : rest = [] := by
      cases other with
      | single cell => exact single_alone hother hrest hpiece h
      | range first last =>
        rw [pieceText_range, List.append_assoc] at h
        exact range_alone hother hrest hpiece h
    rw [hnil, List.map_nil, List.flatten_nil, List.append_nil] at h
    rw [hnil, piece_text_injective a1Coordinates_lawful hother.readable hpiece.readable
      (String.ext h)]

end Pieces

/-! ### Spaces -/

section Spaces
variable {text : List Char}

theorem splitOn_flatten (separator : Char) (text : List Char) :
    (text.splitOn separator).flatten = text.filter (· ≠ separator) := by
  induction text with
  | nil => rfl
  | cons c rest ih =>
    rw [List.splitOn_cons_eq_if_modifyHead]
    by_cases hc : c = separator
    · simp [hc, ih]
    · have hne := List.splitOn_ne_nil separator rest
      cases hsplit : rest.splitOn separator with
      | nil => exact absurd hsplit hne
      | cons first others =>
        rw [hsplit] at ih
        simpa [hc] using ih

theorem flatten_words (text : List Char) : (words text).flatten = withoutSpaces text := by
  unfold words withoutSpaces
  rw [List.flatten_filter_ne_nil, splitOn_flatten]

theorem words_one (hne : text ≠ []) (hspace : ' ' ∉ text) : words text = [text] := by
  unfold words
  rw [List.splitOn_eq_singleton hspace]
  simp [hne]

theorem withoutSpaces_of_not_mem (h : ' ' ∉ text) : withoutSpaces text = text := by
  unfold withoutSpaces
  rw [List.filter_eq_self]
  intro c hc
  exact decide_eq_true fun hspace => h (hspace ▸ hc)

theorem not_mem_withoutSpaces (text : List Char) : ' ' ∉ withoutSpaces text := by
  simp [withoutSpaces]

theorem dropSpaces_filter (text : List Char) :
    withoutSpaces (text.dropWhile (· = ' ')) = withoutSpaces text := by
  unfold withoutSpaces
  conv_rhs => rw [← List.takeWhile_append_dropWhile (p := (· = ' ')) (l := text)]
  rw [List.filter_append]
  have hnone : (text.takeWhile (· = ' ')).filter (· ≠ ' ') = [] := by
    rw [List.filter_eq_nil_iff]
    intro c hc
    have hspace := List.mem_takeWhile_imp hc
    simpa using hspace
  rw [hnone, List.nil_append]

theorem trimSpaces_filter (text : List Char) :
    withoutSpaces (trimSpaces text) = withoutSpaces text := by
  have hreverse (text : List Char) : withoutSpaces text.reverse = (withoutSpaces text).reverse :=
    List.filter_reverse
  unfold trimSpaces
  rw [hreverse, dropSpaces_filter, hreverse, List.reverse_reverse, dropSpaces_filter]

theorem withoutSpaces_intercalate (parts : List (List Char)) :
    withoutSpaces ([':'].intercalate parts) = [':'].intercalate (parts.map withoutSpaces) := by
  have hcons (first second : List Char) (others : List (List Char)) :
      [':'].intercalate (first :: second :: others) =
        first ++ [':'] ++ [':'].intercalate (second :: others) :=
    List.intercalate_cons_of_ne_nil (List.cons_ne_nil _ _)
  have happend (before after : List Char) :
      withoutSpaces (before ++ after) = withoutSpaces before ++ withoutSpaces after :=
    List.filter_append _ _
  induction parts with
  | nil => rfl
  | cons part rest ih =>
    cases rest with
    | nil => simp
    | cons next rest =>
      rw [hcons, happend, happend, ih]
      simp only [List.map_cons]
      rw [hcons]
      rfl

theorem withoutSpaces_tightened (text : List Char) :
    withoutSpaces (tightened text) = withoutSpaces text := by
  have hparts : ((text.splitOn ':').map trimSpaces).map withoutSpaces =
      (text.splitOn ':').map withoutSpaces := by
    rw [List.map_map]
    exact List.map_congr_left fun part _ => trimSpaces_filter part
  unfold tightened
  rw [withoutSpaces_intercalate, hparts, ← withoutSpaces_intercalate, List.intercalate_splitOn]

end Spaces

/-! ### Upper case -/

theorem lower_toUpper : ∀ n < 123, 97 ≤ n → (Char.ofNat n).toUpper ≠ ' ' ∧
    (Char.ofNat n).toUpper.toUpper = (Char.ofNat n).toUpper := by decide

theorem toUpper_eq_space {c : Char} : c.toUpper = ' ' ↔ c = ' ' := by
  constructor
  · intro h
    by_cases hlower : c.isLower = true
    · have ⟨hfirst, hlast⟩ := isLower_iff.mp hlower
      have hne := (lower_toUpper c.toNat (by omega) hfirst).1
      rw [Char.ofNat_toNat] at hne
      exact absurd h hne
    · rw [toUpper_of_not_isLower (Bool.eq_false_iff.mpr hlower)] at h
      exact h
  · intro h
    rw [h]
    decide

theorem upper_plain_char {c : Char} (h : c.isUpper = true) : c ≠ ' ' ∧ c.isLower = false := by
  constructor
  · intro hspace
    rw [hspace] at h
    exact absurd h (by decide)
  · exact not_isLower_of_isUpper h

theorem digit_plain_char {c : Char} (h : c.isDigit = true) : c ≠ ' ' ∧ c.isLower = false := by
  constructor
  · intro hspace
    rw [hspace] at h
    exact absurd h (by decide)
  · exact not_isLower_of_isDigit h

theorem cornerChars_plain (corner : Corner) :
    ∀ c ∈ cornerChars corner, c ≠ ' ' ∧ c.isLower = false := by
  intro c hc
  have hlock (lock : Bool) (h : c ∈ (lockText lock).toList) : c ≠ ' ' ∧ c.isLower = false := by
    rw [lockText_cases lock c h]
    decide
  rw [cornerChars_eq] at hc
  rcases List.mem_append.mp hc with hc | hc
  · cases hcol : corner.col with
    | none =>
      rw [hcol] at hc
      exact absurd hc List.not_mem_nil
    | some pair =>
      rw [hcol] at hc
      rcases List.mem_append.mp hc with hc | hc
      · exact hlock _ hc
      · exact upper_plain_char (columnName_upper 8 _ c hc)
  · cases hrow : corner.row with
    | none =>
      rw [hrow] at hc
      exact absurd hc List.not_mem_nil
    | some pair =>
      rw [hrow] at hc
      rcases List.mem_append.mp hc with hc | hc
      · exact hlock _ hc
      · exact digit_plain_char (Nat.isDigit_of_mem_toDigits (by decide) (by decide) hc)

theorem pieceText_plain (piece : A1Piece) :
    ∀ c ∈ pieceText piece, c ≠ ' ' ∧ c.toUpper = c := by
  intro c hc
  have hplain : c ≠ ' ' ∧ c.isLower = false := by
    cases piece with
    | single cell => exact cornerChars_plain cell c hc
    | range first last =>
      rw [pieceText_range] at hc
      rcases List.mem_append.mp hc with hc | hc
      · exact cornerChars_plain first c hc
      · rcases List.mem_cons.mp hc with hc | hc
        · rw [hc]
          decide
        · exact cornerChars_plain last c hc
  exact ⟨hplain.1, toUpper_of_not_isLower hplain.2⟩

def upper (text : List Char) : List Char := text.map Char.toUpper

theorem withoutSpaces_upper (text : List Char) :
    withoutSpaces (upper text) = upper (withoutSpaces text) := by
  unfold withoutSpaces upper
  rw [List.filter_map]
  have hsame : ((fun c : Char => decide (c ≠ ' ')) ∘ Char.toUpper) = fun c => decide (c ≠ ' ') := by
    funext c
    simp [toUpper_eq_space]
  rw [hsame]

theorem upper_upper (text : List Char) : upper (upper text) = upper text := by
  unfold upper
  rw [List.map_map]
  apply List.map_congr_left
  intro c _
  by_cases hlower : c.isLower = true
  · have ⟨hfirst, hlast⟩ := isLower_iff.mp hlower
    have htwice := (lower_toUpper c.toNat (by omega) hfirst).2
    rw [Char.ofNat_toNat] at htwice
    exact htwice
  · rw [Function.comp_apply, toUpper_of_not_isLower (Bool.eq_false_iff.mpr hlower),
      toUpper_of_not_isLower (Bool.eq_false_iff.mpr hlower)]

theorem squeezed_toList (sqref : String) :
    (squeezed sqref).toList = upper (withoutSpaces sqref.toList) := by
  exact String.toList_ofList

theorem withoutSpaces_withoutSpaces (text : List Char) :
    withoutSpaces (withoutSpaces text) = withoutSpaces text :=
  withoutSpaces_of_not_mem (not_mem_withoutSpaces text)

theorem squeezed_squeezed (sqref : String) : squeezed (squeezed sqref) = squeezed sqref := by
  apply String.ext
  rw [squeezed_toList, squeezed_toList, withoutSpaces_upper, withoutSpaces_withoutSpaces,
    upper_upper]

/-! ### Targets -/

section Targets
variable {target sqref : String} {cells cells' : Set Sheets.Cell} {piece : A1Piece}
  {pieces : List A1Piece}

theorem upper_flatten (pieces : List A1Piece) :
    upper (pieces.map pieceText).flatten = (pieces.map pieceText).flatten := by
  unfold upper
  conv_rhs => rw [← List.map_id (pieces.map pieceText).flatten]
  apply List.map_congr_left
  intro c hc
  obtain ⟨text, htext, hc⟩ := List.mem_flatten.mp hc
  obtain ⟨piece, _, hpiece⟩ := List.mem_map.mp htext
  rw [← hpiece] at hc
  exact (pieceText_plain piece c hc).2

theorem key_toList (h : words (targetText target) = pieces.map pieceText) :
    (squeezed (Legacy.trim target)).toList = (pieces.map pieceText).flatten := by
  have hupper : (Analysis.toAsciiUppercase (Legacy.trim target)).toList =
      upper (Legacy.trim target).toList := String.toList_ofList
  rw [← h, flatten_words, squeezed_toList, targetText, withoutSpaces_tightened, hupper,
    withoutSpaces_upper]

theorem referenceCells_singleton (piece : A1Piece) : referenceCells [piece] = piece.cells := by
  simp [referenceCells]

theorem words_pieceText (h : piece.Valid) : words (pieceText piece) = [pieceText piece] :=
  words_one (pieceText_ne_nil h) fun hspace => (pieceText_plain piece _ hspace).1 rfl

theorem key_of_namesRange (h : NamesRange target piece) :
    squeezed (Legacy.trim target) = String.ofList (pieceText piece) := by
  apply String.ext
  rw [String.toList_ofList, @key_toList target [piece] h.2]
  simp

theorem denotes_words {text : List Char} (h : piece.Valid) (hwords : words text = [pieceText piece]) :
    Denotes text cells ↔ cells = piece.cells := by
  constructor
  · intro ⟨pieces, hvalid, hpieces, hcells⟩
    have hone := pieces_eq_singleton hvalid h (by rw [← hpieces, hwords]; simp)
    rw [hcells, hone, referenceCells_singleton]
  · intro hcells
    refine ⟨[piece], fun other hother => ?_, hwords, ?_⟩
    · rw [List.mem_singleton.mp hother]
      exact h
    · rw [hcells, referenceCells_singleton]

theorem denotes_of_key (htarget : NamesRange target piece) (hdenotes : Denotes sqref.toList cells)
    (hkey : squeezed sqref = squeezed (Legacy.trim target)) : cells = piece.cells := by
  obtain ⟨pieces, hvalid, hwords, hcells⟩ := hdenotes
  have htext := congrArg String.toList hkey
  rw [key_of_namesRange htarget, String.toList_ofList, squeezed_toList, ← flatten_words, hwords,
    upper_flatten] at htext
  rw [hcells, pieces_eq_singleton hvalid htarget.1 htext, referenceCells_singleton]

theorem squeezed_ne_nil (h : Legacy.trim target ≠ "") :
    (squeezed (Legacy.trim target)).toList ≠ [] := by
  have htrimmed := (trimmed_trim target).1
  cases htext : (Legacy.trim target).toList with
  | nil => exact absurd (String.ext htext) h
  | cons c rest =>
    have hc := htrimmed c (by rw [htext]; rfl)
    have hspace : c ≠ ' ' := by
      intro hspace
      rw [hspace] at hc
      exact absurd hc (by decide)
    rw [squeezed_toList, htext]
    simp [withoutSpaces, upper, hspace]

theorem namesRange_of_denotes (hblank : Legacy.trim target ≠ "")
    (htarget : Denotes (targetText target) cells)
    (hkey : Denotes (squeezed (Legacy.trim target)).toList cells') :
    ∃ piece, NamesRange target piece := by
  obtain ⟨pieces, hvalid, hwords, _⟩ := htarget
  obtain ⟨pieces', hvalid', hwords', _⟩ := hkey
  have hspace : ' ' ∉ (squeezed (Legacy.trim target)).toList := by
    rw [squeezed_toList, ← withoutSpaces_upper]
    exact not_mem_withoutSpaces _
  rw [words_one (squeezed_ne_nil hblank) hspace] at hwords'
  obtain ⟨piece, hpieces', hpiece⟩ := List.map_eq_singleton_iff.mp hwords'.symm
  have hmem : piece ∈ pieces' := by
    rw [hpieces']
    exact List.mem_cons_self
  have hone := pieces_eq_singleton hvalid (hvalid' piece hmem)
    (by rw [← key_toList hwords, hpiece])
  refine ⟨piece, hvalid' piece hmem, ?_⟩
  rw [hwords, hone]
  rfl

end Targets

end AgentSpreadsheet.Rules
