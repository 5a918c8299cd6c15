import AgentSpreadsheet.Legacy.Store
import AgentSpreadsheet.Reads.Cells
import Mathlib.Algebra.Order.Floor.Semiring
import Mathlib.Algebra.Order.Ring.Abs
import Mathlib.Data.Rat.Floor

/-! The number formatter of the renderer, over exact numbers. A code has sections for the signs; a
section is read as tokens, and its digits are put out at the first placeholder. -/
namespace AgentSpreadsheet.Render
open Reads (fromStrRadix)

def maxAbs : ℚ := 1000000000000000

structure Rgba where
  red : UInt8
  green : UInt8
  blue : UInt8
  alpha : UInt8
  deriving DecidableEq, Repr

inductive Token where
  | zero
  | hash
  | question
  | point
  | comma
  | percent
  | exponent (explicitPlus : Bool)
  | text
  | literal (c : Char)
  deriving DecidableEq, Repr

def Token.isDigit : Token → Bool
  | zero | hash | question => true
  | _ => false

/-- Where the digits are put out, if they have not been. -/
def Token.isNumeric : Token → Bool
  | zero | hash | question | point | comma => true
  | _ => false

/-- A character of the result, with what put it out. -/
inductive Mark where
  | sign
  | number (c : Char)
  | scale (c : Char)
  | literal (c : Char)
  deriving DecidableEq, Repr

def Mark.char : Mark → Char
  | sign => '-'
  | number c | scale c | literal c => c

structure Formatted where
  marks : List Mark
  color : Option Rgba
  deriving DecidableEq, Repr

def Formatted.text (formatted : Formatted) : String := String.ofList (formatted.marks.map Mark.char)

/-! ### Colors -/

def indexedColors : List String :=
  ["FF000000", "FFFFFFFF", "FFFF0000", "FF00FF00", "FF0000FF", "FFFFFF00", "FFFF00FF", "FF00FFFF",
    "FF000000", "FFFFFFFF", "FFFF0000", "FF00FF00", "FF0000FF", "FFFFFF00", "FFFF00FF", "FF00FFFF",
    "FF800000", "FF008000", "FF000080", "FF808000", "FF800080", "FF008080", "FFC0C0C0", "FF808080",
    "FF9999FF", "FF993366", "FFFFFFCC", "FFCCFFFF", "FF660066", "FFFF8080", "FF0066CC", "FFCCCCFF",
    "FF000080", "FFFF00FF", "FFFFFF00", "FF00FFFF", "FF800080", "FF800000", "FF008080", "FF0000FF",
    "FF00CCFF", "FFCCFFFF", "FFCCFFCC", "FFFFFF99", "FF99CCFF", "FFFF99CC", "FFCC99FF", "FFFFCC99",
    "FF3366FF", "FF33CCCC", "FF99CC00", "FFFFCC00", "FFFF9900", "FFFF6600", "FF666699", "FF969696"]

def fromArgbHex (text : String) : Option Rgba :=
  match (Legacy.trim text).toList.dropWhile (· == '#') with
  | [r1, r2, g1, g2, b1, b2] => do
    some ⟨← fromStrRadix r1 r2, ← fromStrRadix g1 g2, ← fromStrRadix b1 b2, 255⟩
  | [_, _, r1, r2, g1, g2, b1, b2] => do
    some ⟨← fromStrRadix r1 r2, ← fromStrRadix g1 g2, ← fromStrRadix b1 b2, 255⟩
  | _ => none

/-- A decimal number; a leading plus sign is passed over. -/
def parseIndex (digits : List Char) : Option Nat :=
  let digits := if digits.head? = some '+' then digits.tail else digits
  if digits ≠ [] ∧ digits.all Char.isDigit then some (Nat.ofDigitChars 10 digits 0) else none

def colorNames : List (String × Rgba) :=
  [("black", ⟨0, 0, 0, 255⟩), ("white", ⟨255, 255, 255, 255⟩), ("red", ⟨255, 0, 0, 255⟩),
    ("green", ⟨0, 128, 0, 255⟩), ("blue", ⟨0, 0, 255, 255⟩), ("yellow", ⟨255, 255, 0, 255⟩),
    ("magenta", ⟨255, 0, 255, 255⟩), ("cyan", ⟨0, 255, 255, 255⟩)]

def namedColor (body : List Char) : Option Rgba :=
  let lower := body.map Char.toLower
  match colorNames.lookup (String.ofList lower) with
  | some color => some color
  | none =>
    if "color".toList.isPrefixOf lower then do
      let rest := Legacy.trim (String.ofList (lower.drop 5))
      let index ← parseIndex rest.toList
      let entry ← if index = 0 then none else indexedColors[index - 1]?
      fromArgbHex entry
    else none

/-! ### Sections -/

structure SplitState where
  sections : List (List Char)
  current : List Char
  inQuotes : Bool
  inBrackets : Bool

def SplitState.push (state : SplitState) (chars : List Char) : SplitState :=
  { state with current := state.current ++ chars }

def splitFrom : SplitState → List Char → SplitState
  | state, [] => state
  | state, c :: rest =>
    if c = '"' then splitFrom ({ state with inQuotes := !state.inQuotes }.push [c]) rest
    else if c = '\\' ∧ state.inQuotes = false then
      match rest with
      | [] => state.push [c]
      | next :: rest => splitFrom (state.push [c, next]) rest
    else if c = '[' ∧ state.inQuotes = false then
      splitFrom ({ state with inBrackets := true }.push [c]) rest
    else if c = ']' ∧ state.inQuotes = false then
      splitFrom ({ state with inBrackets := false }.push [c]) rest
    else if c = ';' ∧ state.inQuotes = false ∧ state.inBrackets = false then
      splitFrom { state with sections := state.sections ++ [state.current], current := [] } rest
    else splitFrom (state.push [c]) rest

def splitSections (code : String) : Option (List (List Char)) :=
  if code = "" then none
  else
    let state := splitFrom ⟨[], [], false, false⟩ code.toList
    if state.inQuotes || state.inBrackets then none
    else
      let sections := state.sections ++ [state.current]
      if 4 < sections.length then none else some sections

/-- Brackets are read up to their ends while they follow each other; `inside` is what has been read
of one. -/
def takeColorFrom (color : Option Rgba) : (inside : Option (List Char)) → List Char →
    Option (Option Rgba × List Char)
  | none, '[' :: rest => takeColorFrom color (some []) rest
  | none, rest => if '[' ∈ rest then none else some (color, rest)
  | some _, [] => none
  | some body, ']' :: rest => do
    let color ← namedColor body
    takeColorFrom (some color) none rest
  | some body, c :: rest => takeColorFrom color (some (body ++ [c])) rest

/-- The color and the body. Blanks before them are dropped. -/
def takeColor (sectionText : List Char) : Option (Option Rgba × List Char) :=
  takeColorFrom none none (sectionText.dropWhile Legacy.isWhitespace)

/-! ### Tokens -/

/-- Dates, times and fractions. -/
def declinedCharacters : List Char :=
  ['y', 'Y', 'm', 'M', 'd', 'D', 'h', 'H', 's', 'S', 'a', 'A', 'p', 'P', '/']

def plainToken (c : Char) : Option Token :=
  if c = '0' then some .zero
  else if c = '#' then some .hash
  else if c = '?' then some .question
  else if c = '.' then some .point
  else if c = ',' then some .comma
  else if c = '%' then some .percent
  else if c = '@' then some .text
  else if c ∈ declinedCharacters then none
  else some (.literal c)

def tokenizeFrom : (inQuotes : Bool) → List Char → Option (List Token)
  | _, [] => some []
  | true, c :: rest =>
    if c = '"' then tokenizeFrom false rest
    else (tokenizeFrom true rest).map (.literal c :: ·)
  | false, c :: rest =>
    if c = '"' then tokenizeFrom true rest
    else if c = '\\' then
      match rest with
      | [] => none
      | escaped :: rest => (tokenizeFrom false rest).map (.literal escaped :: ·)
    else if c = '_' then
      match rest with
      | [] => none
      | _ :: rest => (tokenizeFrom false rest).map (.literal ' ' :: ·)
    else if c = '*' then
      match rest with
      | [] => none
      | _ :: rest => tokenizeFrom false rest
    else if c = 'E' ∨ c = 'e' then
      match rest with
      | '+' :: rest => (tokenizeFrom false rest).map (.exponent true :: ·)
      | '-' :: rest => (tokenizeFrom false rest).map (.exponent false :: ·)
      | rest => (tokenizeFrom false rest).map (.literal c :: ·)
    else do
      let token ← plainToken c
      let tokens ← tokenizeFrom false rest
      some (token :: tokens)

def tokenize (body : List Char) : Option (List Token) := tokenizeFrom false body

/-! ### Patterns -/

structure ExponentPattern where
  digits : Nat
  explicitPlus : Bool
  deriving DecidableEq, Repr

structure Pattern where
  integerZeros : Nat := 0
  integerPlaces : Nat := 0
  decimalTokens : List Token := []
  grouping : Bool := false
  percentCount : Nat := 0
  exponent : Option ExponentPattern := none
  deriving DecidableEq, Repr

structure Analysis where
  pattern : Pattern := {}
  exponentDigits : Nat := 0
  seenPoint : Bool := false
  seenDigit : Bool := false
  deriving DecidableEq, Repr

def Analysis.step (analysis : Analysis) (token : Token) (next : Option Token) : Option Analysis :=
  let pattern := analysis.pattern
  match token with
  | .zero | .hash | .question =>
    let analysis := { analysis with seenDigit := true }
    if pattern.exponent.isSome then
      some { analysis with exponentDigits := analysis.exponentDigits + 1 }
    else if analysis.seenPoint then
      some { analysis with
        pattern := { pattern with decimalTokens := pattern.decimalTokens ++ [token] } }
    else some { analysis with
      pattern := { pattern with
        integerPlaces := pattern.integerPlaces + 1
        integerZeros := if token = .zero then pattern.integerZeros + 1 else pattern.integerZeros } }
  | .point =>
    if analysis.seenPoint || pattern.exponent.isSome then none
    else some { analysis with seenPoint := true }
  | .comma =>
    if !analysis.seenDigit || !next.any Token.isDigit then none
    else some { analysis with pattern := { pattern with grouping := true } }
  | .percent =>
    some { analysis with pattern := { pattern with percentCount := pattern.percentCount + 1 } }
  | .exponent explicitPlus =>
    if pattern.exponent.isSome then none
    else some { analysis with pattern := { pattern with exponent := some ⟨0, explicitPlus⟩ } }
  | .text => none
  | .literal _ => some analysis

def analyzeFrom : Analysis → List Token → Option Analysis
  | analysis, [] => some analysis
  | analysis, token :: rest => do
    let analysis ← analysis.step token rest.head?
    analyzeFrom analysis rest

def analyze (tokens : List Token) : Option Pattern := do
  let analysis ← analyzeFrom {} tokens
  if !analysis.seenDigit then none
  else
    match analysis.pattern.exponent with
    | none => some analysis.pattern
    | some exponent =>
      if analysis.exponentDigits = 0 then none
      else some { analysis.pattern with
        exponent := some { exponent with digits := analysis.exponentDigits } }

/-! ### Digits -/

/-- The nearest number, and of two the one away from zero. -/
def roundAway (x : ℚ) : ℤ := if 0 ≤ x then ⌊x + 1 / 2⌋ else -⌊-x + 1 / 2⌋

/-- A count of the last places, as digits before and after the point. -/
def fixedDigits (count places : Nat) : List Char × List Char :=
  (Nat.toDigits 10 (count / 10 ^ places),
    if places = 0 then [] else (Nat.toDigits 10 (count % 10 ^ places)).leftpad places '0')

def groupFrom (count : Nat) : (index : Nat) → List Char → List Char
  | _, [] => []
  | index, c :: rest =>
    if 0 < index ∧ (count - index) % 3 = 0 then ',' :: c :: groupFrom count (index + 1) rest
    else c :: groupFrom count (index + 1) rest

def groupThousands (digits : List Char) : List Char := groupFrom digits.length 0 digits

/-- The placeholders after the point with their places, from the last one on. -/
def dropTrailing : List (Token × Nat) → List Char → List Char
  | [], decimal => decimal
  | (token, index) :: rest, decimal =>
    if token = .hash ∧ decimal[index]? = some '0' then dropTrailing rest (decimal.take index)
    else if token = .question ∧ decimal[index]? = some '0' then
      if index + 1 = decimal.length then dropTrailing rest (decimal.set index ' ') else decimal
    else decimal

def integerDigits (pattern : Pattern) (raw : List Char) : List Char :=
  let integer := raw.dropWhile (· == '0')
  let padded := List.replicate (pattern.integerZeros - integer.length) '0' ++ integer
  if padded = [] ∧ pattern.integerZeros = 0 ∧ 0 < pattern.integerPlaces ∧
      pattern.decimalTokens.length = 0 then ['0']
  else padded

def renderFixed (value : ℚ) (pattern : Pattern) : Option (List Char × List Char) :=
  let places := pattern.decimalTokens.length
  let count := roundAway (value * 10 ^ places)
  if maxAbs ≤ (count : ℚ) / 10 ^ places then none
  else
    let raw := fixedDigits count.toNat places
    let integer := integerDigits pattern raw.1
    some (if pattern.grouping then groupThousands integer else integer,
      dropTrailing pattern.decimalTokens.zipIdx.reverse raw.2)

/-! ### Sections -/

/-- What is not placed by placeholders: the general format, and mantissa and exponent. -/
structure NumberTools where
  general : ℚ → List Char
  renderScientific : ℚ → Pattern → ExponentPattern → Option (List Char × List Char × List Char)

def numberBlock (integer decimal : List Char) : List Mark :=
  (if decimal = [] then integer else integer ++ '.' :: decimal).map Mark.number

/-- The tokens in order. Digits come once, at the first placeholder. -/
def emit (integer decimal exponent : List Char) : (emitted : Bool) → List Token →
    Option (List Mark)
  | _, [] => some []
  | emitted, .exponent _ :: rest =>
    (emit integer decimal exponent emitted rest).map (exponent.map Mark.number ++ ·)
  | emitted, .percent :: rest =>
    (emit integer decimal exponent emitted rest).map (.scale '%' :: ·)
  | emitted, .literal c :: rest =>
    (emit integer decimal exponent emitted rest).map (.literal c :: ·)
  | _, .text :: _ => none
  | true, _ :: rest => emit integer decimal exponent true rest
  | false, _ :: rest =>
    (emit integer decimal exponent true rest).map (numberBlock integer decimal ++ ·)

section Emit
variable (integer decimal exponent : List Char) (emitted : Bool) (rest : List Token)

theorem emit_nil : emit integer decimal exponent emitted [] = some [] := by
  cases emitted <;> rfl

theorem emit_percent : emit integer decimal exponent emitted (.percent :: rest) =
    (emit integer decimal exponent emitted rest).map (.scale '%' :: ·) := by
  cases emitted <;> rfl

theorem emit_literal (c : Char) : emit integer decimal exponent emitted (.literal c :: rest) =
    (emit integer decimal exponent emitted rest).map (.literal c :: ·) := by
  cases emitted <;> rfl

theorem emit_numeric {token : Token} (h : token.isNumeric = true) :
    emit integer decimal exponent emitted (token :: rest) =
      if emitted = true then emit integer decimal exponent true rest
      else (emit integer decimal exponent true rest).map (numberBlock integer decimal ++ ·) := by
  cases token with
  | zero | hash | question | point | comma => cases emitted <;> rfl
  | _ => contradiction

end Emit

def emitPlain : List Token → Option (List Mark)
  | [] => some []
  | .literal c :: rest => (emitPlain rest).map (.literal c :: ·)
  | .percent :: rest => (emitPlain rest).map (.scale '%' :: ·)
  | _ => none

def trimBlanks (text : List Char) : List Char :=
  ((text.dropWhile Legacy.isWhitespace).reverse.dropWhile Legacy.isWhitespace).reverse

section Render
variable (tools : NumberTools)

def renderSection (sectionText : List Char) (magnitude : ℚ) (forceNegativeSign : Bool) :
    Option Formatted := do
  let (color, body) ← takeColor sectionText
  let trimmed := trimBlanks body
  if trimmed.map Char.toLower = "general".toList then
    let digits := (tools.general magnitude).map Mark.number
    some ⟨if forceNegativeSign && magnitude ≠ 0 then .sign :: digits else digits, color⟩
  else if trimmed = [] then some ⟨[], color⟩
  else
    let tokens ← tokenize body
    if !tokens.any Token.isDigit then
      let marks ← emitPlain tokens
      some ⟨marks, color⟩
    else
      let pattern ← analyze tokens
      let value := magnitude * 100 ^ pattern.percentCount
      let (integer, decimal, exponent) ← match pattern.exponent with
        | some exponent => tools.renderScientific value pattern exponent
        | none => (renderFixed value pattern).map fun digits => (digits.1, digits.2, [])
      let marks ← emit integer decimal exponent false tokens
      let signed := forceNegativeSign && (value ≠ 0 || integer ≠ [])
      some ⟨if signed then .sign :: marks else marks, color⟩

/-- The section for the sign of a value, and whether a sign is to be put out with it. -/
def chosenSection (value : ℚ) (code : String) : Option (List Char × Bool) := do
  match ← splitSections code with
  | [] => none
  | [only] => some (only, value < 0)
  | [positive, negative] => some (if value < 0 then negative else positive, false)
  | positive :: negative :: zero :: _ =>
    some (if 0 < value then positive else if value < 0 then negative else zero, false)

def formatNumber (value : ℚ) (code : String) : Option Formatted :=
  if maxAbs ≤ |value| then none
  else do
    let (sectionText, forceNegativeSign) ← chosenSection value code
    renderSection tools sectionText |value| forceNegativeSign

end Render

end AgentSpreadsheet.Render
