import AgentSpreadsheet.Legacy.Store
import AgentSpreadsheet.Library.MixedOrder
import Mathlib.Data.String.Basic
import Mathlib.Data.Prod.Lex

/-! The order of the nodes of a trace. Cells of one sheet are compared by row and column, all
else as text. -/
namespace AgentSpreadsheet.Analysis
open Library

def toAsciiUppercase (text : String) : String := String.ofList (text.toList.map Char.toUpper)

/-- One more letter of a column, within 32 bits. -/
def columnDigit (col : Nat) (letter : Char) : Option Nat :=
  let next := col * 26 + (letter.toUpper.toNat - 'A'.toNat + 1)
  if next < 2 ^ 32 then some next else none

def parseU32 (digits : List Char) : Option Nat :=
  let value := Nat.ofDigitChars 10 digits 0
  if digits ≠ [] ∧ digits.all Char.isDigit ∧ value < 2 ^ 32 then some value else none

def dropDollar : List Char → List Char
  | '$' :: rest => rest
  | text => text

def parseAddress (address : String) : Option (Nat × Nat) := do
  let text := dropDollar (Legacy.trim address).toList
  let letters := text.takeWhile Char.isAlpha
  let col ← letters.foldlM columnDigit 0
  let row ← parseU32 (dropDollar (text.dropWhile Char.isAlpha))
  if letters ≠ [] ∧ 0 < row then some (col, row) else none

/-- The sheet part and the rest, at the last exclamation mark. -/
def splitSheetAndCell (address : String) : Option String × String :=
  let text := address.toList
  if '!' ∈ text then
    (some (String.ofList (text.reverse.dropWhile (· ≠ '!')).tail.reverse),
      String.ofList (text.reverse.takeWhile (· ≠ '!')).reverse)
  else (none, address)

def isQuote (c : Char) : Bool := c == '\'' || c == '"'

def trimQuotes (text : List Char) : List Char :=
  ((text.dropWhile isQuote).reverse.dropWhile isQuote).reverse

def cleanSheetName (sheet : String) : String :=
  let trimmed := trimQuotes sheet.toList
  String.ofList (trimQuotes (trimmed.reverse.takeWhile (· ≠ ']')).reverse)

def sheetKey (address : String) : String :=
  match (splitSheetAndCell address).1 with
  | some sheet => toAsciiUppercase (cleanSheetName sheet)
  | none => ""

def addressCore (address : String) : String := (splitSheetAndCell address).2

def compareAddresses (left right : String) : Ordering :=
  match compare (sheetKey left) (sheetKey right) with
  | .eq =>
    match parseAddress (toAsciiUppercase (addressCore left)),
      parseAddress (toAsciiUppercase (addressCore right)) with
    | some (lc, lr), some (rc, rr) =>
      ((compare lr rr).then (compare lc rc)).then (compare (addressCore left) (addressCore right))
    | _, _ => compare (addressCore left) (addressCore right)
  | other => other

/-- The nodes of a layer, as they come out of a set in some order, sorted. -/
def sortNodes (nodes : List String) : List String := sortBy compareAddresses nodes

def cellPlace (core : String) : Option (Nat ×ₗ Nat) :=
  (parseAddress (toAsciiUppercase core)).map fun cell => toLex (cell.2, cell.1)

theorem compareAddresses_eq_mixed :
    compareAddresses = mixedCompare sheetKey addressCore cellPlace := by
  funext left right
  unfold compareAddresses mixedCompare cellPlace
  cases compare (sheetKey left) (sheetKey right) with
  | lt => rfl
  | gt => rfl
  | eq =>
    cases parseAddress (toAsciiUppercase (addressCore left)) with
    | none => rfl
    | some l =>
      cases parseAddress (toAsciiUppercase (addressCore right)) with
      | none => rfl
      | some r => rfl

/-- The comparison is a total order of the nodes, and they are sorted alike in whatever order
they come. -/
structure NodesOrdered (nodes : List String) : Prop where
  total : OrdersTotally compareAddresses nodes
  settled : ∀ nodes', nodes'.Perm nodes → sortNodes nodes' = sortNodes nodes

/-- Two nodes with the same sheet key and the same rest are one. -/
def NodesApart (nodes : List String) : Prop :=
  ∀ a ∈ nodes, ∀ b ∈ nodes, sheetKey a = sheetKey b → addressCore a = addressCore b → a = b

/-- No range or name of a sheet has its text between those of two of its cells whose texts are
in the opposite order of their rows and columns. -/
def NoTextBetween (nodes : List String) : Prop :=
  ∀ a ∈ nodes, ∀ b ∈ nodes, ∀ c ∈ nodes, sheetKey a = sheetKey c → sheetKey b = sheetKey c →
    ∀ p q, cellPlace (addressCore a) = some p → cellPlace (addressCore b) = some q →
      cellPlace (addressCore c) = none → p < q →
        ¬ (addressCore b < addressCore c ∧ addressCore c < addressCore a)

/-- The nodes of a layer are ordered exactly when they are told apart and no text stands
between cells in the wrong order. -/
theorem nodesOrdered_iff (nodes : List String) :
    NodesOrdered nodes ↔ NodesApart nodes ∧ NoTextBetween nodes := by
  have htotal : OrdersTotally compareAddresses nodes ↔ NodesApart nodes ∧ NoTextBetween nodes := by
    rw [compareAddresses_eq_mixed]
    exact mixedCompare_total_iff
  constructor
  · intro h
    exact htotal.mp h.total
  · intro h
    have horder := htotal.mpr h
    exact ⟨horder, fun _ hperm => horder.sortBy_eq hperm⟩

/-- Two cells and a range go round in a circle, and cells of two workbooks compare as equal. -/
theorem nodes_not_ordered :
    ¬ NodesOrdered ["A2", "A10", "A10:B900"] ∧
    ¬ NodesOrdered ["[1]RATES!A1", "[2]RATES!A1"] := by
  constructor
  · intro h
    have hgt : compareAddresses "A2" "A10:B900" = .gt := by decide
    exact h.total.trans "A2" (by simp) "A10" (by simp) "A10:B900" (by simp) (by decide) (by decide)
      hgt
  · intro h
    have heq : compareAddresses "[1]RATES!A1" "[2]RATES!A1" = .eq := by
      rw [compareAddresses_eq_mixed]
      exact mixedCompare_eq.mpr ⟨by decide +kernel, by decide +kernel⟩
    have hsame := h.total.same "[1]RATES!A1" (by simp) "[2]RATES!A1" (by simp) heq
    exact absurd hsame (by decide)

example : compareAddresses "B1" "A2" = .lt := by decide

end AgentSpreadsheet.Analysis
