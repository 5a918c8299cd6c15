import AgentSpreadsheet.Analysis.Dependents
import AgentSpreadsheet.Library.Quoted

/-! The formula texts that are reported. The printed text has its pairs of quotes made one, wherever
they stand. -/
namespace AgentSpreadsheet.Analysis
open Library

def unescapeFormulaString (text : String) : String :=
  String.ofList (undoubled '"' text.toList)

/-- A parser with its printer. What is printed is read as the same formula, and the texts of one
formula have equally many quotes: those around its literals, and two for each in one. -/
structure PrintedParser (Ast : Type) extends FormulaParser Ast where
  canonicalFormula : Ast → String
  canonical_eq : ∀ ast, canonical ast = unescapeFormulaString (canonicalFormula ast)
  parse_canonicalFormula : ∀ ast, parse (canonicalFormula ast) = .ok ast
  quoteCount : Ast → Nat
  count_quotes : ∀ text ast, parse text = .ok ast → text.toList.count '"' = quoteCount ast

structure ParsedFormula where
  fingerprint : String
  canonical : String
  isVolatile : Bool
  dependencies : List String
  deriving DecidableEq, Repr

section Reported
variable {Ast : Type} (parser : PrintedParser Ast)

def parsedFromAst (ast : Ast) : ParsedFormula where
  fingerprint := parser.fingerprint ast
  canonical := unescapeFormulaString (parser.canonicalFormula ast)
  isVolatile := parser.containsVolatile ast
  dependencies := (parser.collectReferences ast).map ReferenceType.text

variable {parser}

/-- Losing a quote changes the formula. -/
theorem parse_unescaped_iff (ast : Ast) :
    parser.parse (unescapeFormulaString (parser.canonicalFormula ast)) = .ok ast ↔
      ¬ Adjacent '"' (parser.canonicalFormula ast).toList := by
  constructor
  · intro hparse hadjacent
    have hcount := parser.count_quotes _ _ hparse
    have hprinted := parser.count_quotes _ _ (parser.parse_canonicalFormula ast)
    have hlost := count_undoubled_lt hadjacent
    unfold unescapeFormulaString at hcount
    rw [String.toList_ofList] at hcount
    omega
  · intro halone
    unfold unescapeFormulaString
    rw [undoubled_of_not_adjacent halone, String.ofList_toList]
    exact parser.parse_canonicalFormula ast

variable (parser) in
/-- The formula of a group's first cell, with the group's fingerprint. -/
def PrintedFrom (sheet : Worksheet) (entry : String × FormulaGroupAccumulator) (ast : Ast) : Prop :=
  ∃ cell ∈ sheet.cells, cell.ast parser.toFormulaParser = some ast ∧
    entry.2.addresses.head? = some cell.address ∧ parser.fingerprint ast = entry.1

variable (parser) in
/-- Each group has a formula of one of its cells, and its text is the one that is reported for it. -/
def GroupsReported (sheet : Worksheet) (groups : List (String × FormulaGroupAccumulator)) : Prop :=
  ∀ entry ∈ groups, ∃ ast, PrintedFrom parser sheet entry ast ∧
    entry.2.canonical = (parsedFromAst parser ast).canonical

theorem GroupsReported.addGroup {sheet : Worksheet}
    {groups : List (String × FormulaGroupAccumulator)} (h : GroupsReported parser sheet groups)
    {cell : SheetCell} (hcell : cell ∈ sheet.cells) {ast : Ast}
    (hast : cell.ast parser.toFormulaParser = some ast) :
    GroupsReported parser sheet
      (FormulaGraph.addGroup parser.toFormulaParser cell ast groups) := by
  induction groups with
  | nil =>
    intro entry hentry
    unfold FormulaGraph.addGroup at hentry
    rw [List.mem_singleton.mp hentry]
    exact ⟨ast, ⟨cell, hcell, hast, rfl, rfl⟩, parser.canonical_eq ast⟩
  | cons first rest ih =>
    obtain ⟨fingerprint, group⟩ := first
    have hrest : GroupsReported parser sheet rest :=
      fun entry hentry => h entry (List.mem_cons_of_mem _ hentry)
    obtain ⟨ast', ⟨cell', hcell', hast', hhead, hkey⟩, htext⟩ := h _ List.mem_cons_self
    intro entry hentry
    unfold FormulaGraph.addGroup at hentry
    split at hentry
    · cases hentry with
      | head =>
        refine ⟨ast', ⟨cell', hcell', hast', ?_, hkey⟩, htext⟩
        dsimp only at hhead ⊢
        rw [List.head?_append, hhead]
        rfl
      | tail _ hentry => exact hrest entry hentry
    · cases hentry with
      | head => exact ⟨ast', ⟨cell', hcell', hast', hhead, hkey⟩, htext⟩
      | tail _ hentry => exact ih hrest entry hentry

theorem groupsReported_build {sheet : Worksheet} {policy : FormulaParsePolicy}
    {built : FormulaGraph × List FormulaParseRecord}
    (h : FormulaGraph.build parser.toFormulaParser sheet policy = .ok built) :
    GroupsReported parser sheet built.1.groups := by
  apply groups_invariant _ _ h
  · exact fun _ hentry => absurd hentry List.not_mem_nil
  · intro cell hcell ast hast groups hgroups
    exact hgroups.addGroup hcell hast

variable (parser)

/-- A reported text denotes its formula exactly where the printed text has no two quotes side by
side: for a formula by itself, and for each group of a sheet. -/
theorem reported_formula_denotes_iff :
    (∀ formula ast, parser.parse formula = .ok ast →
      (parser.parse (parsedFromAst parser ast).canonical = .ok ast ↔
        ¬ Adjacent '"' (parser.canonicalFormula ast).toList)) ∧
    ∀ (sheet : Worksheet) (policy : FormulaParsePolicy)
      (built : FormulaGraph × List FormulaParseRecord),
      FormulaGraph.build parser.toFormulaParser sheet policy = .ok built →
        ∀ entry ∈ built.1.groups, ∃ ast, PrintedFrom parser sheet entry ast ∧
          (parser.parse entry.2.canonical = .ok ast ↔
            ¬ Adjacent '"' (parser.canonicalFormula ast).toList) := by
  constructor
  · intro formula ast _
    exact parse_unescaped_iff ast
  · intro sheet policy built hbuilt entry hentry
    obtain ⟨ast, hfrom, htext⟩ := groupsReported_build hbuilt entry hentry
    apply Exists.intro ast
    apply And.intro hfrom
    rw [htext]
    exact parse_unescaped_iff ast

end Reported

/-! ### Literals -/

section Samples

def literalText (literal : String) : String :=
  String.ofList ('=' :: '"' :: (doubled '"' literal.toList ++ ['"']))

theorem literalText_toList (literal : String) : (literalText literal).toList =
    '=' :: '"' :: (doubled '"' literal.toList ++ ['"']) :=
  String.toList_ofList

def parseLiteral (text : String) : Except String String :=
  let literal := String.ofList (undoubled '"' (text.toList.drop 2).dropLast)
  if text = literalText literal then .ok literal else .error "unterminated string literal"

theorem parseLiteral_literalText (literal : String) :
    parseLiteral (literalText literal) = .ok literal := by
  have htext : (literalText literal).toList.drop 2 = doubled '"' literal.toList ++ ['"'] := by
    rw [literalText_toList, List.drop_succ_cons, List.drop_succ_cons, List.drop_zero]
  have hread : String.ofList (undoubled '"' ((literalText literal).toList.drop 2).dropLast) =
      literal := by
    rw [htext, List.dropLast_concat, undoubled_doubled, String.ofList_toList]
  unfold parseLiteral
  dsimp only
  rw [hread, if_pos rfl]

theorem text_of_parseLiteral {text literal : String} (h : parseLiteral text = .ok literal) :
    text = literalText literal := by
  unfold parseLiteral at h
  dsimp only at h
  split at h
  · rename_i htext
    rw [← Except.ok.inj h]
    exact htext
  · simp at h

def literalParser : PrintedParser String where
  parse := parseLiteral
  fingerprint literal := literal
  canonical literal := unescapeFormulaString (literalText literal)
  containsVolatile _ := false
  written _ := []
  collectReferences _ := []
  mem_collect _ _ := by simp
  region_text _ _ _ h := absurd h List.not_mem_nil
  canonicalFormula := literalText
  canonical_eq _ := rfl
  parse_canonicalFormula := parseLiteral_literalText
  quoteCount literal := 2 * literal.toList.count '"' + 2
  count_quotes text literal h := by
    rw [text_of_parseLiteral h, literalText_toList]
    simp [count_doubled]

theorem plainLiteral_denotes :
    literalParser.parse (parsedFromAst literalParser "total").canonical = .ok "total" := by
  have halone : ¬ Adjacent '"' (literalText "total").toList := by
    rw [literalText_toList]
    decide
  exact ((reported_formula_denotes_iff literalParser).1 (literalText "total") "total"
    (parseLiteral_literalText "total")).mpr halone

/-- The empty literal is reported as one quote. -/
theorem empty_literal_lost : ¬ ∀ formula ast, literalParser.parse formula = .ok ast →
    literalParser.parse (parsedFromAst literalParser ast).canonical = .ok ast := by
  intro hall
  have hparse := hall (literalText "") "" (parseLiteral_literalText "")
  have hadjacent : Adjacent '"' (literalText "").toList := by
    rw [literalText_toList]
    decide
  exact (@parse_unescaped_iff _ literalParser "").mp hparse hadjacent

end Samples

end AgentSpreadsheet.Analysis
