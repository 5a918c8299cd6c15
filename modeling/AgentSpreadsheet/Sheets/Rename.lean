import AgentSpreadsheet.Sheets.Format
import AgentSpreadsheet.Sheets.References
import AgentSpreadsheet.Library.Quoted

/-! Renaming a sheet. The tokenizer takes formulas apart; references to the old name get
the new one as their prefix. -/
namespace AgentSpreadsheet.Sheets
open Library

/-- `start` and `stop` are places in the formula. -/
structure FormulaToken where
  value : String
  isRange : Bool
  start : Nat
  stop : Nat

/-- The tokenizer, and the library's typing of text. -/
structure FormulaLibrary where
  tokenize : String → Result (List FormulaToken)
  guessTypedData : String → ResidentMaterializedValue

structure FormulaParseError where
  sheetName : String
  address : String
  formula : String
  message : String
  deriving DecidableEq, Repr

def formulaParseFailedPrefix : String := "formula parse failed: "

/-- A cell of a workbook; in this directory a `Cell` is a place of the grid. -/
abbrev FormulaCell := AgentSpreadsheet.Cell

def unquoted : List Char → Option (List Char)
  | '\'' :: stripped => if stripped.getLast? = some '\'' then some stripped.dropLast else none
  | _ => none

def sheetPartMatches (sheetPart oldName : String) : Bool :=
  let trimmed := Legacy.trim sheetPart
  match unquoted trimmed.toList with
  | some inner => undoubled '\'' inner = oldName.toList
  | none => trimmed = oldName

/-- The reference's text after its sheet part, if that is the name. -/
def recognised (name : String) (token : FormulaToken) : Option String :=
  if token.isRange then
    (splitOnce '!' token.value).bind fun (sheetPart, tail) =>
      if sheetPartMatches sheetPart name then some tail else none
  else none

def renamedValue (oldName newName : String) (token : FormulaToken) : String :=
  match recognised oldName token with
  | some tail => formatSheetPrefix newName ++ tail
  | none => token.value

/-- The formula with the tokens' values put in their places. -/
def splice (formula : List Char) (value : FormulaToken → String) : Nat → List FormulaToken → List Char
  | cursor, [] => formula.drop cursor
  | cursor, token :: rest => (formula.take token.start).drop cursor ++ (value token).toList ++
      splice formula value token.stop rest

def renamedFormula (oldName newName formula : String) (tokens : List FormulaToken) : String :=
  String.ofList (splice formula.toList (renamedValue oldName newName) 0 tokens)

def withEquals (formula : String) : String :=
  if formula.toList.head? = some '=' then formula else "=" ++ formula

def coordinateText (position : Position) : String :=
  String.ofList (columnName 8 position.1) ++ toString position.2

/-- Every element on its own; the first failure ends it, and what is found is collected. -/
def collect (f : α → Result (α × List ε)) : List α → Result (List α × List ε)
  | [] => .ok ([], [])
  | a :: rest => do
    let (a, found) ← f a
    let (rest, more) ← collect f rest
    pure (a :: rest, found ++ more)

section Rename
variable (lib : FormulaLibrary) (policy : FormulaParsePolicy) (oldName newName : String)

/-- The tokens of a formula, or what the tokenizer says; by policy the operation fails. -/
def tokensOf (formula context : String) : Result (Result (List FormulaToken)) :=
  match lib.tokenize formula with
  | .ok tokens => .ok (.ok tokens)
  | .error message =>
    if policy = .fail then
      .error (formulaParseFailedPrefix ++ "tokenizer error in " ++ context ++ ": " ++ message)
    else .ok (.error message)

/-- A formula cell gets its formula back also when no reference is renamed, and its result
is gone. -/
def renamedCell (text : String) (tokens : List FormulaToken) (cell : FormulaCell) : FormulaCell :=
  { cell with
    formula := some (stripEquals (renamedFormula oldName newName (withEquals text) tokens))
    value := lib.guessTypedData "" }

def renameCell (sheetName address : String) (cell : FormulaCell) :
    Result (FormulaCell × List FormulaParseError) :=
  match cell.formula with
  | none => .ok (cell, [])
  | some text =>
    if text = "" ∨ policy = .off then .ok (cell, [])
    else do
      let parsed ← tokensOf lib policy (withEquals text) (sheetName ++ "!" ++ address)
      match parsed with
      | .ok tokens => pure (renamedCell lib oldName newName text tokens cell, [])
      | .error message => pure (cell, [⟨sheetName, address, text, message⟩])

def renameCells (sheet : Sheet (List (Position × FormulaCell))) :
    Result (Sheet (List (Position × FormulaCell)) × List FormulaParseError) := do
  let (cells, errors) ← collect (fun (position, cell) => do
    let (cell, errors) ← renameCell lib policy oldName newName sheet.name
      (coordinateText position) cell
    pure ((position, cell), errors)) sheet.body
  pure (⟨sheet.name, cells⟩, errors)

/-- Plain addresses are the workbook library's. -/
def DefinedName.looksLikeFormula (name : DefinedName) : Bool :=
  (Legacy.trim name.address).toList.head? = some '=' || (Legacy.trim name.address).toList.contains '('

def DefinedName.hadEquals (name : DefinedName) : Bool :=
  (Legacy.trim name.address).toList.head? = some '='

def DefinedName.formula (name : DefinedName) : String := withEquals (Legacy.trim name.address)

/-- A defined name is left alone unless a reference is renamed. -/
def DefinedName.renamed (tokens : List FormulaToken) (name : DefinedName) : DefinedName :=
  if tokens.any fun token => (recognised oldName token).isSome then
    let out := renamedFormula oldName newName name.formula tokens
    { name with address := if name.hadEquals then out else stripEquals out }
  else name

def renameDefinedName (name : DefinedName) : Result (DefinedName × List FormulaParseError) :=
  if name.looksLikeFormula = false ∨ policy = .off then .ok (name, [])
  else do
    let parsed ← tokensOf lib policy name.formula ("defined name '" ++ name.name ++ "'")
    match parsed with
    | .ok tokens => pure (name.renamed oldName newName tokens, [])
    | .error message =>
      pure (name, [⟨"[DefinedName]", name.name, Legacy.trim name.address, message⟩])

structure FormulaBook where
  sheets : Book (List (Position × FormulaCell))
  definedNames : List DefinedName

def renameSheet (book : FormulaBook) : Result (FormulaBook × List FormulaParseError) := do
  let sheets ← book.sheets.renameSheet oldName newName
  let (sheets, errors) ← collect
    (renameCells lib policy (Legacy.trim oldName) (Legacy.trim newName)) sheets
  let (definedNames, errors') ← collect
    (renameDefinedName lib policy (Legacy.trim oldName) (Legacy.trim newName)) book.definedNames
  pure (⟨sheets, definedNames⟩, errors ++ errors')

end Rename

/-- Walks the text, not every character there is. -/
instance instDecidableAvoids (value : String) (banned : List Char) :
    Decidable (∀ c ∈ value.toList, c ∉ banned) :=
  List.decidableBAll (fun c => c ∉ banned) value.toList

/-- What a request may call a sheet. -/
def validateSheetName (value : String) : Result Unit :=
  ensure (value ≠ "" ∧ value.toList.length ≤ 31 ∧
    (∀ c ∈ value.toList, c ∉ ['[', ']', ':', '*', '?', '/', '\\']) ∧
    value.toList.head? ≠ some '\'' ∧ value.toList.getLast? ≠ some '\'')
    ("invalid sheet name '" ++ value ++ "'")

/-! ### What references say -/

def Trimmed (text : List Char) : Prop :=
  (∀ c, text.head? = some c → Legacy.isWhitespace c = false) ∧
    ∀ c, text.getLast? = some c → Legacy.isWhitespace c = false

/-- A sheet's name, quoted or bare, stands before the exclamation mark. -/
inductive RefersTo : List Char → List Char → List Char → Prop
  | quoted (name tail : List Char) :
      RefersTo ('\'' :: (doubled '\'' name ++ '\'' :: '!' :: tail)) name tail
  | bare {name : List Char} (tail : List Char) : name ≠ [] → '!' ∉ name →
      name.head? ≠ some '\'' → Trimmed name → RefersTo (name ++ '!' :: tail) name tail

def FormulaToken.Mentions (token : FormulaToken) (name : String) : Prop :=
  token.isRange = true ∧ ∃ tail, RefersTo token.value.toList name.toList tail

end AgentSpreadsheet.Sheets
