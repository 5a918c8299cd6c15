import AgentSpreadsheet.Library.Guard
import AgentSpreadsheet.Legacy.Store
import AgentSpreadsheet.Sheets.Transform

/-! Defined names of a session's workbook. The workbook keeps a list of its own
and each sheet keeps another; an entry of the workbook's list may carry the place
of a sheet, and an entry of a sheet's list belongs to that sheet. -/
namespace AgentSpreadsheet.NamedRanges
open Library

inductive NamedRangeScope where
  | sheet
  | workbook
  deriving DecidableEq, Repr

structure DefinedName (δ : Type) where
  name : String
  localSheetId : Option Nat
  contents : δ
  deriving DecidableEq, Repr

structure Worksheet (δ : Type) where
  name : String
  definedNames : List (DefinedName δ)
  deriving DecidableEq, Repr

structure Workbook (δ : Type) where
  definedNames : List (DefinedName δ)
  sheetCollection : List (Worksheet δ)
  deriving DecidableEq, Repr

/-- The workbook library's part. What a name refers to is read as an address;
`setAddress` adds to what is there, and a new name may be refused. -/
structure NameLibrary (δ : Type) where
  address : δ → String
  setAddress : δ → String → δ
  create : String → String → Except String δ

section Store
variable {δ : Type}

def retain (name : String) (names : List (DefinedName δ)) : List (DefinedName δ) :=
  names.filter fun defined => defined.name != name

def amendFirst (p : DefinedName δ → Bool) (f : DefinedName δ → DefinedName δ) :
    List (DefinedName δ) → List (DefinedName δ)
  | [] => []
  | d :: rest => if p d then f d :: rest else d :: amendFirst p f rest

namespace Workbook

def sheetNames (book : Workbook δ) : List String := book.sheetCollection.map (·.name)

def sheetIndex (book : Workbook δ) (sheetName : String) : Option Nat :=
  book.sheetCollection.findIdx? fun sheet => sheet.name == sheetName

def resolveSheetIndex (book : Workbook δ) (sheetName : String) : Except String Nat :=
  required (book.sheetIndex sheetName) ("sheet '" ++ sheetName ++ "' not found")

/-- The list of the workbook, or the one of the sheet at a place. -/
def namesAt (book : Workbook δ) : Option Nat → List (DefinedName δ)
  | none => book.definedNames
  | some index => ((book.sheetCollection[index]?).map (·.definedNames)).getD []

def onNames (book : Workbook δ) (level : Option Nat)
    (f : List (DefinedName δ) → List (DefinedName δ)) : Workbook δ :=
  match level with
  | none => { book with definedNames := f book.definedNames }
  | some index => { book with sheetCollection := book.sheetCollection.modify index fun sheet =>
      { sheet with definedNames := f sheet.definedNames } }

end Workbook

def invalidScope (scope : String) : String :=
  "invalid scope '" ++ scope ++ "': expected 'workbook' or 'sheet'"

def nameMustNotBeEmpty (name : String) : Except String Unit :=
  ensure (Legacy.trim name ≠ "") "name must not be empty"

def notFound (name : String) : String := "named range '" ++ name ++ "' not found"

/-! ### Defining -/

structure DefineNameResponse where
  name : String
  refersTo : String
  scopeKind : NamedRangeScope
  scopeSheetName : Option String
  deriving DecidableEq, Repr

/-- The sheet a definition is asked for, or none for the workbook. -/
def defineScope (scope scopeSheetName : Option String) : Except String (Option String) :=
  match scope with
  | some "sheet" =>
    some <$> required scopeSheetName "scope_sheet_name is required when scope is 'sheet'"
  | some "workbook" | none => .ok none
  | some other => .error (invalidScope other)

/-- Where a definition goes once the request is checked. -/
def defineTarget (book : Workbook δ) (name refersTo : String) (scope scopeSheetName : Option String) :
    Except String (Option Nat) := do
  let sheet ← defineScope scope scopeSheetName
  nameMustNotBeEmpty name
  ensure (Legacy.trim refersTo ≠ "") "refers_to must not be empty"
  match sheet with
  | some sheetName => some <$> book.resolveSheetIndex sheetName
  | none => do
    ensure (book.sheetCollection ≠ []) "workbook has no sheets"
    pure none

/-- A workbook's name is made in the first sheet and moved from there, as only a
sheet can make one. -/
def defineName (lib : NameLibrary δ) (book : Workbook δ) (name refersTo : String)
    (scope scopeSheetName : Option String) : Except String (Workbook δ × DefineNameResponse) := do
  let target ← defineTarget book name refersTo scope scopeSheetName
  let contents ← (lib.create name refersTo).mapError ("failed to add defined name: " ++ ·)
  pure (book.onNames target (· ++ [⟨name, target, contents⟩]),
    ⟨name, refersTo, if target.isSome then .sheet else .workbook, scopeSheetName⟩)

/-! ### Finding -/

def scopeFilter (scope : Option String) : Except String (Option NamedRangeScope) :=
  match scope with
  | some "sheet" => .ok (some .sheet)
  | some "workbook" => .ok (some .workbook)
  | none => .ok none
  | some other => .error (invalidScope other)

def checkedFilter (name : String) (scope : Option String) :
    Except String (Option NamedRangeScope) := do
  let kind ← scopeFilter scope
  nameMustNotBeEmpty name
  pure kind

/-- The names of the sheets that are looked through. -/
def searchedSheets (book : Workbook δ) (scopeSheetName : Option String) : List String :=
  book.sheetNames.filter fun sheetName =>
    scopeSheetName.all fun wanted => Sheets.eqIgnoreAsciiCase sheetName wanted

def atWorkbookLevel (name : String) (kind : Option NamedRangeScope) (defined : DefinedName δ) :
    Bool :=
  defined.name == name && (kind == some .workbook || defined.localSheetId.isNone)

def findAtWorkbook (book : Workbook δ) (name : String) (kind : Option NamedRangeScope) :
    Option (DefinedName δ) :=
  if kind = none ∨ kind = some .workbook then book.definedNames.find? (atWorkbookLevel name kind)
  else none

/-- The first sheet looked through that holds the name. -/
def findAtSheet (book : Workbook δ) (name : String) (kind : Option NamedRangeScope)
    (scopeSheetName : Option String) : Option (String × Nat × DefinedName δ) :=
  if kind = none ∨ kind = some .sheet then
    (searchedSheets book scopeSheetName).findSome? fun sheetName =>
      (book.sheetIndex sheetName).bind fun index =>
        ((book.namesAt (some index)).find? (·.name == name)).map fun defined =>
          (sheetName, index, defined)
  else none

/-! ### Updating -/

structure UpdateNameResponse where
  name : String
  refersTo : String
  scopeKind : NamedRangeScope
  scopeSheetName : Option String
  previousRefersTo : Option String
  deriving DecidableEq, Repr

section Update
variable (lib : NameLibrary δ)

def readdress (newAddress : String) (defined : DefinedName δ) : DefinedName δ :=
  { defined with contents := lib.setAddress defined.contents newAddress }

/-- Every entry of the name goes from the list before the new one is made, which
for the workbook's list takes a sheet to make it in. -/
def replaceAt (book : Workbook δ) (level : Option Nat) (found : DefinedName δ → Bool)
    (name newAddress : String) : Workbook δ × Except String Unit :=
  let book := book.onNames level (amendFirst found (readdress lib newAddress))
  let book := book.onNames level (retain name)
  if level = none ∧ book.sheetCollection = [] then (book, .error "workbook has no sheets")
  else
    match lib.create name newAddress with
    | .error error => (book, .error ("failed to replace defined name: " ++ error))
    | .ok contents => (book.onNames level (· ++ [⟨name, level, contents⟩]), .ok ())

def updateName (book : Workbook δ) (name : String) (refersTo scope scopeSheetName : Option String) :
    Workbook δ × Except String UpdateNameResponse :=
  match checkedFilter name scope with
  | .error error => (book, .error error)
  | .ok kind =>
    match findAtWorkbook book name kind with
    | some defined =>
      let previous := lib.address defined.contents
      let response := ⟨name, refersTo.getD previous, .workbook, scopeSheetName, some previous⟩
      match refersTo with
      | none => (book, .ok response)
      | some newAddress =>
        let (book, result) := replaceAt lib book none (atWorkbookLevel name kind) name newAddress
        (book, result.map fun _ => response)
    | none =>
      match findAtSheet book name kind scopeSheetName with
      | none => (book, .error (notFound name))
      | some (sheetName, index, defined) =>
        let previous := lib.address defined.contents
        let response := ⟨name, refersTo.getD previous, .sheet, some sheetName, some previous⟩
        match refersTo with
        | none => (book, .ok response)
        | some newAddress =>
          let (book, result) := replaceAt lib book (some index) (·.name == name) name newAddress
          (book, result.map fun _ => response)

end Update

/-! ### Deleting -/

structure DeleteNameResponse where
  name : String
  deleted : Bool
  deriving DecidableEq, Repr

/-- A deletion does not look at the sheet an entry of the workbook's list is for. -/
def deleteName (book : Workbook δ) (name : String) (scope scopeSheetName : Option String) :
    Workbook δ × Except String DeleteNameResponse :=
  match checkedFilter name scope with
  | .error error => (book, .error error)
  | .ok kind =>
    if (kind = none ∨ kind = some .workbook) ∧ book.definedNames.any (·.name == name) then
      (book.onNames none (retain name), .ok ⟨name, true⟩)
    else
      match findAtSheet book name kind scopeSheetName with
      | none => (book, .error (notFound name))
      | some (_, index, _) => (book.onNames (some index) (retain name), .ok ⟨name, true⟩)

end Store

end AgentSpreadsheet.NamedRanges
