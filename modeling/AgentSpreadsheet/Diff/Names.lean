import AgentSpreadsheet.Library.Keyed
import Mathlib.Data.List.Dedup
import Mathlib.Data.List.Nodup
import Mathlib.Data.List.Sort
import Mathlib.Data.String.Basic

/-! The difference of the defined names of two workbooks. A name of one sheet goes by the
sheet's position. -/
namespace AgentSpreadsheet.Diff
open Library

structure NameKey where
  name : String
  scope : Option Nat
  deriving DecidableEq, Repr

structure DefinedName where
  key : NameKey
  formula : String
  hidden : Bool
  deriving DecidableEq, Repr

inductive NameDiff where
  | nameAdded (name formula : String) (scopeSheet : Option String)
  | nameDeleted (name : String) (scopeSheet : Option String)
  | nameModified (name : String) (scopeSheet : Option String) (oldFormula newFormula : String)
  deriving DecidableEq, Repr

def NameDiff.name : NameDiff → String
  | .nameAdded name _ _ | .nameDeleted name _ | .nameModified name _ _ _ => name

def NameDiff.scopeSheet : NameDiff → Option String
  | .nameAdded _ _ sheet | .nameDeleted _ sheet | .nameModified _ sheet _ _ => sheet

/-! ### Reading a workbook's file -/

structure SheetElement where
  name : String
  rid : String
  deriving DecidableEq, Repr

/-- `localSheetId` is the position of a sheet. -/
structure DefinedNameElement where
  name : String
  localSheetId : Option Nat
  formula : String
  hidden : Bool
  deriving DecidableEq, Repr

structure WorkbookXml where
  sheets : List SheetElement
  definedNames : List DefinedNameElement
  deriving DecidableEq, Repr

structure WorkbookMeta where
  sheetOrder : List String
  names : List DefinedName
  deriving DecidableEq, Repr

def DefinedNameElement.read (element : DefinedNameElement) : DefinedName :=
  ⟨⟨element.name, element.localSheetId⟩, element.formula, element.hidden⟩

/-- A later name takes the place of an earlier one with its key. -/
def parseDefinedNames (elements : List DefinedNameElement) : List DefinedName :=
  elements.foldl (fun names element => place DefinedName.key element.read names) []

def loadWorkbookMeta (xml : WorkbookXml) : WorkbookMeta where
  sheetOrder := (xml.sheets.filter fun sheet => sheet.name ≠ "" ∧ sheet.rid ≠ "").map
    SheetElement.name
  names := parseDefinedNames xml.definedNames

namespace WorkbookMeta

def get (book : WorkbookMeta) (key : NameKey) : Option DefinedName :=
  book.names.find? fun name => name.key = key

def sheetName (book : WorkbookMeta) (key : NameKey) : Option String :=
  key.scope.bind fun index => book.sheetOrder[index]?

end WorkbookMeta

/-! ### The difference -/

/-- What is reported for a key. The sheet's name is looked up in the base. -/
def diffName (base fork : WorkbookMeta) (key : NameKey) : Option NameDiff :=
  if (base.get key).any DefinedName.hidden then none
  else if (fork.get key).any DefinedName.hidden then none
  else
    match base.get key, fork.get key with
    | none, some f => some (.nameAdded key.name f.formula (base.sheetName key))
    | some _, none => some (.nameDeleted key.name (base.sheetName key))
    | some b, some f =>
      if b.formula ≠ f.formula then
        some (.nameModified key.name (base.sheetName key) b.formula f.formula)
      else none
    | none, none => none

/-- The keys come out of a set in any order; the entries are sorted by name. -/
def diffNames (base fork : WorkbookMeta) (allKeys : List NameKey) : List NameDiff :=
  (allKeys.filterMap (diffName base fork)).insertionSort fun a b => a.name ≤ b.name

def AllKeys (base fork : WorkbookMeta) (allKeys : List NameKey) : Prop :=
  allKeys.Perm ((base.names ++ fork.names).map DefinedName.key).dedup

/-- A key of neither workbook is never reported. -/
theorem diffName_eq_none_of_notMem {base fork : WorkbookMeta} {key : NameKey}
    {allKeys : List NameKey} (hall : AllKeys base fork allKeys) (hkey : key ∉ allKeys) :
    diffName base fork key = none := by
  have hkeys : ∀ name ∈ base.names ++ fork.names, name.key ≠ key := by
    intro name hname heq
    apply hkey
    rw [hall.mem_iff, List.mem_dedup, List.mem_map]
    exact ⟨name, hname, heq⟩
  have hnone : base.get key = none ∧ fork.get key = none := by
    unfold WorkbookMeta.get
    rw [List.find?_eq_none, List.find?_eq_none]
    constructor
    · intro name hname
      simpa using hkeys name (List.mem_append_left _ hname)
    · intro name hname
      simpa using hkeys name (List.mem_append_right _ hname)
  unfold diffName
  rw [hnone.1, hnone.2]
  rfl

/-! ### Workbooks and the names their sheets own -/

structure OwnedName where
  name : String
  owner : Option String
  formula : String
  hidden : Bool
  deriving DecidableEq, Repr

/-- A workbook's sheets in order, and its names. A name is defined once for each owner. -/
structure NamedBook where
  sheets : List String
  distinct : sheets.Nodup
  named : "" ∉ sheets
  names : List OwnedName
  owners : ∀ name ∈ names, ∀ sheet, name.owner = some sheet → sheet ∈ sheets
  once : (names.map fun name => (name.name, name.owner)).Nodup

namespace NamedBook
variable (book : NamedBook)

def position (sheet : String) : Nat := book.sheets.idxOf sheet

def key (name : OwnedName) : NameKey := ⟨name.name, name.owner.map book.position⟩

def xml : WorkbookXml where
  sheets := book.sheets.zipIdx.map fun sheet => ⟨sheet.1, "rId" ++ toString (sheet.2 + 1)⟩
  definedNames := book.names.map fun name =>
    ⟨name.name, name.owner.map book.position, name.formula, name.hidden⟩

def read : WorkbookMeta := loadWorkbookMeta book.xml

def definition (key : NameKey) : Option OwnedName :=
  book.names.find? fun name => book.key name = key

def defined (name : OwnedName) : DefinedName := ⟨book.key name, name.formula, name.hidden⟩

variable {book} {key : NameKey} {name other : OwnedName}

theorem key_injective (hname : name ∈ book.names) (hother : other ∈ book.names)
    (h : book.key name = book.key other) : name = other := by
  unfold NamedBook.key at h
  rw [NameKey.mk.injEq] at h
  have howner : name.owner = other.owner := by
    cases hn : name.owner with
    | none =>
      rw [hn] at h
      exact (Option.map_eq_none_iff.mp h.2.symm).symm
    | some sheet =>
      rw [hn, Option.map_some] at h
      obtain ⟨sheet', hsheet', hposition⟩ := Option.map_eq_some_iff.mp h.2.symm
      have hmem := book.owners name hname sheet hn
      rw [hsheet', (List.idxOf_inj hmem).mp hposition.symm]
  apply List.inj_on_of_nodup_map book.once hname hother
  rw [h.1, howner]

theorem sheetOrder_read : book.read.sheetOrder = book.sheets := by
  have hkept : book.xml.sheets.filter (fun sheet => sheet.name ≠ "" ∧ sheet.rid ≠ "") =
      book.xml.sheets := by
    rw [List.filter_eq_self]
    intro sheet hsheet
    obtain ⟨entry, hentry, heq⟩ := List.mem_map.mp hsheet
    have hname : entry.1 ≠ "" := by
      intro hempty
      apply book.named
      rw [← hempty]
      exact List.fst_mem_of_mem_zipIdx hentry
    have hrid : "rId" ++ toString (entry.2 + 1) ≠ "" := by
      intro hempty
      have hlength := congrArg String.length hempty
      rw [String.length_append] at hlength
      exact absurd hlength (by simp)
    rw [← heq]
    simp [hname, hrid]
  unfold read loadWorkbookMeta
  rw [hkept]
  simp [xml, Function.comp_def, List.zipIdx_map_fst]

/-- Names with keys of their own are all kept. -/
theorem foldl_place {elements : List DefinedNameElement} {names : List DefinedName}
    (h : (names ++ elements.map DefinedNameElement.read).Pairwise fun a b => a.key ≠ b.key) :
    elements.foldl (fun names element => place DefinedName.key element.read names) names =
      names ++ elements.map DefinedNameElement.read := by
  induction elements generalizing names with
  | nil => simp
  | cons element rest ih =>
    rw [List.map_cons] at h
    have hfresh : ∀ a ∈ names, a.key ≠ element.read.key := by
      intro a ha
      exact (List.pairwise_append.mp h).2.2 a ha _ List.mem_cons_self
    have hplace : place DefinedName.key element.read names = names ++ [element.read] := by
      unfold place
      rw [without_eq_self hfresh]
    rw [List.foldl_cons, hplace, ih]
    · simp
    · simpa using h

theorem names_read : book.read.names = book.names.map book.defined := by
  have hmap : book.xml.definedNames.map DefinedNameElement.read =
      book.names.map book.defined := by
    simp [xml, DefinedNameElement.read, defined, NamedBook.key, Function.comp_def]
  have hnodup : (book.names.map book.defined).Pairwise fun a b => a.key ≠ b.key := by
    rw [List.pairwise_map]
    apply List.Nodup.pairwise_of_forall_ne book.once.of_map
    intro a ha b hb hne hkey
    exact hne (key_injective ha hb hkey)
  have hall := @foldl_place book.xml.definedNames [] (by simpa [hmap] using hnodup)
  rw [hmap, List.nil_append] at hall
  exact hall

theorem get_read : book.read.get key = (book.definition key).map book.defined := by
  unfold WorkbookMeta.get definition
  rw [names_read, List.find?_map]
  rfl

theorem sheetName_read (h : book.definition key = some name) :
    book.read.sheetName key = name.owner := by
  have hmem := List.mem_of_find?_eq_some h
  have hkey := List.find?_some h
  rw [decide_eq_true_eq] at hkey
  unfold WorkbookMeta.sheetName
  rw [sheetOrder_read, ← hkey]
  unfold NamedBook.key
  cases howner : name.owner with
  | none => rfl
  | some sheet =>
    have hsheet := book.owners name hmem sheet howner
    simp only [Option.map_some, Option.bind_some]
    unfold position
    rw [List.getElem?_eq_getElem (List.idxOf_lt_length_of_mem hsheet), List.getElem_idxOf]

end NamedBook

/-! ### When the difference is right -/

/-- The definitions under one key are the same, or one is hidden. -/
def Agrees : Option OwnedName → Option OwnedName → Prop
  | none, none => True
  | some b, none => b.hidden = true
  | none, some f => f.hidden = true
  | some b, some f => b.formula = f.formula ∨ b.hidden = true ∨ f.hidden = true

/-- The second workbook has other sheets, or the same in another order, and the same names. -/
def Rearranged (first second : NamedBook) : Prop := second.names.Perm first.names

/-- Each entry of the difference names the sheet that owns the name. -/
def ScopesOwned (first second : NamedBook) : Prop :=
  ∀ key diff, diffName first.read second.read key = some diff →
    (∀ name, first.definition key = some name → diff.scopeSheet = name.owner) ∧
      ∀ name, second.definition key = some name → diff.scopeSheet = name.owner

section Exact
variable {first second : NamedBook} {key : NameKey} {diff : NameDiff}

theorem diffName_eq_none_iff : diffName first.read second.read key = none ↔
    Agrees (first.definition key) (second.definition key) := by
  unfold diffName
  rw [NamedBook.get_read, NamedBook.get_read]
  cases first.definition key with
  | none =>
    cases second.definition key with
    | none => simp [Agrees]
    | some f => cases hf : f.hidden <;> simp [Agrees, NamedBook.defined, hf]
  | some b =>
    cases second.definition key with
    | none => cases hb : b.hidden <;> simp [Agrees, NamedBook.defined, hb]
    | some f =>
      cases hb : b.hidden <;> cases hf : f.hidden <;> simp [Agrees, NamedBook.defined, hb, hf]

theorem scopeSheet_diffName (h : diffName first.read second.read key = some diff) :
    diff.scopeSheet = first.read.sheetName key := by
  unfold diffName at h
  split at h
  · contradiction
  · split at h
    · contradiction
    · split at h
      · injection h with h
        rw [← h]
        rfl
      · injection h with h
        rw [← h]
        rfl
      · split at h
        · injection h with h
          rw [← h]
          rfl
        · contradiction
      · contradiction

theorem diffNames_eq_nil_iff {allKeys : List NameKey}
    (hall : AllKeys first.read second.read allKeys) :
    diffNames first.read second.read allKeys = [] ↔
      ∀ key, Agrees (first.definition key) (second.definition key) := by
  unfold diffNames
  rw [← List.length_eq_zero_iff, List.length_insertionSort, List.length_eq_zero_iff,
    List.filterMap_eq_nil_iff]
  constructor
  · intro h key
    rw [← diffName_eq_none_iff]
    by_cases hkey : key ∈ allKeys
    · exact h key hkey
    · exact diffName_eq_none_of_notMem hall hkey
  · intro h key _
    exact diffName_eq_none_iff.mpr (h key)

/-- A sheet of the second workbook stands at its position in the first as well. -/
theorem sheetName_eq_owner_iff {name : OwnedName} (h : second.definition key = some name) :
    first.read.sheetName key = name.owner ↔
      ∀ sheet, name.owner = some sheet → first.sheets[second.position sheet]? = some sheet := by
  have hkey := List.find?_some h
  rw [decide_eq_true_eq] at hkey
  unfold WorkbookMeta.sheetName
  rw [NamedBook.sheetOrder_read, ← hkey]
  unfold NamedBook.key
  cases name.owner <;> simp

theorem scopesOwned_iff : ScopesOwned first second ↔
    ∀ key name, second.definition key = some name →
      Agrees (first.definition key) (second.definition key) ∨
        ∀ sheet, name.owner = some sheet → first.sheets[second.position sheet]? = some sheet := by
  constructor
  · intro h key name hname
    rw [← sheetName_eq_owner_iff hname]
    cases hdiff : diffName first.read second.read key with
    | none => exact .inl (diffName_eq_none_iff.mp hdiff)
    | some diff =>
      right
      rw [← scopeSheet_diffName hdiff]
      exact (h key diff hdiff).2 name hname
  · intro h key diff hdiff
    rw [scopeSheet_diffName hdiff]
    constructor
    · intro name hname
      exact NamedBook.sheetName_read hname
    · intro name hname
      rw [sheetName_eq_owner_iff hname]
      apply (h key name hname).resolve_left
      intro hagrees
      rw [diffName_eq_none_iff.mpr hagrees] at hdiff
      contradiction

end Exact

/-- When nothing is reported for workbooks with the same names, and each entry names the
owner: the sheets at one position own the same names, and a name that is reported for the
second workbook is owned by a sheet that did not move. -/
theorem name_diff_iff (first second : NamedBook) (allKeys : List NameKey)
    (hall : AllKeys first.read second.read allKeys) :
    (Rearranged first second → diffNames first.read second.read allKeys = []) ∧
        ScopesOwned first second ↔
      (Rearranged first second → ∀ key, Agrees (first.definition key) (second.definition key)) ∧
        ∀ key name, second.definition key = some name →
          Agrees (first.definition key) (second.definition key) ∨
            ∀ sheet, name.owner = some sheet →
              first.sheets[second.position sheet]? = some sheet := by
  rw [diffNames_eq_nil_iff hall, scopesOwned_iff]

section Sample

def bookAB : NamedBook where
  sheets := ["A", "B"]
  distinct := by decide
  named := by decide
  names := [⟨"Rate", some "A", "A!$A$1", false⟩]
  owners := by decide
  once := by decide

/-- The same workbook with its sheets the other way round. -/
def bookBA : NamedBook where
  sheets := ["B", "A"]
  distinct := by decide
  named := by decide
  names := [⟨"Rate", some "A", "A!$A$1", false⟩]
  owners := by decide
  once := by decide

/-- A workbook is not different from itself. -/
theorem name_diff_same :
    diffNames bookAB.read bookAB.read [⟨"Rate", some 0⟩] = [] ∧ ScopesOwned bookAB bookAB := by
  have hexact := name_diff_iff bookAB bookAB [⟨"Rate", some 0⟩]
    (by unfold AllKeys; decide)
  have hself : ∀ name : Option OwnedName, Agrees name name := by
    intro name
    cases name <;> simp [Agrees]
  have hright := hexact.mpr ⟨fun _ key => hself _, fun key name _ => .inl (hself _)⟩
  exact ⟨hright.1 (List.Perm.refl _), hright.2⟩

/-- Two sheets that change places make a name of the one look deleted from the one position
and added at the other, where it is given to the wrong sheet. -/
theorem moved_sheets_are_reported :
    Rearranged bookAB bookBA ∧ AllKeys bookAB.read bookBA.read
        [⟨"Rate", some 0⟩, ⟨"Rate", some 1⟩] ∧
      diffNames bookAB.read bookBA.read [⟨"Rate", some 0⟩, ⟨"Rate", some 1⟩] =
        [.nameDeleted "Rate" (some "A"), .nameAdded "Rate" "A!$A$1" (some "B")] := by
  refine ⟨List.Perm.refl _, ?_, ?_⟩
  · unfold AllKeys
    decide
  · decide

end Sample

end AgentSpreadsheet.Diff
