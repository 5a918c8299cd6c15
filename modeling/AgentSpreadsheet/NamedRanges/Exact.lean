import AgentSpreadsheet.Library.Stepwise
import AgentSpreadsheet.NamedRanges.Store

/-! Which definitions go by which name and scope, and when the calls keep one for
each and change no other. -/
namespace AgentSpreadsheet.NamedRanges
open Library

section Held
variable {δ : Type} {book : Workbook δ} {name other : String} {scope level : Option Nat}

namespace Workbook

/-- Entries of the workbook's list say which sheet they are for. -/
def listed (book : Workbook δ) (name : String) (scope : Option Nat) : List (DefinedName δ) :=
  (book.namesAt none).filter fun d => d.name == name && d.localSheetId == scope

def own (book : Workbook δ) (name : String) : Option Nat → List (DefinedName δ)
  | none => []
  | some index => (book.namesAt (some index)).filter fun d => d.name == name

def held (book : Workbook δ) (name : String) (scope : Option Nat) : List (DefinedName δ) :=
  book.listed name scope ++ book.own name scope

def AtMostOne (book : Workbook δ) : Prop := ∀ name scope, (book.held name scope).length ≤ 1

def HasLevel (book : Workbook δ) : Option Nat → Prop
  | none => True
  | some index => index < book.sheetCollection.length

end Workbook

/-! ### One list changed -/

theorem namesAt_onNames_self (h : book.HasLevel level)
    (f : List (DefinedName δ) → List (DefinedName δ)) :
    (book.onNames level f).namesAt level = f (book.namesAt level) := by
  cases level with
  | none => rfl
  | some index =>
    have hlength : index < book.sheetCollection.length := h
    simp [Workbook.namesAt, Workbook.onNames, hlength]

theorem namesAt_onNames_ne {level' : Option Nat} (h : level' ≠ level)
    (f : List (DefinedName δ) → List (DefinedName δ)) :
    (book.onNames level f).namesAt level' = book.namesAt level' := by
  cases level with
  | none =>
    cases level' with
    | none => exact absurd rfl h
    | some index => rfl
  | some index =>
    cases level' with
    | none => rfl
    | some index' =>
      have hne : index ≠ index' := fun heq => h (congrArg some heq.symm)
      simp [Workbook.namesAt, Workbook.onNames, hne]

theorem hasLevel_onNames (f : List (DefinedName δ) → List (DefinedName δ)) :
    (book.onNames level f).HasLevel level ↔ book.HasLevel level := by
  cases level with
  | none => rfl
  | some index => simp [Workbook.HasLevel, Workbook.onNames]

theorem onNames_onNames (f g : List (DefinedName δ) → List (DefinedName δ)) :
    (book.onNames level f).onNames level g = book.onNames level (g ∘ f) := by
  cases level with
  | none => rfl
  | some index =>
    simp only [Workbook.onNames, List.modify_modify_eq]
    rfl

theorem retain_amendFirst {found : DefinedName δ → Bool} {f : DefinedName δ → DefinedName δ}
    (hfound : ∀ d, found d = true → d.name = name) (hf : ∀ d, (f d).name = d.name)
    (names : List (DefinedName δ)) : retain name (amendFirst found f names) = retain name names := by
  induction names with
  | nil => rfl
  | cons d rest ih =>
    unfold amendFirst
    split
    · rename_i hd
      have hname := hfound d hd
      unfold retain
      rw [List.filter_cons_of_neg (by simp [hf, hname]), List.filter_cons_of_neg (by simp [hname])]
    · unfold retain at ih ⊢
      rw [List.filter_cons, List.filter_cons, ih]

theorem filter_retain_self (name : String) (p : DefinedName δ → Bool) (names : List (DefinedName δ)) :
    (retain name names).filter (fun d => d.name == name && p d) = [] := by
  unfold retain
  rw [List.filter_filter, List.filter_eq_nil_iff]
  intro d _
  simp only [Bool.and_eq_true, beq_iff_eq, bne_iff_ne]
  exact fun h => h.2 h.1.1

theorem filter_retain_ne (h : other ≠ name) (p : DefinedName δ → Bool)
    (names : List (DefinedName δ)) :
    (retain name names).filter (fun d => d.name == other && p d) =
      names.filter (fun d => d.name == other && p d) := by
  unfold retain
  rw [List.filter_filter]
  apply List.filter_congr
  intro d _
  by_cases hd : d.name = other
  · simp [hd, h]
  · simp [hd]

theorem own_some {index : Nat} : book.own name (some index) =
    (book.namesAt (some index)).filter fun d => d.name == name := rfl

theorem own_onNames_none (f : List (DefinedName δ) → List (DefinedName δ)) :
    (book.onNames none f).own name scope = book.own name scope := by
  cases scope <;> rfl

theorem own_onNames_ne (h : scope ≠ level) (f : List (DefinedName δ) → List (DefinedName δ)) :
    (book.onNames level f).own name scope = book.own name scope := by
  cases scope with
  | none => rfl
  | some index =>
    rw [own_some, own_some, namesAt_onNames_ne h]

theorem listed_onNames_some {index : Nat} (f : List (DefinedName δ) → List (DefinedName δ)) :
    (book.onNames (some index) f).listed name scope = book.listed name scope := rfl

/-- A name taken out of a list leaves the other names. -/
theorem held_retain_ne (hlevel : book.HasLevel level) (h : other ≠ name) :
    (book.onNames level (retain name)).held other scope = book.held other scope := by
  unfold Workbook.held
  congr 1
  · cases level with
    | none => exact filter_retain_ne h _ _
    | some index => rfl
  · by_cases hscope : scope = level
    · cases scope with
      | none => rfl
      | some index =>
        cases hscope
        rw [own_some, own_some, namesAt_onNames_self hlevel]
        simpa using filter_retain_ne h (fun _ => true) (book.namesAt (some index))
    · exact own_onNames_ne hscope _

theorem held_retain_none :
    (book.onNames none (retain name)).held name scope = book.own name scope := by
  have hlisted : (book.onNames none (retain name)).listed name scope = [] :=
    filter_retain_self name _ _
  unfold Workbook.held
  rw [hlisted, List.nil_append, own_onNames_none]

theorem held_retain_some {index : Nat} (h : book.HasLevel (some index)) :
    (book.onNames (some index) (retain name)).held name (some index) =
      book.listed name (some index) := by
  have hown : (book.onNames (some index) (retain name)).own name (some index) = [] := by
    rw [own_some, namesAt_onNames_self h]
    simpa using filter_retain_self name (fun _ => true) (book.namesAt (some index))
  unfold Workbook.held
  rw [hown, List.append_nil, listed_onNames_some]

theorem held_onNames_some_ne {index : Nat} (h : scope ≠ some index)
    (f : List (DefinedName δ) → List (DefinedName δ)) :
    (book.onNames (some index) f).held name scope = book.held name scope := by
  unfold Workbook.held
  rw [listed_onNames_some, own_onNames_ne h]

theorem held_added_self (h : book.HasLevel level) (contents : δ) :
    (book.onNames level (· ++ [⟨name, level, contents⟩])).held name level =
      book.held name level ++ [⟨name, level, contents⟩] := by
  cases level with
  | none =>
    simp [Workbook.held, Workbook.listed, Workbook.own, Workbook.namesAt, Workbook.onNames]
  | some index =>
    unfold Workbook.held
    rw [listed_onNames_some, List.append_assoc, own_some, own_some, namesAt_onNames_self h,
      List.filter_append]
    simp

theorem held_added_ne (h : book.HasLevel level) (contents : δ)
    (hne : other ≠ name ∨ scope ≠ level) :
    (book.onNames level (· ++ [⟨name, level, contents⟩])).held other scope =
      book.held other scope := by
  have hoff (p : DefinedName δ → Bool) (hp : p ⟨name, level, contents⟩ = false)
      (names : List (DefinedName δ)) :
      (names ++ [(⟨name, level, contents⟩ : DefinedName δ)]).filter p = names.filter p := by
    rw [List.filter_append, List.filter_cons_of_neg (by simp [hp]), List.filter_nil,
      List.append_nil]
  unfold Workbook.held
  cases level with
  | none =>
    rw [own_onNames_none]
    congr 1
    apply hoff
    simp only [Bool.and_eq_false_iff, beq_eq_false_iff_ne]
    exact hne.imp Ne.symm Ne.symm
  | some index =>
    rw [listed_onNames_some]
    by_cases hscope : scope = some index
    · cases hscope
      have hname : name ≠ other := (hne.resolve_right fun h => h rfl).symm
      rw [own_some, own_some, namesAt_onNames_self h, hoff _ (by simp [hname])]
    · rw [own_onNames_ne hscope]

/-! ### What is found -/

theorem sheetIndex_eq_some {sheetName : String} {index : Nat}
    (h : book.sheetIndex sheetName = some index) :
    ∃ sheet, book.sheetCollection[index]? = some sheet ∧ sheet.name = sheetName := by
  obtain ⟨hlt, hname, _⟩ := List.findIdx?_eq_some_iff_getElem.mp h
  exact ⟨_, List.getElem?_eq_getElem hlt, beq_iff_eq.mp hname⟩

theorem hasLevel_of_sheet {sheet : Worksheet δ} {index : Nat}
    (h : book.sheetCollection[index]? = some sheet) : book.HasLevel (some index) :=
  (List.getElem?_eq_some_iff.mp h).1

theorem findAtWorkbook_eq_some {kind : Option NamedRangeScope} {defined : DefinedName δ}
    (h : findAtWorkbook book name kind = some defined) :
    (kind = none ∨ kind = some .workbook) ∧ defined ∈ book.namesAt none ∧ defined.name = name ∧
      (kind = none → defined.localSheetId = none) := by
  unfold findAtWorkbook at h
  split at h
  · rename_i hkind
    have hfound := List.find?_some h
    unfold atWorkbookLevel at hfound
    rw [Bool.and_eq_true, beq_iff_eq] at hfound
    apply And.intro hkind
    apply And.intro (List.mem_of_find?_eq_some h)
    apply And.intro hfound.1
    intro hnone
    simpa [hnone] using hfound.2
  · cases h

theorem findAtSheet_eq_some {kind : Option NamedRangeScope} {scopeSheetName : Option String}
    {sheetName : String} {index : Nat} {defined : DefinedName δ}
    (h : findAtSheet book name kind scopeSheetName = some (sheetName, index, defined)) :
    (kind = none ∨ kind = some .sheet) ∧
      (∃ sheet, book.sheetCollection[index]? = some sheet ∧
        scopeSheetName.all fun wanted => Sheets.eqIgnoreAsciiCase sheet.name wanted) ∧
      defined ∈ book.own name (some index) := by
  unfold findAtSheet at h
  split at h
  · rename_i hkind
    obtain ⟨candidate, hcandidate, hfound⟩ := List.exists_of_findSome?_eq_some h
    obtain ⟨place, hplace, hfound⟩ := Option.bind_eq_some_iff.mp hfound
    obtain ⟨d, hd, hfound⟩ := Option.map_eq_some_iff.mp hfound
    cases hfound
    obtain ⟨sheet, hsheet, hname⟩ := sheetIndex_eq_some hplace
    apply And.intro hkind
    constructor
    · refine ⟨sheet, hsheet, ?_⟩
      rw [hname]
      exact (List.mem_filter.mp hcandidate).2
    · have hname := List.find?_some hd
      rw [own_some]
      exact List.mem_filter.mpr ⟨List.mem_of_find?_eq_some hd, hname⟩
  · cases h

end Held

/-! ### What a call is to do -/

/-- The scopes that fit a request: a scope left out fits each, and so does a sheet
left out; a sheet is told by its name up to letter case. -/
def Requested {δ : Type} (book : Workbook δ) (scope scopeSheetName : Option String) :
    Option Nat → Prop
  | none => scope ≠ some "sheet"
  | some index => scope ≠ some "workbook" ∧ ∀ wanted, scopeSheetName = some wanted →
      ∃ sheet, book.sheetCollection[index]? = some sheet ∧
        Sheets.eqIgnoreAsciiCase sheet.name wanted = true

/-- One definition is the one meant, and what goes by any other name or scope stays. -/
structure ChangesOne {δ : Type} (before after : Workbook δ) (name : String) (scope : Option Nat) :
    Prop where
  one : ∃ d, before.held name scope = [d]
  others : ∀ other scope', other ≠ name ∨ scope' ≠ scope →
    after.held other scope' = before.held other scope'

section Calls
variable {δ : Type} (lib : NameLibrary δ)

/-- The definition meant is replaced by one of the new address, if one is given. -/
def Updated (before after : Workbook δ) (name : String) (refersTo : Option String)
    (scope : Option Nat) : Prop :=
  ChangesOne before after name scope ∧
    match refersTo with
    | none => after.held name scope = before.held name scope
    | some newAddress =>
      ∃ d, after.held name scope = [d] ∧ lib.create name newAddress = .ok d.contents

def Deleted (before after : Workbook δ) (name : String) (scope : Option Nat) : Prop :=
  ChangesOne before after name scope ∧ after.held name scope = []

inductive NameCall where
  | defineName (name refersTo : String) (scope scopeSheetName : Option String)
  | updateName (name : String) (refersTo scope scopeSheetName : Option String)
  | deleteName (name : String) (scope scopeSheetName : Option String)
  deriving DecidableEq, Repr

namespace NameCall

def run (book : Workbook δ) : NameCall → Workbook δ
  | .defineName name refersTo scope scopeSheetName =>
    match NamedRanges.defineName lib book name refersTo scope scopeSheetName with
    | .ok (book, _) => book
    | .error _ => book
  | .updateName name refersTo scope scopeSheetName =>
    (NamedRanges.updateName lib book name refersTo scope scopeSheetName).1
  | .deleteName name scope scopeSheetName => (NamedRanges.deleteName book name scope scopeSheetName).1

/-- A call that succeeds changes the one definition asked for. -/
def Exact (book : Workbook δ) (call : NameCall) : Prop :=
  match call with
  | .defineName _ _ _ _ => True
  | .updateName name refersTo scope scopeSheetName =>
    ∀ response, (NamedRanges.updateName lib book name refersTo scope scopeSheetName).2 =
      .ok response → ∃ level, Requested book scope scopeSheetName level ∧
        Updated lib book (call.run lib book) name refersTo level
  | .deleteName name scope scopeSheetName =>
    ∀ response, (NamedRanges.deleteName book name scope scopeSheetName).2 = .ok response →
      ∃ level, Requested book scope scopeSheetName level ∧
        Deleted book (call.run lib book) name level

/-- A definition is asked for under a name that is free in its scope. An update that
finds its name in the workbook's list finds entries there for the workbook only, if
it writes, and one for the workbook, if it does not. A deletion there finds entries
of one scope only, and it is one asked for. -/
def Clear (book : Workbook δ) : NameCall → Prop
  | .defineName name refersTo scope scopeSheetName =>
    ∀ target contents, defineTarget book name refersTo scope scopeSheetName = .ok target →
      lib.create name refersTo = .ok contents → book.held name target = []
  | .updateName name refersTo scope _ =>
    ∀ kind, checkedFilter name scope = .ok kind →
      ∀ defined, findAtWorkbook book name kind = some defined →
        match refersTo with
        | none => book.held name none ≠ []
        | some newAddress => ∀ contents, book.sheetCollection ≠ [] →
            lib.create name newAddress = .ok contents →
            ∀ d ∈ book.definedNames, d.name = name → d.localSheetId = none
  | .deleteName name scope scopeSheetName =>
    ∀ kind, checkedFilter name scope = .ok kind → kind = none ∨ kind = some .workbook →
      (∃ d ∈ book.definedNames, d.name = name) →
        ∃ level, Requested book scope scopeSheetName level ∧
          ∀ d ∈ book.definedNames, d.name = name → d.localSheetId = level

end NameCall

/-! ### One call -/

section Step
variable {book next : Workbook δ} {name : String} {scope scopeSheetName : Option String}
  {level : Option Nat} {kind : Option NamedRangeScope}

theorem scopeFilter_eq_ok (h : scopeFilter scope = .ok kind) :
    scope = none ∧ kind = none ∨ scope = some "sheet" ∧ kind = some .sheet ∨
      scope = some "workbook" ∧ kind = some .workbook := by
  unfold scopeFilter at h
  split at h <;> cases h <;> simp

theorem checkedFilter_eq_ok (h : checkedFilter name scope = .ok kind) :
    scopeFilter scope = .ok kind := by
  simp only [checkedFilter, bind_eq_ok, pure_eq_ok] at h
  obtain ⟨found, hfound, _, _, hkind⟩ := h
  rw [hfound, hkind]

theorem held_eq_singleton (hbook : book.AtMostOne) {d : DefinedName δ}
    (hd : d ∈ book.held name level) : book.held name level = [d] := by
  have hle := hbook name level
  match hheld : book.held name level with
  | [] => simp [hheld] at hd
  | [e] =>
    rw [hheld, List.mem_singleton] at hd
    rw [hd]
  | _ :: _ :: _ => simp [hheld] at hle

/-- A definition in a sheet's own list is the only one of its name for that sheet. -/
theorem held_of_own (hbook : book.AtMostOne) {index : Nat} {d : DefinedName δ}
    (hd : d ∈ book.own name (some index)) :
    book.held name (some index) = [d] ∧ book.listed name (some index) = [] := by
  have hheld := held_eq_singleton hbook (List.mem_append_right (book.listed name _) hd)
  apply And.intro hheld
  have hlength := congrArg List.length hheld
  have hpos := List.length_pos_of_mem hd
  unfold Workbook.held at hlength
  rw [List.length_append, List.length_singleton] at hlength
  exact List.eq_nil_of_length_eq_zero (by omega)

theorem held_of_listed (hbook : book.AtMostOne) {d : DefinedName δ}
    (hd : d ∈ book.definedNames) (hname : d.name = name) :
    book.held name d.localSheetId = [d] ∧ book.own name d.localSheetId = [] := by
  have hmem : d ∈ book.listed name d.localSheetId := List.mem_filter.mpr ⟨hd, by simp [hname]⟩
  have hheld := held_eq_singleton hbook (List.mem_append_left (book.own name _) hmem)
  apply And.intro hheld
  have hlength := congrArg List.length hheld
  have hpos := List.length_pos_of_mem hmem
  unfold Workbook.held at hlength
  rw [List.length_append, List.length_singleton] at hlength
  exact List.eq_nil_of_length_eq_zero (by omega)

theorem listed_eq_nil (h : ∀ d ∈ book.definedNames, d.name = name → d.localSheetId ≠ level) :
    book.listed name level = [] := by
  unfold Workbook.listed
  rw [List.filter_eq_nil_iff]
  intro d hd hkey
  rw [Bool.and_eq_true, beq_iff_eq, beq_iff_eq] at hkey
  exact h d hd hkey.1 hkey.2

/-- A name taken out of the workbook's list changes one definition exactly when the
list has it for one scope only. -/
theorem changesOne_retained_iff (hbook : book.AtMostOne)
    (hnamed : ∃ d ∈ book.definedNames, d.name = name) :
    (ChangesOne book (book.onNames none (retain name)) name level ∧
      (book.onNames none (retain name)).held name level = []) ↔
      ∀ d ∈ book.definedNames, d.name = name → d.localSheetId = level := by
  constructor
  · intro ⟨hone, _⟩ d hd hname
    by_contra hne
    have hkept := hone.others name d.localSheetId (.inr hne)
    have hheld := held_of_listed hbook hd hname
    rw [held_retain_none, hheld.1, hheld.2] at hkept
    cases hkept
  · intro hall
    obtain ⟨d, hd, hname⟩ := hnamed
    have hlevel := hall d hd hname
    have hheld := held_of_listed hbook hd hname
    rw [hlevel] at hheld
    refine ⟨⟨⟨d, hheld.1⟩, ?_⟩, ?_⟩
    · intro other scope' hkey
      by_cases hother : other = name
      · rw [hother, held_retain_none]
        have hscope := hkey.resolve_left (not_not_intro hother)
        unfold Workbook.held
        rw [listed_eq_nil (fun e he hname heq => hscope (heq.symm.trans (hall e he hname))),
          List.nil_append]
      · exact held_retain_ne trivial hother
    · rw [held_retain_none, hheld.2]

theorem name_of_atWorkbookLevel {defined : DefinedName δ}
    (h : atWorkbookLevel name kind defined = true) : defined.name = name := by
  unfold atWorkbookLevel at h
  rw [Bool.and_eq_true, beq_iff_eq] at h
  exact h.1

theorem level_of_workbook (h : scopeFilter scope = .ok (some .workbook))
    (hwanted : Requested book scope scopeSheetName level) : level = none := by
  cases level with
  | none => rfl
  | some index =>
    rcases scopeFilter_eq_ok h with ⟨_, hkind⟩ | ⟨_, hkind⟩ | ⟨hscope, _⟩
    · cases hkind
    · cases hkind
    · exact absurd hscope hwanted.1

theorem requested_none (h : scopeFilter scope = .ok kind)
    (hkind : kind = none ∨ kind = some .workbook) : Requested book scope scopeSheetName none := by
  intro hscope
  rw [hscope] at h
  cases h
  simp at hkind

theorem requested_some (h : scopeFilter scope = .ok kind) (hkind : kind = none ∨ kind = some .sheet)
    {index : Nat} {sheet : Worksheet δ} (hsheet : book.sheetCollection[index]? = some sheet)
    (hname : scopeSheetName.all fun wanted => Sheets.eqIgnoreAsciiCase sheet.name wanted) :
    Requested book scope scopeSheetName (some index) := by
  constructor
  · intro hscope
    rw [hscope] at h
    cases h
    simp at hkind
  · intro wanted hwanted
    rw [hwanted] at hname
    exact ⟨sheet, hsheet, hname⟩

/-! Defining -/

theorem defineTarget_hasLevel {refersTo : String} {target : Option Nat}
    (h : defineTarget book name refersTo scope scopeSheetName = .ok target) :
    book.HasLevel target := by
  simp only [defineTarget, bind_eq_ok] at h
  obtain ⟨sheet, _, _, _, _, _, h⟩ := h
  cases sheet with
  | none =>
    simp only [bind_eq_ok, pure_eq_ok] at h
    obtain ⟨_, _, rfl⟩ := h
    exact trivial
  | some sheetName =>
    simp only [Workbook.resolveSheetIndex, map_eq_ok, required_eq_ok] at h
    obtain ⟨index, hindex, rfl⟩ := h
    obtain ⟨sheet, hsheet, _⟩ := sheetIndex_eq_some hindex
    exact hasLevel_of_sheet hsheet

theorem atMostOne_added_iff (hbook : book.AtMostOne) (hlevel : book.HasLevel level) (contents : δ) :
    (book.onNames level (· ++ [⟨name, level, contents⟩])).AtMostOne ↔
      book.held name level = [] := by
  constructor
  · intro h
    have hle := h name level
    rw [held_added_self hlevel, List.length_append, List.length_singleton] at hle
    exact List.eq_nil_of_length_eq_zero (by omega)
  · intro hnone other scope'
    by_cases hkey : other ≠ name ∨ scope' ≠ level
    · rw [held_added_ne hlevel contents hkey]
      exact hbook other scope'
    · push_neg at hkey
      rw [hkey.1, hkey.2, held_added_self hlevel, hnone]
      simp

theorem defineName_run {refersTo : String} :
    (∃ target contents, defineTarget book name refersTo scope scopeSheetName = .ok target ∧
      lib.create name refersTo = .ok contents ∧
      (NameCall.defineName name refersTo scope scopeSheetName).run lib book =
        book.onNames target (· ++ [⟨name, target, contents⟩])) ∨
    (NameCall.defineName name refersTo scope scopeSheetName).run lib book = book ∧
      ∀ target contents, defineTarget book name refersTo scope scopeSheetName = .ok target →
        lib.create name refersTo ≠ .ok contents := by
  simp only [NameCall.run, defineName]
  cases defineTarget book name refersTo scope scopeSheetName with
  | error message => exact .inr ⟨rfl, fun _ _ h => by cases h⟩
  | ok target =>
    cases lib.create name refersTo with
    | error message => exact .inr ⟨rfl, fun _ _ _ h => by cases h⟩
    | ok contents => exact .inl ⟨target, contents, rfl, rfl, rfl⟩

theorem defineName_step_iff {refersTo : String} (hbook : book.AtMostOne) :
    ((NameCall.defineName name refersTo scope scopeSheetName).run lib book).AtMostOne ↔
      (NameCall.defineName name refersTo scope scopeSheetName).Clear lib book := by
  rcases defineName_run lib with ⟨target, contents, htarget, hcreate, hrun⟩ | ⟨hrun, hnone⟩
  · rw [hrun, atMostOne_added_iff hbook (defineTarget_hasLevel htarget)]
    constructor
    · intro h target' contents' htarget' _
      rw [htarget] at htarget'
      exact Except.ok.inj htarget' ▸ h
    · intro h
      exact h target contents htarget hcreate
  · rw [hrun]
    exact ⟨fun _ target contents htarget hcreate => absurd hcreate (hnone target contents htarget),
      fun _ => hbook⟩

/-! Deleting -/

theorem retained_atMostOne (hbook : book.AtMostOne) (hlevel : book.HasLevel level) :
    (book.onNames level (retain name)).AtMostOne := by
  intro other scope'
  by_cases hother : other = name
  · rw [hother]
    cases level with
    | none =>
      rw [held_retain_none]
      exact (List.sublist_append_right _ _).length_le.trans (hbook name scope')
    | some index =>
      by_cases hscope : scope' = some index
      · rw [hscope, held_retain_some hlevel]
        exact (List.sublist_append_left _ _).length_le.trans (hbook name (some index))
      · rw [held_onNames_some_ne hscope]
        exact hbook name scope'
  · rw [held_retain_ne hlevel hother]
    exact hbook other scope'

theorem changesOne_retained_sheet (hbook : book.AtMostOne) {index : Nat} {d : DefinedName δ}
    (hlevel : book.HasLevel (some index)) (hd : d ∈ book.own name (some index)) :
    ChangesOne book (book.onNames (some index) (retain name)) name (some index) ∧
      (book.onNames (some index) (retain name)).held name (some index) = [] := by
  have hheld := held_of_own hbook hd
  refine ⟨⟨⟨d, hheld.1⟩, ?_⟩, ?_⟩
  · intro other scope' hkey
    by_cases hother : other = name
    · exact held_onNames_some_ne (hkey.resolve_left (not_not_intro hother)) _
    · exact held_retain_ne hlevel hother
  · rw [held_retain_some hlevel, hheld.2]

theorem deleteName_step_iff (hbook : book.AtMostOne) :
    (((NameCall.deleteName name scope scopeSheetName).run lib book).AtMostOne ∧
      (NameCall.deleteName name scope scopeSheetName).Exact lib book) ↔
      (NameCall.deleteName name scope scopeSheetName).Clear lib book := by
  simp only [NameCall.Exact, NameCall.Clear, NameCall.run]
  cases hcheck : checkedFilter name scope with
  | error message => simp [deleteName, hcheck, hbook]
  | ok kind =>
    have hfilter := checkedFilter_eq_ok hcheck
    by_cases hwhole : (kind = none ∨ kind = some .workbook) ∧ ∃ d ∈ book.definedNames, d.name = name
    · have hdelete : deleteName book name scope scopeSheetName =
          (book.onNames none (retain name), .ok ⟨name, true⟩) := by
        simp only [deleteName, hcheck]
        exact if_pos ⟨hwhole.1, by simpa using hwhole.2⟩
      simp only [hdelete, Except.ok.injEq, forall_eq', hwhole.1, hwhole.2, forall_const, Deleted,
        changesOne_retained_iff hbook hwhole.2]
      exact and_iff_right (retained_atMostOne hbook trivial)
    · have hclear : ∀ kind', Except.ok kind = (Except.ok kind' : Except String _) →
          kind' = none ∨ kind' = some .workbook → (∃ d ∈ book.definedNames, d.name = name) →
          ∃ level, Requested book scope scopeSheetName level ∧
            ∀ d ∈ book.definedNames, d.name = name → d.localSheetId = level := by
        intro kind' hkind' hwhole' hnamed
        exact absurd ⟨Except.ok.inj hkind' ▸ hwhole', hnamed⟩ hwhole
      apply iff_of_true _ hclear
      simp only [deleteName, hcheck]
      rw [if_neg (by simpa using hwhole)]
      cases hfind : findAtSheet book name kind scopeSheetName with
      | none => exact ⟨hbook, fun _ h => by cases h⟩
      | some found =>
        obtain ⟨sheetName, index, defined⟩ := found
        dsimp only
        obtain ⟨hkind, ⟨sheet, hsheet, hmatches⟩, hown⟩ := findAtSheet_eq_some hfind
        have hlevel := hasLevel_of_sheet hsheet
        apply And.intro (retained_atMostOne hbook hlevel)
        intro _ _
        exact ⟨some index, requested_some hfilter hkind hsheet hmatches,
          changesOne_retained_sheet hbook hlevel hown⟩

/-! Updating -/

theorem replaceAt_eq {found : DefinedName δ → Bool} {newAddress : String}
    (hfound : ∀ d, found d = true → d.name = name) :
    replaceAt lib book level found name newAddress =
      if level = none ∧ book.sheetCollection = [] then
        (book.onNames level (retain name), .error "workbook has no sheets")
      else
        match lib.create name newAddress with
        | .error error =>
          (book.onNames level (retain name), .error ("failed to replace defined name: " ++ error))
        | .ok contents =>
          ((book.onNames level (retain name)).onNames level (· ++ [⟨name, level, contents⟩]),
            .ok ()) := by
  have hcleared : (book.onNames level (amendFirst found (readdress lib newAddress))).onNames level
      (retain name) = book.onNames level (retain name) := by
    rw [onNames_onNames]
    congr 1
    funext names
    exact retain_amendFirst (f := readdress lib newAddress) hfound (fun _ => rfl) names
  unfold replaceAt
  simp only [hcleared]
  cases level with
  | none => rfl
  | some index => exact (if_neg (by simp)).symm

theorem replaced_exact (hlevel : book.HasLevel level) (contents : δ)
    (hchanges : ChangesOne book (book.onNames level (retain name)) name level)
    (hgone : (book.onNames level (retain name)).held name level = [])
    (hnext : next = (book.onNames level (retain name)).onNames level
      (· ++ [⟨name, level, contents⟩])) :
    ChangesOne book next name level ∧ next.held name level = [⟨name, level, contents⟩] := by
  have hlevel' := (hasLevel_onNames (retain name)).mpr hlevel
  rw [hnext, held_added_self hlevel', hgone]
  refine ⟨⟨hchanges.one, ?_⟩, rfl⟩
  intro other scope' hkey
  rw [held_added_ne hlevel' contents hkey]
  exact hchanges.others other scope' hkey

/-- A definition written to the workbook's list is exact when the list has the name
for the workbook only. -/
theorem replaced_whole_iff (hbook : book.AtMostOne) {contents : δ} {newAddress : String}
    (hnamed : ∃ d ∈ book.definedNames, d.name = name)
    (hcreate : lib.create name newAddress = .ok contents)
    (hnext : next = (book.onNames none (retain name)).onNames none
      (· ++ [⟨name, none, contents⟩])) (hnone : Requested book scope scopeSheetName none) :
    (∃ level, Requested book scope scopeSheetName level ∧
      Updated lib book next name (some newAddress) level) ↔
      ∀ d ∈ book.definedNames, d.name = name → d.localSheetId = none := by
  constructor
  · intro ⟨level, _, hone, d', hd', _⟩ d hd hname
    cases hid : d.localSheetId with
    | none => rfl
    | some index =>
      have hheld := held_of_listed hbook hd hname
      rw [hid] at hheld
      have htop : (book.onNames none (retain name)).HasLevel none := trivial
      have hgone : next.held name (some index) = [] := by
        rw [hnext, held_added_ne htop contents (.inr (by simp)), held_retain_none, hheld.2]
      by_cases hlevel : level = some index
      · rw [hlevel, hgone] at hd'
        cases hd'
      · have hkept := hone.others name (some index) (.inr (Ne.symm hlevel))
        rw [hgone, hheld.1] at hkept
        cases hkept
  · intro hall
    obtain ⟨hchanges, hgone⟩ := (changesOne_retained_iff hbook hnamed).mpr hall
    have htop : book.HasLevel none := trivial
    obtain ⟨hone, hheld⟩ := replaced_exact htop contents hchanges hgone hnext
    exact ⟨none, hnone, hone, _, hheld, hcreate⟩

theorem updated_in_place_iff (hbook : book.AtMostOne) :
    Updated lib book book name none level ↔ book.held name level ≠ [] := by
  constructor
  · intro ⟨hone, _⟩ hnone
    obtain ⟨d, hd⟩ := hone.one
    rw [hnone] at hd
    cases hd
  · intro hsome
    obtain ⟨d, hd⟩ := List.exists_mem_of_ne_nil _ hsome
    exact ⟨⟨⟨d, held_eq_singleton hbook hd⟩, fun _ _ _ => rfl⟩, rfl⟩

theorem replaced_atMostOne (hbook : book.AtMostOne) (hlevel : book.HasLevel level) {contents : δ}
    (hgone : (book.onNames level (retain name)).held name level = []) :
    ((book.onNames level (retain name)).onNames level
      (· ++ [⟨name, level, contents⟩])).AtMostOne :=
  (atMostOne_added_iff (retained_atMostOne hbook hlevel)
    ((hasLevel_onNames (retain name)).mpr hlevel) contents).mpr hgone

theorem updateName_step_iff {refersTo : Option String} (hbook : book.AtMostOne) :
    (((NameCall.updateName name refersTo scope scopeSheetName).run lib book).AtMostOne ∧
      (NameCall.updateName name refersTo scope scopeSheetName).Exact lib book) ↔
      (NameCall.updateName name refersTo scope scopeSheetName).Clear lib book := by
  simp only [NameCall.Exact, NameCall.Clear, NameCall.run, updateName]
  cases hcheck : checkedFilter name scope with
  | error message => simp [hbook]
  | ok kind =>
    have hfilter := checkedFilter_eq_ok hcheck
    simp only [Except.ok.injEq, forall_eq']
    cases hfind : findAtWorkbook book name kind with
    | some defined =>
      obtain ⟨hkind, hdefined, hname, hlocal⟩ := findAtWorkbook_eq_some hfind
      have hnone : Requested book scope scopeSheetName none := requested_none hfilter hkind
      simp only [Option.some.injEq, forall_eq']
      cases refersTo with
      | none =>
        simp only [forall_const, Except.ok.injEq, forall_eq', updated_in_place_iff lib hbook]
        constructor
        · rintro ⟨_, level, hwanted, hheld⟩
          cases hkind with
          | inl hunset =>
            rw [← hlocal hunset, (held_of_listed hbook hdefined hname).1]
            exact List.cons_ne_nil _ _
          | inr hwhole =>
            rw [hwhole] at hfilter
            rw [← level_of_workbook hfilter hwanted]
            exact hheld
        · intro hheld
          exact ⟨hbook, none, hnone, hheld⟩
      | some newAddress =>
        have htop : book.HasLevel none := trivial
        have hnamed : ∃ d ∈ book.definedNames, d.name = name := ⟨defined, hdefined, hname⟩
        simp only [replaceAt_eq lib (fun d hd => name_of_atWorkbookLevel hd), true_and]
        by_cases hsheets : book.sheetCollection = []
        · apply iff_of_true _ (fun _ h => absurd hsheets h)
          rw [if_pos hsheets]
          exact ⟨retained_atMostOne hbook htop, fun _ h => by cases h⟩
        · rw [if_neg hsheets]
          cases hcreate : lib.create name newAddress with
          | error error =>
            apply iff_of_true _ (fun _ _ h => by cases h)
            exact ⟨retained_atMostOne hbook htop, fun _ h => by cases h⟩
          | ok contents =>
            simp only [ne_eq, hsheets, not_false_eq_true, Except.ok.injEq, forall_const, forall_eq',
              Except.map, replaced_whole_iff lib hbook hnamed hcreate rfl hnone]
            have hgone : (book.onNames none (retain name)).held name none = [] := held_retain_none
            exact and_iff_right (replaced_atMostOne hbook htop hgone)
    | none =>
      apply iff_of_true _ (by simp)
      cases hsheet : findAtSheet book name kind scopeSheetName with
      | none => exact ⟨hbook, fun _ h => by cases h⟩
      | some found =>
        obtain ⟨sheetName, index, defined⟩ := found
        obtain ⟨hkind, ⟨sheet, hsheet, hmatches⟩, hown⟩ := findAtSheet_eq_some hsheet
        have hlevel := hasLevel_of_sheet hsheet
        have hwanted : Requested book scope scopeSheetName (some index) :=
          requested_some hfilter hkind hsheet hmatches
        obtain ⟨hchanges, hgone⟩ := changesOne_retained_sheet hbook hlevel hown
        cases refersTo with
        | none =>
          apply And.intro hbook
          intro _ _
          refine ⟨some index, hwanted, (updated_in_place_iff lib hbook).mpr ?_⟩
          rw [(held_of_own hbook hown).1]
          exact List.cons_ne_nil _ _
        | some newAddress =>
          simp only [replaceAt_eq lib (fun d hd => beq_iff_eq.mp hd), reduceCtorEq, false_and,
            if_false]
          cases hcreate : lib.create name newAddress with
          | error error =>
            exact ⟨retained_atMostOne hbook hlevel, fun _ h => by cases h⟩
          | ok contents =>
            have hexact := replaced_exact hlevel contents hchanges hgone rfl
            apply And.intro (replaced_atMostOne hbook hlevel hgone)
            intro _ _
            exact ⟨some index, hwanted, hexact.1, _, hexact.2, hcreate⟩

theorem call_step_iff (hbook : book.AtMostOne) (call : NameCall) :
    (call.run lib book).AtMostOne ∧ call.Exact lib book ↔ call.Clear lib book := by
  cases call with
  | defineName name refersTo scope scopeSheetName =>
    rw [← defineName_step_iff lib hbook]
    exact and_iff_left trivial
  | updateName name refersTo scope scopeSheetName => exact updateName_step_iff lib hbook
  | deleteName name scope scopeSheetName => exact deleteName_step_iff lib hbook

end Step

def step (book : Workbook δ) (call : NameCall) : Workbook δ := call.run lib book

/-- From one definition for each name and scope, a session keeps it so and each update
and deletion that succeeds changes the one definition asked for, exactly when each
call is clear where it is made. -/
theorem names_kept_iff (book : Workbook δ) (h : book.AtMostOne) (calls : List NameCall) :
    (∀ n, (stateAfter (step lib) book calls n).AtMostOne) ∧
      AllSteps (step lib) (fun book call => call.Exact lib book) book calls ↔
      AllSteps (step lib) (fun book call => call.Clear lib book) book calls :=
  kept_along_iff (fun _ call hbook => call_step_iff lib hbook call) h

end Calls

theorem atMostOne_of_unnamed {δ : Type} {book : Workbook δ} (h : ∀ level, book.namesAt level = []) :
    book.AtMostOne := by
  intro name scope
  unfold Workbook.held Workbook.listed
  rw [h none, List.filter_nil, List.nil_append]
  cases scope with
  | none => exact Nat.zero_le 1
  | some index =>
    rw [own_some, h (some index)]
    exact Nat.zero_le 1

/-! ### Samples -/

/-- Addresses kept in a list, which `setAddress` adds to. -/
def listedAddresses : NameLibrary (List String) where
  address := String.intercalate ","
  setAddress addresses newAddress := addresses ++ [newAddress]
  create _ refersTo := .ok [refersTo]

def unnamedBook : Workbook (List String) := ⟨[], [⟨"Data", []⟩]⟩

theorem unnamedBook_atMostOne : unnamedBook.AtMostOne := by
  apply atMostOne_of_unnamed
  intro level
  match level with
  | none => rfl
  | some 0 => rfl
  | some (_ + 1) => rfl

/-- `Rate` is defined for the workbook and for a sheet, written anew for the one and
deleted for the other. -/
def rateCalls : List NameCall :=
  [.defineName "Rate" "Data!$A$1" none none,
    .defineName "Rate" "Data!$A$2" (some "sheet") (some "Data"),
    .updateName "Rate" (some "Data!$B$1") (some "workbook") none,
    .deleteName "Rate" (some "sheet") (some "data")]

theorem rateCalls_kept : unnamedBook.AtMostOne ∧
    (∀ n, (stateAfter (step listedAddresses) unnamedBook rateCalls n).AtMostOne) ∧
      AllSteps (step listedAddresses) (fun book call => call.Exact listedAddresses book)
        unnamedBook rateCalls := by
  apply And.intro unnamedBook_atMostOne
  apply (names_kept_iff listedAddresses unnamedBook unnamedBook_atMostOne rateCalls).mpr
  unfold rateCalls
  simp only [allSteps_cons]
  refine ⟨?_, ?_, ?_, ?_, allSteps_nil⟩
  · intro target contents htarget _
    cases Except.ok.inj htarget
    rfl
  · intro target contents htarget _
    cases Except.ok.inj htarget
    rfl
  · intro kind _ defined _ contents _ _
    decide
  · intro kind hkind hwhole
    cases Except.ok.inj hkind
    simp at hwhole

/-- A name defined a second time is there twice. An update for the workbook takes a
sheet's definition out of the workbook's list. -/
theorem defined_twice : unnamedBook.AtMostOne ∧
    ¬ (stateAfter (step listedAddresses) unnamedBook
      [.defineName "Rate" "Data!$A$1" none none, .defineName "Rate" "Data!$A$2" none none] 2).AtMostOne ∧
    NameCall.run listedAddresses ⟨[⟨"Rate", some 0, ["Data!$A$1"]⟩], [⟨"Data", []⟩]⟩
      (.updateName "Rate" (some "Data!$B$1") (some "workbook") none) =
      ⟨[⟨"Rate", none, ["Data!$B$1"]⟩], [⟨"Data", []⟩]⟩ := by
  refine ⟨unnamedBook_atMostOne, ?_, ?_⟩
  · intro h
    have htwo := h "Rate" none
    revert htwo
    decide
  · decide

end AgentSpreadsheet.NamedRanges
