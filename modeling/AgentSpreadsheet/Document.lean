import AgentSpreadsheet.RanWrite
import AgentSpreadsheet.Ancestry

/-! The document a journal stands for: prepared publications folded along document
history, from the session's base. Documents are compared by content: a formula,
or a value where there is no formula. A calculation changes formula results only,
and a serialisation may drop cells that have no content. -/
namespace AgentSpreadsheet
open Library

def Cell.content (cell : Cell) : Option String × ResidentMaterializedValue :=
  match cell.formula with
  | some formula => (some formula, .empty)
  | none => (none, cell.value)

/-- A missing cell has the content of an empty one. -/
def Workbook.content (document : Workbook) (key : CellKey) :
    Option String × ResidentMaterializedValue :=
  ((document.cells key).map Cell.content).getD (none, .empty)

structure Workbook.SameContent (a b : Workbook) : Prop where
  sheets : a.sheets = b.sheets
  content : ∀ key, a.content key = b.content key

/-- Writing and reading a workbook keeps every cell that has a value or a formula;
cells that have neither may be dropped. -/
structure Xlsx.RoundTrips (xlsx : Xlsx Archive) : Prop where
  reads : ∀ {document bytes}, xlsx.Serialises document bytes →
    ∃ parsed, xlsx.readReader bytes = .ok parsed ∧ parsed.sheets = document.sheets ∧
      ∀ key, parsed.cells key = document.cells key ∨ parsed.cells key = none ∧
        ∃ cell, document.cells key = some cell ∧ cell.value = .empty ∧ cell.formula = none

def PreparedResidentPublication.apply (xlsx : Xlsx Archive) (document : Workbook) :
    PreparedResidentPublication Archive → Workbook
  | .none => document
  | .cells effects => (assignCells xlsx effects document).2
  | .snapshot _ bytes _ _ =>
    match xlsx.readReader bytes with
    | .ok replacement => replacement
    | .error _ => document

def PreparedResidentCommit.apply (xlsx : Xlsx Archive) (document : Workbook)
    (record : PreparedResidentCommit Archive) : Workbook :=
  match findMember Effect.preparedTransaction record.effects with
  | .value prepared => prepared.publication.apply xlsx document
  | _ => document

def recordOf (records : List (PreparedResidentCommit Archive)) (commitId : String) :
    Option (PreparedResidentCommit Archive) :=
  records.find? fun record => record.commitId == commitId

def documentAlong (xlsx : Xlsx Archive) (records : List (PreparedResidentCommit Archive))
    (base : Workbook) (commits : List String) : Workbook :=
  (commits.filterMap (recordOf records)).foldl (PreparedResidentCommit.apply xlsx) base

def journalDocument (xlsx : Xlsx Archive) (base : Archive)
    (records : List (PreparedResidentCommit Archive)) (history : PortableHistoryState) :
    Result Workbook := do
  let document ← xlsx.readReader base
  let active ← history.activeAncestry
  pure (documentAlong xlsx records document active)

section Content
variable {xlsx : Xlsx Archive} {a b c : Workbook}

namespace Workbook

theorem SameContent.refl (a : Workbook) : a.SameContent a := ⟨rfl, fun _ => rfl⟩

theorem SameContent.trans (hab : a.SameContent b) (hbc : b.SameContent c) : a.SameContent c :=
  ⟨hab.sheets.trans hbc.sheets, fun key => (hab.content key).trans (hbc.content key)⟩

theorem content_setCell (document : Workbook) (key target : CellKey) (cell : Cell) :
    (document.setCell target cell).content key =
      if key = target then cell.content else document.content key := by
  unfold content setCell
  by_cases h : key = target
  · subst h
    simp
  · simp [h]

theorem SameContent.setCell (h : a.SameContent b) (key : CellKey) {cell cell' : Cell}
    (hcell : cell.content = cell'.content) :
    (a.setCell key cell).SameContent (b.setCell key cell') where
  sheets := h.sheets
  content := by
    intro target
    rw [content_setCell, content_setCell]
    split
    · exact hcell
    · exact h.content target

end Workbook

theorem Xlsx.RoundTrips.sameContent (h : xlsx.RoundTrips) {document : Workbook} {bytes : Archive}
    (hbytes : xlsx.Serialises document bytes) :
    ∃ parsed, xlsx.readReader bytes = .ok parsed ∧ parsed.SameContent document := by
  obtain ⟨parsed, hparsed, hsheets, hcells⟩ := h.reads hbytes
  refine ⟨parsed, hparsed, hsheets, fun key => ?_⟩
  unfold Workbook.content
  rcases hcells key with hkept | ⟨hdropped, cell, hcell, hvalue, hformula⟩
  · rw [hkept]
  · rw [hdropped, hcell]
    simp [Cell.content, hvalue, hformula]

/-- An assignment fixes the content of its cell, whatever was there. -/
theorem assignMaterializedCell_content (xlsx : Xlsx Archive) (cell cell' : Cell)
    (materialized : ResidentMaterializedCell) :
    (assignMaterializedCell xlsx cell materialized).1 =
        (assignMaterializedCell xlsx cell' materialized).1 ∧
      (assignMaterializedCell xlsx cell materialized).2.content =
        (assignMaterializedCell xlsx cell' materialized).2.content := by
  obtain ⟨value, formula⟩ := materialized
  unfold assignMaterializedCell
  cases formula with
  | some formula =>
    cases value with
    | error s =>
      dsimp only
      split <;> exact ⟨rfl, rfl⟩
    | _ => exact ⟨rfl, rfl⟩
  | none => cases value <;> exact ⟨rfl, rfl⟩

theorem assignCells_sameContent {effects : List ResidentPreparedCellEffect}
    (h : a.SameContent b) :
    (assignCells xlsx effects a).2.SameContent (assignCells xlsx effects b).2 := by
  induction effects generalizing a b with
  | nil => exact h
  | cons effect rest ih =>
    obtain ⟨hresult, hcontent⟩ := assignMaterializedCell_content xlsx (a.cellMut effect.key)
      (b.cellMut effect.key) effect.after
    unfold assignCells
    rw [h.sheets]
    split
    · exact h
    · cases ha : assignMaterializedCell xlsx (a.cellMut effect.key) effect.after with
      | mk result cell =>
        cases hb : assignMaterializedCell xlsx (b.cellMut effect.key) effect.after with
        | mk result' cell' =>
          rw [ha, hb] at hresult hcontent
          dsimp only at hresult hcontent
          subst hresult
          cases result with
          | ok _ => exact ih (h.setCell effect.key hcontent)
          | error e => exact h.setCell effect.key hcontent

theorem PreparedResidentPublication.apply_sameContent (h : a.SameContent b)
    (publication : PreparedResidentPublication Archive) :
    (publication.apply xlsx a).SameContent (publication.apply xlsx b) := by
  cases publication with
  | none => exact h
  | cells effects => exact assignCells_sameContent h
  | snapshot expected bytes sha256 effect =>
    unfold PreparedResidentPublication.apply
    dsimp only
    split
    · exact .refl _
    · exact h

/-- Every update has a formula cell of the document to go to. -/
def TargetsFormulas (document : Workbook) (updates : List FormulaCacheUpdate) : Prop :=
  ∀ update ∈ updates, ∃ cell, document.cells update.key = some cell ∧ cell.isFormula = true

theorem checkCacheTargets_targets {document : Workbook} {updates : List FormulaCacheUpdate}
    (h : checkCacheTargets document updates = .ok ()) : TargetsFormulas document updates := by
  induction updates with
  | nil => simp [TargetsFormulas]
  | cons update rest ih =>
    simp only [checkCacheTargets, bind_eq_ok, required_eq_ok, ensure_eq_ok] at h
    obtain ⟨_, _, cell, hcell, _, hformula, hrest⟩ := h
    intro u hu
    rcases List.mem_cons.mp hu with rfl | hu
    · exact ⟨cell, hcell, hformula⟩
    · exact ih hrest u hu

/-- A published cache keeps the content of the document and its formula cells. -/
theorem publishCache_sameContent {document : Workbook} {update : FormulaCacheUpdate}
    {rest : List FormulaCacheUpdate} (h : TargetsFormulas document (update :: rest)) :
    (publishCache xlsx document update).SameContent document ∧
      TargetsFormulas (publishCache xlsx document update) rest := by
  obtain ⟨cell, hcell, hformula⟩ := h update List.mem_cons_self
  obtain ⟨formula, htext⟩ := Option.isSome_iff_exists.mp hformula
  have hmut : document.cellMut update.key = cell := by simp [Workbook.cellMut, hcell]
  unfold publishCache
  rw [hmut]
  constructor
  · refine ⟨rfl, fun key => ?_⟩
    rw [Workbook.content_setCell]
    split
    · rename_i hkey
      subst hkey
      simp [Workbook.content, hcell, Cell.content, Cell.setFormulaResult, htext]
    · rfl
  · intro other hother
    obtain ⟨found, hfound, hisFormula⟩ := h other (List.mem_cons_of_mem _ hother)
    by_cases hkey : other.key = update.key
    · refine ⟨cell.setFormulaResult (cacheValue xlsx update.value), ?_, hformula⟩
      simp [Workbook.setCell, hkey]
    · refine ⟨found, ?_, hisFormula⟩
      simp [Workbook.setCell, hkey, hfound]

theorem applyFormulaCacheUpdates_sameContent {updates : List FormulaCacheUpdate}
    {document document' : Workbook}
    (h : applyFormulaCacheUpdates xlsx document updates = .ok document') :
    document'.SameContent document := by
  simp only [applyFormulaCacheUpdates, bind_eq_ok, pure_eq_ok] at h
  obtain ⟨_, htargets, rfl⟩ := h
  replace htargets := checkCacheTargets_targets htargets
  induction updates generalizing document with
  | nil => exact .refl document
  | cons update rest ih =>
    have hpublished : (publishCache xlsx document update).SameContent document ∧
        TargetsFormulas (publishCache xlsx document update) rest :=
      publishCache_sameContent htargets
    exact (ih hpublished.2).trans hpublished.1

end Content

end AgentSpreadsheet
