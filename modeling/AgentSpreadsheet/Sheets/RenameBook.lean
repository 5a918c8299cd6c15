import AgentSpreadsheet.Library.Pointwise
import AgentSpreadsheet.Sheets.RenameExact

/-! Defined names, and the rename of a whole workbook. -/
namespace AgentSpreadsheet.Sheets
open Library

/-! ### Defined names -/

section Texts
variable {c : Char} {text : String} {formula : List Char} {tokens : List FormulaToken} {cursor : Nat}

theorem mem_dropWhile {list : List Char} (hmem : c ∈ list) (hkept : Legacy.isWhitespace c = false) :
    c ∈ list.dropWhile Legacy.isWhitespace := by
  induction list with
  | nil => contradiction
  | cons head rest ih =>
    rw [List.dropWhile_cons]
    split
    · rename_i hspace
      rcases List.mem_cons.mp hmem with hhead | hrest
      · rw [← hhead, hkept] at hspace
        contradiction
      · exact ih hrest
    · exact hmem

theorem mem_trim (hmem : c ∈ text.toList) (hkept : Legacy.isWhitespace c = false) :
    c ∈ (Legacy.trim text).toList := by
  unfold Legacy.trim
  rw [String.toList_ofList, List.mem_reverse]
  apply mem_dropWhile _ hkept
  rw [List.mem_reverse]
  exact mem_dropWhile hmem hkept

theorem head_trim (hhead : text.toList.head? = some c) (hkept : Legacy.isWhitespace c = false) :
    (Legacy.trim text).toList.head? = some c := by
  have hmem := mem_trim (List.mem_of_head? hhead) hkept
  unfold Legacy.trim at hmem ⊢
  rw [String.toList_ofList] at hmem ⊢
  have hfront : text.toList.dropWhile Legacy.isWhitespace = text.toList := by
    apply dropWhile_trimmed
    intro d hd
    rw [hhead] at hd
    rwa [← Option.some.inj hd]
  rw [hfront] at hmem ⊢
  have hends := List.dropWhile_suffix Legacy.isWhitespace (l := text.toList.reverse)
  have hstarts := List.reverse_prefix.mpr hends
  rw [List.reverse_reverse] at hstarts
  obtain ⟨rest, hrest⟩ := hstarts
  rw [← hrest] at hhead
  rwa [List.head?_append_of_ne_nil _ (List.ne_nil_of_mem hmem)] at hhead

theorem mem_splice {value value' : FormulaToken → String}
    (hvalues : ∀ token ∈ tokens, c ∈ (value token).toList → c ∈ (value' token).toList)
    (hmem : c ∈ splice formula value cursor tokens) : c ∈ splice formula value' cursor tokens := by
  induction tokens generalizing cursor with
  | nil => exact hmem
  | cons token rest ih =>
    unfold splice at hmem ⊢
    rw [List.append_assoc] at hmem ⊢
    rcases List.mem_append.mp hmem with hgap | hmem
    · exact List.mem_append_left _ hgap
    · rcases List.mem_append.mp hmem with htoken | hrest
      · exact List.mem_append_right _ (List.mem_append_left _ (hvalues token List.mem_cons_self htoken))
      · refine List.mem_append_right _ (List.mem_append_right _ (ih ?_ hrest))
        exact fun other hother => hvalues other (List.mem_cons_of_mem _ hother)

theorem mem_splice_value {value : FormulaToken → String} {token : FormulaToken}
    (htoken : token ∈ tokens) (hmem : c ∈ (value token).toList) :
    c ∈ splice formula value cursor tokens := by
  induction tokens generalizing cursor with
  | nil => contradiction
  | cons head rest ih =>
    unfold splice
    rw [List.append_assoc]
    refine List.mem_append_right _ ?_
    rcases List.mem_cons.mp htoken with hhead | hrest
    · rw [← hhead]
      exact List.mem_append_left _ hmem
    · exact List.mem_append_right _ (ih hrest)

theorem mem_formatSheetPrefix (hmem : c ∈ text.toList) : c ∈ (formatSheetPrefix text).toList := by
  unfold formatSheetPrefix
  split
  · have hdoubled : c ∈ doubled '\'' text.toList := mem_doubled.mpr hmem
    unfold doubled at hdoubled
    simp only [String.toList_append, String.toList_ofList, List.mem_append]
    exact .inl (.inr hdoubled)
  · rw [String.toList_append]
    exact List.mem_append_left _ hmem

theorem mem_stripEquals (hmem : c ∈ text.toList) (hc : c ≠ '=') : c ∈ (stripEquals text).toList := by
  unfold stripEquals
  split
  · rename_i rest hrest
    rw [hrest] at hmem
    rw [String.toList_ofList]
    exact (List.mem_cons.mp hmem).resolve_left hc
  · exact hmem

end Texts

section Names
variable {lib : FormulaLibrary} {policy : FormulaParsePolicy} {oldName newName : String}
  {name name' name'' : DefinedName} {tokens tokens' : List FormulaToken}
  {errors errors' : List FormulaParseError}

theorem looksLikeFormula_iff : name.looksLikeFormula = true ↔
    name.hadEquals = true ∨ '(' ∈ (Legacy.trim name.address).toList := by
  unfold DefinedName.looksLikeFormula DefinedName.hadEquals
  simp

theorem head_withEquals (text : String) : (withEquals text).toList.head? = some '=' := by
  unfold withEquals
  split
  · assumption
  · simp

theorem StaysFormula.looksLike (hstays : StaysFormula lib oldName newName name)
    (hlib : lib.Lawful) (hlooks : name.looksLikeFormula = true)
    (htokens : lib.tokenize name.formula = .ok tokens) :
    (name.renamed oldName newName tokens).looksLikeFormula = true := by
  unfold DefinedName.renamed
  split
  · rename_i hany
    obtain ⟨token, htoken, hrecognised⟩ := List.any_eq_true.mp hany
    rw [looksLikeFormula_iff]
    dsimp only
    split
    · rename_i hequals
      refine .inl (decide_eq_true (head_trim ?_ (by decide)))
      have htiles := (hlib _ _ htokens).1
      have hhead := head_withEquals (Legacy.trim name.address)
      unfold renamedFormula
      rw [String.toList_ofList, splice_first htiles]
      cases hlist : name.formula.toList with
      | nil =>
        unfold DefinedName.formula at hlist
        rw [hlist] at hhead
        contradiction
      | cons c rest =>
        unfold DefinedName.formula at hlist
        rw [hlist] at hhead
        simpa using hhead
    · rename_i hequals
      refine .inr (mem_trim (mem_stripEquals ?_ (by decide)) (by decide))
      unfold renamedFormula
      rw [String.toList_ofList]
      obtain ⟨tail, htail⟩ := Option.isSome_iff_exists.mp hrecognised
      rcases hstays with hhad | hnew | hkept
      · exact absurd hhad hequals
      · refine mem_splice_value htoken ?_
        unfold renamedValue
        rw [htail, String.toList_append]
        exact List.mem_append_left _ (mem_formatSheetPrefix hnew)
      · refine mem_splice (fun other _ hmem => ?_) (hkept tokens htokens)
        unfold unprefixed at hmem
        unfold renamedValue
        cases hother : recognised oldName other with
        | none =>
          rw [hother] at hmem
          exact hmem
        | some rest =>
          rw [hother] at hmem
          rw [String.toList_append]
          exact List.mem_append_right _ hmem
  · exact hlooks

theorem renameDefinedName_cases
    (h : renameDefinedName lib policy oldName newName name = .ok (name', errors)) :
    (name' = name ∧ (name.looksLikeFormula = false ∨ policy = .off ∨
      policy ≠ .fail ∧ ∀ tokens, lib.tokenize name.formula ≠ .ok tokens)) ∨
    ∃ tokens, lib.tokenize name.formula = .ok tokens ∧
      name' = name.renamed oldName newName tokens := by
  unfold renameDefinedName at h
  split at h
  · rename_i hskip
    injection h with h
    injection h with hname
    exact .inl ⟨hname.symm, hskip.imp_right .inl⟩
  · simp only [bind_eq_ok] at h
    obtain ⟨parsed, hparsed, h⟩ := h
    rcases tokensOf_cases hparsed with ⟨tokens, htokens, rfl⟩ | ⟨message, hunread, rfl⟩
    · simp only [pure_eq_ok, Prod.mk.injEq] at h
      exact .inr ⟨tokens, htokens, h.1.symm⟩
    · simp only [pure_eq_ok, Prod.mk.injEq] at h
      exact .inl ⟨h.1.symm, .inr (.inr hunread)⟩

theorem renameDefinedName_ok (h : policy ≠ .fail ∨ (name.looksLikeFormula = true →
      ∃ tokens, lib.tokenize name.formula = .ok tokens)) :
    ∃ name' errors, renameDefinedName lib policy oldName newName name = .ok (name', errors) := by
  unfold renameDefinedName
  split
  · exact ⟨_, _, rfl⟩
  · rename_i hskip
    rw [not_or, Bool.not_eq_false] at hskip
    obtain ⟨parsed, hparsed⟩ := tokensOf_ok (h.imp_right fun hreads => hreads hskip.1)
    rw [hparsed]
    cases parsed <;> exact ⟨_, _, rfl⟩

theorem renameDefinedName_read (hpolicy : policy ≠ .off) (hlooks : name.looksLikeFormula = true)
    (htokens : lib.tokenize name.formula = .ok tokens)
    (h : renameDefinedName lib policy oldName newName name = .ok (name', errors)) :
    name' = name.renamed oldName newName tokens := by
  rcases renameDefinedName_cases h with ⟨-, hplain | hoff | hunread⟩ | ⟨tokens', htokens', hname⟩
  · rw [hlooks] at hplain
    contradiction
  · exact absurd hoff hpolicy
  · exact absurd htokens (hunread.2 tokens)
  · rw [htokens] at htokens'
    injection htokens' with htokens'
    subst htokens'
    exact hname

theorem renameDefinedName_unread (hunread : ∀ tokens, lib.tokenize name.formula ≠ .ok tokens)
    (h : renameDefinedName lib policy oldName newName name = .ok (name', errors)) :
    name' = name := by
  rcases renameDefinedName_cases h with hsame | ⟨tokens, htokens, -⟩
  · exact hsame.1
  · exact absurd htokens (hunread tokens)

theorem renameDefinedName_off
    (h : renameDefinedName lib .off oldName newName name = .ok (name', errors)) : name' = name := by
  unfold renameDefinedName at h
  rw [if_pos (.inr rfl)] at h
  injection h with h
  injection h with hname
  exact hname.symm

theorem renamed_unmentioned (h : ∀ token ∈ tokens, recognised oldName token = none) :
    name.renamed oldName newName tokens = name := by
  unfold DefinedName.renamed
  rw [if_neg]
  intro hany
  obtain ⟨token, htoken, hrecognised⟩ := List.any_eq_true.mp hany
  rw [h token htoken] at hrecognised
  exact Bool.false_ne_true hrecognised

variable (hold : oldName ≠ "") (holdTrimmed : Trimmed oldName.toList) (hnew : newName ≠ "")
  (hnewTrimmed : Trimmed newName.toList) (hdiffer : oldName ≠ newName) (hlib : lib.Lawful)

include hold holdTrimmed hnew hnewTrimmed hdiffer hlib in
theorem nameExact_iff
    (hrereads : lib.Rereads oldName newName DefinedName.renamed DefinedName.formula name)
    (hrename : renameDefinedName lib policy oldName newName name = .ok (name', errors))
    (hback : renameDefinedName lib policy newName oldName name' = .ok (name'', errors')) :
    NameExact lib oldName newName name name' name'' ↔
      NameSound lib oldName newName policy name := by
  unfold NameExact NameSound
  by_cases hoff : policy = .off
  · subst hoff
    have hsame := renameDefinedName_off hrename
    have hsame' := renameDefinedName_off hback
    rw [hsame'.trans hsame, hsame]
    constructor
    · intro h tokens hlooks htokens
      obtain ⟨tokens', htokens', hall⟩ := (h hlooks).1 tokens htokens
      rw [htokens] at htokens'
      injection htokens' with htokens'
      subst htokens'
      rw [if_pos rfl]
      exact (all_retargeted_self hdiffer).mp hall
    · intro h hlooks
      refine ⟨fun tokens htokens => ?_, fun _ => rfl,
        fun _ tokens htokens => ⟨tokens, htokens, all_restored_self⟩⟩
      have hunmentioned := h tokens hlooks htokens
      rw [if_pos rfl] at hunmentioned
      exact ⟨tokens, htokens, (all_retargeted_self hdiffer).mpr hunmentioned⟩
  · constructor
    · intro h tokens hlooks htokens
      obtain ⟨tokens', htokens', hrenamed, tokens'', htokens'', hrenamedBack⟩ := hrereads tokens htokens
      obtain ⟨hretargets, -, hrestores⟩ := h hlooks
      have hname' := renameDefinedName_read hoff hlooks htokens hrename
      rw [hname'] at hretargets hback
      have hforward : ∀ token ∈ tokens, UncutForward oldName token := by
        obtain ⟨found, hfound, hall⟩ := hretargets tokens htokens
        rw [htokens'] at hfound
        injection hfound with hfound
        subst hfound
        exact (all_retargeted_iff hnew hnewTrimmed hdiffer (hlib _ _ htokens).2 hrenamed).mp hall
      rw [if_neg hoff]
      refine ⟨hforward, fun hstays => ?_⟩
      have hlooks' := hstays.looksLike hlib hlooks htokens
      obtain ⟨found, hfound, hall⟩ := hrestores hstays tokens htokens
      rw [renameDefinedName_read hoff hlooks' htokens' hback, htokens''] at hfound
      injection hfound with hfound
      subst hfound
      exact (all_restored_iff hold holdTrimmed hnew hnewTrimmed hdiffer (hlib _ _ htokens).2
        hrenamed hrenamedBack hforward).mp hall
    · intro h hlooks
      cases htokens : lib.tokenize name.formula with
      | error message =>
        have hunread (tokens : List FormulaToken) : lib.tokenize name.formula ≠ .ok tokens := by
          rw [htokens]
          exact nofun
        have hsame := renameDefinedName_unread hunread hrename
        rw [hsame] at hback
        have hsame' := renameDefinedName_unread hunread hback
        rw [hsame', hsame]
        exact ⟨fun tokens hok => absurd hok (hunread tokens), fun _ => rfl,
          fun _ tokens hok => absurd hok (hunread tokens)⟩
      | ok tokens =>
        have hsound := h tokens hlooks htokens
        rw [if_neg hoff] at hsound
        obtain ⟨hforward, huncut⟩ := hsound
        obtain ⟨tokens', htokens', hrenamed, tokens'', htokens'', hrenamedBack⟩ :=
          hrereads tokens htokens
        have hname' := renameDefinedName_read hoff hlooks htokens hrename
        rw [hname'] at hback ⊢
        refine ⟨fun found hfound => ?_, fun hunmentioned => ?_, fun hstays found hfound => ?_⟩
        · rw [htokens] at hfound
          injection hfound with hfound
          subst hfound
          exact ⟨tokens', htokens', (all_retargeted_iff hnew hnewTrimmed hdiffer
            (hlib _ _ htokens).2 hrenamed).mpr hforward⟩
        · obtain ⟨found, hfound, hnone⟩ := hunmentioned
          rw [htokens] at hfound
          injection hfound with hfound
          subst hfound
          exact renamed_unmentioned fun token htoken => (hforward token htoken).unrecognised
            ((hlib _ _ htokens).2 token htoken) (hnone token htoken)
        · rw [htokens] at hfound
          injection hfound with hfound
          subst hfound
          have hlooks' := hstays.looksLike hlib hlooks htokens
          rw [renameDefinedName_read hoff hlooks' htokens' hback]
          exact ⟨tokens'', htokens'', (all_restored_iff hold holdTrimmed hnew hnewTrimmed hdiffer
            (hlib _ _ htokens).2 hrenamed hrenamedBack hforward).mpr (huncut hstays)⟩

end Names

/-! ### The workbook -/

section Collect
variable {α ε : Type} {f : α → Result (α × List ε)} {list list' : List α} {found : List ε}

theorem collect_ok (h : collect f list = .ok (list', found)) :
    List.Forall₂ (fun a a' => ∃ found, f a = .ok (a', found)) list list' := by
  induction list generalizing list' found with
  | nil =>
    injection h with h
    injection h with hlist _
    rw [← hlist]
    exact .nil
  | cons a rest ih =>
    simp only [collect, bind_eq_ok, pure_eq_ok, Prod.exists, Prod.mk.injEq] at h
    obtain ⟨a', first, hfirst, rest', more, hrest, hlist, -⟩ := h
    rw [← hlist]
    exact .cons ⟨first, hfirst⟩ (ih hrest)

theorem collect_exists (h : ∀ a ∈ list, ∃ a' found, f a = .ok (a', found)) :
    ∃ list' found, collect f list = .ok (list', found) := by
  induction list with
  | nil => exact ⟨[], [], rfl⟩
  | cons a rest ih =>
    rw [List.forall_mem_cons] at h
    obtain ⟨a', first, hfirst⟩ := h.1
    obtain ⟨rest', more, hrest⟩ := ih h.2
    refine ⟨a' :: rest', first ++ more, ?_⟩
    simp only [collect, bind_eq_ok, pure_eq_ok]
    exact ⟨_, hfirst, _, hrest, rfl⟩

theorem getElem?_of_forall₂ {β : Type} {R : α → β → Prop} {others : List β} {i : Nat} {a : α}
    (h : List.Forall₂ R list others) (hget : list[i]? = some a) :
    ∃ b, others[i]? = some b ∧ R a b := by
  induction h generalizing i with
  | nil => contradiction
  | @cons a' b' _ _ hrelated _ ih =>
    cases i with
    | zero =>
      injection hget with hget
      subst hget
      exact ⟨b', rfl, hrelated⟩
    | succ i => exact ih hget

end Collect

namespace FormulaBook

/-- The cells of a sheet in the order of their loop. -/
def cellAt (book : FormulaBook) (sheet cell : Nat) : Option (Position × FormulaCell) :=
  book.sheets[sheet]?.bind fun sheet => sheet.body[cell]?

end FormulaBook

section Books
variable (lib : FormulaLibrary) (oldName newName : String)

/-- The tokenizer reads what is made of the workbook's formulas. -/
structure FormulaLibrary.RereadsBook (book : FormulaBook) : Prop where
  cells : ∀ i j position cell text, book.cellAt i j = some (position, cell) →
    cell.formula = some text → lib.Rereads oldName newName renamedText withEquals text
  names : ∀ name ∈ book.definedNames,
    lib.Rereads oldName newName DefinedName.renamed DefinedName.formula name

structure BookExact (book book' book'' : FormulaBook) : Prop where
  cells : ∀ (i j : Nat) position cell, book.cellAt i j = some (position, cell) →
    ∃ cell' cell'', book'.cellAt i j = some (position, cell') ∧
      book''.cellAt i j = some (position, cell'') ∧ CellExact lib oldName newName cell cell' cell''
  names : ∀ (i : Nat) name, book.definedNames[i]? = some name →
    ∃ name' name'', book'.definedNames[i]? = some name' ∧
      book''.definedNames[i]? = some name'' ∧ NameExact lib oldName newName name name' name''

structure BookSound (policy : FormulaParsePolicy) (book : FormulaBook) : Prop where
  cells : ∀ (i j : Nat) position cell, book.cellAt i j = some (position, cell) →
    CellSound lib oldName newName policy cell
  names : ∀ name ∈ book.definedNames, NameSound lib oldName newName policy name

end Books

section Rename
variable {lib : FormulaLibrary} {policy : FormulaParsePolicy} {oldName newName : String}
  {book book' book'' : FormulaBook} {errors errors' : List FormulaParseError}
  {sheets : Book (List (Position × FormulaCell))}

theorem setSheetName_bodies (oldName newName : String) :
    (sheets.setSheetName oldName newName).map Sheet.body = sheets.map Sheet.body := by
  induction sheets with
  | nil => rfl
  | cons sheet rest ih =>
    unfold Book.setSheetName
    split
    · rfl
    · exact congrArg (sheet.body :: ·) ih

theorem setSheetName_names (hdistinct : (Book.names sheets).Nodup) (hdiffer : oldName ≠ newName) :
    oldName ∉ Book.names (sheets.setSheetName oldName newName) ∧
      (oldName ∈ Book.names sheets → newName ∈ Book.names (sheets.setSheetName oldName newName)) := by
  induction sheets with
  | nil => exact ⟨List.not_mem_nil, fun h => absurd h List.not_mem_nil⟩
  | cons sheet rest ih =>
    obtain ⟨hnone, hrest⟩ := List.nodup_cons.mp hdistinct
    unfold Book.setSheetName
    split
    · rename_i hname
      rw [hname] at hnone
      refine ⟨fun hmem => ?_, fun _ => List.mem_cons_self⟩
      rcases List.mem_cons.mp hmem with hsame | hmem
      · exact hdiffer hsame
      · exact hnone hmem
    · rename_i hname
      obtain ⟨hold, hnew⟩ := ih hrest
      refine ⟨fun hmem => ?_, fun hmem => ?_⟩
      · rcases List.mem_cons.mp hmem with hsame | hmem
        · exact hname hsame.symm
        · exact hold hmem
      · rcases List.mem_cons.mp hmem with hsame | hmem
        · exact absurd hsame.symm hname
        · exact List.mem_cons_of_mem _ (hnew hmem)

theorem getElem?_body {sheets' : Book (List (Position × FormulaCell))}
    (h : sheets'.map Sheet.body = sheets.map Sheet.body) (i : Nat) :
    sheets'[i]?.map Sheet.body = sheets[i]?.map Sheet.body := by
  rw [← List.getElem?_map, ← List.getElem?_map, h]

theorem renameSheet_parts (h : renameSheet lib policy oldName newName book = .ok (book', errors)) :
    ∃ sheets, book.sheets.renameSheet oldName newName = .ok sheets ∧
      List.Forall₂ (fun sheet sheet' => ∃ errors, renameCells lib policy (Legacy.trim oldName)
        (Legacy.trim newName) sheet = .ok (sheet', errors)) sheets book'.sheets ∧
      List.Forall₂ (fun name name' => ∃ errors, renameDefinedName lib policy (Legacy.trim oldName)
        (Legacy.trim newName) name = .ok (name', errors)) book.definedNames book'.definedNames := by
  unfold renameSheet at h
  simp only [bind_eq_ok, pure_eq_ok, Prod.exists, Prod.mk.injEq] at h
  obtain ⟨sheets, hsheets, sheets', errors, hcells, names', errors', hnames, hbook, -⟩ := h
  rw [← hbook]
  exact ⟨sheets, hsheets, collect_ok hcells, collect_ok hnames⟩

theorem renameCells_parts {sheet sheet' : Sheet (List (Position × FormulaCell))}
    (h : renameCells lib policy oldName newName sheet = .ok (sheet', errors)) :
    sheet'.name = sheet.name ∧
      List.Forall₂ (fun placed placed' => placed'.1 = placed.1 ∧ ∃ errors,
        renameCell lib policy oldName newName sheet.name (coordinateText placed.1) placed.2 =
          .ok (placed'.2, errors)) sheet.body sheet'.body := by
  unfold renameCells at h
  simp only [bind_eq_ok, pure_eq_ok, Prod.exists, Prod.mk.injEq] at h
  obtain ⟨cells, errors, hcells, hsheet, -⟩ := h
  rw [← hsheet]
  refine ⟨rfl, (collect_ok hcells).imp fun placed placed' hplaced => ?_⟩
  obtain ⟨found, hfound⟩ := hplaced
  simp only [bind_eq_ok, pure_eq_ok, Prod.exists, Prod.mk.injEq] at hfound
  obtain ⟨cell', errors', hcell, hsame, -⟩ := hfound
  rw [← hsame]
  exact ⟨rfl, errors', hcell⟩

theorem cellAt_eq {i j : Nat} {placed : Position × FormulaCell} :
    book.cellAt i j = some placed ↔
      ∃ sheet, book.sheets[i]? = some sheet ∧ sheet.body[j]? = some placed :=
  Option.bind_eq_some_iff

theorem renameCell_back {cell cell' : FormulaCell} {sheetName address : String}
    (hrereads : ∀ text, cell.formula = some text →
      lib.Rereads oldName newName renamedText withEquals text)
    (h : renameCell lib policy oldName newName sheetName address cell = .ok (cell', errors))
    (sheetName' address' : String) :
    ∃ cell'' errors', renameCell lib policy newName oldName sheetName' address' cell' =
      .ok (cell'', errors') := by
  apply renameCell_ok
  by_cases hpolicy : policy = .fail
  · right
    intro text' hsome' hne'
    rcases renameCell_cases h with ⟨hsame, hskip⟩ | ⟨-, text, tokens, hsome, -, htokens, hcell⟩
    · rw [hsame] at hsome'
      rcases hskip with hoff | hunread
      · rw [hpolicy] at hoff
        contradiction
      · exact absurd hpolicy (hunread text' hsome' hne').1
    · rw [hcell] at hsome'
      injection hsome' with htext
      subst htext
      obtain ⟨tokens', htokens', -⟩ := hrereads text hsome tokens htokens
      exact ⟨tokens', htokens'⟩
  · exact .inl hpolicy

theorem renameDefinedName_back {name name' : DefinedName}
    (hrereads : lib.Rereads oldName newName DefinedName.renamed DefinedName.formula name)
    (h : renameDefinedName lib policy oldName newName name = .ok (name', errors)) :
    ∃ name'' errors', renameDefinedName lib policy newName oldName name' =
      .ok (name'', errors') := by
  apply renameDefinedName_ok
  by_cases hpolicy : policy = .fail
  · right
    intro hlooks'
    rcases renameDefinedName_cases h with ⟨hsame, hplain | hoff | hunread⟩ | ⟨tokens, htokens, hname⟩
    · rw [hsame, hplain] at hlooks'
      contradiction
    · rw [hpolicy] at hoff
      contradiction
    · exact absurd hpolicy hunread.1
    · obtain ⟨tokens', htokens', -⟩ := hrereads tokens htokens
      rw [hname]
      exact ⟨tokens', htokens'⟩
  · exact .inl hpolicy

theorem cell_renamed (h : renameSheet lib policy oldName newName book = .ok (book', errors))
    {i j : Nat} {position : Position} {cell : FormulaCell}
    (hget : book.cellAt i j = some (position, cell)) :
    ∃ cell' sheetName errors, book'.cellAt i j = some (position, cell') ∧
      renameCell lib policy (Legacy.trim oldName) (Legacy.trim newName) sheetName
        (coordinateText position) cell = .ok (cell', errors) := by
  obtain ⟨sheets, hsheets, hcells, -⟩ := renameSheet_parts h
  simp only [Book.renameSheet, bind_eq_ok, pure_eq_ok] at hsheets
  obtain ⟨-, -, -, -, -, -, rfl⟩ := hsheets
  obtain ⟨sheet, hsheet, hplaced⟩ := cellAt_eq.mp hget
  have hbody := getElem?_body (@setSheetName_bodies book.sheets (Legacy.trim oldName)
    (Legacy.trim newName)) i
  rw [hsheet, Option.map_some] at hbody
  obtain ⟨named, hnamed, hsame⟩ := Option.map_eq_some_iff.mp hbody
  obtain ⟨sheet', hsheet', errors', hrenamed⟩ := getElem?_of_forall₂ hcells hnamed
  obtain ⟨-, hbodies⟩ := renameCells_parts hrenamed
  rw [← hsame] at hplaced
  obtain ⟨placed', hplaced', hposition, found, hcell⟩ := getElem?_of_forall₂ hbodies hplaced
  refine ⟨placed'.2, named.name, found, cellAt_eq.mpr ⟨sheet', hsheet', ?_⟩, hcell⟩
  rw [hplaced']
  exact congrArg some (Prod.ext hposition rfl)

theorem cell_before (h : renameSheet lib policy oldName newName book = .ok (book', errors))
    {i j : Nat} {position : Position} {cell' : FormulaCell}
    (hget : book'.cellAt i j = some (position, cell')) :
    ∃ cell sheetName errors, book.cellAt i j = some (position, cell) ∧
      renameCell lib policy (Legacy.trim oldName) (Legacy.trim newName) sheetName
        (coordinateText position) cell = .ok (cell', errors) := by
  obtain ⟨sheets, hsheets, hcells, -⟩ := renameSheet_parts h
  simp only [Book.renameSheet, bind_eq_ok, pure_eq_ok] at hsheets
  obtain ⟨-, -, -, -, -, -, rfl⟩ := hsheets
  obtain ⟨sheet', hsheet', hplaced'⟩ := cellAt_eq.mp hget
  obtain ⟨named, hnamed, errors', hrenamed⟩ := getElem?_of_forall₂ hcells.flip hsheet'
  obtain ⟨-, hbodies⟩ := renameCells_parts hrenamed
  obtain ⟨placed, hplaced, hposition, found, hcell⟩ := getElem?_of_forall₂ hbodies.flip hplaced'
  have hbody := getElem?_body (@setSheetName_bodies book.sheets (Legacy.trim oldName)
    (Legacy.trim newName)) i
  rw [hnamed, Option.map_some] at hbody
  obtain ⟨sheet, hsheet, hsame⟩ := Option.map_eq_some_iff.mp hbody.symm
  dsimp only at hposition
  subst hposition
  refine ⟨placed.2, named.name, found, cellAt_eq.mpr ⟨sheet, hsheet, ?_⟩, hcell⟩
  rw [hsame, hplaced]

theorem renamePlaced_exists {sheetName : String} {placed : Position × FormulaCell}
    (h : ∃ cell found, renameCell lib policy oldName newName sheetName (coordinateText placed.1)
      placed.2 = .ok (cell, found)) :
    ∃ placed' found, (do
      let (cell, errors) ← renameCell lib policy oldName newName sheetName
        (coordinateText placed.1) placed.2
      pure ((placed.1, cell), errors) : Result _) = .ok (placed', found) := by
  obtain ⟨cell, found, hcell⟩ := h
  refine ⟨(placed.1, cell), found, ?_⟩
  simp only [bind_eq_ok, pure_eq_ok]
  exact ⟨_, hcell, rfl⟩

theorem renameCells_exists {sheet : Sheet (List (Position × FormulaCell))}
    (h : ∀ placed ∈ sheet.body, ∃ cell found, renameCell lib policy oldName newName sheet.name
      (coordinateText placed.1) placed.2 = .ok (cell, found)) :
    ∃ sheet' found, renameCells lib policy oldName newName sheet = .ok (sheet', found) := by
  obtain ⟨cells, found, hcollected⟩ := collect_exists fun placed hplaced =>
    renamePlaced_exists (h placed hplaced)
  refine ⟨⟨sheet.name, cells⟩, found, ?_⟩
  unfold renameCells
  simp only [bind_eq_ok, pure_eq_ok]
  exact ⟨_, hcollected, rfl⟩

theorem renameSheet_back (hdistinct : (Book.names book.sheets).Nodup)
    (hrereads : lib.RereadsBook (Legacy.trim oldName) (Legacy.trim newName) book)
    (h : renameSheet lib policy oldName newName book = .ok (book', errors)) :
    ∃ book'' errors', renameSheet lib policy newName oldName book' = .ok (book'', errors') := by
  obtain ⟨sheets, hsheets, hcells, hnames⟩ := renameSheet_parts h
  simp only [Book.renameSheet, bind_eq_ok, pure_eq_ok, ensure_eq_ok] at hsheets
  obtain ⟨-, hempty, -, hold, -, hnew, hrenamed⟩ := hsheets
  have hdiffer : Legacy.trim oldName ≠ Legacy.trim newName := by
    intro hsame
    rw [hsame] at hold
    exact hnew hold
  have hsameNames : Book.names sheets = Book.names book'.sheets :=
    map_eq_of_forall₂ hcells fun sheet _ sheet' _ hsheet => by
      obtain ⟨_, hsheet⟩ := hsheet
      exact (renameCells_parts hsheet).1.symm
  obtain ⟨hgone, hthere⟩ := setSheetName_names hdistinct hdiffer
  rw [hrenamed, hsameNames] at hgone hthere
  have hsheets' : book'.sheets.renameSheet newName oldName =
      .ok (book'.sheets.setSheetName (Legacy.trim newName) (Legacy.trim oldName)) := by
    simp only [Book.renameSheet, bind_eq_ok, pure_eq_ok, ensure_eq_ok]
    exact ⟨(), hempty.symm, (), hthere hold, (), hgone, trivial⟩
  have hcells' : ∀ sheet ∈ book'.sheets.setSheetName (Legacy.trim newName) (Legacy.trim oldName),
      ∃ sheet' errors, renameCells lib policy (Legacy.trim newName) (Legacy.trim oldName) sheet =
        .ok (sheet', errors) := by
    intro sheet hsheet
    obtain ⟨i, hi⟩ := List.getElem?_of_mem hsheet
    have hbody := getElem?_body (@setSheetName_bodies book'.sheets (Legacy.trim newName)
      (Legacy.trim oldName)) i
    rw [hi, Option.map_some] at hbody
    obtain ⟨before, hbefore, hsame⟩ := Option.map_eq_some_iff.mp hbody.symm
    apply renameCells_exists
    intro placed hplaced
    obtain ⟨j, hj⟩ := List.getElem?_of_mem hplaced
    rw [← hsame] at hj
    obtain ⟨cell, _, _, hget, hcell⟩ := cell_before h (cellAt_eq.mpr ⟨before, hbefore, hj⟩)
    exact renameCell_back (hrereads.cells i j placed.1 cell · hget) hcell sheet.name
      (coordinateText placed.1)
  have hnames' : ∀ name ∈ book'.definedNames, ∃ name' errors, renameDefinedName lib policy
      (Legacy.trim newName) (Legacy.trim oldName) name = .ok (name', errors) := by
    intro name hname
    obtain ⟨i, hi⟩ := List.getElem?_of_mem hname
    obtain ⟨before, hbefore, _, hrenamed⟩ := getElem?_of_forall₂ hnames.flip hi
    exact renameDefinedName_back (hrereads.names before (List.mem_of_getElem? hbefore)) hrenamed
  obtain ⟨sheets'', found, hcollected⟩ := collect_exists hcells'
  obtain ⟨names'', found', hcollected'⟩ := collect_exists hnames'
  refine ⟨⟨sheets'', names''⟩, found ++ found', ?_⟩
  unfold renameSheet
  simp only [bind_eq_ok, pure_eq_ok]
  exact ⟨_, hsheets', _, hcollected, _, hcollected', rfl⟩

end Rename

/-! ### A formula of its own, and one that refers -/

section Samples

/-- A tokenizer that reads the formulas of a table. -/
def tableLibrary (table : List (String × List FormulaToken)) : FormulaLibrary where
  tokenize formula :=
    match table.find? fun entry => entry.1 = formula with
    | some entry => .ok entry.2
    | none => .error "unexpected formula"
  guessTypedData text := if text = "" then .empty else .string text

theorem tableLibrary_reads {table : List (String × List FormulaToken)} {formula : String}
    {tokens : List FormulaToken} (h : (tableLibrary table).tokenize formula = .ok tokens) :
    (formula, tokens) ∈ table := by
  unfold tableLibrary at h
  dsimp only at h
  split at h
  · rename_i entry hfound
    injection h with h
    have hformula := List.find?_some hfound
    simp only [decide_eq_true_eq] at hformula
    rw [← h, ← hformula]
    exact List.mem_of_find?_eq_some hfound
  · contradiction

def sumTokens : List FormulaToken := [⟨"1", false, 1, 2⟩, ⟨"+", false, 2, 3⟩, ⟨"1", false, 3, 4⟩]

def dataTokens : List FormulaToken := [⟨"Data!A1", true, 1, 8⟩]

def inputsTokens : List FormulaToken := [⟨"Inputs!A1", true, 1, 10⟩]

def sampleLibrary : FormulaLibrary :=
  tableLibrary [("=1+1", sumTokens), ("=Data!A1", dataTokens), ("=Inputs!A1", inputsTokens)]

theorem sampleLibrary_cases {formula : String} {tokens : List FormulaToken}
    (h : sampleLibrary.tokenize formula = .ok tokens) :
    (formula = "=1+1" ∧ tokens = sumTokens) ∨ (formula = "=Data!A1" ∧ tokens = dataTokens) ∨
      (formula = "=Inputs!A1" ∧ tokens = inputsTokens) := by
  have hmem := tableLibrary_reads h
  simp only [List.mem_cons, List.not_mem_nil, or_false, Prod.mk.injEq] at hmem
  exact hmem

theorem trimmed_of_ends {text : List Char}
    (hends : (text.head?.all fun c => !Legacy.isWhitespace c) = true ∧
      (text.getLast?.all fun c => !Legacy.isWhitespace c) = true) : Trimmed text := by
  constructor
  · intro c hc
    have hhead := hends.1
    rw [hc] at hhead
    simpa using hhead
  · intro c hc
    have hlast := hends.2
    rw [hc] at hlast
    simpa using hlast

theorem sampleLibrary_lawful : sampleLibrary.Lawful := by
  intro formula tokens h
  rcases sampleLibrary_cases h with ⟨rfl, rfl⟩ | ⟨rfl, rfl⟩ | ⟨rfl, rfl⟩
  · refine ⟨by simp [Tiles, sumTokens], fun token htoken hrange => ?_⟩
    simp only [sumTokens, List.mem_cons, List.not_mem_nil, or_false] at htoken
    rcases htoken with rfl | rfl | rfl <;> contradiction
  · refine ⟨by simp [Tiles, dataTokens], fun token htoken _ _ => ?_⟩
    rw [List.mem_singleton.mp htoken]
    exact ⟨_, _, .bare ['A', '1'] (by decide : ['D', 'a', 't', 'a'] ≠ []) (by decide) (by decide)
      (trimmed_of_ends (by decide))⟩
  · refine ⟨by simp [Tiles, inputsTokens], fun token htoken _ _ => ?_⟩
    rw [List.mem_singleton.mp htoken]
    exact ⟨_, _, .bare ['A', '1'] (by decide : ['I', 'n', 'p', 'u', 't', 's'] ≠ []) (by decide)
      (by decide) (trimmed_of_ends (by decide))⟩

def sampleBook (formula : String) : FormulaBook where
  sheets := [⟨"Data", []⟩, ⟨"Calc", [((1, 1), { value := .number 2, formula := some formula })]⟩]
  definedNames := []

theorem sampleBook_cellAt {formula : String} {i j : Nat} {position : Position} {cell : FormulaCell}
    (h : (sampleBook formula).cellAt i j = some (position, cell)) :
    cell = { value := .number 2, formula := some formula } := by
  match i, j with
  | 0, j => exact absurd h (by simp [sampleBook, FormulaBook.cellAt])
  | 1, 0 =>
    injection h with h
    injection h with _ h
    exact h.symm
  | 1, j + 1 => exact absurd h (by simp [sampleBook, FormulaBook.cellAt])
  | i + 2, j => exact absurd h (by simp [sampleBook, FormulaBook.cellAt])

theorem sampleBook_rereads {formula : String} (hrereads : sampleLibrary.Rereads "Data" "Inputs"
    renamedText withEquals formula) :
    sampleLibrary.RereadsBook "Data" "Inputs" (sampleBook formula) where
  cells i j position cell text hget hsome := by
    rw [sampleBook_cellAt hget] at hsome
    injection hsome with hsome
    rwa [← hsome]
  names name hmem := absurd hmem List.not_mem_nil

theorem sampleLibrary_rereads_data :
    sampleLibrary.Rereads "Data" "Inputs" renamedText withEquals "Data!A1" := by
  intro tokens htokens
  rcases sampleLibrary_cases htokens with ⟨hformula, -⟩ | ⟨-, rfl⟩ | ⟨hformula, -⟩
  · exact absurd hformula (by decide)
  · refine ⟨inputsTokens, rfl, ?_, dataTokens, rfl, ?_⟩
    · exact .cons ⟨rfl, by decide +kernel⟩ .nil
    · exact .cons ⟨rfl, by decide +kernel⟩ .nil
  · exact absurd hformula (by decide)

theorem sampleLibrary_rereads_sum :
    sampleLibrary.Rereads "Data" "Inputs" renamedText withEquals "1+1" := by
  intro tokens htokens
  rcases sampleLibrary_cases htokens with ⟨-, rfl⟩ | ⟨hformula, -⟩ | ⟨hformula, -⟩
  · refine ⟨sumTokens, rfl, ?_, sumTokens, rfl, ?_⟩
    · exact .cons ⟨rfl, rfl⟩ (.cons ⟨rfl, rfl⟩ (.cons ⟨rfl, rfl⟩ .nil))
    · exact .cons ⟨rfl, rfl⟩ (.cons ⟨rfl, rfl⟩ (.cons ⟨rfl, rfl⟩ .nil))
  · exact absurd hformula (by decide)
  · exact absurd hformula (by decide)

theorem sumTokens_unmentioned (name : String) : ∀ token ∈ sumTokens, ¬token.Mentions name := by
  intro token htoken hmentions
  simp only [sumTokens, List.mem_cons, List.not_mem_nil, or_false] at htoken
  rcases htoken with rfl | rfl | rfl <;> exact absurd hmentions.1 (by decide)

end Samples

end AgentSpreadsheet.Sheets
