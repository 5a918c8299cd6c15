import AgentSpreadsheet.Library.Keyed
import AgentSpreadsheet.Rules.Sqref

/-! What the rule operations store, seen on the cells that references denote. -/
namespace AgentSpreadsheet.Rules
open Library Sheets

/-! ### Requests -/

/-- What a request for a conditional format comes to. -/
structure CfRequest where
  kind : ConditionalFormatValues
  formula : String
  style : ConditionalFormatStyle

def cfRequest (rule : ConditionalFormatRuleSpec) (style : ConditionalFormatStyleSpec) :
    Result CfRequest := do
  let formula ← normalizeCfFormula "rule.formula" rule.formula
  let style ← style.resolve
  pure ⟨rule.kind, formula, style⟩

namespace CfRequest
variable (request : CfRequest)

def rule (priority : Nat) : ConditionalFormattingRule :=
  ⟨request.kind, request.formula, some request.style, priority⟩

def Equal (existing : ConditionalFormattingRule) : Prop :=
  cfRuleCoreMatches request.kind request.formula existing = true

/-- The block holds the requested rule and no other. -/
def Holds (block : ConditionalFormatting) : Prop :=
  ∃ priority, block.rules = [request.rule priority]

end CfRequest

def requestedValidation (spec : DataValidationSpec) (sqref : String) : DataValidation where
  sqref := sqref
  kind := spec.kind.toUmya
  allowBlank := spec.allowBlank
  formula1 := normalizeDvFormula spec.formula1
  formula2 := (spec.formula2.map normalizeDvFormula).filter (· ≠ "")
  operator := validationOperator spec
  prompt := spec.prompt
  error := spec.error

/-! ### The laws -/

section Laws
variable {α : Type} (sqref : α → String) (cells : Set Sheets.Cell) (target : String)

def On (block : α) : Prop := Denotes (sqref block).toList cells

def Written (blocks : List α) : Prop := ∀ block ∈ blocks, ∃ cells, On sqref cells block

def targetKey : String := squeezed (Legacy.trim target)

/-- Whatever is on these cells has the target's key. -/
def Known (blocks : List α) : Prop :=
  ∀ block ∈ blocks, On sqref cells block → squeezed (sqref block) = targetKey target

open Classical in
/-- The target's cells have one block, as wanted; the other blocks are as before. -/
def SetOn (wanted : α → Prop) (before after : List α) : Prop :=
  ∃ cells, Denotes (targetText target) cells ∧
    ∃ block, wanted block ∧ Placed (On sqref cells) block before after

open Classical in
def ClearedOn (before after : List α) : Prop :=
  ∃ cells, Denotes (targetText target) cells ∧ Cleared (On sqref cells) before after

end Laws

def SameRule (rule rule' : ConditionalFormattingRule) : Prop :=
  rule.kind = rule'.kind ∧ rule.formula = rule'.formula

open Classical in
noncomputable def rulesOn (cells : Set Sheets.Cell) (formats : List ConditionalFormatting) :
    List ConditionalFormattingRule :=
  (formats.filter fun cf => On (·.sqref) cells cf).flatMap (·.rules)

open Classical in
/-- The target's cells have the rule, and no two equal ones; the other blocks are as before. -/
def AddedOn (target : String) (request : CfRequest) (before after : List ConditionalFormatting) :
    Prop :=
  ∃ cells, Denotes (targetText target) cells ∧
    (∃ rule ∈ rulesOn cells after, request.Equal rule) ∧
    (rulesOn cells after).Pairwise (fun rule rule' => ¬ SameRule rule rule') ∧
    after.filter (fun cf => ¬ On (·.sqref) cells cf) =
      before.filter (fun cf => ¬ On (·.sqref) cells cf)

/-! ### What the operations do -/

section Operations
variable {target : String} {request : CfRequest} {rule : ConditionalFormatRuleSpec}
  {style : ConditionalFormatStyleSpec} {before after : List ConditionalFormatting}

def keyOf (cf : ConditionalFormatting) : String := squeezed cf.sqref

def Present (target : String) (request : CfRequest) (formats : List ConditionalFormatting) : Prop :=
  ∃ cf ∈ formats, keyOf cf = targetKey target ∧ ∃ rule ∈ cf.rules, request.Equal rule

/-- One block has the target's key, and its one rule is the request's. -/
def AlreadySet (target : String) (request : CfRequest) (formats : List ConditionalFormatting) :
    Prop :=
  ∃ block, formats.filter (fun cf => keyOf cf == targetKey target) = [block] ∧
    request.Holds block

theorem normalizeSqref_eq_ok {sqref : String} :
    normalizeSqref target = .ok sqref ↔ Legacy.trim target ≠ "" ∧ targetKey target = sqref := by
  simp only [normalizeSqref, bind_eq_ok, ensure_eq_ok, pure_eq_ok, exists_const, targetKey]

theorem setDataValidation_eq_ok {spec : DataValidationSpec} {before after : List DataValidation} :
    setDataValidation target spec before = .ok after ↔ Legacy.trim target ≠ "" ∧
      after = place (fun dv => squeezed dv.sqref) (requestedValidation spec (targetKey target))
        before := by
  have hkey : squeezed (targetKey target) = targetKey target := squeezed_squeezed _
  simp only [setDataValidation, bind_eq_ok, pure_eq_ok, normalizeSqref_eq_ok, place, without,
    requestedValidation]
  constructor
  · rintro ⟨sqref, ⟨hblank, hsqref⟩, hafter⟩
    rw [hkey, hsqref]
    exact ⟨hblank, hafter.symm⟩
  · rintro ⟨hblank, hafter⟩
    rw [hkey] at hafter
    exact ⟨targetKey target, ⟨hblank, rfl⟩, hafter.symm⟩

theorem clearConditionalFormats_eq_ok :
    clearConditionalFormats target before = .ok after ↔ Legacy.trim target ≠ "" ∧
      after = without keyOf (targetKey target) before := by
  simp only [clearConditionalFormats, bind_eq_ok, pure_eq_ok, normalizeSqref_eq_ok]
  constructor
  · rintro ⟨sqref, ⟨hblank, hsqref⟩, hafter⟩
    rw [hsqref]
    exact ⟨hblank, hafter.symm⟩
  · rintro ⟨hblank, hafter⟩
    exact ⟨targetKey target, ⟨hblank, rfl⟩, hafter.symm⟩

theorem cfRequest_eq_ok : cfRequest rule style = .ok request ↔
    normalizeCfFormula "rule.formula" rule.formula = .ok request.formula ∧
      style.resolve = .ok request.style ∧ rule.kind = request.kind := by
  simp only [cfRequest, bind_eq_ok, pure_eq_ok]
  constructor
  · rintro ⟨formula, hformula, resolved, hstyle, hrequest⟩
    rw [← hrequest]
    exact ⟨hformula, hstyle, rfl⟩
  · rintro ⟨hformula, hstyle, hkind⟩
    refine ⟨_, hformula, _, hstyle, ?_⟩
    rw [hkind]

def newBlock (target : String) (request : CfRequest) (others : List ConditionalFormatting) :
    ConditionalFormatting :=
  ⟨targetKey target, [request.rule (nextCfPriority others)]⟩

/-- What the code's own test of the blocks with the target's key says. -/
def isSet (request : CfRequest) (blocks : List ConditionalFormatting) : Bool :=
  match blocks with
  | [⟨_, [existing]⟩] =>
    cfRuleCoreMatches request.kind request.formula existing && existing.style == some request.style
  | _ => false

theorem isSet_iff {blocks : List ConditionalFormatting} :
    isSet request blocks = true ↔ ∃ block, blocks = [block] ∧ request.Holds block := by
  constructor
  · intro h
    unfold isSet at h
    split at h
    · rename_i sqref existing
      have hparts : (existing.kind = request.kind ∧ existing.formula = request.formula) ∧
          existing.style = some request.style := by
        simpa [cfRuleCoreMatches] using h
      refine ⟨_, rfl, existing.priority, ?_⟩
      unfold CfRequest.rule
      rw [← hparts.1.1, ← hparts.1.2, ← hparts.2]
    · contradiction
  · intro ⟨block, hblocks, priority, hrules⟩
    have hblock : block = ⟨block.sqref, [request.rule priority]⟩ := by rw [← hrules]
    rw [hblocks, hblock]
    simp [isSet, cfRuleCoreMatches, CfRequest.rule]

theorem match_isSet {β : Type} (blocks : List ConditionalFormatting) (same replaced : β) :
    (match blocks with
      | [⟨_, [existing]⟩] =>
        if cfRuleCoreMatches request.kind request.formula existing &&
            existing.style == some request.style then same
        else replaced
      | _ => replaced) = if isSet request blocks = true then same else replaced := by
  unfold isSet
  split
  · rfl
  · rfl

theorem alreadySet_iff : AlreadySet target request before ↔
    isSet request (before.filter fun cf => squeezed cf.sqref == targetKey target) = true := isSet_iff.symm

theorem addConditionalFormat_eq_ok (hrequest : cfRequest rule style = .ok request) :
    addConditionalFormat target rule style before = .ok after ↔ Legacy.trim target ≠ "" ∧
      (Present target request before ∧ after = before ∨
        ¬ Present target request before ∧ after = before ++ [newBlock target request before]) := by
  have hparts := cfRequest_eq_ok.mp hrequest
  have hpresent : (before.any fun cf => squeezed cf.sqref == targetKey target &&
      cf.rules.any (cfRuleCoreMatches request.kind request.formula)) = true ↔
      Present target request before := by
    simp [Present, keyOf, CfRequest.Equal]
  simp only [addConditionalFormat, bind_eq_ok, normalizeSqref_eq_ok, hparts.1, hparts.2.1,
    Except.ok.injEq, hparts.2.2, and_assoc, exists_and_left, exists_eq_left']
  apply and_congr_right
  intro _
  by_cases hcase : Present target request before
  · rw [if_pos (hpresent.mpr hcase), pure_eq_ok]
    simp only [hcase, true_and, not_true, false_and, or_false]
    exact eq_comm
  · rw [if_neg fun hany => hcase (hpresent.mp hany), pure_eq_ok]
    simp only [hcase, false_and, not_false_eq_true, true_and, false_or]
    exact eq_comm

theorem setConditionalFormat_eq_ok (hrequest : cfRequest rule style = .ok request) :
    setConditionalFormat target rule style before = .ok after ↔ Legacy.trim target ≠ "" ∧
      (AlreadySet target request before ∧ after = before ∨
        ¬ AlreadySet target request before ∧
          after = place keyOf (newBlock target request (without keyOf (targetKey target) before))
            before) := by
  have hparts := cfRequest_eq_ok.mp hrequest
  have hkey : keyOf (newBlock target request (without keyOf (targetKey target) before)) =
      targetKey target := squeezed_squeezed _
  have hplace : appendCfRule (targetKey target) request.kind request.formula request.style
      (before.filter fun cf => squeezed cf.sqref != targetKey target) =
      place keyOf (newBlock target request (without keyOf (targetKey target) before)) before := by
    unfold place
    rw [hkey]
    rfl
  simp only [setConditionalFormat, bind_eq_ok, normalizeSqref_eq_ok, hparts.1, hparts.2.1,
    Except.ok.injEq, hparts.2.2, and_assoc, exists_and_left, exists_eq_left', hplace]
  apply and_congr_right
  intro _
  apply (Iff.of_eq (congrArg (· = Except.ok after) (match_isSet _ _ _))).trans
  by_cases hcase : AlreadySet target request before
  · rw [if_pos (alreadySet_iff.mp hcase), pure_eq_ok]
    simp only [hcase, true_and, not_true, false_and, or_false]
    exact eq_comm
  · rw [if_neg fun hset => hcase (alreadySet_iff.mpr hset), pure_eq_ok]
    simp only [hcase, false_and, not_false_eq_true, true_and, false_or]
    exact eq_comm

end Operations

/-! ### When the laws hold -/

section Stored
variable {α : Type} {sqref : α → String} {target : String} {wanted : α → Prop} {item : α}
  {before after : List α} {piece : A1Piece} {cells : Set Sheets.Cell}

theorem target_denotes_iff (h : NamesRange target piece) :
    Denotes (targetText target) cells ↔ cells = piece.cells := denotes_words h.1 h.2

theorem on_target_iff (h : NamesRange target piece) (hitem : sqref item = targetKey target) :
    On sqref cells item ↔ cells = piece.cells := by
  unfold On
  rw [hitem, targetKey, key_of_namesRange h, String.toList_ofList]
  exact denotes_words h.1 (words_pieceText h.1)

/-- A block of the target's key is on the target's range. -/
theorem on_of_key (hwritten : Written sqref before) (h : NamesRange target piece) :
    ∀ block ∈ before, squeezed (sqref block) = targetKey target → On sqref piece.cells block := by
  intro block hblock hkey
  obtain ⟨cells, hon⟩ := hwritten block hblock
  have hcells := denotes_of_key h hon hkey
  rw [hcells] at hon
  exact hon

theorem setOn_place_iff (hblank : Legacy.trim target ≠ "") (hwritten : Written sqref before)
    (hitem : sqref item = targetKey target) (hwanted : wanted item) :
    SetOn sqref target wanted before (place (fun block => squeezed (sqref block)) item before) ↔
      ∃ piece, NamesRange target piece ∧ Known sqref piece.cells target before := by
  classical
  have hkey : squeezed (sqref item) = targetKey target := by
    rw [hitem]
    exact squeezed_squeezed _
  constructor
  · intro ⟨cells, hcells, block, _, hplaced⟩
    have hdenotes : ∃ cells', Denotes (targetKey target).toList cells' := by
      by_cases hon : On sqref cells item
      · exact ⟨cells, hitem ▸ hon⟩
      · have hmem : item ∈ (place (fun block => squeezed (sqref block)) item before).filter
            fun x => ¬ On sqref cells x := by simp [place, hon]
        rw [hplaced.2] at hmem
        obtain ⟨cells', hon'⟩ := hwritten item (List.mem_of_mem_filter hmem)
        exact ⟨cells', hitem ▸ hon'⟩
    obtain ⟨cells', hdenotes⟩ := hdenotes
    obtain ⟨piece, hpiece⟩ := namesRange_of_denotes hblank hcells hdenotes
    have heq := (target_denotes_iff hpiece).mp hcells
    rw [heq] at hplaced
    have hknown := (placed_place_iff ((on_target_iff hpiece hitem).mpr rfl) (by
      intro x hx hx'
      exact on_of_key hwritten hpiece x hx (hx'.trans hkey))).mp hplaced
    refine ⟨piece, hpiece, fun x hx hon => ?_⟩
    exact (hknown.2 x hx hon).trans hkey
  · intro ⟨piece, hpiece, hknown⟩
    refine ⟨piece.cells, (target_denotes_iff hpiece).mpr rfl, item, hwanted, ?_⟩
    apply (placed_place_iff ((on_target_iff hpiece hitem).mpr rfl) ?_).mpr
    · exact ⟨rfl, fun x hx hon => (hknown x hx hon).trans hkey.symm⟩
    · intro x hx hx'
      exact on_of_key hwritten hpiece x hx (hx'.trans hkey)

theorem clearedOn_without_iff :
    ClearedOn sqref target before
        (without (fun block => squeezed (sqref block)) (targetKey target) before) ↔
      ∃ cells, Denotes (targetText target) cells ∧
        ∀ block ∈ before, On sqref cells block ↔ squeezed (sqref block) = targetKey target := by
  classical
  unfold ClearedOn
  apply exists_congr
  intro cells
  rw [cleared_without_iff]

end Stored

section Formats
variable {target : String} {request : CfRequest} {rule : ConditionalFormatRuleSpec}
  {style : ConditionalFormatStyleSpec} {before after : List ConditionalFormatting}
  {cells : Set Sheets.Cell}

open Classical in
/-- The target's cells have one block, with the requested rule alone. -/
def SetAlone (target : String) (request : CfRequest) (formats : List ConditionalFormatting) : Prop :=
  ∃ cells, Denotes (targetText target) cells ∧ ∃ block, request.Holds block ∧
    formats.filter (fun cf => On (·.sqref) cells cf) = [block]

/-- Where setting a conditional format keeps to the target. -/
def CanSet (target : String) (request : CfRequest) (formats : List ConditionalFormatting) : Prop :=
  AlreadySet target request formats ∧ SetAlone target request formats ∨
    ¬ AlreadySet target request formats ∧
      ∃ piece, NamesRange target piece ∧ Known (·.sqref) piece.cells target formats

/-- Where adding a conditional format keeps to the target. -/
def CanAdd (target : String) (request : CfRequest) (formats : List ConditionalFormatting) : Prop :=
  ∃ cells, Denotes (targetText target) cells ∧
    (rulesOn cells formats).Pairwise (fun rule rule' => ¬ SameRule rule rule') ∧
    (Present target request formats ∧ (∃ rule ∈ rulesOn cells formats, request.Equal rule) ∨
      ¬ Present target request formats ∧ (∃ piece, NamesRange target piece) ∧
        ∀ rule ∈ rulesOn cells formats, ¬ request.Equal rule)

theorem setOn_self_iff : SetOn (·.sqref) target request.Holds before before ↔
    SetAlone target request before := by
  simp only [SetOn, SetAlone, Placed, and_true]

theorem equal_iff {existing : ConditionalFormattingRule} (priority : Nat) :
    request.Equal existing ↔ SameRule existing (request.rule priority) := by
  simp [CfRequest.Equal, cfRuleCoreMatches, SameRule, CfRequest.rule]

/-- A rule set stays as it is when it is set again. -/
theorem setConditionalFormat_again (hrequest : cfRequest rule style = .ok request)
    (h : setConditionalFormat target rule style before = .ok after) :
    setConditionalFormat target rule style after = .ok after := by
  obtain ⟨hblank, hcases⟩ := (setConditionalFormat_eq_ok hrequest).mp h
  apply (setConditionalFormat_eq_ok hrequest).mpr
  refine ⟨hblank, Or.inl ⟨?_, rfl⟩⟩
  rcases hcases with ⟨hset, hafter⟩ | ⟨_, hafter⟩
  · rw [hafter]
    exact hset
  · have hkey : keyOf (newBlock target request (without keyOf (targetKey target) before)) =
        targetKey target := squeezed_squeezed _
    have honly := @filter_place _ _ _ keyOf
      (newBlock target request (without keyOf (targetKey target) before)) before
    rw [hkey, ← hafter] at honly
    exact ⟨_, honly, _, rfl⟩

theorem setConditionalFormat_iff (hwritten : Written (·.sqref) before)
    (hrequest : cfRequest rule style = .ok request)
    (h : setConditionalFormat target rule style before = .ok after) :
    SetOn (·.sqref) target request.Holds before after ↔ CanSet target request before := by
  obtain ⟨hblank, hcases⟩ := (setConditionalFormat_eq_ok hrequest).mp h
  unfold CanSet
  rcases hcases with ⟨hset, hafter⟩ | ⟨hset, hafter⟩
  · rw [hafter, setOn_self_iff]
    simp [hset]
  · have hsqref : (newBlock target request
        (without keyOf (targetKey target) before)).sqref = targetKey target := rfl
    have hholds : request.Holds
        (newBlock target request (without keyOf (targetKey target) before)) := ⟨_, rfl⟩
    have hiff := setOn_place_iff hblank hwritten hsqref hholds
    rw [hafter]
    simp only [hset, false_and, not_false_eq_true, true_and, false_or]
    exact hiff

theorem rulesOn_append (blocks : List ConditionalFormatting) {block : ConditionalFormatting}
    (hon : On (·.sqref) cells block) :
    rulesOn cells (blocks ++ [block]) = rulesOn cells blocks ++ block.rules := by
  simp [rulesOn, hon]

theorem addedOn_append_iff (hblank : Legacy.trim target ≠ "") :
    AddedOn target request before (before ++ [newBlock target request before]) ↔
      ∃ cells, Denotes (targetText target) cells ∧
        (rulesOn cells before).Pairwise (fun rule rule' => ¬ SameRule rule rule') ∧
        (∃ piece, NamesRange target piece) ∧
        ∀ rule ∈ rulesOn cells before, ¬ request.Equal rule := by
  classical
  have hrules (cells : Set Sheets.Cell)
      (hon : On (·.sqref) cells (newBlock target request before)) :
      (rulesOn cells (before ++ [newBlock target request before])).Pairwise
          (fun rule rule' => ¬ SameRule rule rule') ↔
        (rulesOn cells before).Pairwise (fun rule rule' => ¬ SameRule rule rule') ∧
          ∀ rule ∈ rulesOn cells before, ¬ request.Equal rule := by
    rw [rulesOn_append before hon, List.pairwise_append]
    simp [newBlock, equal_iff (nextCfPriority before)]
  apply exists_congr
  intro cells
  apply and_congr_right
  intro hcells
  constructor
  · intro ⟨_, hpairwise, hkept⟩
    have hon : On (·.sqref) cells (newBlock target request before) := by
      by_contra hoff
      have hlength := congrArg List.length hkept
      rw [List.filter_append, List.length_append] at hlength
      simp [hoff] at hlength
    have hparts := (hrules cells hon).mp hpairwise
    exact ⟨hparts.1, namesRange_of_denotes hblank hcells hon, hparts.2⟩
  · intro ⟨hpairwise, ⟨piece, hpiece⟩, hnone⟩
    have hon : On (·.sqref) cells (newBlock target request before) :=
      (on_target_iff hpiece rfl).mpr ((target_denotes_iff hpiece).mp hcells)
    refine ⟨?_, (hrules cells hon).mpr ⟨hpairwise, hnone⟩, ?_⟩
    · refine ⟨request.rule (nextCfPriority before), ?_, (equal_iff 0).mpr ⟨rfl, rfl⟩⟩
      rw [rulesOn_append before hon]
      simp [newBlock]
    · simp [hon]

theorem addConditionalFormat_iff (hrequest : cfRequest rule style = .ok request)
    (h : addConditionalFormat target rule style before = .ok after) :
    AddedOn target request before after ↔ CanAdd target request before := by
  obtain ⟨hblank, hcases⟩ := (addConditionalFormat_eq_ok hrequest).mp h
  unfold CanAdd
  rcases hcases with ⟨hpresent, hafter⟩ | ⟨hpresent, hafter⟩
  · rw [hafter]
    simp only [AddedOn, hpresent, true_and, not_true, false_and, or_false, and_true]
    apply exists_congr
    intro cells
    rw [@and_comm (∃ rule ∈ rulesOn cells before, request.Equal rule)]
  · rw [hafter, addedOn_append_iff hblank]
    simp only [hpresent, false_and, not_false_eq_true, true_and, false_or]

end Formats

/-! ### The rule store -/

def Asked (spec : DataValidationSpec) (dv : DataValidation) : Prop :=
  dv = requestedValidation spec dv.sqref

theorem setDataValidation_again {target : String} {spec : DataValidationSpec}
    {before after : List DataValidation} (h : setDataValidation target spec before = .ok after) :
    setDataValidation target spec after = .ok after := by
  obtain ⟨hblank, hafter⟩ := setDataValidation_eq_ok.mp h
  apply setDataValidation_eq_ok.mpr
  rw [hafter]
  exact ⟨hblank, place_place.symm⟩

def listOfTwo : DataValidationSpec := ⟨.list, "A,B", none, none, none, none⟩

theorem merged_denotes_nothing (cells : Set Sheets.Cell) : ¬ Denotes "A1:A5C1".toList cells := by
  intro ⟨pieces, hvalid, hwords, _⟩
  rw [words_one (by decide) (by decide)] at hwords
  obtain ⟨piece, hpieces, hpiece⟩ := List.map_eq_singleton_iff.mp hwords.symm
  have htidy := pieceText_tidy (hvalid piece (by rw [hpieces]; exact List.mem_cons_self))
  rw [hpiece] at htidy
  have hparts := (@tidy_append "A1:A5".toList "C1".toList).mp htidy
  have hstep := hparts.2.2 '5' (by decide) 'C' (by decide) (by decide)
  exact absurd hstep (by decide)

end AgentSpreadsheet.Rules
