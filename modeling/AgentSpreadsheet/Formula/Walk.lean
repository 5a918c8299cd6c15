import AgentSpreadsheet.Formula.Pattern
import AgentSpreadsheet.Library.Pointwise

/-! What a walk over a formula leaves: the same tree, with each reference visited. -/
namespace AgentSpreadsheet.Formula
open Library

section Trees
variable {visit : Leaf → Except String Leaf} {R S T : Leaf → Leaf → Prop} {ast ast' ast'' : ASTNode}

theorem ASTNode.inductionOn {P : ASTNode → Prop} (reference : ∀ leaf, P (.reference leaf))
    (unaryOp : ∀ op expr, P expr → P (.unaryOp op expr))
    (binaryOp : ∀ op left right, P left → P right → P (.binaryOp op left right))
    (function : ∀ name args, (∀ arg ∈ args, P arg) → P (.function name args))
    (call : ∀ callee args, P callee → (∀ arg ∈ args, P arg) → P (.call callee args))
    (omitted : P .omitted)
    (array : ∀ rows, (∀ row ∈ rows, ∀ node ∈ row, P node) → P (.array rows))
    (literal : ∀ text, P (.literal text)) (ast : ASTNode) : P ast := by
  refine @ASTNode.rec P (fun nodes => ∀ node ∈ nodes, P node)
    (fun rows => ∀ row ∈ rows, ∀ node ∈ row, P node) reference unaryOp binaryOp function
    call omitted array literal ?_ ?_ ?_ ?_ ast
  · exact fun node hnode => absurd hnode List.not_mem_nil
  · intro head rest hhead hrest node hnode
    rcases List.mem_cons.mp hnode with hnode | hnode
    · rw [hnode]
      exact hhead
    · exact hrest node hnode
  · exact fun row hrow => absurd hrow List.not_mem_nil
  · intro head rest hhead hrest row hrow
    rcases List.mem_cons.mp hrow with hrow | hrow
    · rw [hrow]
      exact hhead
    · exact hrest row hrow

theorem ASTNode.walkAll_eq (args : List ASTNode) :
    ASTNode.walkAll visit args = args.mapM (ASTNode.walk visit) := by
  induction args with
  | nil => rw [ASTNode.walkAll, List.mapM_nil]; rfl
  | cons arg rest ih => rw [ASTNode.walkAll, ih, List.mapM_cons]

theorem ASTNode.walkRows_eq (rows : List (List ASTNode)) :
    ASTNode.walkRows visit rows = rows.mapM fun row => row.mapM (ASTNode.walk visit) := by
  induction rows with
  | nil => rw [ASTNode.walkRows, List.mapM_nil]; rfl
  | cons row rest ih => rw [ASTNode.walkRows, ih, ASTNode.walkAll_eq, List.mapM_cons]

theorem ASTNode.leavesAll_eq (args : List ASTNode) :
    ASTNode.leavesAll args = args.flatMap ASTNode.leaves := by
  induction args with
  | nil => rfl
  | cons arg rest ih => rw [ASTNode.leavesAll, ih, List.flatMap_cons]

theorem ASTNode.leavesRows_eq (rows : List (List ASTNode)) :
    ASTNode.leavesRows rows = rows.flatMap fun row => row.flatMap ASTNode.leaves := by
  induction rows with
  | nil => rfl
  | cons row rest ih => rw [ASTNode.leavesRows, ih, ASTNode.leavesAll_eq, List.flatMap_cons]

theorem ASTNode.walk_eq_ok : ast.walk visit = .ok ast' ↔
    ASTNode.Related (fun leaf leaf' => visit leaf = .ok leaf') ast ast' := by
  constructor
  · intro h
    induction ast using ASTNode.inductionOn generalizing ast' with
    | reference leaf =>
      obtain ⟨leaf', hleaf, rfl⟩ := map_eq_ok.mp h
      exact .reference hleaf
    | unaryOp op expr ih =>
      rw [ASTNode.walk] at h
      obtain ⟨expr', hexpr, rfl⟩ := map_eq_ok.mp h
      exact .unaryOp (ih hexpr)
    | binaryOp op left right ihleft ihright =>
      rw [ASTNode.walk] at h
      obtain ⟨left', hleft, h⟩ := bind_eq_ok.mp h
      obtain ⟨right', hright, h⟩ := bind_eq_ok.mp h
      obtain rfl := pure_eq_ok.mp h
      exact .binaryOp (ihleft hleft) (ihright hright)
    | function name args ih =>
      rw [ASTNode.walk, ASTNode.walkAll_eq] at h
      obtain ⟨args', hargs, rfl⟩ := map_eq_ok.mp h
      exact .function (forall₂_imp_mem (mapM_eq_ok.mp hargs) fun arg harg _ _ => ih arg harg)
    | call callee args ihcallee ih =>
      rw [ASTNode.walk, ASTNode.walkAll_eq] at h
      obtain ⟨callee', hcallee, h⟩ := bind_eq_ok.mp h
      obtain ⟨args', hargs, h⟩ := bind_eq_ok.mp h
      obtain rfl := pure_eq_ok.mp h
      exact .call (ihcallee hcallee)
        (forall₂_imp_mem (mapM_eq_ok.mp hargs) fun arg harg _ _ => ih arg harg)
    | omitted =>
      obtain rfl := Except.ok.inj h
      exact .omitted
    | array rows ih =>
      rw [ASTNode.walk, ASTNode.walkRows_eq] at h
      obtain ⟨rows', hrows, rfl⟩ := map_eq_ok.mp h
      apply ASTNode.Related.array
      apply forall₂_imp_mem (mapM_eq_ok.mp hrows)
      intro row hrow row' _ hrelated
      exact forall₂_imp_mem (mapM_eq_ok.mp hrelated) fun node hnode _ _ => ih row hrow node hnode
    | literal text =>
      obtain rfl := Except.ok.inj h
      exact .literal
  · intro h
    induction ast using ASTNode.inductionOn generalizing ast' with
    | reference leaf =>
      cases h with
      | reference hleaf => exact map_eq_ok.mpr ⟨_, hleaf, rfl⟩
    | unaryOp op expr ih =>
      cases h with
      | unaryOp hexpr =>
        rw [ASTNode.walk]
        exact map_eq_ok.mpr ⟨_, ih hexpr, rfl⟩
    | binaryOp op left right ihleft ihright =>
      cases h with
      | binaryOp hleft hright =>
        rw [ASTNode.walk, ihleft hleft, ihright hright]
        rfl
    | function name args ih =>
      cases h with
      | function hargs =>
        have hmap := mapM_eq_ok.mpr (forall₂_imp_mem hargs fun arg harg _ _ => ih arg harg)
        rw [ASTNode.walk, ASTNode.walkAll_eq, hmap]
        rfl
    | call callee args ihcallee ih =>
      cases h with
      | call hcallee hargs =>
        have hmap := mapM_eq_ok.mpr (forall₂_imp_mem hargs fun arg harg _ _ => ih arg harg)
        rw [ASTNode.walk, ASTNode.walkAll_eq, hmap, ihcallee hcallee]
        rfl
    | omitted =>
      cases h
      rfl
    | array rows ih =>
      cases h with
      | array hrows =>
        have hmap := mapM_eq_ok.mpr (forall₂_imp_mem hrows fun row hrow row' _ hrelated =>
          mapM_eq_ok.mpr (forall₂_imp_mem hrelated fun node hnode _ _ => ih row hrow node hnode))
        rw [ASTNode.walk, ASTNode.walkRows_eq, hmap]
        rfl
    | literal text =>
      cases h
      rfl

theorem ASTNode.Related.trans (h : ASTNode.Related R ast ast') (h' : ASTNode.Related S ast' ast'')
    (himp : ∀ x y z, R x y → S y z → T x z) : ASTNode.Related T ast ast'' := by
  induction ast using ASTNode.inductionOn generalizing ast' ast'' with
  | reference leaf =>
    cases h with
    | reference hleaf =>
      cases h' with
      | reference hleaf' => exact .reference (himp _ _ _ hleaf hleaf')
  | unaryOp op expr ih =>
    cases h with
    | unaryOp hexpr =>
      cases h' with
      | unaryOp hexpr' => exact .unaryOp (ih hexpr hexpr')
  | binaryOp op left right ihleft ihright =>
    cases h with
    | binaryOp hleft hright =>
      cases h' with
      | binaryOp hleft' hright' => exact .binaryOp (ihleft hleft hleft') (ihright hright hright')
  | function name args ih =>
    cases h with
    | function hargs =>
      cases h' with
      | function hargs' =>
        exact .function (forall₂_trans_mem hargs hargs' fun arg harg _ _ => ih arg harg)
  | call callee args ihcallee ih =>
    cases h with
    | call hcallee hargs =>
      cases h' with
      | call hcallee' hargs' =>
        exact .call (ihcallee hcallee hcallee')
          (forall₂_trans_mem hargs hargs' fun arg harg _ _ => ih arg harg)
  | omitted =>
    cases h
    cases h'
    exact .omitted
  | array rows ih =>
    cases h with
    | array hrows =>
      cases h' with
      | array hrows' =>
        apply ASTNode.Related.array
        apply forall₂_trans_mem hrows hrows'
        intro row hrow _ _ hrelated hrelated'
        exact forall₂_trans_mem hrelated hrelated' fun node hnode _ _ => ih row hrow node hnode
  | literal text =>
    cases h
    cases h'
    exact .literal

theorem ASTNode.Related.imp (h : ASTNode.Related R ast ast') (himp : ∀ x y, R x y → S x y) :
    ASTNode.Related S ast ast' := by
  induction ast using ASTNode.inductionOn generalizing ast' with
  | reference leaf =>
    cases h with
    | reference hleaf => exact .reference (himp _ _ hleaf)
  | unaryOp op expr ih =>
    cases h with
    | unaryOp hexpr => exact .unaryOp (ih hexpr)
  | binaryOp op left right ihleft ihright =>
    cases h with
    | binaryOp hleft hright => exact .binaryOp (ihleft hleft) (ihright hright)
  | function name args ih =>
    cases h with
    | function hargs => exact .function (forall₂_imp_mem hargs fun arg harg _ _ => ih arg harg)
  | call callee args ihcallee ih =>
    cases h with
    | call hcallee hargs =>
      exact .call (ihcallee hcallee) (forall₂_imp_mem hargs fun arg harg _ _ => ih arg harg)
  | omitted =>
    cases h
    exact .omitted
  | array rows ih =>
    cases h with
    | array hrows =>
      apply ASTNode.Related.array
      apply forall₂_imp_mem hrows
      intro row hrow _ _ hrelated
      exact forall₂_imp_mem hrelated fun node hnode _ _ => ih row hrow node hnode
  | literal text =>
    cases h
    exact .literal

theorem ASTNode.Related.leaves (h : ASTNode.Related R ast ast') :
    List.Forall₂ R ast.leaves ast'.leaves := by
  induction ast using ASTNode.inductionOn generalizing ast' with
  | reference leaf =>
    cases h with
    | reference hleaf => exact .cons hleaf .nil
  | unaryOp op expr ih =>
    cases h with
    | unaryOp hexpr =>
      rw [ASTNode.leaves, ASTNode.leaves]
      exact ih hexpr
  | binaryOp op left right ihleft ihright =>
    cases h with
    | binaryOp hleft hright => exact List.rel_append (ihleft hleft) (ihright hright)
  | function name args ih =>
    cases h with
    | function hargs =>
      rw [ASTNode.leaves, ASTNode.leaves, ASTNode.leavesAll_eq, ASTNode.leavesAll_eq]
      exact forall₂_flatMap (forall₂_imp_mem hargs fun arg harg _ _ => ih arg harg)
  | call callee args ihcallee ih =>
    cases h with
    | call hcallee hargs =>
      rw [ASTNode.leaves, ASTNode.leaves, ASTNode.leavesAll_eq, ASTNode.leavesAll_eq]
      exact List.rel_append (ihcallee hcallee)
        (forall₂_flatMap (forall₂_imp_mem hargs fun arg harg _ _ => ih arg harg))
  | omitted =>
    cases h
    exact .nil
  | array rows ih =>
    cases h with
    | array hrows =>
      rw [ASTNode.leaves, ASTNode.leaves, ASTNode.leavesRows_eq, ASTNode.leavesRows_eq]
      apply forall₂_flatMap
      apply forall₂_imp_mem hrows
      intro row hrow _ _ hrelated
      exact forall₂_flatMap (forall₂_imp_mem hrelated fun node hnode _ _ => ih row hrow node hnode)
  | literal text =>
    cases h
    exact .nil

theorem ASTNode.exists_related (h : ∀ leaf ∈ ast.leaves, ∃ leaf', R leaf leaf') :
    ∃ ast', ASTNode.Related R ast ast' := by
  induction ast using ASTNode.inductionOn with
  | reference leaf =>
    obtain ⟨leaf', hleaf⟩ := h leaf List.mem_cons_self
    exact ⟨_, .reference hleaf⟩
  | unaryOp op expr ih =>
    obtain ⟨expr', hexpr⟩ := ih h
    exact ⟨_, .unaryOp hexpr⟩
  | binaryOp op left right ihleft ihright =>
    obtain ⟨left', hleft⟩ := ihleft fun leaf hleaf => h leaf (List.mem_append_left _ hleaf)
    obtain ⟨right', hright⟩ := ihright fun leaf hleaf => h leaf (List.mem_append_right _ hleaf)
    exact ⟨_, .binaryOp hleft hright⟩
  | function name args ih =>
    rw [ASTNode.leaves, ASTNode.leavesAll_eq] at h
    obtain ⟨args', hargs⟩ := exists_forall₂ fun arg harg =>
      ih arg harg fun leaf hleaf => h leaf (List.mem_flatMap.mpr ⟨arg, harg, hleaf⟩)
    exact ⟨_, .function hargs⟩
  | call callee args ihcallee ih =>
    rw [ASTNode.leaves, ASTNode.leavesAll_eq] at h
    obtain ⟨callee', hcallee⟩ := ihcallee fun leaf hleaf => h leaf (List.mem_append_left _ hleaf)
    obtain ⟨args', hargs⟩ := exists_forall₂ fun arg harg => ih arg harg fun leaf hleaf =>
      h leaf (List.mem_append_right _ (List.mem_flatMap.mpr ⟨arg, harg, hleaf⟩))
    exact ⟨_, .call hcallee hargs⟩
  | omitted => exact ⟨_, .omitted⟩
  | array rows ih =>
    rw [ASTNode.leaves, ASTNode.leavesRows_eq] at h
    obtain ⟨rows', hrows⟩ := exists_forall₂ fun row hrow => exists_forall₂ fun node hnode =>
      ih row hrow node hnode fun leaf hleaf =>
        h leaf (List.mem_flatMap.mpr ⟨row, hrow, List.mem_flatMap.mpr ⟨node, hnode, hleaf⟩⟩)
    exact ⟨_, .array hrows⟩
  | literal text => exact ⟨_, .literal⟩

end Trees

end AgentSpreadsheet.Formula
