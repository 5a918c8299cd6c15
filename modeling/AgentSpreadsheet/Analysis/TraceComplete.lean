import AgentSpreadsheet.Analysis.Trace
import AgentSpreadsheet.Library.Paging

/-! The layers of a trace are the breadth-first levels. Its pages are followed through one layer
only, the first that does not fit. -/
namespace AgentSpreadsheet.Analysis
open Library

/-! ### Levels -/

section Levels
variable (graph : FormulaGraph) (direction : TraceDirection) (origin : String)

/-- The cells that are expanded at a distance from the origin, sorted. -/
def frontierAt (n : Nat) : List String :=
  (levelState (successorsOf graph direction) origin sortStrings n).2

def levelEdges (n : Nat) : List TraceEdgeRaw :=
  (frontierAt graph direction origin n).flatMap (edgesOf graph direction)

variable {graph direction origin}

theorem sortStrings_perm (texts : List String) : (sortStrings texts).Perm texts :=
  List.mergeSort_perm _ _

/-- Each cell is expanded at its least distance and only there. -/
theorem frontierAt_level (n : Nat) :
    (∀ x, x ∈ frontierAt graph direction origin n ↔
      LeastAt (successorsOf graph direction) origin n x) ∧
      (frontierAt graph direction origin n).Nodup := by
  have hlevel := @atLevel_levelState _ _ (successorsOf graph direction) origin sortStrings
    sortStrings_perm n
  exact ⟨hlevel.frontier, hlevel.nodup⟩

theorem frontier_ends {n : Nat} (h : frontierAt graph direction origin (n + 1) = []) (k : Nat) :
    levelEdges graph direction origin (n + 1 + k) = [] := by
  have hends := levelState_ends sortStrings_perm h k
  unfold levelEdges frontierAt
  rw [hends]
  rfl

theorem edges_ends {n : Nat} (h : levelEdges graph direction origin n = []) :
    frontierAt graph direction origin (n + 1) = [] := by
  have hnone : (frontierAt graph direction origin n).flatMap (successorsOf graph direction) = [] := by
    rw [List.flatMap_eq_nil_iff]
    intro cell hcell
    have hedges := List.flatMap_eq_nil_iff.mp h cell hcell
    exact List.map_eq_nil_iff.mp hedges
  unfold frontierAt at hnone ⊢
  change sortStrings (((levelState _ origin sortStrings n).2.flatMap _).foldl visit (_, [])).2 = []
  rw [hnone]
  exact (sortStrings_perm []).eq_nil

def layerAt (graph : FormulaGraph) (direction : TraceDirection) (origin : String) (n : Nat) :
    LayerLinks where
  depth := n + 1
  edges := levelEdges graph direction origin n
  truncatedCells := (frontierAt graph direction origin n).filter fun cell =>
    (neighborsOf graph direction cell).2

theorem layersFrom_get (remaining n i : Nat) :
    (layersFrom graph direction remaining (n + 1)
      (levelState (successorsOf graph direction) origin sortStrings n))[i]? =
      if i < remaining ∧ levelEdges graph direction origin (n + i) ≠ [] then
        some (layerAt graph direction origin (n + i)) else none := by
  induction remaining generalizing n i with
  | zero => simp [layersFrom]
  | succ remaining ih =>
    unfold layersFrom
    change (if levelEdges graph direction origin n = [] then [] else _ : List LayerLinks)[i]? = _
    by_cases hedges : levelEdges graph direction origin n = []
    · rw [if_pos hedges]
      have hnone : levelEdges graph direction origin (n + i) = [] := by
        cases i with
        | zero => exact hedges
        | succ i =>
          have hends := frontier_ends (edges_ends hedges) i
          rwa [Nat.add_right_comm] at hends
      simp [hnone]
    · rw [if_neg hedges]
      cases i with
      | zero =>
        have hlayer : (if 0 < remaining + 1 ∧ levelEdges graph direction origin n ≠ [] then
            some (layerAt graph direction origin n) else none) =
              some (layerAt graph direction origin n) := if_pos ⟨Nat.succ_pos _, hedges⟩
        exact hlayer.symm
      | succ i =>
        change (if _ = [] then [] else layersFrom graph direction remaining (n + 1 + 1)
          (levelState (successorsOf graph direction) origin sortStrings (n + 1)))[i]? = _
        rw [apply_ite (fun layers : List LayerLinks => layers[i]?), ih (n + 1) i,
          show n + 1 + i = n + (i + 1) by omega]
        split
        · rename_i hnext
          have hfrontier : frontierAt graph direction origin (n + 1) = [] := by
            change sortStrings _ = []
            rw [hnext]
            exact (sortStrings_perm []).eq_nil
          have hends := frontier_ends hfrontier i
          rw [show n + 1 + i = n + (i + 1) by omega] at hends
          simp [hends]
        · simp only [Nat.add_lt_add_iff_right]

/-- The layers are the levels, up to the limit and as long as there are edges. -/
theorem collectLayerLinks_get (depthLimit i : Nat) :
    (collectLayerLinks graph direction origin depthLimit)[i]? =
      if i < depthLimit ∧ levelEdges graph direction origin i ≠ [] then
        some (layerAt graph direction origin i) else none := by
  have hget := @layersFrom_get graph direction origin depthLimit 0 i
  simp only [Nat.zero_add] at hget
  exact hget

end Levels

/-! ### Pages of a layer -/

section Pages
variable {order : HashOrder} {lookup : String → Option TraceFormulaInfo} {p : Nat}
  {cursor : Option TraceCursor} {layer : LayerLinks} {layers : List LayerLinks}

def sortedNodes (order : HashOrder) (layer : LayerLinks) : List String :=
  sortNodes (order.arrange layer.depth layer.nodeSet)

theorem sortedNodes_perm (order : HashOrder) (layer : LayerLinks) :
    (sortedNodes order layer).Perm layer.nodeSet :=
  sortBy_perm.trans (order.perm _ _)

theorem layerPage_at {offset : Nat} (hoffset : offset ≤ layer.nodeSet.length)
    (hcursor : cursor = some ⟨layer.depth, offset⟩ ∨ cursor = none ∧ offset = 0) :
    layerPage order p cursor layer =
      ⟨slice p offset (sortedNodes order layer), min (offset + p) layer.nodeSet.length,
        layer.nodeSet.length, true⟩ := by
  have hlength := (sortedNodes_perm order layer).length_eq
  have hcut (n : Nat) (xs : List String) (h : n ≤ xs.length) :
      (xs.drop n).take (min (n + p) xs.length - n) = (xs.drop n).take p := by
    rw [List.take_eq_take_iff, List.length_drop]
    omega
  unfold layerPage slice
  unfold sortedNodes at hlength ⊢
  generalize sortNodes (order.arrange layer.depth layer.nodeSet) = nodes at hlength ⊢
  have hstart : min offset nodes.length = offset := by omega
  rcases hcursor with rfl | ⟨rfl, rfl⟩
  · simp only [Option.all_some, beq_self_eq_true, Option.filter_some, if_true, Option.map_some,
      Option.getD_some, hstart]
    rw [hcut offset nodes (by omega), hlength]
  · have hfront := hcut 0 nodes (by omega)
    simp only [Nat.zero_add, Nat.sub_zero, List.drop_zero] at hfront
    simp [hfront, hlength]

theorem layerPage_other {depth offset : Nat} (h : depth ≠ layer.depth) :
    (layerPage order p (some ⟨depth, offset⟩) layer).produced = false ∧
      (layerPage order p (some ⟨depth, offset⟩) layer).selected = [] := by
  have hne : (depth == layer.depth) = false := beq_eq_false_iff_ne.mpr h
  unfold layerPage
  simp [hne]

def LayerLinks.Exceeds (p : Nat) (layer : LayerLinks) : Prop := p < layer.nodeSet.length

instance (p : Nat) : DecidablePred (LayerLinks.Exceeds p) :=
  fun layer => inferInstanceAs (Decidable (p < layer.nodeSet.length))

theorem nextCursor_first : nextCursorOf order p none layers =
    (layers.find? fun layer => decide (layer.Exceeds p)).map fun layer => ⟨layer.depth, p⟩ := by
  unfold nextCursorOf
  induction layers with
  | nil => rfl
  | cons layer rest ih =>
    rw [List.findSome?_cons, List.find?_cons]
    have hpage := @layerPage_at order p none layer 0 (Nat.zero_le _) (.inr ⟨rfl, rfl⟩)
    rw [Nat.zero_add] at hpage
    by_cases hexceeds : layer.Exceeds p
    · have hmin : min p layer.nodeSet.length = p := by
        unfold LayerLinks.Exceeds at hexceeds
        omega
      have hmore : (layerPage order p none layer).hasMore = true := by
        rw [hpage, LayerPage.hasMore, hmin]
        exact decide_eq_true hexceeds
      rw [decide_eq_true hexceeds]
      simp only [hmore, if_true]
      rw [hpage, hmin]
      rfl
    · have hmore : (layerPage order p none layer).hasMore = false := by
        rw [hpage, LayerPage.hasMore]
        unfold LayerLinks.Exceeds at hexceeds
        exact decide_eq_false (by dsimp only; omega)
      rw [decide_eq_false hexceeds]
      simp only [hmore, Bool.false_eq_true, if_false]
      exact ih

theorem findSome_unique {α β : Type} {f : α → Option β} {xs : List α} {x : α} (hx : x ∈ xs)
    (h : ∀ y ∈ xs, y ≠ x → f y = none) : xs.findSome? f = f x := by
  induction xs with
  | nil => exact absurd hx List.not_mem_nil
  | cons y rest ih =>
    rw [List.findSome?_cons]
    by_cases hy : y = x
    · subst hy
      cases hfound : f y with
      | some _ => rfl
      | none =>
        by_cases hmem : y ∈ rest
        · rw [ih hmem fun z hz => h z (List.mem_cons_of_mem _ hz), hfound]
        · rw [List.findSome?_eq_none_iff]
          intro z hz
          exact h z (List.mem_cons_of_mem _ hz) fun heq => hmem (heq ▸ hz)
    · rw [h y List.mem_cons_self hy]
      rcases List.mem_cons.mp hx with heq | hx
      · exact absurd heq.symm hy
      · exact ih hx fun z hz => h z (List.mem_cons_of_mem _ hz)

def DistinctDepths (layers : List LayerLinks) : Prop :=
  ∀ a ∈ layers, ∀ b ∈ layers, a.depth = b.depth → a = b

theorem nextCursor_same {offset : Nat} (hdepths : DistinctDepths layers) (hlayer : layer ∈ layers)
    (hoffset : offset ≤ layer.nodeSet.length) :
    nextCursorOf order p (some ⟨layer.depth, offset⟩) layers =
      if offset + p < layer.nodeSet.length then some ⟨layer.depth, offset + p⟩ else none := by
  have hpage := @layerPage_at order p _ layer offset hoffset (.inl rfl)
  have hother : ∀ other ∈ layers, other ≠ layer →
      (if (layerPage order p (some ⟨layer.depth, offset⟩) other).hasMore then
        some (⟨other.depth, (layerPage order p (some ⟨layer.depth, offset⟩) other).stop⟩ :
          TraceCursor) else none) = none := by
    intro other hmem hne
    have hdepth : layer.depth ≠ other.depth := by
      intro heq
      exact hne (hdepths layer hlayer other hmem heq).symm
    have hnothing := (@layerPage_other order p other layer.depth offset hdepth).1
    rw [LayerPage.hasMore, hnothing]
    rfl
  unfold nextCursorOf
  rw [findSome_unique hlayer hother, hpage]
  by_cases hmore : offset + p < layer.nodeSet.length
  · have hmin : min (offset + p) layer.nodeSet.length = offset + p := by omega
    simp [LayerPage.hasMore, hmore, hmin]
  · simp [LayerPage.hasMore, hmore]

end Pages

/-! ### The requests of a run -/

section Run
variable {orders : Nat → HashOrder} {graph : FormulaGraph} {config : TraceConfig}

def TraceConfig.layers (graph : FormulaGraph) (config : TraceConfig) : List LayerLinks :=
  collectLayerLinks graph config.direction config.origin config.depthLimit

theorem layers_get (i : Nat) : (config.layers graph)[i]? =
    if i < config.depthLimit ∧ levelEdges graph config.direction config.origin i ≠ [] then
      some (layerAt graph config.direction config.origin i) else none :=
  collectLayerLinks_get config.depthLimit i

theorem layer_of_mem {layer : LayerLinks} (h : layer ∈ config.layers graph) :
    ∃ i, (config.layers graph)[i]? = some layer ∧
      layer = layerAt graph config.direction config.origin i := by
  obtain ⟨i, hi⟩ := List.mem_iff_getElem?.mp h
  have hget := hi
  rw [layers_get] at hget
  split at hget
  · exact ⟨i, hi, (Option.some.inj hget).symm⟩
  · contradiction

theorem layers_distinct (graph : FormulaGraph) (config : TraceConfig) :
    DistinctDepths (config.layers graph) := by
  intro a ha b hb h
  obtain ⟨i, _, rfl⟩ := layer_of_mem ha
  obtain ⟨j, _, rfl⟩ := layer_of_mem hb
  have hij : i = j := by
    change i + 1 = j + 1 at h
    omega
  rw [hij]

def TraceConfig.continued (graph : FormulaGraph) (config : TraceConfig) : Option LayerLinks :=
  (config.layers graph).find? fun layer => decide (layer.Exceeds config.pageSize)

def LayerLinks.furtherPages (p : Nat) (layer : LayerLinks) : Nat := (layer.nodeSet.length - 1) / p

def TraceConfig.requests (graph : FormulaGraph) (config : TraceConfig) :
    List (Nat × Option TraceCursor) :=
  (0, none) :: match config.continued graph with
    | none => []
    | some layer => (List.range' 1 (layer.furtherPages config.pageSize)).map fun k =>
        (k, some ⟨layer.depth, k * config.pageSize⟩)

def respond (orders : Nat → HashOrder) (graph : FormulaGraph) (config : TraceConfig)
    (request : Nat × Option TraceCursor) : TraceResponse :=
  buildTraceLayers (orders request.1) graph config request.2

theorem followTrace_layer {layer : LayerLinks} (hp : 0 < config.pageSize)
    (hlayer : layer ∈ config.layers graph) (hsome : 0 < layer.nodeSet.length) (m k : Nat)
    (hk : k + m = layer.furtherPages config.pageSize) :
    followTrace orders graph config (m + 1) k (some ⟨layer.depth, k * config.pageSize⟩) =
      some ((List.range' k (m + 1)).map fun j =>
        respond orders graph config (j, some ⟨layer.depth, j * config.pageSize⟩)) := by
  have hmore (j : Nat) : (j + 1) * config.pageSize < layer.nodeSet.length ↔
      j + 1 ≤ layer.furtherPages config.pageSize := by
    unfold LayerLinks.furtherPages
    rw [Nat.le_div_iff_mul_le hp]
    omega
  have hoffset (j : Nat) (hj : j ≤ layer.furtherPages config.pageSize) :
      j * config.pageSize ≤ layer.nodeSet.length := by
    unfold LayerLinks.furtherPages at hj
    rw [Nat.le_div_iff_mul_le hp] at hj
    omega
  induction m generalizing k with
  | zero =>
    have hnext : (respond orders graph config
        (k, some ⟨layer.depth, k * config.pageSize⟩)).nextCursor = none := by
      change nextCursorOf _ _ _ (config.layers graph) = none
      rw [nextCursor_same (layers_distinct graph config) hlayer (hoffset k (by omega)), if_neg]
      rw [← Nat.succ_mul, hmore]
      omega
    unfold respond at hnext
    unfold followTrace
    simp only
    rw [hnext]
    rfl
  | succ m ih =>
    have hnext : (respond orders graph config
        (k, some ⟨layer.depth, k * config.pageSize⟩)).nextCursor =
          some ⟨layer.depth, (k + 1) * config.pageSize⟩ := by
      change nextCursorOf _ _ _ (config.layers graph) = _
      rw [nextCursor_same (layers_distinct graph config) hlayer (hoffset k (by omega)), if_pos]
      · rw [Nat.succ_mul]
      · rw [← Nat.succ_mul, hmore]
        omega
    have hrest := ih (k + 1) (by omega)
    unfold respond at hnext
    unfold followTrace
    simp only
    rw [hnext]
    dsimp only
    rw [hrest, Option.map_some, List.range'_succ, List.map_cons]
    rfl

theorem followTrace_requests (hp : 0 < config.pageSize) : ∃ fuel,
    followTrace orders graph config fuel 0 none =
      some ((config.requests graph).map (respond orders graph config)) := by
  have hfirst : (respond orders graph config (0, none)).nextCursor =
      (config.continued graph).map fun layer => ⟨layer.depth, config.pageSize⟩ := by
    change nextCursorOf _ _ _ (config.layers graph) = _
    rw [nextCursor_first]
    rfl
  unfold respond at hfirst
  unfold TraceConfig.requests
  cases hcontinued : config.continued graph with
  | none =>
    rw [hcontinued] at hfirst
    apply Exists.intro 1
    unfold followTrace
    simp only
    rw [hfirst]
    rfl
  | some layer =>
    rw [hcontinued] at hfirst
    have hlayer : layer ∈ config.layers graph := List.mem_of_find?_eq_some hcontinued
    have hexceeds : config.pageSize < layer.nodeSet.length := by
      unfold TraceConfig.continued at hcontinued
      have hfound := List.find?_some hcontinued
      exact of_decide_eq_true hfound
    have hpages : 1 ≤ layer.furtherPages config.pageSize := by
      unfold LayerLinks.furtherPages
      rw [Nat.le_div_iff_mul_le hp]
      omega
    obtain ⟨m, hm⟩ : ∃ m, layer.furtherPages config.pageSize = m + 1 :=
      ⟨layer.furtherPages config.pageSize - 1, by omega⟩
    have hrest := @followTrace_layer orders graph config layer hp hlayer (by omega) m 1 (by omega)
    rw [Nat.one_mul] at hrest
    apply Exists.intro (m + 1 + 1)
    unfold followTrace
    simp only
    rw [hfirst]
    simp only [Option.map_some]
    rw [hrest, hm]
    simp only [Option.map_some, List.map_cons, List.map_map]
    rfl

theorem followTrace_unique {fuel fuel' request : Nat} {cursor : Option TraceCursor}
    {run run' : List TraceResponse}
    (h : followTrace orders graph config fuel request cursor = some run)
    (h' : followTrace orders graph config fuel' request cursor = some run') : run = run' := by
  induction fuel generalizing fuel' request cursor run run' with
  | zero => contradiction
  | succ fuel ih =>
    cases fuel' with
    | zero => contradiction
    | succ fuel' =>
      unfold followTrace at h h'
      dsimp only at h h'
      split at h
      · rename_i hnext
        rw [hnext] at h'
        exact (Option.some.inj h).symm.trans (Option.some.inj h')
      · rename_i cursor' hnext
        rw [hnext] at h'
        obtain ⟨rest, hrest, rfl⟩ := Option.map_eq_some_iff.mp h
        obtain ⟨rest', hrest', rfl⟩ := Option.map_eq_some_iff.mp h'
        rw [ih hrest hrest']

end Run

/-! ### What a run delivers -/

/-- The end of an edge that is away from the origin. -/
def TraceDirection.farEnd (direction : TraceDirection) (edge : FormulaTraceEdge) : String :=
  match direction with
  | .precedents => edge.toCell
  | .dependents => edge.fromCell

def deliveredEdges (i : Nat) (responses : List TraceResponse) : List FormulaTraceEdge :=
  responses.flatMap fun response => ((response.layers[i]?).map TraceLayer.edges).getD []

section Delivered
variable {orders : Nat → HashOrder} {graph : FormulaGraph} {config : TraceConfig}
  {layer : LayerLinks} {i : Nat}

def TraceConfig.edges (graph : FormulaGraph) (layer : LayerLinks) : List FormulaTraceEdge :=
  layer.edges.map (traceEdge (buildFormulaLookup graph))

def TraceConfig.pages (orders : Nat → HashOrder) (graph : FormulaGraph) (config : TraceConfig)
    (layer : LayerLinks) : List (List String) :=
  (config.requests graph).map fun request =>
    (layerPage (orders request.1) config.pageSize request.2 layer).selected

theorem neighbor_farEnd (hlayer : layer ∈ config.layers graph) {edge : TraceEdgeRaw}
    (hedge : edge ∈ layer.edges) (lookup : String → Option TraceFormulaInfo) :
    config.direction.farEnd (traceEdge lookup edge) = edge.neighbor := by
  obtain ⟨i, _, rfl⟩ := layer_of_mem hlayer
  obtain ⟨cell, _, hedge⟩ := List.mem_flatMap.mp hedge
  obtain ⟨neighbor, _, rfl⟩ := List.mem_map.mp hedge
  unfold TraceDirection.farEnd traceEdge rawEdge
  cases config.direction <;> rfl

theorem mem_nodeSet {x : String} : x ∈ layer.nodeSet ↔ ∃ edge ∈ layer.edges, edge.neighbor = x := by
  unfold LayerLinks.nodeSet
  rw [List.mem_dedup, List.mem_map]

theorem nodeSet_nodup (layer : LayerLinks) : layer.nodeSet.Nodup := List.nodup_dedup _

theorem traceLayer_edges (hlayer : layer ∈ config.layers graph) (order : HashOrder)
    (cursor : Option TraceCursor) :
    (traceLayer order (buildFormulaLookup graph) config.pageSize cursor layer).edges.Perm
      ((TraceConfig.edges graph layer).filter fun edge => config.direction.farEnd edge ∈
        (layerPage order config.pageSize cursor layer).selected) := by
  have hfilter (selected : List String) :
      (layer.edges.filter fun edge => edge.neighbor ∈ selected).map
          (traceEdge (buildFormulaLookup graph)) =
        (TraceConfig.edges graph layer).filter fun edge =>
          config.direction.farEnd edge ∈ selected := by
    unfold TraceConfig.edges
    rw [List.filter_map]
    congr 1
    apply List.filter_congr
    intro edge hedge
    rw [Function.comp_apply, neighbor_farEnd hlayer hedge]
  unfold traceLayer
  dsimp only
  split
  · unfold buildEdgesForLayer
    rw [hfilter]
    exact sortBy_perm
  · rename_i hproduced
    have hselected : (layerPage order config.pageSize cursor layer).selected = [] := by
      unfold layerPage at hproduced ⊢
      dsimp only at hproduced ⊢
      rw [if_neg hproduced]
    rw [hselected]
    simp

/-- The edges of a layer are delivered once each exactly when each of its nodes is on one page. -/
theorem delivered_iff (hget : (config.layers graph)[i]? = some layer) :
    (deliveredEdges i ((config.requests graph).map (respond orders graph config))).Perm
        (TraceConfig.edges graph layer) ↔
      ∀ x ∈ layer.nodeSet, (config.pages orders graph layer).countP (fun page => x ∈ page) = 1 := by
  have hlayer : layer ∈ config.layers graph := List.mem_of_getElem? hget
  have hdelivered : (deliveredEdges i ((config.requests graph).map
      (respond orders graph config))).Perm ((config.pages orders graph layer).flatMap fun page =>
        (TraceConfig.edges graph layer).filter fun edge => config.direction.farEnd edge ∈ page) := by
    unfold deliveredEdges TraceConfig.pages
    rw [List.flatMap_map, List.flatMap_map]
    apply List.Perm.flatMap_left
    intro request _
    have hresponse : ((respond orders graph config request).layers[i]?) =
        some (traceLayer (orders request.1) (buildFormulaLookup graph) config.pageSize request.2
          layer) := by
      change ((config.layers graph).map _)[i]? = _
      rw [List.getElem?_map, hget]
      rfl
    rw [hresponse]
    exact traceLayer_edges hlayer (orders request.1) request.2
  have hsame : (deliveredEdges i ((config.requests graph).map (respond orders graph config))).Perm
      (TraceConfig.edges graph layer) ↔ ((config.pages orders graph layer).flatMap fun page =>
        (TraceConfig.edges graph layer).filter fun edge =>
          config.direction.farEnd edge ∈ page).Perm (TraceConfig.edges graph layer) :=
    ⟨hdelivered.symm.trans, hdelivered.trans⟩
  rw [hsame, filter_pages_perm]
  constructor
  · intro h x hx
    obtain ⟨edge, hedge, rfl⟩ := mem_nodeSet.mp hx
    have hone := h _ (List.mem_map_of_mem hedge)
    rwa [neighbor_farEnd hlayer hedge] at hone
  · intro h reported hreported
    obtain ⟨edge, hedge, rfl⟩ := List.mem_map.mp hreported
    rw [neighbor_farEnd hlayer hedge]
    exact h _ (mem_nodeSet.mpr ⟨edge, hedge, rfl⟩)

theorem pages_single (hother : config.continued graph ≠ some layer)
    (hlayer : layer ∈ config.layers graph) : ∃ m, config.pages orders graph layer =
      slice config.pageSize 0 (sortedNodes (orders 0) layer) :: List.replicate m [] := by
  have hfirst := @layerPage_at (orders 0) config.pageSize none layer 0 (Nat.zero_le _)
    (.inr ⟨rfl, rfl⟩)
  unfold TraceConfig.pages TraceConfig.requests
  rw [List.map_cons, hfirst]
  cases hcontinued : config.continued graph with
  | none => exact ⟨0, rfl⟩
  | some other =>
    apply Exists.intro (other.furtherPages config.pageSize)
    congr 1
    rw [List.map_map, List.eq_replicate_iff]
    constructor
    · rw [List.length_map, List.length_range']
    · intro page hpage
      obtain ⟨k, _, rfl⟩ := List.mem_map.mp hpage
      have hmem : other ∈ config.layers graph := List.mem_of_find?_eq_some hcontinued
      have hdepth : other.depth ≠ layer.depth := by
        intro heq
        have hsame := layers_distinct graph config other hmem layer hlayer heq
        rw [hsame] at hcontinued
        exact hother hcontinued
      exact (layerPage_other hdepth).2

theorem pages_continued (hp : 0 < config.pageSize) (hcontinued : config.continued graph = some layer) :
    config.pages orders graph layer =
      (List.range (layer.furtherPages config.pageSize + 1)).map fun k =>
        slice config.pageSize (k * config.pageSize) (sortedNodes (orders k) layer) := by
  have hfirst := @layerPage_at (orders 0) config.pageSize none layer 0 (Nat.zero_le _)
    (.inr ⟨rfl, rfl⟩)
  unfold TraceConfig.pages TraceConfig.requests
  rw [hcontinued, List.map_cons, hfirst, List.range_succ_eq_map, List.map_cons, Nat.zero_mul]
  congr 1
  rw [List.map_map, List.map_map, List.range'_eq_map_range, List.map_map]
  apply List.map_congr_left
  intro k hk
  have hle : (1 + k) * config.pageSize ≤ layer.nodeSet.length := by
    have hlt : k + 1 ≤ (layer.nodeSet.length - 1) / config.pageSize := List.mem_range.mp hk
    rw [Nat.le_div_iff_mul_le hp] at hlt
    rw [Nat.add_comm]
    omega
  have hpage := @layerPage_at (orders (1 + k)) config.pageSize _ layer _ hle (.inl rfl)
  simp only [Function.comp_apply]
  rw [hpage, Nat.add_comm 1 k]

end Delivered

/-! ### The result -/

/-- Whatever the order in which the nodes come, the same ones are on each page. -/
def PagesFixed (p : Nat) (nodes : List String) : Prop :=
  ∀ a b, a.Perm nodes → b.Perm nodes → ∀ k x,
    x ∈ slice p (k * p) (sortNodes a) → x ∈ slice p (k * p) (sortNodes b)

/-- At most one layer does not fit on a page, and the pages of that one are fixed. -/
structure OneLayerPaged (p : Nat) (layers : List LayerLinks) : Prop where
  one : ∀ a ∈ layers, ∀ b ∈ layers, a.Exceeds p → b.Exceeds p → a = b
  fixed : ∀ a ∈ layers, a.Exceeds p → PagesFixed p a.nodeSet

/-- The layers are the breadth-first levels, each cell expanded once, at its least distance, and
following the cursors ends and delivers every edge of every layer once, in whatever order hash
sets list their elements. -/
structure TraceComplete (graph : FormulaGraph) (config : TraceConfig) : Prop where
  levels : ∀ n, (∀ x, x ∈ frontierAt graph config.direction config.origin n ↔
    LeastAt (successorsOf graph config.direction) config.origin n x) ∧
      (frontierAt graph config.direction config.origin n).Nodup
  layers : ∀ i, (config.layers graph)[i]? =
    if i < config.depthLimit ∧ levelEdges graph config.direction config.origin i ≠ [] then
      some (layerAt graph config.direction config.origin i) else none
  delivered : ∀ orders, ∃ fuel responses,
    followTrace orders graph config fuel 0 none = some responses ∧
      ∀ i layer, (config.layers graph)[i]? = some layer →
        (deliveredEdges i responses).Perm (TraceConfig.edges graph layer)

section Result
variable {orders : Nat → HashOrder} {graph : FormulaGraph} {config : TraceConfig}
  {layer : LayerLinks}

/-- An order of hash sets that lists one layer's nodes as given. -/
def HashOrder.listing (depth : Nat) (nodes : List String) (listed : List String)
    (h : listed.Perm nodes) : HashOrder where
  arrange d ns := if d = depth ∧ ns = nodes then listed else ns
  perm d ns := by
    split
    · rename_i hboth
      rw [hboth.2]
      exact h
    · exact List.Perm.refl _

theorem sortedNodes_listing {listed : List String} (h : listed.Perm layer.nodeSet) :
    sortedNodes (.listing layer.depth layer.nodeSet listed h) layer = sortNodes listed := by
  unfold sortedNodes HashOrder.listing
  simp

theorem pages_cover (hp : 0 < config.pageSize) (xs : List String)
    (hlength : xs.length = layer.nodeSet.length) :
    xs.length ≤ (layer.furtherPages config.pageSize + 1) * config.pageSize := by
  have hdiv := Nat.lt_succ_self (layer.furtherPages config.pageSize)
  unfold LayerLinks.furtherPages at hdiv ⊢
  rw [Nat.succ_eq_add_one, Nat.div_lt_iff_lt_mul hp] at hdiv
  omega

theorem continued_exceeds (h : config.continued graph = some layer) :
    layer ∈ config.layers graph ∧ layer.Exceeds config.pageSize := by
  unfold TraceConfig.continued at h
  have hfound := List.find?_some h
  exact ⟨List.mem_of_find?_eq_some h, of_decide_eq_true hfound⟩

theorem exists_continued (hlayer : layer ∈ config.layers graph)
    (hexceeds : layer.Exceeds config.pageSize) : ∃ first, config.continued graph = some first := by
  unfold TraceConfig.continued
  rw [← Option.isSome_iff_exists, List.find?_isSome]
  exact ⟨layer, hlayer, decide_eq_true hexceeds⟩

theorem countP_single {xs : List String} (p m : Nat) (x : String) :
    (slice p 0 xs :: List.replicate m []).countP (fun page => x ∈ page) =
      if x ∈ xs.take p then 1 else 0 := by
  have hrest : (List.replicate m ([] : List String)).countP (fun page => x ∈ page) = 0 := by
    rw [List.countP_eq_zero]
    intro page hpage
    rw [List.eq_of_mem_replicate hpage]
    simp
  rw [List.countP_cons, hrest]
  simp [slice]

/-- A layer that does not fit and is not continued loses edges. -/
theorem eq_continued (hdelivered : ∀ x ∈ layer.nodeSet, (config.pages orders graph layer).countP
      (fun page => x ∈ page) = 1) (hlayer : layer ∈ config.layers graph)
    (hexceeds : layer.Exceeds config.pageSize) : config.continued graph = some layer := by
  by_contra hother
  obtain ⟨m, hpages⟩ := @pages_single orders graph config layer hother hlayer
  have hall : ∀ x ∈ layer.nodeSet, x ∈ (sortedNodes (orders 0) layer).take config.pageSize := by
    intro x hx
    have hone := hdelivered x hx
    rw [hpages, countP_single] at hone
    by_contra hnone
    rw [if_neg hnone] at hone
    contradiction
  have hlength := ((nodeSet_nodup layer).subperm hall).length_le
  rw [List.length_take] at hlength
  unfold LayerLinks.Exceeds at hexceeds
  omega

theorem PagesFixed.countP {orders : Nat → HashOrder}
    (h : PagesFixed config.pageSize layer.nodeSet) (hp : 0 < config.pageSize)
    (hcontinued : config.continued graph = some layer) {x : String} (hx : x ∈ layer.nodeSet) :
    (config.pages orders graph layer).countP (fun page => x ∈ page) = 1 := by
  have hperm : (sortNodes layer.nodeSet).Perm layer.nodeSet := sortBy_perm
  have hone := countP_slices (hperm.nodup_iff.mpr (nodeSet_nodup layer))
    (pages_cover hp _ hperm.length_eq) (hperm.mem_iff.mpr hx)
  rw [pages_continued hp hcontinued, List.countP_map]
  rw [List.countP_map] at hone
  refine Eq.trans (List.countP_congr fun k _ => ?_) hone
  simp only [Function.comp_apply, decide_eq_true_eq]
  have hordered := (orders k).perm layer.depth layer.nodeSet
  exact ⟨h _ _ hordered (List.Perm.refl _) k x, h _ _ (List.Perm.refl _) hordered k x⟩

theorem pagesFixed_of_countP (hp : 0 < config.pageSize)
    (hcontinued : config.continued graph = some layer)
    (h : ∀ orders, ∀ x ∈ layer.nodeSet,
      (config.pages orders graph layer).countP (fun page => x ∈ page) = 1) :
    PagesFixed config.pageSize layer.nodeSet := by
  intro a b ha hb k x hx
  have hperm : (sortNodes a).Perm layer.nodeSet := sortBy_perm.trans ha
  have hmem : x ∈ layer.nodeSet := by
    apply hperm.mem_iff.mp
    exact List.mem_of_mem_drop (List.mem_of_mem_take hx)
  have hk : k < layer.furtherPages config.pageSize + 1 := by
    by_contra hle
    have hcover := pages_cover hp (sortNodes a) hperm.length_eq
    have hbeyond : (layer.furtherPages config.pageSize + 1) * config.pageSize ≤
        k * config.pageSize := Nat.mul_le_mul_right _ (not_lt.mp hle)
    unfold slice at hx
    rw [List.drop_eq_nil_of_le (hcover.trans hbeyond)] at hx
    simp at hx
  -- All requests list the nodes as `a`, except that the `k`-th lists them as `b`.
  let listingA : HashOrder := .listing layer.depth layer.nodeSet a ha
  let listingB : HashOrder := .listing layer.depth layer.nodeSet b hb
  have hcount (orders : Nat → HashOrder) := h orders x hmem
  simp only [pages_continued hp hcontinued, List.countP_map] at hcount
  obtain ⟨place, _, _, hplace⟩ := countP_range_one (hcount fun _ => listingA)
  obtain ⟨j, hj, hthere, _⟩ := countP_range_one (hcount fun j => if j = k then listingB else listingA)
  have hA (j : Nat) (hjx : x ∈ slice config.pageSize (j * config.pageSize) (sortNodes a)) :
      x ∈ slice config.pageSize (j * config.pageSize) (sortedNodes listingA layer) := by
    rwa [sortedNodes_listing ha]
  by_cases hjk : j = k
  · subst hjk
    simp only [Function.comp_apply, if_true, decide_eq_true_eq] at hthere
    rwa [sortedNodes_listing hb] at hthere
  · simp only [Function.comp_apply, if_neg hjk, decide_eq_true_eq] at hthere
    have hjplace := hplace j hj (decide_eq_true hthere)
    have hkplace := hplace k hk (decide_eq_true (hA k hx))
    exact absurd (hjplace.trans hkplace.symm) hjk

theorem TraceComplete.oneLayerPaged (h : TraceComplete graph config) (hp : 0 < config.pageSize) :
    OneLayerPaged config.pageSize (config.layers graph) := by
  have hcount (orders : Nat → HashOrder) (layer : LayerLinks)
      (hlayer : layer ∈ config.layers graph) : ∀ x ∈ layer.nodeSet,
      (config.pages orders graph layer).countP (fun page => x ∈ page) = 1 := by
    obtain ⟨i, hi, _⟩ := layer_of_mem hlayer
    obtain ⟨fuel, responses, hrun, hall⟩ := h.delivered orders
    obtain ⟨fuel', hrun'⟩ := @followTrace_requests orders graph config hp
    have hresponses := followTrace_unique hrun hrun'
    exact (delivered_iff hi).mp (hresponses ▸ hall i layer hi)
  have hunordered : HashOrder := ⟨fun _ nodes => nodes, fun _ _ => List.Perm.refl _⟩
  have hcontinued (layer : LayerLinks) (hlayer : layer ∈ config.layers graph)
      (hexceeds : layer.Exceeds config.pageSize) : config.continued graph = some layer :=
    eq_continued (hcount (fun _ => hunordered) layer hlayer) hlayer hexceeds
  constructor
  · intro a ha b hb haexceeds hbexceeds
    have hsame := (hcontinued a ha haexceeds).symm.trans (hcontinued b hb hbexceeds)
    exact Option.some.inj hsame
  · intro a ha hexceeds
    exact pagesFixed_of_countP hp (hcontinued a ha hexceeds) fun orders => hcount orders a ha

theorem OneLayerPaged.traceComplete
    (h : OneLayerPaged config.pageSize (config.layers graph)) (hp : 0 < config.pageSize) :
    TraceComplete graph config := by
  refine ⟨frontierAt_level, layers_get, fun orders => ?_⟩
  obtain ⟨fuel, hrun⟩ := @followTrace_requests orders graph config hp
  refine ⟨fuel, _, hrun, fun i layer hi => (delivered_iff hi).mpr fun x hx => ?_⟩
  have hlayer : layer ∈ config.layers graph := List.mem_of_getElem? hi
  by_cases hcontinued : config.continued graph = some layer
  · exact (h.fixed layer hlayer (continued_exceeds hcontinued).2).countP hp hcontinued hx
  · have hfits : ¬ layer.Exceeds config.pageSize := by
      intro hexceeds
      obtain ⟨first, hfirst⟩ := exists_continued hlayer hexceeds
      have hboth := continued_exceeds hfirst
      rw [h.one first hboth.1 layer hlayer hboth.2 hexceeds] at hfirst
      exact hcontinued hfirst
    obtain ⟨m, hpages⟩ := @pages_single orders graph config layer hcontinued hlayer
    have hperm := sortedNodes_perm (orders 0) layer
    have hshort : (sortedNodes (orders 0) layer).length ≤ config.pageSize := by
      rw [hperm.length_eq]
      exact not_lt.mp hfits
    rw [hpages, countP_single, List.take_of_length_le hshort, if_pos (hperm.mem_iff.mpr hx)]

theorem pageSize_pos (toUppercase : String → String) (params : FormulaTraceParams) :
    0 < (params.config toUppercase).pageSize :=
  lt_of_lt_of_le (by decide) (Nat.le_max_left tracePageMin _)

end Result

/-- A trace is complete exactly when at most one layer does not fit on a page, and the pages of
that one do not depend on the order of a hash set. -/
theorem trace_complete_iff (graph : FormulaGraph) (toUppercase : String → String)
    (params : FormulaTraceParams) : TraceComplete graph (params.config toUppercase) ↔
      OneLayerPaged (params.config toUppercase).pageSize
        ((params.config toUppercase).layers graph) :=
  ⟨fun h => h.oneLayerPaged (pageSize_pos toUppercase params),
    fun h => h.traceComplete (pageSize_pos toUppercase params)⟩

/-- Six precedents, the first of which has six of its own. -/
def wideGraph : FormulaGraph where
  precedents
    | "A1" => ["B1", "B2", "B3", "B4", "B5", "B6"]
    | "B1" => ["C1", "C2", "C3", "C4", "C5", "C6"]
    | _ => []
  dependents := fun _ => []
  groups := []
  rangeDependents := []
  sheetName := "Model"

def wideParams : FormulaTraceParams where
  cellAddress := "A1"
  direction := .precedents
  pageSize := some 5

theorem wideGraph_second {name : String} (hname : name ∈ wideGraph.precedents "B1") :
    name ∈ (layerAt wideGraph .precedents "A1" 1).nodeSet := by
  have hfrontier : "B1" ∈ frontierAt wideGraph .precedents "A1" 1 :=
    (sortStrings_perm _).mem_iff.mpr (by decide +kernel)
  have hedges : edgesOf wideGraph .precedents "B1" =
      (wideGraph.precedents "B1").map fun cell => ⟨"B1", cell, cell⟩ := by decide +kernel
  have hedge : (⟨"B1", name, name⟩ : TraceEdgeRaw) ∈ levelEdges wideGraph .precedents "A1" 1 :=
    List.mem_flatMap.mpr ⟨"B1", hfrontier, hedges ▸ List.mem_map.mpr ⟨name, hname, rfl⟩⟩
  exact mem_nodeSet.mpr ⟨_, hedge, rfl⟩

/-- Of two layers that do not fit the second is not continued. -/
theorem trace_loses_edges : ¬ TraceComplete wideGraph (wideParams.config id) := by
  intro h
  have hone := (h.oneLayerPaged (pageSize_pos id wideParams)).one
  have hlayer (i : Nat) (hi : i < 3)
      (hedges : levelEdges wideGraph .precedents "A1" i ≠ []) :
      layerAt wideGraph .precedents "A1" i ∈ (wideParams.config id).layers wideGraph :=
    List.mem_of_getElem? ((layers_get i).trans (if_pos ⟨hi, hedges⟩))
  have hsecond : (layerAt wideGraph .precedents "A1" 1).Exceeds 5 := by
    have hnodup : (wideGraph.precedents "B1").Nodup := by decide +kernel
    have hsub := hnodup.subperm fun _ hname => wideGraph_second hname
    exact lt_of_lt_of_le (by decide) hsub.length_le
  have hedges : levelEdges wideGraph .precedents "A1" 1 ≠ [] := by
    intro hnone
    have hnodes : (layerAt wideGraph .precedents "A1" 1).nodeSet = [] := by
      change ((levelEdges wideGraph .precedents "A1" 1).map _).dedup = []
      rw [hnone]
      decide
    unfold LayerLinks.Exceeds at hsecond
    rw [hnodes] at hsecond
    exact absurd hsecond (by decide)
  have hsame := hone _ (hlayer 0 (by decide) (by decide +kernel)) _
    (hlayer 1 (by decide) hedges) (by decide +kernel) hsecond
  exact absurd (congrArg LayerLinks.depth hsame) (by decide)

end AgentSpreadsheet.Analysis
