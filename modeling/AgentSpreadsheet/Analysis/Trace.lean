import AgentSpreadsheet.Analysis.FormulaGraph
import AgentSpreadsheet.Library.Levels

/-! The trace of a cell through the formula graph, layer by layer. A response has a page of each
layer and one cursor. -/
namespace AgentSpreadsheet.Analysis
open Library

inductive TraceDirection where
  | precedents
  | dependents
  deriving DecidableEq, Repr

structure TraceCursor where
  depth : Nat
  offset : Nat
  deriving DecidableEq, Repr

structure TraceEdgeRaw where
  fromCell : String
  toCell : String
  neighbor : String
  deriving DecidableEq, Repr

structure LayerLinks where
  depth : Nat
  edges : List TraceEdgeRaw
  truncatedCells : List String
  deriving DecidableEq, Repr

structure TraceFormulaInfo where
  fingerprint : String
  formula : String
  deriving DecidableEq, Repr

structure FormulaTraceEdge where
  fromCell : String
  toCell : String
  formula : Option String
  note : Option String
  deriving DecidableEq, Repr

structure TraceLayer where
  depth : Nat
  edges : List FormulaTraceEdge
  hasMore : Bool
  deriving DecidableEq, Repr

structure TraceResponse where
  layers : List TraceLayer
  nextCursor : Option TraceCursor
  notes : List String
  deriving DecidableEq, Repr

structure FormulaTraceParams where
  cellAddress : String
  direction : TraceDirection
  depth : Option Nat := none
  limit : Option Nat := none
  pageSize : Option Nat := none
  deriving DecidableEq, Repr

structure TraceConfig where
  direction : TraceDirection
  origin : String
  depthLimit : Nat
  pageSize : Nat
  deriving DecidableEq, Repr

def traceDependentsPerCellLimit : Nat := 500
def defaultTracePageSize : Nat := 20
def tracePageMin : Nat := 5
def tracePageMax : Nat := 200

def clamp (value low high : Nat) : Nat := max low (min value high)

/-- Depth and page size within their limits; `toUppercase` is that of Unicode. -/
def FormulaTraceParams.config (toUppercase : String → String) (params : FormulaTraceParams) :
    TraceConfig where
  direction := params.direction
  origin := toUppercase params.cellAddress
  depthLimit := clamp (params.depth.getD 3) 1 5
  pageSize := clamp ((params.pageSize.or params.limit).getD defaultTracePageSize) tracePageMin
    tracePageMax

section Layers
variable (graph : FormulaGraph) (direction : TraceDirection)

/-- The neighbors of a cell, and whether some were cut. -/
def neighborsOf (cell : String) : List String × Bool :=
  match direction with
  | .precedents => (graph.precedents cell, false)
  | .dependents => graph.dependentsLimited cell (some traceDependentsPerCellLimit)

def successorsOf (cell : String) : List String :=
  (neighborsOf graph direction cell).1.map toAsciiUppercase

def rawEdge (cell neighborUpper : String) : TraceEdgeRaw :=
  match direction with
  | .precedents => ⟨cell, neighborUpper, neighborUpper⟩
  | .dependents => ⟨neighborUpper, cell, neighborUpper⟩

def edgesOf (cell : String) : List TraceEdgeRaw :=
  (successorsOf graph direction cell).map (rawEdge direction cell)

/-- `Vec::sort` on strings. -/
def sortStrings (texts : List String) : List String := texts.mergeSort (fun a b => decide (a ≤ b))

/-- The layers that are left, from a frontier. -/
def layersFrom : Nat → Nat → List String × List String → List LayerLinks
  | 0, _, _ => []
  | remaining + 1, depth, (visited, frontier) =>
    let edges := frontier.flatMap (edgesOf graph direction)
    let next := (frontier.flatMap (successorsOf graph direction)).foldl visit (visited, [])
    if edges = [] then []
    else
      let layer : LayerLinks :=
        ⟨depth, edges, frontier.filter fun cell => (neighborsOf graph direction cell).2⟩
      layer :: if next.2 = [] then [] else
        layersFrom remaining (depth + 1) (next.1, sortStrings next.2)

def collectLayerLinks (origin : String) (depthLimit : Nat) : List LayerLinks :=
  layersFrom graph direction depthLimit 1 ([origin], [origin])

end Layers

def buildFormulaLookup (graph : FormulaGraph) : String → Option TraceFormulaInfo :=
  graph.groups.foldl (fun map (fingerprint, group) =>
    group.addresses.foldl (fun map address =>
      Function.update map (toAsciiUppercase address) (some ⟨fingerprint, group.canonical⟩)) map)
    fun _ => none

/-- The formula at a node, under its text or under its cell. -/
def lookupFormulaInfo (lookup : String → Option TraceFormulaInfo) (cellRef original : String) :
    Option TraceFormulaInfo :=
  match lookup cellRef, splitSheetAndCell original with
  | some info, _ => some info
  | none, (some _, cell) => lookup (toAsciiUppercase cell)
  | none, (none, _) => none

def traceEdge (lookup : String → Option TraceFormulaInfo) (edge : TraceEdgeRaw) :
    FormulaTraceEdge where
  fromCell := edge.fromCell
  toCell := edge.toCell
  formula := (lookupFormulaInfo lookup edge.neighbor edge.neighbor).map TraceFormulaInfo.formula
  note := none

def buildEdgesForLayer (rawEdges : List TraceEdgeRaw) (selected : List String)
    (lookup : String → Option TraceFormulaInfo) : List FormulaTraceEdge :=
  sortBy (fun a b => compareAddresses a.toCell b.toCell)
    ((rawEdges.filter fun edge => edge.neighbor ∈ selected).map (traceEdge lookup))

def LayerLinks.nodeSet (layer : LayerLinks) : List String :=
  (layer.edges.map TraceEdgeRaw.neighbor).dedup

/-- The order in which a request's hash sets list their elements, for each depth. -/
structure HashOrder where
  arrange : Nat → List String → List String
  perm : ∀ depth nodes, (arrange depth nodes).Perm nodes

section Response
variable (order : HashOrder) (lookup : String → Option TraceFormulaInfo) (pageSize : Nat)
  (cursor : Option TraceCursor)

/-- What a response has of a layer, and where the next page of it starts. -/
structure LayerPage where
  selected : List String
  stop : Nat
  total : Nat
  produced : Bool
  deriving DecidableEq, Repr

def layerPage (layer : LayerLinks) : LayerPage :=
  let produced := cursor.all fun c => c.depth == layer.depth
  let offset := ((cursor.filter fun c => c.depth == layer.depth).map TraceCursor.offset).getD 0
  let nodes := sortNodes (order.arrange layer.depth layer.nodeSet)
  let start := min offset nodes.length
  let stop := if produced then min (start + pageSize) nodes.length else start
  { selected := if produced then (nodes.drop start).take (stop - start) else []
    stop, total := nodes.length, produced }

def LayerPage.hasMore (page : LayerPage) : Bool := page.produced && page.stop < page.total

def traceLayer (layer : LayerLinks) : TraceLayer :=
  let page := layerPage order pageSize cursor layer
  { depth := layer.depth
    edges := if page.produced then buildEdgesForLayer layer.edges page.selected lookup else []
    hasMore := page.hasMore }

def layerNotes (layer : LayerLinks) : List String :=
  let page := layerPage order pageSize cursor layer
  let paged := if page.hasMore then
      ["Layer " ++ toString layer.depth ++ " truncated at " ++ toString page.stop ++ " of " ++
        toString page.total ++ " nodes; supply cursor.depth=" ++ toString layer.depth ++
        " and cursor.offset=" ++ toString page.stop ++ " to continue"]
    else []
  let cells := layer.truncatedCells
  let cut := if cells = [] then [] else
    let cellList := if cells.length ≤ 3 then ", ".intercalate cells
      else ", ".intercalate (cells.take 3) ++ ", ... (" ++ toString (cells.length - 3) ++ " more)"
    ["Layer " ++ toString layer.depth ++ ": dependents truncated at " ++
      toString traceDependentsPerCellLimit ++ " per cell for: " ++ cellList]
  paged ++ cut

/-- The cursor is that of the first layer with more. -/
def nextCursorOf (layers : List LayerLinks) : Option TraceCursor :=
  layers.findSome? fun layer =>
    let page := layerPage order pageSize cursor layer
    if page.hasMore then some ⟨layer.depth, page.stop⟩ else none

def responseOf (layers : List LayerLinks) : TraceResponse where
  layers := layers.map (traceLayer order lookup pageSize cursor)
  nextCursor := nextCursorOf order pageSize cursor layers
  notes := layers.flatMap (layerNotes order pageSize cursor)

end Response

def buildTraceLayers (order : HashOrder) (graph : FormulaGraph) (config : TraceConfig)
    (cursor : Option TraceCursor) : TraceResponse :=
  responseOf order (buildFormulaLookup graph) config.pageSize cursor
    (collectLayerLinks graph config.direction config.origin config.depthLimit)

/-- The responses from one request on, each with the cursor of the one before, until there is
none. -/
def followTrace (orders : Nat → HashOrder) (graph : FormulaGraph) (config : TraceConfig) :
    Nat → Nat → Option TraceCursor → Option (List TraceResponse)
  | 0, _, _ => none
  | fuel + 1, request, cursor =>
    let response := buildTraceLayers (orders request) graph config cursor
    match response.nextCursor with
    | none => some [response]
    | some next => (followTrace orders graph config fuel (request + 1) (some next)).map
        (response :: ·)

end AgentSpreadsheet.Analysis
