import AgentSpreadsheet.Analysis.Trace
import AgentSpreadsheet.Reads.Capped

/-! The groups of equal formulas of a sheet, page by page. The groups come out of a hash map, so
each call may list those that the sort order ties in another order. -/
namespace AgentSpreadsheet.Analysis
open Library Reads

inductive FormulaSortBy where
  | address
  | complexity
  | count
  deriving DecidableEq, Repr

structure FormulaGroup where
  fingerprint : String
  addresses : List String
  count : Option Nat
  formula : String
  isArray : Bool
  isShared : Bool
  isVolatile : Bool
  deriving DecidableEq, Repr

structure SheetFormulaMapParams where
  range : Option String := none
  expand : Bool := false
  limit : Option Nat := none
  offset : Option Nat := none
  sortBy : Option FormulaSortBy := none
  summaryOnly : Option Bool := none
  includeAddresses : Option Bool := none
  addressesLimit : Option Nat := none

structure SheetFormulaMapResponse where
  groups : List FormulaGroup
  nextOffset : Option Nat
  deriving DecidableEq, Repr

def FormulaGraph.formulaGroups (graph : FormulaGraph) : List FormulaGroup :=
  graph.groups.map fun (fingerprint, group) => {
    fingerprint := fingerprint
    addresses := group.addresses
    count := some group.addresses.length
    formula := group.canonical
    isArray := group.isArray
    isShared := group.isShared
    isVolatile := group.isVolatile }

/-! ### Ranges -/

structure AddressRange where
  minCol : Nat
  minRow : Nat
  maxCol : Nat
  maxRow : Nat
  deriving DecidableEq, Repr

def parseRange (range : String) : Option AddressRange := do
  let (first, last) ← match range.toList.splitOn ':' with
    | [first] => some (first, first)
    | [first, last] => some (first, last)
    | _ => none
  let (c1, r1) ← parseAddress (String.ofList first)
  let (c2, r2) ← parseAddress (String.ofList last)
  some ⟨min c1 c2, min r1 r2, max c1 c2, max r1 r2⟩

/-- A range that cannot be read has each address. -/
def addressInRange (address range : String) : Bool :=
  (parseRange range).all fun bounds =>
    (parseAddress address).any fun (col, row) =>
      bounds.minCol ≤ col && col ≤ bounds.maxCol && bounds.minRow ≤ row && row ≤ bounds.maxRow

/-! ### Groups -/

/-- The first of the least. -/
def minAddress : List String → Option String
  | [] => none
  | first :: rest => some (rest.foldl (fun best address =>
      if compareAddresses best address = .gt then address else best) first)

def compareGroups : FormulaSortBy → FormulaGroup → FormulaGroup → Ordering
  | .address, a, b =>
    match minAddress a.addresses, minAddress b.addresses with
    | some left, some right =>
      (compareAddresses left right).then (compare a.fingerprint b.fingerprint)
    | some _, none => .lt
    | none, some _ => .gt
    | none, none => compare a.fingerprint b.fingerprint
  | .complexity, a, b => compare b.formula.utf8ByteSize a.formula.utf8ByteSize
  | .count, a, b =>
    compare (b.count.getD b.addresses.length) (a.count.getD a.addresses.length)

section Map
variable (length : ResponseLength FormulaGroup) (config : ServerConfig)
  (params : SheetFormulaMapParams)

/-- The group within the requested range, unless it is outside. -/
def selectGroup (group : FormulaGroup) : Option FormulaGroup :=
  let addresses := match params.range with
    | some range => group.addresses.filter fun address => addressInRange address range
    | none => group.addresses
  if params.range.isSome ∧ addresses = [] then none
  else some { group with addresses := sortNodes addresses }

def sortedGroups (listed : List FormulaGroup) : List FormulaGroup :=
  sortBy (compareGroups (params.sortBy.getD .address)) (listed.filterMap (selectGroup params))

def summaryOnly : Bool := params.summaryOnly.getD (config.outputProfile == .tokenDense)

def trimGroup (group : FormulaGroup) : FormulaGroup :=
  if summaryOnly config params || !params.includeAddresses.getD (!summaryOnly config params) then
    { group with addresses := [] }
  else if params.expand then group
  else { group with addresses := group.addresses.take (params.addressesLimit.getD 15) }

def truncateTo {ρ : Type} (limit : Option Nat) (entries : List ρ) : List ρ :=
  match limit with
  | some limit => entries.take limit
  | none => entries

/-- The map, with the groups as the hash map lists them. -/
def sheetFormulaMapSemantic (listed : List FormulaGroup) : SheetFormulaMapResponse :=
  let sorted := sortedGroups params listed
  let offset := params.offset.getD 0
  let groups := (truncateTo config.maxItems (truncateTo params.limit (sorted.drop offset))).map
    (trimGroup config params)
  let shown := groups.take
    (capRowsByPayloadBytes groups.length config.maxPayloadBytes fun count =>
      length.size (groups.take count))
  { groups := shown
    nextOffset := if offset + shown.length < sorted.length then some (offset + shown.length)
      else none }

/-- A call by its number and the offset it asks for. -/
def formulaMapCall (listed : List FormulaGroup) (place : Nat × Nat) :
    Except String (Nat × SheetFormulaMapResponse) :=
  .ok (place.1, sheetFormulaMapSemantic length config { params with offset := some place.2 } listed)

def nextCall (page : Nat × SheetFormulaMapResponse) : Option (Nat × Nat) :=
  page.2.nextOffset.map fun offset => (page.1 + 1, offset)

def unpagedGroups (listed : List FormulaGroup) : List FormulaGroup :=
  (sortedGroups params listed).map (trimGroup config params)

/-- However the calls list the groups, following the offsets ends, after each group once. -/
def FormulaMapPaged (graph : FormulaGraph) : Prop :=
  ∀ listed : Nat → List FormulaGroup, (∀ call, (listed call).Perm graph.formulaGroups) →
    Budget.Covers (fun place => formulaMapCall length config params (listed place.1) place) nextCall
      (fun page => page.2.groups) (0, 0) (unpagedGroups config params graph.formulaGroups)

/-- The answers without pages that calls may have. -/
def groupListings (graph : FormulaGraph) : Set (List FormulaGroup) :=
  Set.ofPred fun groups => ∃ listed : List FormulaGroup,
    listed.Perm graph.formulaGroups ∧ groups = unpagedGroups config params listed

/-- Groups on a page at most, of `total` groups. -/
def pageGroups (total : Nat) : Nat :=
  min (params.limit.getD total) (config.maxItems.getD total)

def mapBudget (total : Nat) : Budget FormulaGroup :=
  cappedBudget (pageGroups config params total) 0 none config.maxPayloadBytes length.size
    (fun _ => True) (fun _ _ _ => trivial) fun _ _ _ _ => length.alone _

def cutCall (total : Nat) (groups : List FormulaGroup) (place : Nat × Nat) :
    Except String (Nat × SheetFormulaMapResponse) :=
  let shown := (mapBudget length config params total).cut (groups.drop place.2)
  .ok (place.1, {
    groups := shown
    nextOffset := if place.2 + shown.length < total then some (place.2 + shown.length) else none })

variable {length config params}

theorem truncateTo_eq {ρ : Type} {limit : Option Nat} {entries : List ρ} {total : Nat}
    (h : entries.length ≤ total) : truncateTo limit entries = entries.take (limit.getD total) := by
  cases limit with
  | none => exact (List.take_of_length_le h).symm
  | some limit => rfl

theorem unpagedGroups_length (listed : List FormulaGroup) :
    (unpagedGroups config params listed).length = (sortedGroups params listed).length :=
  List.length_map _

/-- The groups of a page before the payload is measured. -/
theorem pageGroups_take (listed : List FormulaGroup) (offset : Nat) :
    (truncateTo config.maxItems (truncateTo params.limit
        ((sortedGroups params listed).drop offset))).map (trimGroup config params) =
      ((unpagedGroups config params listed).drop offset).take
        (pageGroups config params (sortedGroups params listed).length) := by
  have hdrop : ((sortedGroups params listed).drop offset).length ≤
      (sortedGroups params listed).length := by
    rw [List.length_drop]
    exact Nat.sub_le _ _
  rw [truncateTo_eq hdrop, truncateTo_eq (Nat.le_trans (List.length_take_le' _ _) hdrop),
    List.take_take, Nat.min_comm]
  unfold unpagedGroups pageGroups
  rw [← List.map_drop, ← List.map_take]

theorem rowLimit_payload {ρ : Type} (maxBytes : Option Nat) (size : List ρ → Nat) (rows : List ρ) :
    rowLimit 0 none maxBytes size rows =
      capRowsByPayloadBytes rows.length maxBytes fun count => size (rows.take count) := by
  unfold rowLimit
  dsimp only [capRowsByCells]
  split
  · rfl
  · rename_i hnone
    have hzero : rows.length = 0 := Nat.eq_zero_of_not_pos hnone
    have hle := @capRowsByPayloadBytes_le maxBytes rows.length fun count => size (rows.take count)
    omega

theorem formulaMapCall_eq (listed : List FormulaGroup) (place : Nat × Nat) :
    formulaMapCall length config params listed place =
      cutCall length config params (sortedGroups params listed).length
        (unpagedGroups config params listed) place := by
  have hcut : (mapBudget length config params (sortedGroups params listed).length).cut
      ((unpagedGroups config params listed).drop place.2) =
        (((unpagedGroups config params listed).drop place.2).take
          (pageGroups config params (sortedGroups params listed).length)).take
          (rowLimit 0 none config.maxPayloadBytes length.size
            (((unpagedGroups config params listed).drop place.2).take
              (pageGroups config params (sortedGroups params listed).length))) := by
    rw [List.take_take, Nat.min_eq_left]
    · rfl
    · exact Nat.le_trans (rowLimit_le _) (List.length_take_le _ _)
  unfold formulaMapCall sheetFormulaMapSemantic cutCall
  dsimp only
  rw [hcut, rowLimit_payload]
  have hgroups := @pageGroups_take config params listed place.2
  have hsame : ∀ offset, sortedGroups { params with offset := offset } listed =
    sortedGroups params listed := fun _ => rfl
  have htrim : ∀ offset, trimGroup config { params with offset := offset } =
    trimGroup config params := fun _ => rfl
  rw [hsame, htrim, Option.getD_some, hgroups]

theorem cutCall_cuts (total : Nat) : Budget.CutsCalls (mapBudget length config params total)
    (cutCall length config params total) nextCall (fun page => page.2.groups) total := by
  intro groups number p
  refine ⟨_, rfl, rfl, ?_⟩
  unfold nextCall
  dsimp only
  split <;> rfl

theorem unpagedGroups_perm {listed listed' : List FormulaGroup} (h : listed.Perm listed') :
    (unpagedGroups config params listed).Perm (unpagedGroups config params listed') := by
  apply List.Perm.map
  exact sortBy_perm.trans ((h.filterMap _).trans sortBy_perm.symm)

/-- Each group is within the budgets by itself. -/
def GroupsFit (length : ResponseLength FormulaGroup) (config : ServerConfig)
    (params : SheetFormulaMapParams) (graph : FormulaGraph) : Prop :=
  ∀ group ∈ unpagedGroups config params graph.formulaGroups,
    params.limit ≠ some 0 ∧ config.maxItems ≠ some 0 ∧
      config.maxPayloadBytes.all (length.size [group] ≤ ·) = true

/-- Where a page ends, no two groups that the sort order ties change sides. -/
def TiesApart (length : ResponseLength FormulaGroup) (config : ServerConfig)
    (params : SheetFormulaMapParams) (graph : FormulaGraph) : Prop :=
  ∀ p, Budget.Reached (mapBudget length config params
      (unpagedGroups config params graph.formulaGroups).length)
    (groupListings config params graph)
      (unpagedGroups config params graph.formulaGroups).length p →
    Budget.Settled (groupListings config params graph) p

theorem mapBudget_fits_iff {graph : FormulaGraph} :
    (∀ group ∈ unpagedGroups config params graph.formulaGroups,
      (mapBudget length config params
        (unpagedGroups config params graph.formulaGroups).length).fits group) ↔
      GroupsFit length config params graph := by
  refine forall_congr' fun group => forall_congr' fun hgroup => ?_
  have htotal : 0 < (unpagedGroups config params graph.formulaGroups).length :=
    List.length_pos_of_mem hgroup
  have hpage : 0 < pageGroups config params
      (unpagedGroups config params graph.formulaGroups).length ↔
        params.limit ≠ some 0 ∧ config.maxItems ≠ some 0 := by
    unfold pageGroups
    rw [Nat.lt_min]
    cases params.limit <;> cases config.maxItems <;> simp [htotal, Nat.pos_iff_ne_zero]
  constructor
  · intro h
    exact ⟨(hpage.mp h.1).1, (hpage.mp h.1).2, h.2.payload⟩
  · intro h
    exact ⟨hpage.mpr ⟨h.1, h.2.1⟩, rfl, h.2.2⟩

/-- Where the sort order tells all groups apart, none changes its place. -/
theorem tiesApart_of_total {graph : FormulaGraph}
    (h : OrdersTotally (compareGroups (params.sortBy.getD .address))
      (graph.formulaGroups.filterMap (selectGroup params))) : TiesApart length config params graph := by
  have hsame : ∀ groups ∈ groupListings config params graph,
      groups = unpagedGroups config params graph.formulaGroups := by
    intro groups hgroups
    obtain ⟨listed, hlisted, rfl⟩ := hgroups
    unfold unpagedGroups sortedGroups
    rw [h.sortBy_eq (hlisted.filterMap _)]
  intro p _ groups hgroups groups' hgroups'
  rw [hsame groups hgroups, hsame groups' hgroups']

/-- The offsets of a formula map cover its groups exactly where each group fits and no page end
parts groups that the sort order ties. -/
theorem formulaMapPaged_iff (graph : FormulaGraph) : FormulaMapPaged length config params graph ↔
    GroupsFit length config params graph ∧ TiesApart length config params graph := by
  let total := (unpagedGroups config params graph.formulaGroups).length
  have hperm : ∀ groups ∈ groupListings config params graph,
      groups.Perm (unpagedGroups config params graph.formulaGroups) := by
    intro groups hgroups
    obtain ⟨listed, hlisted, rfl⟩ := hgroups
    exact unpagedGroups_perm hlisted
  have hiff := (@cutCall_cuts length config params total).covers_iff hperm
    ⟨graph.formulaGroups, List.Perm.refl _, rfl⟩ rfl fun _ _ => trivial
  rw [mapBudget_fits_iff] at hiff
  unfold TiesApart
  rw [← hiff]
  have hcall : ∀ listed : List FormulaGroup, listed.Perm graph.formulaGroups → ∀ place,
      formulaMapCall length config params listed place =
        cutCall length config params total (unpagedGroups config params listed) place := by
    intro listed hlisted place
    rw [formulaMapCall_eq, ← @unpagedGroups_length config params listed,
      (unpagedGroups_perm hlisted).length_eq]
  constructor
  · intro h order horder
    choose listed hlisted using horder
    have hcovers := h listed fun call => (hlisted call).1
    have hsame : (fun place : Nat × Nat => formulaMapCall length config params (listed place.1) place) =
        fun place => cutCall length config params total (order place.1) place := by
      funext place
      rw [hcall _ (hlisted place.1).1, ← (hlisted place.1).2]
    rwa [hsame] at hcovers
  · intro h listed hlisted
    have hcovers := h (fun call => unpagedGroups config params (listed call)) fun call =>
      ⟨listed call, hlisted call, rfl⟩
    have hsame : (fun place : Nat × Nat => formulaMapCall length config params (listed place.1) place) =
        fun place => cutCall length config params total
          (unpagedGroups config params (listed place.1)) place := by
      funext place
      exact hcall _ (hlisted place.1) place
    rw [hsame]
    exact hcovers

end Map

end AgentSpreadsheet.Analysis
