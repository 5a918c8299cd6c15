import AgentSpreadsheet.Reads.Grid

/-! The operations whose cursors have a position and a subposition. Both are any number of their
type, and what is past the end is an empty page. -/
namespace AgentSpreadsheet.Reads
open Library Analysis

/-- A list in memory has no more items than this. -/
def maxLength : Nat := 9223372036854775807

structure Counted (ι : Type) where
  items : List ι
  counted : items.length ≤ maxLength

def sliceBetween (items : List α) (start stop : Nat) : Checked ε (List α) :=
  if start ≤ stop ∧ stop ≤ items.length then .ok ((items.drop start).take (stop - start))
  else .error .panicked

/-- The number of 32 bits that is left of a place. -/
def asU32 (place : Nat) : Nat := place % (maxRow + 1)

def boundPlace (cursor : CanonicalOpaqueCursor) (revisionId fingerprint : String) :
    Except ReadError CanonicalOpaqueCursor :=
  if cursor.revisionId ≠ revisionId then
    .error ⟨.staleCursor, "cursor is bound to a different resource revision", some "$.cursor"⟩
  else if cursor.fingerprint ≠ fingerprint then
    .error ⟨.cursorMismatch, "cursor does not match the invariant request", some "$.cursor"⟩
  else .ok cursor

section Cursor
variable (codec : OpaqueCodec)

def validateOpaqueCursor (value marker revisionId fingerprint : String) :
    Checked ReadError CanonicalOpaqueCursor := do
  let cursor ← decodedCursor (decodeOpaqueCursor codec value marker)
  faultless (boundPlace cursor revisionId fingerprint)

def validatedCursor (cursor : Option String) (marker revisionId fingerprint : String) :
    Checked ReadError (Option CanonicalOpaqueCursor) :=
  match cursor with
  | none => .ok none
  | some value => some <$> validateOpaqueCursor codec value marker revisionId fingerprint

end Cursor

/-! ### Formulas -/

structure FormulaSearch (ι : Type) where
  query : Bool
  filter : Bool
  fingerprint : String
  cursor : Option String
  offset : Option UInt32
  limit : Option UInt32
  /-- The cells or groups that match, in their order. -/
  found : Except ReadError (Counted ι)

structure SearchPage (ι : Type) where
  items : List ι
  nextOffset : Option Nat
  nextCursor : Option String

structure MapPage where
  groups : List FormulaGroup
  nextCursor : Option String

structure TracePage where
  response : TraceResponse
  nextCursor : Option String

structure CountedGraph where
  graph : FormulaGraph
  counted : ∀ direction origin depthLimit,
    ∀ layer ∈ collectLayerLinks graph direction origin depthLimit, layer.nodeSet.length ≤ maxLength

section Operations
variable (codec : OpaqueCodec) (revisionId : String)

def executeSearchFormulas {ι : Type} (search : FormulaSearch ι) :
    Checked ReadError (SearchPage ι) := do
  faultless (ensure (search.query ∨ search.filter) (⟨.invalidRequest,
    "at least one of query or a non-empty filter is required", none⟩ : ReadError))
  let cursor ← validatedCursor codec search.cursor "sf1" revisionId search.fingerprint
  let found ← faultless search.found
  let offset := (cursor.map CanonicalOpaqueCursor.position).getD
    ((search.offset.map UInt32.toNat).getD 0)
  let limit := min (max ((search.limit.map UInt32.toNat).getD 50) 1) 500
  let shown := (found.items.drop offset).take limit
  let stop ← checkedAdd maxPlace offset shown.length
  let next := if stop < found.items.length then some stop else none
  pure {
    items := shown
    nextOffset := next.map asU32
    nextCursor := next.map fun place =>
      encodeOpaqueCursor codec "sf1" ⟨revisionId, search.fingerprint, place, 0⟩ }

def executeFormulaMap (length : ResponseLength FormulaGroup) (config : ServerConfig)
    (params : SheetFormulaMapParams) (fingerprint : String) (cursor : Option String)
    (listed : Except ReadError (Counted FormulaGroup)) : Checked ReadError MapPage := do
  let cursor ← validatedCursor codec cursor "fm1" revisionId fingerprint
  let listed ← faultless listed
  let offset := asU32 ((cursor.map CanonicalOpaqueCursor.position).getD 0)
  let response := sheetFormulaMapSemantic length config { params with
    limit := some (min (max (params.limit.getD 50) 1) 500), offset := some offset } listed.items
  let _ ← checkedAdd maxPlace offset response.groups.length
  pure {
    groups := response.groups
    nextCursor := response.nextOffset.map fun place =>
      encodeOpaqueCursor codec "fm1" ⟨revisionId, fingerprint, asU32 place, 0⟩ }

/-- The nodes of a layer that a page has, sliced from all of them. -/
def slicedLayer (order : HashOrder) (pageSize : Nat) (cursor : Option TraceCursor)
    (layer : LayerLinks) : Checked ReadError (List String) := do
  let page := layerPage order pageSize cursor layer
  let nodes := sortNodes (order.arrange layer.depth layer.nodeSet)
  let offset := ((cursor.filter fun c => c.depth == layer.depth).map TraceCursor.offset).getD 0
  let start := min offset nodes.length
  if page.produced then do
    let stop ← checkedAdd maxPlace start pageSize
    sliceBetween nodes start (min stop nodes.length)
  else sliceBetween nodes 0 0

def executeFormulaTrace (order : HashOrder) (toUppercase : String → String)
    (params : FormulaTraceParams) (fingerprint : String) (cursor : Option String)
    (source : Except ReadError CountedGraph) : Checked ReadError TracePage := do
  let cursor ← validatedCursor codec cursor "ft1" revisionId fingerprint
  let source ← faultless source
  let config := params.config toUppercase
  let place := cursor.map fun c => (⟨asU32 c.position, c.subposition⟩ : TraceCursor)
  let _ ← (collectLayerLinks source.graph config.direction config.origin config.depthLimit).mapM
    (slicedLayer order config.pageSize place)
  let response := buildTraceLayers order source.graph config place
  pure {
    response := response
    nextCursor := response.nextCursor.map fun next =>
      encodeOpaqueCursor codec "ft1" ⟨revisionId, fingerprint, next.depth, next.offset⟩ }

/-! ### Calm operations -/

variable {codec revisionId} {marker fingerprint : String} {cursor : Option String}

/-- The request's cursor is cut within a character. -/
def CutPlace (cursor : Option String) (marker : String) : Prop :=
  ∃ value, cursor = some value ∧ CutsCursor (marker ++ "_") value

theorem calm_validatedCursor : Calm (validatedCursor codec cursor marker revisionId fingerprint) ↔
    ¬ CutPlace cursor marker := by
  unfold validatedCursor CutPlace
  cases cursor with
  | none => simp
  | some value =>
    have hdecode : Calm (decodeOpaqueCursor codec value marker) ↔ ¬ CutsCursor (marker ++ "_") value :=
      calm_decodeAfter _ _ _
    unfold validateOpaqueCursor
    rw [calm_map, calm_bind, calm_decodedCursor, hdecode]
    simp [calm_faultless]

theorem validatedCursor_valid {place : Option CanonicalOpaqueCursor}
    (h : validatedCursor codec cursor marker revisionId fingerprint = .ok place) :
    ∀ c, place = some c → c.Valid := by
  intro c hplace
  unfold validatedCursor at h
  cases cursor with
  | none =>
    injection h with h
    rw [← h] at hplace
    contradiction
  | some value =>
    rw [hplace] at h
    unfold validateOpaqueCursor at h
    simp only [map_eq_ok, bind_eq_ok, decodedCursor_eq_ok, faultless_eq_ok, Option.some.injEq,
      exists_eq_right] at h
    obtain ⟨decoded, hdecoded, h⟩ := h
    obtain ⟨_, _, _, _, _, hslice⟩ := (decodeAfter_eq_ok _ _ _ _).mp hdecoded
    unfold boundPlace at h
    split at h
    · contradiction
    · split at h
      · contradiction
      · injection h with h
        rw [← h]
        exact codec.fromSlice_valid _ _ hslice

/-- The position of a request is one, whether a cursor or the request names it. -/
theorem position_le {place : Option CanonicalOpaqueCursor} {first : Nat} (hfirst : first ≤ maxPlace)
    (h : validatedCursor codec cursor marker revisionId fingerprint = .ok place) :
    (place.map CanonicalOpaqueCursor.position).getD first ≤ maxPlace := by
  have hvalid := validatedCursor_valid h
  cases place with
  | none => exact hfirst
  | some c => exact (hvalid c rfl).1

theorem pageStop_le {ι : Type} {items shown : List ι} {offset : Nat} (hcount : items.length ≤ maxLength)
    (hoffset : offset ≤ maxPlace) (hshown : shown.length ≤ (items.drop offset).length) :
    offset + shown.length ≤ maxPlace := by
  have hlarge : maxLength ≤ maxPlace := by decide
  rw [List.length_drop] at hshown
  omega

theorem calm_executeSearchFormulas {ι : Type} {search : FormulaSearch ι} :
    Calm (executeSearchFormulas codec revisionId search) ↔
      ¬ ((search.query = true ∨ search.filter = true) ∧ CutPlace search.cursor "sf1") := by
  unfold executeSearchFormulas
  by_cases hasked : search.query = true ∨ search.filter = true
  · have hfirst : (search.offset.map UInt32.toNat).getD 0 ≤ maxPlace := by
      have hlarge : maxRow ≤ maxPlace := by decide
      cases search.offset with
      | none => exact Nat.zero_le _
      | some offset => exact Nat.le_trans (toNat_le_maxRow offset) hlarge
    rw [ensure_pos hasked]
    change Calm (validatedCursor codec search.cursor "sf1" revisionId search.fingerprint >>= _) ↔ _
    rw [calm_bind, calm_validatedCursor, and_iff_left]
    · simp [hasked]
    intro place hplace
    rw [calm_bind]
    apply And.intro (calm_faultless _)
    intro found _
    dsimp only
    rw [calm_bind, calm_checkedAdd]
    exact ⟨pageStop_le found.counted (position_le hfirst hplace) (List.length_take_le' _ _),
      fun _ _ => calm_ok _⟩
  · rw [ensure_neg hasked]
    simp [hasked, bind, Except.bind]

theorem truncateTo_length {ρ : Type} (limit : Option Nat) (entries : List ρ) :
    (truncateTo limit entries).length ≤ entries.length := by
  cases limit with
  | none => exact Nat.le_refl _
  | some limit => exact List.length_take_le' _ _

theorem sheetFormulaMap_length (length : ResponseLength FormulaGroup) (config : ServerConfig)
    (params : SheetFormulaMapParams) (listed : List FormulaGroup) :
    (sheetFormulaMapSemantic length config params listed).groups.length ≤
      ((sortedGroups params listed).drop (params.offset.getD 0)).length := by
  unfold sheetFormulaMapSemantic
  dsimp only
  apply Nat.le_trans (List.length_take_le' _ _)
  rw [List.length_map]
  exact Nat.le_trans (truncateTo_length _ _) (truncateTo_length _ _)

theorem sortedGroups_length (params : SheetFormulaMapParams) (listed : List FormulaGroup) :
    (sortedGroups params listed).length ≤ listed.length := by
  unfold sortedGroups
  rw [sortBy_perm.length_eq]
  exact List.length_filterMap_le _ _

theorem calm_executeFormulaMap {length : ResponseLength FormulaGroup} {config : ServerConfig}
    {params : SheetFormulaMapParams} {listed : Except ReadError (Counted FormulaGroup)} :
    Calm (executeFormulaMap codec revisionId length config params fingerprint cursor listed) ↔
      ¬ CutPlace cursor "fm1" := by
  unfold executeFormulaMap
  rw [calm_bind, calm_validatedCursor]
  apply and_iff_left
  intro place _
  rw [calm_bind]
  apply And.intro (calm_faultless _)
  intro listed _
  dsimp only
  rw [calm_bind, calm_checkedAdd]
  have hoffset : asU32 ((place.map CanonicalOpaqueCursor.position).getD 0) ≤ maxPlace := by
    have hlarge : maxRow < maxPlace := by decide
    unfold asU32
    have hwrapped := Nat.mod_lt ((place.map CanonicalOpaqueCursor.position).getD 0)
      (Nat.succ_pos maxRow)
    rw [Nat.succ_eq_add_one] at hwrapped
    omega
  exact ⟨pageStop_le (Nat.le_trans (sortedGroups_length _ _) listed.counted) hoffset
    (sheetFormulaMap_length _ _ _ _), fun _ _ => calm_ok _⟩

theorem calm_slicedLayer {order : HashOrder} {pageSize : Nat} {place : Option TraceCursor}
    {layer : LayerLinks} (hcount : layer.nodeSet.length ≤ maxLength) (hsize : pageSize ≤ maxLength) :
    Calm (slicedLayer order pageSize place layer) := by
  have hnodes : (sortNodes (order.arrange layer.depth layer.nodeSet)).length = layer.nodeSet.length := by
    unfold sortNodes
    rw [sortBy_perm.length_eq, (order.perm _ _).length_eq]
  have hlarge : maxLength + maxLength ≤ maxPlace := by decide
  unfold slicedLayer
  dsimp only
  generalize ((place.filter fun c => c.depth == layer.depth).map TraceCursor.offset).getD 0 = offset
  split
  · rw [calm_bind, calm_checkedAdd]
    apply And.intro (by omega)
    intro stop hstop
    unfold checkedAdd at hstop
    split at hstop
    · injection hstop with hstop
      unfold sliceBetween
      rw [if_pos (by omega)]
      exact calm_ok _
    · contradiction
  · unfold sliceBetween
    rw [if_pos (by omega)]
    exact calm_ok _

theorem calm_executeFormulaTrace {order : HashOrder} {toUppercase : String → String}
    {params : FormulaTraceParams} {source : Except ReadError CountedGraph} :
    Calm (executeFormulaTrace codec revisionId order toUppercase params fingerprint cursor source) ↔
      ¬ CutPlace cursor "ft1" := by
  have hsize : (params.config toUppercase).pageSize ≤ maxLength := by
    have hlarge : tracePageMax ≤ maxLength := by decide
    have hclamp : (params.config toUppercase).pageSize ≤ tracePageMax := by
      change max tracePageMin (min _ tracePageMax) ≤ tracePageMax
      have hmin : tracePageMin ≤ tracePageMax := by decide
      omega
    omega
  unfold executeFormulaTrace
  rw [calm_bind, calm_validatedCursor]
  apply and_iff_left
  intro place _
  rw [calm_bind]
  apply And.intro (calm_faultless _)
  intro source _
  dsimp only
  rw [calm_bind]
  refine ⟨calm_mapM fun layer hlayer => calm_slicedLayer (source.counted _ _ _ layer hlayer) hsize,
    fun _ _ => calm_ok _⟩

end Operations

/-! ### Cursors are safe -/

/-- Cursors read back what they were written from, and the operations with cursors end in a page
or an error: reading cells unless its cursor is cut within a character or names the last row there
can be, an export unless its cursor is cut, is after the range or names the last row, and the
others unless their cursors are cut. -/
theorem cursors_safe_iff (readCodec : ReadCodec) (placeCodec : OpaqueCodec) (revisionId : String) :
    (∀ cursor, cursor.Valid →
      decodeReadCursor readCodec (encodeReadCursor readCodec cursor) = .ok cursor) ∧
    (∀ marker cursor, cursor.Valid → decodeOpaqueCursor placeCodec
      (encodeOpaqueCursor placeCodec marker cursor) marker = .ok cursor) ∧
    (∀ (κ : Type) (reader : CellsReader κ) request maxCells maxPayloadBytes,
      Calm (readCellsChecked readCodec reader request maxCells maxPayloadBytes revisionId) ↔
        ¬ FaultyRead reader request readCodec revisionId) ∧
    (∀ (κ β : Type) (source : GridSource κ β) request,
      Calm (executeExportGrid readCodec source request revisionId) ↔
        ¬ FaultyExport readCodec source request revisionId) ∧
    (∀ (ι : Type) (search : FormulaSearch ι),
      Calm (executeSearchFormulas placeCodec revisionId search) ↔
        ¬ ((search.query = true ∨ search.filter = true) ∧ CutPlace search.cursor "sf1")) ∧
    (∀ length config params fingerprint cursor listed,
      Calm (executeFormulaMap placeCodec revisionId length config params fingerprint cursor
        listed) ↔ ¬ CutPlace cursor "fm1") ∧
    (∀ order toUppercase params fingerprint cursor source,
      Calm (executeFormulaTrace placeCodec revisionId order toUppercase params fingerprint cursor
        source) ↔ ¬ CutPlace cursor "ft1") := by
  refine ⟨?_, ?_, ?_, ?_, ?_, ?_, ?_⟩
  · intro cursor hcursor
    exact decodeAfter_encodeAfter _ _ hcursor
  · intro marker cursor hcursor
    exact decodeAfter_encodeAfter _ _ hcursor
  · intro κ reader request maxCells maxPayloadBytes
    exact calm_readCellsChecked
  · intro κ β source request
    exact calm_executeExportGrid
  · intro ι search
    exact calm_executeSearchFormulas
  · intro length config params fingerprint cursor listed
    exact calm_executeFormulaMap
  · intro order toUppercase params fingerprint cursor source
    exact calm_executeFormulaTrace

section Samples

instance (cursor : ReadCellsCursor) : Decidable cursor.Valid :=
  inferInstanceAs (Decidable (_ ∧ _))

/-- The bytes of sample cursors, with numbers of their types. -/
def sampleCodec : ReadCodec where
  toVec := sampleReader.toVec
  fromSlice bytes := (sampleReader.fromSlice bytes).filter fun cursor => decide cursor.Valid
  fromSlice_toVec cursor hvalid := by
    rw [sampleReader_codec]
    simp [hvalid]
  fromSlice_valid bytes cursor h := by
    rw [Option.filter_eq_some_iff] at h
    exact of_decide_eq_true h.2

/-- Two bytes after the marker are sliced out of a character of three. -/
theorem euro_cut : ¬ ∀ (codec : ReadCodec) (reader : CellsReader String) (request : ReadCellsRequest)
    (maxCells maxPayloadBytes : Option Nat) (revisionId : String),
    Calm (readCellsChecked codec reader request maxCells maxPayloadBytes revisionId) := by
  intro hall
  have hcalm := hall sampleCodec sampleReader { sampleRequest "A1:B3" with cursor := some "rc1_€a" }
    none none "rev-1"
  rw [calm_readCellsChecked] at hcalm
  refine hcalm (Or.inl ⟨"rc1_€a", rfl, ['€', 'a'], by decide, by decide, ?_⟩)
  exact cutsCharacter_of_cutWithin ⟨by decide, by decide⟩

end Samples

end AgentSpreadsheet.Reads
