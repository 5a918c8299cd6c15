import AgentSpreadsheet.Library.Lines
import AgentSpreadsheet.Reads.CursorCalls

/-! The module source view: lines of a macro module by pages, with cursors that are signed and bound
to a revision and a request. -/
namespace AgentSpreadsheet.Vba
open Library Reads

def maxVbaLinesPerPage : Nat := 1000

def maxVbaSourcePageBytes : Nat := 262144

def maxVbaCursorBytes : Nat := 2048

def maxSourceOffset : Nat := 1000000

def maxLimitLines : Nat := 5000

def maxSummaryModules : Nat := 10000

def maxU32 : Nat := 4294967295

/-! ### Module source -/

/-- A line without the line feed that ends it and a carriage return before that. -/
def lineText (piece : List Char) : List Char :=
  if piece.getLast? = some '\n' then
    if piece.dropLast.getLast? = some '\r' then piece.dropLast.dropLast else piece.dropLast
  else piece

def lines (text : List Char) : List (List Char) := (splitInclusive '\n' text).map lineText

structure VbaModuleSourceResponse where
  totalLines : Nat
  truncated : Bool
  source : List Char
  deriving DecidableEq, Repr

def vbaModuleSource (source : List Char) (offset limitLines : Nat) : VbaModuleSourceResponse :=
  let limit := min (max limitLines 1) maxLimitLines
  let numbered := (lines source).zipIdx.filter fun line => decide (offset ≤ asU32 line.2)
  let selected := (numbered.take limit).map Prod.fst
  let counted := min (lines source).length maxU32
  let totalLines := if counted = 0 ∧ source ≠ [] then 1 else counted
  let page := ['\n'].intercalate selected
  { totalLines
    truncated := decide (limit < totalLines - offset)
    source := if page = [] then page else page ++ ['\n'] }

/-! ### Cursors -/

structure VbaCursorPayload where
  revision : String
  fingerprint : String
  offset : Nat
  deriving DecidableEq, Repr

def VbaCursorPayload.Valid (payload : VbaCursorPayload) : Prop := payload.offset ≤ maxU32

abbrev VbaCodec := CursorCodec VbaCursorPayload VbaCursorPayload.Valid

/-- Digests in hexadecimal digits, without collisions. -/
structure CursorHash where
  sha256 : String → String
  injective : Function.Injective sha256
  noDot : ∀ text, '.' ∉ (sha256 text).toList

/-- A letter or an underscore, then letters, digits and underscores, 128 bytes at most. -/
def validateModuleName (name : String) : Bool :=
  decide (byteLength name.toList ≤ 128) &&
    match name.toList with
    | [] => false
    | first :: rest => (first.isAlpha || first == '_') && rest.all fun c => c.isAlphanum || c == '_'

structure VbaModuleName where
  name : String
  valid : validateModuleName name = true

inductive VbaRequest where
  | projectSummary (resourceId : String) (includeReferences : Bool)
  | moduleSource (resourceId : String) (moduleName : VbaModuleName)

def malformedCursor : String := "cursor mismatch: malformed VBA cursor"

def staleCursor : String := "stale cursor: VBA project revision changed"

def otherCursor : String := "cursor mismatch: VBA cursor belongs to another request"

def decodeHex (value : List Char) : Option (List UInt8) :=
  if byteLength value % 2 = 0 ∧ value.all (fun c => (hexDigit c).isSome) = true then hexBytes value
  else none

section Cursors
variable (hash : CursorHash) (codec : VbaCodec)

def vbaFingerprint (resourceId view : String) (moduleName : Option String)
    (includeReferences : Bool) : String :=
  hash.sha256 (String.ofList (resourceId.toList ++ '\x00' :: (view.toList ++ '\x00' ::
    ((moduleName.getD "").toList ++ '\x00' :: (toString includeReferences).toList))))

def VbaRequest.fingerprint : VbaRequest → String
  | projectSummary resourceId includeReferences =>
    vbaFingerprint hash resourceId "project_summary" none includeReferences
  | moduleSource resourceId moduleName =>
    vbaFingerprint hash resourceId "module_source" (some moduleName.name) false

def cursorSignature (body : List Char) : List Char :=
  (hash.sha256 (String.ofList ("vba1:".toList ++ body))).toList

def encodeVbaCursor (revision fingerprint : String) (offset : Nat) : String :=
  let body := hexText (codec.toVec ⟨revision, fingerprint, offset⟩)
  String.ofList ("vba1".toList ++ '.' :: (body ++ '.' :: cursorSignature hash body))

def decodeVbaCursor (cursor : Option String) (revision fingerprint : String) : Except String Nat :=
  match cursor with
  | none => .ok 0
  | some cursor =>
    if maxVbaCursorBytes < byteLength cursor.toList then .error malformedCursor
    else
      match cursor.toList.splitOn '.' with
      | [marker, body, signature] =>
        if marker ≠ "vba1".toList ∨ signature ≠ cursorSignature hash body then .error malformedCursor
        else
          match (decodeHex body).bind codec.fromSlice with
          | none => .error malformedCursor
          | some payload =>
            if payload.revision ≠ revision then .error staleCursor
            else if payload.fingerprint ≠ fingerprint then .error otherCursor
            else .ok payload.offset
      | _ => .error malformedCursor

end Cursors

/-! ### Pages -/

/-- The modules of a project in their order, and the texts that can be read. -/
structure VbaProject where
  modules : List String
  moduleSource : String → Option (List Char)

structure ModuleSourceRequest where
  resourceId : String
  moduleName : VbaModuleName
  cursor : Option String
  limitLines : Option Nat

structure ModuleSource where
  moduleName : String
  startLine : Nat
  returnedLines : Nat
  source : List Char
  nextCursor : Option String
  deriving DecidableEq, Repr

section Inspect
variable (hash : CursorHash) (codec : VbaCodec) (project : VbaProject) (revision : String)

/-- The page from an offset on. The place after it is counted in the text of the page. -/
def modulePage (fingerprint moduleName : String) (limit offset : Nat) : Except String ModuleSource :=
  if maxSourceOffset < offset then
    .error "invalid request: VBA source cursor exceeds paging limit"
  else if moduleName ∉ project.modules.take maxSummaryModules then
    .error "invalid request: module_name does not name a VBA module in this project"
  else
    match project.moduleSource moduleName with
    | none => .error "VBA module source read failed"
    | some source =>
      let response := vbaModuleSource source offset limit
      if maxVbaSourcePageBytes < byteLength response.source then
        .error "VBA source page exceeds the 262144-byte response limit"
      else
        let returnedLines := asU32 (lines response.source).length
        .ok
          { moduleName
            startLine := min (offset + 1) maxU32
            returnedLines
            source := response.source
            nextCursor :=
              if response.truncated then
                some (encodeVbaCursor hash codec revision fingerprint
                  (min (offset + returnedLines) maxU32))
              else none }

def inspectModuleSource (request : ModuleSourceRequest) : Except String ModuleSource :=
  let limit := request.limitLines.getD 200
  let fingerprint := vbaFingerprint hash request.resourceId "module_source"
    (some request.moduleName.name) false
  if 1 ≤ limit ∧ limit ≤ maxVbaLinesPerPage then do
    let offset ← decodeVbaCursor hash codec request.cursor revision fingerprint
    modulePage hash codec project revision fingerprint request.moduleName.name limit offset
  else .error "invalid request: limit_lines must be between 1 and 1000"

end Inspect

/-! ### The text of a page -/

theorem lineText_noBreak {piece body : List Char} (hbody : '\n' ∉ body)
    (hpiece : piece = body ∨ piece = body ++ ['\n']) : '\n' ∉ lineText piece := by
  unfold lineText
  cases hpiece with
  | inl hpiece =>
    rw [hpiece, if_neg]
    · exact hbody
    · intro hlast
      exact hbody (List.mem_of_getLast? hlast)
  | inr hpiece =>
    rw [hpiece, if_pos (by simp), List.dropLast_concat]
    split
    · intro hmem
      exact hbody (List.dropLast_subset body hmem)
    · exact hbody

theorem lines_noBreak {text line : List Char} (h : line ∈ lines text) : '\n' ∉ line := by
  obtain ⟨piece, hpiece, hline⟩ := List.mem_map.mp h
  obtain ⟨body, hbody, hshape⟩ := mem_splitInclusive hpiece
  rw [← hline]
  exact lineText_noBreak hbody hshape

theorem lines_terminated_length {selected : List (List Char)} (h : ∀ line ∈ selected, '\n' ∉ line) :
    (lines (terminated '\n' selected)).length = selected.length := by
  unfold lines
  rw [splitInclusive_terminated '\n' h, List.length_map, List.length_map]

theorem intercalate_concat {selected : List (List Char)} (h : selected ≠ []) :
    ['\n'].intercalate selected ++ ['\n'] = terminated '\n' selected := by
  induction selected with
  | nil => contradiction
  | cons line rest ih =>
    by_cases hrest : rest = []
    · simp [hrest]
    · rw [List.intercalate_cons_of_ne_nil hrest, List.append_assoc, ih hrest, terminated_cons,
        List.append_assoc, List.singleton_append]

theorem intercalate_eq_nil {selected : List (List Char)} (h : ['\n'].intercalate selected = []) :
    selected = [] ∨ selected = [[]] := by
  cases selected with
  | nil => exact .inl rfl
  | cons line rest =>
    have htext := intercalate_concat (List.cons_ne_nil line rest)
    rw [h, List.nil_append, terminated_cons] at htext
    cases line with
    | nil =>
      rw [List.nil_append, List.cons.injEq] at htext
      cases rest with
      | nil => exact .inr rfl
      | cons second others =>
        have hnil := htext.2
        rw [terminated_cons] at hnil
        simp at hnil
    | cons c line =>
      have hlength := congrArg List.length htext
      simp at hlength

/-- The lines that are numbered from the offset on, as many as fit on a page. -/
theorem selected_eq_slice (all : List (List Char)) {offset limit : Nat}
    (h : offset + limit ≤ maxU32) :
    ((all.zipIdx.filter fun line => decide (offset ≤ asU32 line.2)).take limit).map Prod.fst =
      slice limit offset all := by
  have hnumber {idx : Nat} (hidx : idx < offset + limit) : asU32 idx = idx := by
    unfold asU32
    apply Nat.mod_eq_of_lt
    have hmax : maxRow = maxU32 := rfl
    omega
  have hbefore : (all.take offset).zipIdx.filter (fun line => decide (offset ≤ asU32 line.2)) = [] := by
    rw [List.filter_eq_nil_iff]
    intro line hline
    have hplace := List.snd_lt_of_mem_zipIdx hline
    rw [List.length_take] at hplace
    rw [hnumber (by omega), decide_eq_true_iff]
    omega
  have hkept : (((all.drop offset).take limit).zipIdx (all.take offset).length).filter
      (fun line => decide (offset ≤ asU32 line.2)) =
        ((all.drop offset).take limit).zipIdx (all.take offset).length := by
    rw [List.filter_eq_self]
    intro line hline
    have hplace := List.snd_lt_of_mem_zipIdx hline
    have hfrom := List.le_snd_of_mem_zipIdx hline
    have hsome : (all.drop offset).take limit ≠ [] := by
      intro hnil
      rw [hnil] at hline
      exact absurd hline List.not_mem_nil
    have hlong := List.length_pos_of_ne_nil hsome
    rw [List.length_take, List.length_drop] at hlong
    rw [List.length_take] at hplace hfrom
    rw [List.length_take, List.length_drop] at hplace
    rw [decide_eq_true_iff, hnumber (by omega)]
    omega
  unfold slice
  conv_lhs => rw [← List.take_append_drop offset all]
  rw [List.zipIdx_append, List.filter_append, hbefore, List.nil_append, Nat.zero_add]
  conv_lhs => rw [← List.take_append_drop limit (all.drop offset)]
  rw [List.zipIdx_append, List.filter_append, hkept]
  by_cases hfull : limit ≤ (all.drop offset).length
  · have hlength : (((all.drop offset).take limit).zipIdx (all.take offset).length).length =
        limit := by
      rw [List.length_zipIdx, List.length_take, Nat.min_eq_left hfull]
    rw [List.take_left' hlength, List.zipIdx_map_fst]
  · have hrest : (all.drop offset).drop limit = [] := List.drop_eq_nil_of_le (by omega)
    rw [hrest, List.zipIdx_nil, List.filter_nil, List.append_nil, List.take_of_length_le,
      List.zipIdx_map_fst]
    rw [List.length_zipIdx]
    exact List.length_take_le _ _

/-- The text of the page of some lines, which is empty for a blank one. -/
def pageText (selected : List (List Char)) : List Char :=
  if selected = [[]] then [] else terminated '\n' selected

theorem pageText_of_ne {selected : List (List Char)} (h : selected ≠ [[]]) :
    pageText selected = terminated '\n' selected := if_neg h

theorem pageText_blank : pageText [[]] = [] := rfl

theorem joined_eq_pageText (selected : List (List Char)) :
    (if ['\n'].intercalate selected = [] then ['\n'].intercalate selected
      else ['\n'].intercalate selected ++ ['\n']) = pageText selected := by
  split
  · rename_i hnil
    rw [hnil]
    cases intercalate_eq_nil hnil with
    | inl hselected => rw [hselected, pageText_of_ne (by simp)]; rfl
    | inr hselected => rw [hselected, pageText_blank]
  · rename_i hsome
    have hblank : selected ≠ [[]] := by
      intro hselected
      rw [hselected] at hsome
      exact hsome rfl
    have hnil : selected ≠ [] := by
      intro hselected
      rw [hselected] at hsome
      exact hsome rfl
    rw [intercalate_concat hnil, pageText_of_ne hblank]

theorem lines_nil_of_eq_nil {source : List Char} (h : lines source = []) : source = [] := by
  cases source with
  | nil => rfl
  | cons c rest =>
    unfold lines splitInclusive at h
    rw [List.map_eq_nil_iff] at h
    split at h
    · contradiction
    · split at h
      · contradiction
      · contradiction

theorem vbaModuleSource_page (source : List Char) {offset limit : Nat} (hoffset : offset ≤ maxSourceOffset)
    (hone : 1 ≤ limit) (hlimit : limit ≤ maxVbaLinesPerPage) :
    (vbaModuleSource source offset limit).source = pageText (slice limit offset (lines source)) ∧
      ((vbaModuleSource source offset limit).truncated = true ↔
        offset + limit < (lines source).length) := by
  have hoffset' : offset ≤ 1000000 := hoffset
  have hlimit' : limit ≤ 1000 := hlimit
  have hsame : min (max limit 1) maxLimitLines = limit := by
    have hmax : maxLimitLines = 5000 := rfl
    omega
  have hmax : maxU32 = 4294967295 := rfl
  constructor
  · unfold vbaModuleSource
    dsimp only
    rw [hsame, selected_eq_slice (lines source) (by omega), joined_eq_pageText]
  · unfold vbaModuleSource
    dsimp only
    rw [hsame, decide_eq_true_iff]
    split
    · rename_i hnone
      have hlines : lines source = [] := List.eq_nil_of_length_eq_zero (by omega)
      exact absurd (lines_nil_of_eq_nil hlines) hnone.2
    · omega

theorem pageText_length {source : List Char} {offset limit : Nat}
    (h : slice limit offset (lines source) ≠ [[]]) :
    (lines (pageText (slice limit offset (lines source)))).length =
      (slice limit offset (lines source)).length := by
  rw [pageText_of_ne h]
  apply lines_terminated_length
  intro line hline
  exact lines_noBreak (List.mem_of_mem_drop (List.mem_of_mem_take hline))

/-! ### Cursors that are issued -/

section Cursors
variable {hash : CursorHash} {codec : VbaCodec}

theorem lowerHex_digit : ∀ n < 16, (hexDigit (lowerHex n)).isSome = true ∧ lowerHex n ≠ '.' := by
  decide

theorem hexText_digits (bytes : List UInt8) :
    ∀ c ∈ hexText bytes, (hexDigit c).isSome = true ∧ c ≠ '.' := by
  intro c hc
  obtain ⟨byte, _, hc⟩ := List.mem_flatMap.mp hc
  have hbyte := byte.toNat_lt
  rcases List.mem_pair.mp hc with hc | hc
  · rw [hc]
    exact lowerHex_digit _ (by omega)
  · rw [hc]
    exact lowerHex_digit _ (by omega)

theorem decodeHex_hexText (bytes : List UInt8) : decodeHex (hexText bytes) = some bytes := by
  unfold decodeHex
  rw [if_pos, hexBytes_hexText]
  constructor
  · rw [byteLength_hexText]
    omega
  · rw [List.all_eq_true]
    intro c hc
    exact (hexText_digits bytes c hc).1

theorem splitOn_three {marker body signature : List Char} (hmarker : '.' ∉ marker)
    (hbody : '.' ∉ body) (hsignature : '.' ∉ signature) :
    (marker ++ '.' :: (body ++ '.' :: signature)).splitOn '.' = [marker, body, signature] := by
  have hskip {part : List Char} (hpart : '.' ∉ part) : ∀ c ∈ part, (c == '.') = false := by
    intro c hc
    exact beq_false_of_ne fun h => hpart (h ▸ hc)
  unfold List.splitOn
  rw [List.splitOnP_append_cons_of_forall_mem (hskip hmarker) '.' rfl,
    List.splitOnP_append_cons_of_forall_mem (hskip hbody) '.' rfl,
    List.splitOnP_eq_singleton (hskip hsignature)]

theorem decode_encode (revision revision' fingerprint fingerprint' : String) {offset : Nat}
    (hoffset : offset ≤ maxU32) :
    decodeVbaCursor hash codec (some (encodeVbaCursor hash codec revision fingerprint offset))
        revision' fingerprint' =
      if maxVbaCursorBytes <
          byteLength (encodeVbaCursor hash codec revision fingerprint offset).toList then
        .error malformedCursor
      else if revision ≠ revision' then .error staleCursor
      else if fingerprint ≠ fingerprint' then .error otherCursor
      else .ok offset := by
  have htext : (encodeVbaCursor hash codec revision fingerprint offset).toList.splitOn '.' =
      ["vba1".toList, hexText (codec.toVec ⟨revision, fingerprint, offset⟩),
        cursorSignature hash (hexText (codec.toVec ⟨revision, fingerprint, offset⟩))] := by
    unfold encodeVbaCursor
    dsimp only
    rw [String.toList_ofList, splitOn_three]
    · decide
    · intro hmem
      exact (hexText_digits _ _ hmem).2 rfl
    · exact hash.noDot _
  have hbytes : (decodeHex (hexText (codec.toVec ⟨revision, fingerprint, offset⟩))).bind
      codec.fromSlice = some ⟨revision, fingerprint, offset⟩ := by
    rw [decodeHex_hexText, Option.bind_some, @CursorCodec.fromSlice_toVec _ _ codec
      ⟨revision, fingerprint, offset⟩ hoffset]
  unfold decodeVbaCursor
  dsimp only
  split
  · rfl
  · rw [htext]
    dsimp only
    rw [if_neg (by simp), hbytes]

end Cursors

/-! ### Requests and their fingerprints -/

theorem joined_inj {first first' second second' third third' fourth fourth' : List Char}
    (hsecond : '\x00' ∉ second) (hsecond' : '\x00' ∉ second') (hthird : '\x00' ∉ third)
    (hthird' : '\x00' ∉ third') (hfourth : '\x00' ∉ fourth) (hfourth' : '\x00' ∉ fourth')
    (h : first ++ '\x00' :: (second ++ '\x00' :: (third ++ '\x00' :: fourth)) =
      first' ++ '\x00' :: (second' ++ '\x00' :: (third' ++ '\x00' :: fourth'))) :
    first = first' ∧ second = second' ∧ third = third' ∧ fourth = fourth' := by
  have hgroup (a b c d : List Char) : a ++ '\x00' :: (b ++ '\x00' :: (c ++ '\x00' :: d)) =
      (a ++ '\x00' :: b ++ '\x00' :: c) ++ '\x00' :: d := by
    simp
  rw [hgroup, hgroup] at h
  have hlast := append_cons_inj hfourth hfourth' h
  have hmiddle := append_cons_inj hthird hthird' hlast.1
  have hfront := append_cons_inj hsecond hsecond' hmiddle.1
  exact ⟨hfront.1, hfront.2, hmiddle.2, hlast.2⟩

theorem validateModuleName_noNull {name : String} (h : validateModuleName name = true) :
    '\x00' ∉ name.toList := by
  unfold validateModuleName at h
  rw [Bool.and_eq_true] at h
  have hchars := h.2
  intro hmem
  cases hname : name.toList with
  | nil =>
    rw [hname] at hmem
    exact List.not_mem_nil hmem
  | cons c rest =>
    rw [hname] at hchars hmem
    simp only [Bool.and_eq_true, List.all_eq_true] at hchars
    cases hmem with
    | head => exact absurd hchars.1 (by decide)
    | tail _ hmem => exact absurd (hchars.2 _ hmem) (by decide)

theorem VbaModuleName.noNull (moduleName : VbaModuleName) :
    '\x00' ∉ ((some moduleName.name).getD "").toList :=
  validateModuleName_noNull moduleName.valid

section Requests
variable {hash : CursorHash}

theorem vbaFingerprint_inj {resourceId resourceId' view view' : String}
    {moduleName moduleName' : Option String} {includeReferences includeReferences' : Bool}
    (hview : '\x00' ∉ view.toList) (hview' : '\x00' ∉ view'.toList)
    (hname : '\x00' ∉ (moduleName.getD "").toList)
    (hname' : '\x00' ∉ (moduleName'.getD "").toList)
    (h : vbaFingerprint hash resourceId view moduleName includeReferences =
      vbaFingerprint hash resourceId' view' moduleName' includeReferences') :
    resourceId = resourceId' ∧ view = view' ∧ moduleName.getD "" = moduleName'.getD "" ∧
      includeReferences = includeReferences' := by
  have hflag : ∀ flag : Bool, '\x00' ∉ (toString flag).toList := by decide
  have hflags : ∀ flag flag' : Bool, (toString flag).toList = (toString flag').toList →
      flag = flag' := by decide
  have htext := String.ofList_injective (hash.injective h)
  have hparts := joined_inj hview hview' hname hname' (hflag _) (hflag _) htext
  exact ⟨String.toList_inj.mp hparts.1, String.toList_inj.mp hparts.2.1,
    String.toList_inj.mp hparts.2.2.1, hflags _ _ hparts.2.2.2⟩

theorem fingerprint_inj {request request' : VbaRequest}
    (h : request.fingerprint hash = request'.fingerprint hash) : request = request' := by
  have hsummary : '\x00' ∉ "project_summary".toList := by decide
  have hsource : '\x00' ∉ "module_source".toList := by decide
  have hnone : '\x00' ∉ ((none : Option String).getD "").toList := by decide
  cases request with
  | projectSummary resourceId includeReferences =>
    cases request' with
    | projectSummary resourceId' includeReferences' =>
      have hsame := vbaFingerprint_inj hsummary hsummary hnone hnone h
      rw [hsame.1, hsame.2.2.2]
    | moduleSource resourceId' moduleName' =>
      have hname' := moduleName'.noNull
      have hsame := vbaFingerprint_inj hsummary hsource hnone hname' h
      exact absurd hsame.2.1 (by decide)
  | moduleSource resourceId moduleName =>
    have hname := moduleName.noNull
    cases request' with
    | projectSummary resourceId' includeReferences' =>
      have hsame := vbaFingerprint_inj hsource hsummary hname hnone h
      exact absurd hsame.2.1 (by decide)
    | moduleSource resourceId' moduleName' =>
      have hname' := moduleName'.noNull
      have hsame := vbaFingerprint_inj hsource hsource hname hname' h
      obtain ⟨name, hvalid⟩ := moduleName
      obtain ⟨name', hvalid'⟩ := moduleName'
      have hnames : name = name' := hsame.2.2.1
      subst hnames
      rw [hsame.1]

end Requests

/-! ### Following the cursors -/

section Follow
variable (hash : CursorHash) (codec : VbaCodec)

/-- The cursor reads back to the offset for its own revision and request, and to nothing for any
other. -/
def Bound (cursor revision : String) (request : VbaRequest) (offset : Nat) : Prop :=
  decodeVbaCursor hash codec (some cursor) revision (request.fingerprint hash) = .ok offset ∧
    ∀ (revision' : String) (request' : VbaRequest), (revision', request') ≠ (revision, request) →
      ∃ error, decodeVbaCursor hash codec (some cursor) revision' (request'.fingerprint hash) =
        .error error

variable (project : VbaProject) (revision resourceId : String) (moduleName : VbaModuleName)
  (limitLines : Option Nat)

/-- Following the cursors ends, each line is handed out once and in order, and the cursors on the
way are bound to the offsets that they are issued with. -/
def PagesExact (source : List Char) : Prop :=
  ∃ fuel pages,
    follow (fun cursor => inspectModuleSource hash codec project revision
        ⟨resourceId, moduleName, cursor, limitLines⟩)
      (fun page => page.nextCursor.map some) fuel none = some (pages, none) ∧
    pages.flatMap ModuleSource.source = terminated '\n' (lines source) ∧
    ∀ page ∈ pages, ∀ cursor, page.nextCursor = some cursor → ∃ offset,
      cursor = encodeVbaCursor hash codec revision
        ((VbaRequest.moduleSource resourceId moduleName).fingerprint hash) offset ∧
      Bound hash codec cursor revision (.moduleSource resourceId moduleName) offset

/-- The page from an offset on is not one blank line, its text is no longer than a page may be, and
a cursor to it, if there is one, is no longer than a cursor may be. -/
structure PageServed (source : List Char) (offset : Nat) : Prop where
  within : offset ≤ maxSourceOffset
  notBlank : slice (limitLines.getD 200) offset (lines source) ≠ [[]]
  small : byteLength (terminated '\n' (slice (limitLines.getD 200) offset (lines source))) ≤
    maxVbaSourcePageBytes
  named : offset ≠ 0 → byteLength (encodeVbaCursor hash codec revision
    ((VbaRequest.moduleSource resourceId moduleName).fingerprint hash) offset).toList ≤
      maxVbaCursorBytes

end Follow

/-! ### Pages that follow each other -/

section Served
variable {hash : CursorHash} {codec : VbaCodec} {project : VbaProject} {revision resourceId : String}
  {moduleName : VbaModuleName} {limitLines : Option Nat} {source : List Char}

theorem bound_encode {request : VbaRequest} {offset : Nat} (hoffset : offset ≤ maxU32)
    (hfits : byteLength (encodeVbaCursor hash codec revision (request.fingerprint hash) offset).toList ≤
      maxVbaCursorBytes) :
    Bound hash codec (encodeVbaCursor hash codec revision (request.fingerprint hash) offset) revision
      request offset := by
  constructor
  · rw [decode_encode _ _ _ _ hoffset, if_neg (by omega), if_neg (by simp), if_neg (by simp)]
  · intro revision' request' hother
    rw [decode_encode _ _ _ _ hoffset, if_neg (by omega)]
    by_cases hrevision : revision = revision'
    · have hrequest : request.fingerprint hash ≠ request'.fingerprint hash := by
        intro hsame
        apply hother
        rw [hrevision, fingerprint_inj hsame]
      rw [if_neg (not_not.mpr hrevision), if_pos hrequest]
      exact ⟨_, rfl⟩
    · rw [if_pos hrevision]
      exact ⟨_, rfl⟩

variable (hash codec project revision resourceId moduleName limitLines) in
def call (cursor : Option String) : Except String ModuleSource :=
  inspectModuleSource hash codec project revision ⟨resourceId, moduleName, cursor, limitLines⟩

variable (hash codec revision resourceId moduleName) in
def cursorTo (offset : Nat) : String :=
  encodeVbaCursor hash codec revision
    ((VbaRequest.moduleSource resourceId moduleName).fingerprint hash) offset

variable (hash codec revision resourceId moduleName limitLines source) in
def pageFrom (offset : Nat) : ModuleSource :=
  let text := pageText (slice (limitLines.getD 200) offset (lines source))
  { moduleName := moduleName.name
    startLine := offset + 1
    returnedLines := (lines text).length
    source := text
    nextCursor :=
      if offset + limitLines.getD 200 < (lines source).length then
        some (cursorTo hash codec revision resourceId moduleName (offset + (lines text).length))
      else none }

section Calls
variable (hlimit : 1 ≤ limitLines.getD 200 ∧ limitLines.getD 200 ≤ maxVbaLinesPerPage)
  (hmodule : moduleName.name ∈ project.modules.take maxSummaryModules)
  (hsource : project.moduleSource moduleName.name = some source)

include hlimit

theorem call_of_decode {cursor : Option String} {offset : Nat}
    (h : decodeVbaCursor hash codec cursor revision
      ((VbaRequest.moduleSource resourceId moduleName).fingerprint hash) = .ok offset) :
    call hash codec project revision resourceId moduleName limitLines cursor =
      modulePage hash codec project revision
        ((VbaRequest.moduleSource resourceId moduleName).fingerprint hash) moduleName.name
        (limitLines.getD 200) offset := by
  unfold call inspectModuleSource
  dsimp only
  rw [if_pos hlimit]
  unfold VbaRequest.fingerprint at h ⊢
  dsimp only at h ⊢
  rw [h]
  rfl

theorem call_of_error {cursor : Option String} {error : String}
    (h : decodeVbaCursor hash codec cursor revision
      ((VbaRequest.moduleSource resourceId moduleName).fingerprint hash) = .error error) :
    call hash codec project revision resourceId moduleName limitLines cursor = .error error := by
  unfold call inspectModuleSource
  dsimp only
  rw [if_pos hlimit]
  unfold VbaRequest.fingerprint at h
  dsimp only at h
  rw [h]
  rfl

include hmodule hsource

/-- What a call hands out from an offset within bounds on. -/
theorem call_within {cursor : Option String} {offset : Nat}
    (h : decodeVbaCursor hash codec cursor revision
      ((VbaRequest.moduleSource resourceId moduleName).fingerprint hash) = .ok offset)
    (hoffset : offset ≤ maxSourceOffset) :
    call hash codec project revision resourceId moduleName limitLines cursor =
      if maxVbaSourcePageBytes <
          byteLength (pageText (slice (limitLines.getD 200) offset (lines source))) then
        .error "VBA source page exceeds the 262144-byte response limit"
      else .ok (pageFrom hash codec revision resourceId moduleName limitLines source offset) := by
  have hoffset' : offset ≤ 1000000 := hoffset
  have hlimit' : limitLines.getD 200 ≤ 1000 := hlimit.2
  have hmax : maxU32 = 4294967295 := rfl
  have hrow : maxRow = 4294967295 := rfl
  obtain ⟨htext, hmore⟩ := vbaModuleSource_page source hoffset hlimit.1 hlimit.2
  have hselected : (slice (limitLines.getD 200) offset (lines source)).length ≤ 1000 := by
    unfold slice
    rw [List.length_take]
    omega
  have hcounted : (lines (pageText (slice (limitLines.getD 200) offset (lines source)))).length ≤
      1000 := by
    by_cases hblank : slice (limitLines.getD 200) offset (lines source) = [[]]
    · rw [hblank]
      decide
    · rw [pageText_length hblank]
      exact hselected
  have hreturned : asU32 (lines (pageText (slice (limitLines.getD 200) offset (lines source)))).length =
      (lines (pageText (slice (limitLines.getD 200) offset (lines source)))).length := by
    unfold asU32
    apply Nat.mod_eq_of_lt
    omega
  rw [call_of_decode hlimit h]
  unfold modulePage pageFrom
  rw [if_neg (by omega), if_neg (not_not.mpr hmodule), hsource]
  dsimp only
  rw [htext, hreturned, Nat.min_eq_left (by omega), Nat.min_eq_left (by omega)]
  simp only [hmore]
  rfl

end Calls

variable (hash codec project revision resourceId moduleName limitLines) in
/-- Following from a cursor ends after the text, with cursors that are bound. -/
def EndsAfter (cursor : Option String) (text : List Char) : Prop :=
  ∃ fuel pages,
    follow (call hash codec project revision resourceId moduleName limitLines)
      (fun page => page.nextCursor.map some) fuel cursor = some (pages, none) ∧
    pages.flatMap ModuleSource.source = text ∧
    ∀ page ∈ pages, ∀ cursor, page.nextCursor = some cursor → ∃ offset,
      cursor = cursorTo hash codec revision resourceId moduleName offset ∧
      Bound hash codec cursor revision (.moduleSource resourceId moduleName) offset

section Ends
variable {cursor : Option String} {text : List Char} {page : ModuleSource}

theorem not_endsAfter_of_error {error : String}
    (h : call hash codec project revision resourceId moduleName limitLines cursor = .error error) :
    ¬ EndsAfter hash codec project revision resourceId moduleName limitLines cursor text := by
  intro ⟨fuel, pages, hrun, _⟩
  exact follow_error h fuel pages hrun

theorem endsAfter_last
    (h : call hash codec project revision resourceId moduleName limitLines cursor = .ok page)
    (hnext : page.nextCursor = none) :
    EndsAfter hash codec project revision resourceId moduleName limitLines cursor text ↔
      page.source = text := by
  have hend : (page.nextCursor.map some : Option (Option String)) = none := by rw [hnext]; rfl
  constructor
  · intro ⟨fuel, pages, hrun, htext, _⟩
    have hpages := ((follow_end h hend).mp hrun).2
    rw [hpages, List.flatMap_singleton] at htext
    exact htext
  · intro htext
    refine ⟨1, [page], (follow_end h hend).mpr ⟨Nat.one_pos, rfl⟩, ?_, ?_⟩
    · rw [List.flatMap_singleton, htext]
    · intro page' hpage' cursor' hcursor'
      rw [List.mem_singleton.mp hpage', hnext] at hcursor'
      contradiction

theorem endsAfter_more {following : String}
    (h : call hash codec project revision resourceId moduleName limitLines cursor = .ok page)
    (hnext : page.nextCursor = some following) :
    EndsAfter hash codec project revision resourceId moduleName limitLines cursor text ↔
      (∃ offset, following = cursorTo hash codec revision resourceId moduleName offset ∧
        Bound hash codec following revision (.moduleSource resourceId moduleName) offset) ∧
      ∃ rest, page.source ++ rest = text ∧
        EndsAfter hash codec project revision resourceId moduleName limitLines (some following)
          rest := by
  have hmore : page.nextCursor.map some = some (some following) := by rw [hnext]; rfl
  constructor
  · intro ⟨fuel, pages, hrun, htext, hbound⟩
    obtain ⟨fuel', pages', _, hpages, hrest⟩ := (follow_more h hmore).mp hrun
    rw [hpages] at htext hbound
    apply And.intro (hbound page List.mem_cons_self following hnext)
    exact ⟨pages'.flatMap ModuleSource.source, htext, fuel', pages', hrest, rfl,
      fun page' hpage' => hbound page' (List.mem_cons_of_mem _ hpage')⟩
  · intro ⟨hfollowing, rest, htext, fuel, pages, hrun, hpages, hbound⟩
    refine ⟨fuel + 1, page :: pages, (follow_more h hmore).mpr ⟨fuel, pages, rfl, rfl, hrun⟩, ?_, ?_⟩
    · rw [List.flatMap_cons, hpages, htext]
    · intro page' hpage' cursor' hcursor'
      cases hpage' with
      | head =>
        rw [hnext] at hcursor'
        rw [← Option.some.inj hcursor']
        exact hfollowing
      | tail _ hpage' => exact hbound page' hpage' cursor' hcursor'

/-- A page that is handed out again and again is never the last one. -/
theorem not_endsAfter_of_again {following : String}
    (h : call hash codec project revision resourceId moduleName limitLines (some following) =
      .ok page) (hnext : page.nextCursor = some following) :
    ¬ EndsAfter hash codec project revision resourceId moduleName limitLines (some following)
      text := by
  intro ⟨fuel, pages, hrun, _⟩
  have hagain : page.nextCursor.map some = some (some following) := by rw [hnext]; rfl
  rw [follow_again h hagain fuel] at hrun
  contradiction

end Ends

/-! ### Where following is exact -/

variable (limitLines source) in
/-- The page from an offset on is within bounds and not one blank line. -/
def Handed (offset : Nat) : Prop :=
  offset ≤ maxSourceOffset ∧ slice (limitLines.getD 200) offset (lines source) ≠ [[]] ∧
    byteLength (terminated '\n' (slice (limitLines.getD 200) offset (lines source))) ≤
      maxVbaSourcePageBytes

variable (hash codec revision resourceId moduleName) in
def Fits (offset : Nat) : Prop :=
  byteLength (cursorTo hash codec revision resourceId moduleName offset).toList ≤ maxVbaCursorBytes

theorem decode_cursorTo {offset : Nat} (hoffset : offset ≤ maxU32) :
    decodeVbaCursor hash codec (some (cursorTo hash codec revision resourceId moduleName offset))
        revision ((VbaRequest.moduleSource resourceId moduleName).fingerprint hash) =
      if maxVbaCursorBytes <
          byteLength (cursorTo hash codec revision resourceId moduleName offset).toList then
        .error malformedCursor
      else .ok offset := by
  unfold cursorTo
  rw [decode_encode _ _ _ _ hoffset]
  simp

theorem slice_append_drop (size offset : Nat) (all : List (List Char)) :
    terminated '\n' (all.drop offset) =
      terminated '\n' (slice size offset all) ++ terminated '\n' (all.drop (offset + size)) := by
  unfold slice
  rw [← List.drop_drop, ← terminated_append, List.take_append_drop]

section Main
variable (hlimit : 1 ≤ limitLines.getD 200 ∧ limitLines.getD 200 ≤ maxVbaLinesPerPage)
  (hmodule : moduleName.name ∈ project.modules.take maxSummaryModules)
  (hsource : project.moduleSource moduleName.name = some source)

include hlimit hmodule hsource

/-- A page that is not handed out whole is not followed to the end. -/
theorem not_endsAfter_of_not_handed {cursor : Option String} {offset : Nat}
    (hdecode : decodeVbaCursor hash codec cursor revision
      ((VbaRequest.moduleSource resourceId moduleName).fingerprint hash) = .ok offset)
    (hhanded : ¬ Handed limitLines source offset) :
    ¬ EndsAfter hash codec project revision resourceId moduleName limitLines cursor
      (terminated '\n' ((lines source).drop offset)) := by
  by_cases hoffset : offset ≤ maxSourceOffset
  · have hmax : maxU32 = 4294967295 := rfl
    have hoffset' : offset ≤ 1000000 := hoffset
    have hcall := call_within hlimit hmodule hsource hdecode hoffset
    by_cases hblank : slice (limitLines.getD 200) offset (lines source) = [[]]
    · have hempty : pageText (slice (limitLines.getD 200) offset (lines source)) = [] := by
        rw [hblank, pageText_blank]
      have hstays : offset + (lines (pageText (slice (limitLines.getD 200) offset
          (lines source)))).length = offset := by
        rw [hempty]
        rfl
      have hnone : ¬ maxVbaSourcePageBytes <
          byteLength (pageText (slice (limitLines.getD 200) offset (lines source))) := by
        rw [hempty]
        decide
      rw [if_neg hnone] at hcall
      by_cases hmore : offset + limitLines.getD 200 < (lines source).length
      · have hnext : (pageFrom hash codec revision resourceId moduleName limitLines source
            offset).nextCursor =
              some (cursorTo hash codec revision resourceId moduleName offset) := by
          unfold pageFrom
          dsimp only
          rw [if_pos hmore, hstays]
        rw [endsAfter_more hcall hnext]
        intro ⟨_, rest, _, hends⟩
        have hagain := @decode_cursorTo hash codec revision resourceId moduleName offset (by omega)
        split at hagain
        · exact not_endsAfter_of_error (call_of_error hlimit hagain) hends
        · have hcall' := call_within hlimit hmodule hsource hagain hoffset
          rw [if_neg hnone] at hcall'
          exact not_endsAfter_of_again hcall' hnext hends
      · have hnext : (pageFrom hash codec revision resourceId moduleName limitLines source
            offset).nextCursor = none := if_neg hmore
        rw [endsAfter_last hcall hnext, slice_append_drop (limitLines.getD 200) offset, hblank]
        have htext : (pageFrom hash codec revision resourceId moduleName limitLines source
            offset).source = [] := hempty
        rw [htext]
        simp
    · have hlong : maxVbaSourcePageBytes <
          byteLength (pageText (slice (limitLines.getD 200) offset (lines source))) := by
        rw [pageText_of_ne hblank]
        by_contra hshort
        exact hhanded ⟨hoffset, hblank, by omega⟩
      rw [if_pos hlong] at hcall
      exact not_endsAfter_of_error hcall
  · have hcall := @call_of_decode _ _ project _ _ _ _ hlimit _ _ hdecode
    unfold modulePage at hcall
    rw [if_pos (by omega)] at hcall
    exact not_endsAfter_of_error hcall

/-- From an offset on following is exact where each page from there on is handed out and each cursor
to one can be sent back. -/
theorem endsAfter_iff {cursor : Option String} {offset : Nat}
    (hdecode : decodeVbaCursor hash codec cursor revision
      ((VbaRequest.moduleSource resourceId moduleName).fingerprint hash) = .ok offset) :
    EndsAfter hash codec project revision resourceId moduleName limitLines cursor
        (terminated '\n' ((lines source).drop offset)) ↔
      Handed limitLines source offset ∧ ∀ k, 0 < k →
        offset + k * limitLines.getD 200 < (lines source).length →
          Handed limitLines source (offset + k * limitLines.getD 200) ∧
          Fits hash codec revision resourceId moduleName (offset + k * limitLines.getD 200) := by
  induction hleft : (lines source).length - offset using Nat.strongRecOn generalizing cursor offset with
  | ind left ih =>
    by_cases hhanded : Handed limitLines source offset
    · obtain ⟨hoffset, hblank, hsmall⟩ := hhanded
      have hmax : maxU32 = 4294967295 := rfl
      have hoffset' : offset ≤ 1000000 := hoffset
      have hlimit' : limitLines.getD 200 ≤ 1000 := hlimit.2
      have htext : (pageFrom hash codec revision resourceId moduleName limitLines source
          offset).source = terminated '\n' (slice (limitLines.getD 200) offset (lines source)) :=
        pageText_of_ne hblank
      have hcall := call_within hlimit hmodule hsource hdecode hoffset
      rw [pageText_of_ne hblank, if_neg (by omega)] at hcall
      by_cases hmore : offset + limitLines.getD 200 < (lines source).length
      · have hcounted : (lines (pageText (slice (limitLines.getD 200) offset
            (lines source)))).length = limitLines.getD 200 := by
          rw [pageText_length hblank]
          unfold slice
          rw [List.length_take, List.length_drop]
          omega
        have hnext : (pageFrom hash codec revision resourceId moduleName limitLines source
            offset).nextCursor = some (cursorTo hash codec revision resourceId moduleName
              (offset + limitLines.getD 200)) := by
          unfold pageFrom
          dsimp only
          rw [if_pos hmore, hcounted]
        have hplace : offset + limitLines.getD 200 ≤ maxU32 := by omega
        rw [endsAfter_more hcall hnext, htext, slice_append_drop (limitLines.getD 200) offset]
        have hagain := @decode_cursorTo hash codec revision resourceId moduleName _ hplace
        by_cases hfits : Fits hash codec revision resourceId moduleName
            (offset + limitLines.getD 200)
        · unfold Fits at hfits
          rw [if_neg (by omega)] at hagain
          have hrest := ih _ (by omega) hagain rfl
          constructor
          · intro ⟨_, rest, hsame, hends⟩
            rw [List.append_cancel_left_eq] at hsame
            rw [hsame, hrest] at hends
            apply And.intro ⟨hoffset, hblank, hsmall⟩
            intro k hk hbefore
            match k with
            | 1 =>
              rw [Nat.one_mul]
              exact ⟨hends.1, hfits⟩
            | k + 2 =>
              have hshift : offset + (k + 2) * limitLines.getD 200 =
                  offset + limitLines.getD 200 + (k + 1) * limitLines.getD 200 := by ring
              rw [hshift] at hbefore ⊢
              exact hends.2 (k + 1) (Nat.succ_pos k) hbefore
          · intro ⟨_, hall⟩
            apply And.intro ⟨_, rfl, bound_encode hplace hfits⟩
            apply Exists.intro _
            apply And.intro rfl
            rw [hrest]
            constructor
            · have hfirst := hall 1 Nat.one_pos (by omega)
              rw [Nat.one_mul] at hfirst
              exact hfirst.1
            · intro k hk hbefore
              have hshift : offset + limitLines.getD 200 + k * limitLines.getD 200 =
                  offset + (k + 1) * limitLines.getD 200 := by ring
              rw [hshift] at hbefore ⊢
              exact hall (k + 1) (Nat.succ_pos k) hbefore
        · apply iff_of_false
          · intro ⟨_, rest, _, hends⟩
            unfold Fits at hfits
            rw [if_pos (by omega)] at hagain
            exact not_endsAfter_of_error (call_of_error hlimit hagain) hends
          · intro ⟨_, hall⟩
            have hfirst := hall 1 Nat.one_pos (by omega)
            rw [Nat.one_mul] at hfirst
            exact hfits hfirst.2
      · have hnext : (pageFrom hash codec revision resourceId moduleName limitLines source
            offset).nextCursor = none := if_neg hmore
        have hrest : (lines source).drop (offset + limitLines.getD 200) = [] :=
          List.drop_eq_nil_of_le (by omega)
        rw [endsAfter_last hcall hnext, htext, slice_append_drop (limitLines.getD 200) offset,
          hrest, terminated_nil, List.append_nil]
        apply iff_of_true rfl
        apply And.intro ⟨hoffset, hblank, hsmall⟩
        intro k hk hbefore
        have hle : 1 * limitLines.getD 200 ≤ k * limitLines.getD 200 :=
          Nat.mul_le_mul_right _ hk
        omega
    · apply iff_of_false
      · exact not_endsAfter_of_not_handed hlimit hmodule hsource hdecode hhanded
      · exact fun h => hhanded h.1

end Main

end Served

section Exact
variable (hash : CursorHash) (codec : VbaCodec) (project : VbaProject) (revision resourceId : String)
  (moduleName : VbaModuleName) (limitLines : Option Nat)

/-- Paging is exact where the summary names the module, no page is one blank line, and no page, no
place and no cursor is over its bound. -/
theorem source_pages_exact_iff {source : List Char}
    (hlimit : 1 ≤ limitLines.getD 200 ∧ limitLines.getD 200 ≤ maxVbaLinesPerPage)
    (hsource : project.moduleSource moduleName.name = some source) :
    PagesExact hash codec project revision resourceId moduleName limitLines source ↔
      moduleName.name ∈ project.modules.take maxSummaryModules ∧
      ∀ k, k * limitLines.getD 200 < (lines source).length →
        PageServed hash codec revision resourceId moduleName limitLines source
          (k * limitLines.getD 200) := by
  have hstart : decodeVbaCursor hash codec none revision
      ((VbaRequest.moduleSource resourceId moduleName).fingerprint hash) = .ok 0 := rfl
  by_cases hmodule : moduleName.name ∈ project.modules.take maxSummaryModules
  · have hexact := @endsAfter_iff hash codec project revision resourceId moduleName limitLines source
      hlimit hmodule hsource none 0 hstart
    rw [List.drop_zero] at hexact
    have hsame : PagesExact hash codec project revision resourceId moduleName limitLines source ↔
        EndsAfter hash codec project revision resourceId moduleName limitLines none
          (terminated '\n' (lines source)) := Iff.rfl
    rw [hsame, hexact, and_iff_right hmodule]
    constructor
    · intro ⟨hfirst, hlater⟩ k hk
      cases k with
      | zero =>
        rw [Nat.zero_mul]
        exact ⟨hfirst.1, hfirst.2.1, hfirst.2.2, fun h => absurd rfl h⟩
      | succ k =>
        have hpage := hlater (k + 1) (Nat.succ_pos k) (by omega)
        rw [Nat.zero_add] at hpage
        exact ⟨hpage.1.1, hpage.1.2.1, hpage.1.2.2, fun _ => hpage.2⟩
    · intro hall
      constructor
      · by_cases hlines : lines source = []
        · unfold Handed slice
          rw [hlines, List.drop_nil, List.take_nil, terminated_nil]
          exact ⟨Nat.zero_le _, by simp, Nat.zero_le _⟩
        · have hfirst := hall 0 (by rw [Nat.zero_mul]; exact List.length_pos_of_ne_nil hlines)
          rw [Nat.zero_mul] at hfirst
          exact ⟨hfirst.within, hfirst.notBlank, hfirst.small⟩
      · intro k hk hbefore
        rw [Nat.zero_add] at hbefore ⊢
        have hpage := hall k hbefore
        have hpos : k * limitLines.getD 200 ≠ 0 := by
          have := Nat.mul_pos hk hlimit.1
          omega
        exact ⟨⟨hpage.within, hpage.notBlank, hpage.small⟩, hpage.named hpos⟩
  · apply iff_of_false
    · intro ⟨fuel, pages, hrun, _⟩
      have hcall := @call_of_decode hash codec project revision resourceId moduleName limitLines
        hlimit none 0 hstart
      unfold modulePage at hcall
      rw [if_neg (by decide), if_pos hmodule] at hcall
      exact follow_error hcall fuel pages hrun
    · exact fun h => hmodule h.1

end Exact

section Samples

def doubledChar (c : Char) : List Char := if c = '.' then ['a', 'b'] else [c, c]

theorem doubledChar_length (c : Char) : (doubledChar c).length = 2 := by
  unfold doubledChar
  split <;> rfl

theorem doubledChar_injective {c c' : Char} (h : doubledChar c = doubledChar c') : c = c' := by
  unfold doubledChar at h
  by_cases hc : c = '.'
  · by_cases hc' : c' = '.'
    · rw [hc, hc']
    · rw [if_pos hc, if_neg hc', List.cons.injEq, List.cons.injEq] at h
      exact absurd (h.1.trans h.2.1.symm) (by decide)
  · by_cases hc' : c' = '.'
    · rw [if_neg hc, if_pos hc', List.cons.injEq, List.cons.injEq] at h
      exact absurd (h.1.symm.trans h.2.1) (by decide)
    · rw [if_neg hc, if_neg hc', List.cons.injEq] at h
      exact h.1

def doubledText (text : List Char) : List Char := text.flatMap doubledChar

theorem doubledText_cons_ne (c : Char) (rest : List Char) : doubledText (c :: rest) ≠ [] := by
  intro h
  have hlength := congrArg List.length h
  unfold doubledText at hlength
  rw [List.flatMap_cons, List.length_append, doubledChar_length, List.length_nil] at hlength
  omega

theorem doubledText_injective : Function.Injective doubledText := by
  intro text
  induction text with
  | nil =>
    intro text' h
    cases text' with
    | nil => rfl
    | cons c' rest' => exact absurd h.symm (doubledText_cons_ne c' rest')
  | cons c rest ih =>
    intro text' h
    cases text' with
    | nil => exact absurd h (doubledText_cons_ne c rest)
    | cons c' rest' =>
      unfold doubledText at h
      rw [List.flatMap_cons, List.flatMap_cons] at h
      obtain ⟨hfirst, hrest⟩ := List.append_inj h (by rw [doubledChar_length, doubledChar_length])
      rw [doubledChar_injective hfirst, ih hrest]

theorem doubledText_noDot (text : List Char) : '.' ∉ doubledText text := by
  intro hmem
  obtain ⟨c, _, hc⟩ := List.mem_flatMap.mp hmem
  unfold doubledChar at hc
  split at hc
  · simp at hc
  · rename_i hdot
    simp only [List.mem_cons, List.not_mem_nil, or_false, or_self] at hc
    exact hdot hc.symm

def sampleHash : CursorHash where
  sha256 text := String.ofList (doubledText text.toList)
  injective _ _ h := String.toList_inj.mp (doubledText_injective (String.ofList_injective h))
  noDot text := by
    rw [String.toList_ofList]
    exact doubledText_noDot _

instance (payload : VbaCursorPayload) : Decidable payload.Valid :=
  inferInstanceAs (Decidable (_ ≤ _))

def sampleCodec : VbaCodec where
  toVec payload := sampleReader.toVec ⟨payload.revision, payload.fingerprint, payload.offset, 0⟩
  fromSlice bytes := ((sampleReader.fromSlice bytes).map fun cursor =>
    ⟨cursor.revisionId, cursor.fingerprint, cursor.selectionIndex⟩).filter fun payload =>
      decide payload.Valid
  fromSlice_toVec payload hvalid := by
    rw [sampleReader_codec]
    simp [hvalid]
  fromSlice_valid bytes payload h := by
    rw [Option.filter_eq_some_iff] at h
    exact of_decide_eq_true h.2

def sampleModule : VbaModuleName := ⟨"Module1", by decide⟩

def sampleProject (source : String) : VbaProject where
  modules := ["ThisWorkbook", "Module1"]
  moduleSource name := if name = "Module1" then some source.toList else none

theorem sampleSource_pages_exact : PagesExact sampleHash sampleCodec (sampleProject "Sub A()\r\n\r\n")
    "rev-1" "book" sampleModule none "Sub A()\r\n\r\n".toList := by
  apply (source_pages_exact_iff sampleHash sampleCodec (sampleProject "Sub A()\r\n\r\n") "rev-1"
    "book" sampleModule none (by decide) rfl).mpr
  apply And.intro (by decide)
  intro k hk
  have hlines : (lines "Sub A()\r\n\r\n".toList).length = 2 := by decide
  have hlimit : (none : Option Nat).getD 200 = 200 := rfl
  have hfirst : k = 0 := by
    rw [hlines, hlimit] at hk
    omega
  subst hfirst
  exact ⟨by decide, by decide, by decide, by decide⟩

/-- A page of one blank line names itself as the next one. -/
theorem blank_line_repeats : ¬ ∀ (hash : CursorHash) (codec : VbaCodec) (project : VbaProject)
    (revision resourceId : String) (moduleName : VbaModuleName) (limitLines : Option Nat)
    (source : List Char), 1 ≤ limitLines.getD 200 ∧ limitLines.getD 200 ≤ maxVbaLinesPerPage →
      moduleName.name ∈ project.modules → project.moduleSource moduleName.name = some source →
        PagesExact hash codec project revision resourceId moduleName limitLines source := by
  intro hall
  have hexact := hall sampleHash sampleCodec (sampleProject "\nEnd Sub") "rev-1" "book" sampleModule
    (some 1) "\nEnd Sub".toList (by decide) (by decide) rfl
  apply @not_endsAfter_of_not_handed sampleHash sampleCodec (sampleProject "\nEnd Sub") "rev-1" "book"
    sampleModule (some 1) "\nEnd Sub".toList (by decide) (by decide) rfl none 0 rfl
  · intro hhanded
    exact hhanded.2.1 (by decide)
  · rw [List.drop_zero]
    exact hexact

end Samples

end AgentSpreadsheet.Vba
