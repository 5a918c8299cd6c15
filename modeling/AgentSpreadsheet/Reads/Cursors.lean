import AgentSpreadsheet.Library.Faults
import AgentSpreadsheet.Reads.Paging

/-! Cursors as a client sends them: any text at all. The digits are sliced by bytes, and a slice
that ends within a character is a fault. -/
namespace AgentSpreadsheet.Reads
open Library

def byteLength (text : List Char) : Nat := (text.map Char.utf8Size).sum

def notHexadecimal : String := "cursor is not valid hexadecimal"

/-- The bytes that pairs of digits spell, up to the first that spells none. -/
def slicedBytes : List Char → Checked String (List UInt8)
  | [] => .ok []
  | [high] => if high.utf8Size = 2 then .error (.refused notHexadecimal) else .error .panicked
  | high :: low :: rest =>
    if high.utf8Size = 2 then .error (.refused notHexadecimal)
    else if 2 < high.utf8Size ∨ 1 < low.utf8Size then .error .panicked
    else do
      let byte ← faultless (required (fromStrRadix high low) notHexadecimal)
      let bytes ← slicedBytes rest
      pure (byte :: bytes)

/-- `toVec` is the JSON of a cursor, and `fromSlice` reads it. The numbers of a cursor are those of
their types. -/
structure CursorCodec (γ : Type) (valid : γ → Prop) where
  toVec : γ → List UInt8
  fromSlice : List UInt8 → Option γ
  fromSlice_toVec : ∀ cursor, valid cursor → fromSlice (toVec cursor) = some cursor
  fromSlice_valid : ∀ bytes cursor, fromSlice bytes = some cursor → valid cursor

section Codec
variable {γ : Type} {valid : γ → Prop} (codec : CursorCodec γ valid)

def encodeAfter (marker : String) (cursor : γ) : String :=
  String.ofList (marker.toList ++ hexText (codec.toVec cursor))

def decodeAfter (marker kind value : String) : Checked String γ :=
  if marker.toList.isPrefixOf value.toList then
    let hex := value.toList.drop marker.toList.length
    if byteLength hex % 2 ≠ 0 then .error (.refused "cursor has invalid length")
    else do
      let bytes ← slicedBytes hex
      faultless (required (codec.fromSlice bytes) "cursor payload is invalid")
  else .error (.refused ("cursor is not a " ++ kind ++ " cursor"))

end Codec

/-- The largest `usize`. -/
def maxPlace : Nat := 18446744073709551615

structure CanonicalOpaqueCursor where
  revisionId : String
  fingerprint : String
  position : Nat
  subposition : Nat
  deriving DecidableEq, Repr

def CanonicalOpaqueCursor.Valid (cursor : CanonicalOpaqueCursor) : Prop :=
  cursor.position ≤ maxPlace ∧ cursor.subposition ≤ maxPlace

def ReadCellsCursor.Valid (cursor : ReadCellsCursor) : Prop :=
  cursor.selectionIndex ≤ maxPlace ∧ cursor.nextRow ≤ maxRow

abbrev OpaqueCodec := CursorCodec CanonicalOpaqueCursor CanonicalOpaqueCursor.Valid

abbrev ReadCodec := CursorCodec ReadCellsCursor ReadCellsCursor.Valid

def encodeOpaqueCursor (codec : OpaqueCodec) (marker : String) (cursor : CanonicalOpaqueCursor) :
    String :=
  encodeAfter codec (marker ++ "_") cursor

def decodeOpaqueCursor (codec : OpaqueCodec) (value marker : String) :
    Checked String CanonicalOpaqueCursor :=
  decodeAfter codec (marker ++ "_") marker value

def encodeReadCursor (codec : ReadCodec) (cursor : ReadCellsCursor) : String :=
  encodeAfter codec "rc1_" cursor

def decodeReadCursor (codec : ReadCodec) (value : String) : Checked String ReadCellsCursor :=
  decodeAfter codec "rc1_" "read_cells v1" value

/-! ### Characters that are cut -/

/-- The first two bytes of the text end within a character. -/
def CutWithin : List Char → Prop
  | [] => False
  | [high] => high.utf8Size ≠ 2
  | high :: low :: _ => high.utf8Size ≠ 2 ∧ (2 < high.utf8Size ∨ 1 < low.utf8Size)

/-- After pairs of digits come two bytes that end within a character. -/
def CutsCharacter (hex : List Char) : Prop :=
  ∃ pairs rest, hex = pairs ++ rest ∧ pairs.length % 2 = 0 ∧ (hexBytes pairs).isSome = true ∧
    CutWithin rest

/-- The text has the marker and an even number of bytes after it, and slicing cuts a character. -/
def CutsCursor (marker value : String) : Prop :=
  ∃ hex, value.toList = marker.toList ++ hex ∧ byteLength hex % 2 = 0 ∧ CutsCharacter hex

theorem hexDigit_ascii {c : Char} (h : (hexDigit c).isSome = true) : c.utf8Size = 1 := by
  have hle : c.toNat ≤ 127 := by
    unfold hexDigit at h
    split at h
    · rename_i hdigit
      exact Nat.le_trans (Char.isDigit_iff_toNat.mp hdigit).2 (by decide)
    · split at h
      · rename_i hlower
        have hbound : c.toNat ≤ 'f'.toNat := hlower.2
        exact Nat.le_trans hbound (by decide)
      · split at h
        · rename_i hupper
          have hbound : c.toNat ≤ 'F'.toNat := hupper.2
          exact Nat.le_trans hbound (by decide)
        · contradiction
  exact Char.utf8Size_eq_one_iff.mpr (UInt32.le_iff_toNat_le.mpr hle)

theorem fromStrRadix_ascii {high low : Char} (h : (fromStrRadix high low).isSome = true) :
    high.utf8Size = 1 ∧ low.utf8Size = 1 := by
  unfold fromStrRadix at h
  split at h
  · rename_i hplus
    rw [Option.isSome_map] at h
    exact ⟨hplus ▸ (by decide), hexDigit_ascii h⟩
  · cases hhigh : hexDigit high with
    | none => simp [hhigh] at h
    | some first =>
      cases hlow : hexDigit low with
      | none => simp [hlow] at h
      | some second => exact ⟨hexDigit_ascii (by simp [hhigh]), hexDigit_ascii (by simp [hlow])⟩

theorem cutsCharacter_nil : ¬ CutsCharacter [] := by
  intro ⟨pairs, rest, hhex, _, _, hcut⟩
  rw [(List.append_eq_nil_iff.mp hhex.symm).2] at hcut
  exact hcut

theorem cutsCharacter_of_cutWithin {hex : List Char} (h : CutWithin hex) : CutsCharacter hex :=
  ⟨[], hex, rfl, rfl, rfl, h⟩

theorem cutsCharacter_singleton {high : Char} : CutsCharacter [high] ↔ high.utf8Size ≠ 2 := by
  constructor
  · intro ⟨pairs, rest, hhex, heven, _, hcut⟩
    cases pairs with
    | nil =>
      rw [List.nil_append] at hhex
      rw [← hhex] at hcut
      exact hcut
    | cons first pairs =>
      have hlength := congrArg List.length hhex
      simp only [List.length_append, List.length_cons, List.length_nil] at hlength heven
      omega
  · intro h
    exact cutsCharacter_of_cutWithin h

theorem hexBytes_cons (high low : Char) (rest : List Char) : hexBytes (high :: low :: rest) =
    (fromStrRadix high low).bind fun byte => (hexBytes rest).bind fun bytes => some (byte :: bytes) :=
  rfl

theorem hexBytes_cons_isSome {high low : Char} {rest : List Char} :
    (hexBytes (high :: low :: rest)).isSome = true ↔
      (fromStrRadix high low).isSome = true ∧ (hexBytes rest).isSome = true := by
  rw [hexBytes_cons]
  cases fromStrRadix high low with
  | none => simp
  | some byte => cases hexBytes rest <;> simp

theorem cutsCharacter_cons {high low : Char} {rest : List Char} :
    CutsCharacter (high :: low :: rest) ↔ CutWithin (high :: low :: rest) ∨
      (fromStrRadix high low).isSome = true ∧ CutsCharacter rest := by
  constructor
  · intro ⟨pairs, after, hhex, heven, hbytes, hcut⟩
    match pairs, hhex with
    | [], hhex =>
      rw [List.nil_append] at hhex
      exact Or.inl (hhex ▸ hcut)
    | [first], _ => contradiction
    | first :: second :: pairs, hhex =>
      simp only [List.cons_append, List.cons.injEq] at hhex
      obtain ⟨rfl, rfl, hrest⟩ := hhex
      rw [hexBytes_cons_isSome] at hbytes
      have hpairs : pairs.length % 2 = 0 := by
        simp only [List.length_cons] at heven
        omega
      exact Or.inr ⟨hbytes.1, pairs, after, hrest, hpairs, hbytes.2, hcut⟩
  · intro h
    rcases h with hcut | ⟨hpair, pairs, after, hrest, heven, hbytes, hcut⟩
    · exact cutsCharacter_of_cutWithin hcut
    · refine ⟨high :: low :: pairs, after, by rw [hrest]; rfl, ?_, ?_, hcut⟩
      · simp only [List.length_cons]
        omega
      · exact hexBytes_cons_isSome.mpr ⟨hpair, hbytes⟩

/-- Slicing is without a fault where it cuts no character. -/
theorem calm_slicedBytes (hex : List Char) : Calm (slicedBytes hex) ↔ ¬ CutsCharacter hex := by
  induction hex using slicedBytes.induct with
  | case1 => simp [slicedBytes, cutsCharacter_nil]
  | case2 high htwo =>
    unfold slicedBytes
    rw [if_pos htwo, cutsCharacter_singleton]
    simp [htwo]
  | case3 high htwo =>
    unfold slicedBytes
    rw [if_neg htwo, cutsCharacter_singleton]
    simp [htwo]
  | case4 high low rest htwo =>
    have hcut : ¬ CutWithin (high :: low :: rest) := fun h => h.1 htwo
    have hpair : ¬ (fromStrRadix high low).isSome = true := fun h => by
      rw [(fromStrRadix_ascii h).1] at htwo
      contradiction
    unfold slicedBytes
    rw [if_pos htwo, cutsCharacter_cons]
    simp [hcut, hpair]
  | case5 high low rest htwo hlong =>
    unfold slicedBytes
    rw [if_neg htwo, if_pos hlong, cutsCharacter_cons]
    simp [CutWithin, htwo, hlong]
  | case6 high low rest htwo hshort ih =>
    have hcut : ¬ CutWithin (high :: low :: rest) := fun h => hshort h.2
    unfold slicedBytes
    rw [if_neg htwo, if_neg hshort, cutsCharacter_cons]
    cases hpair : fromStrRadix high low with
    | none => simp [required, bind, Except.bind, hcut]
    | some byte =>
      have hrest : Calm (faultless (required (some byte) notHexadecimal) >>= fun byte =>
          slicedBytes rest >>= fun bytes => pure (byte :: bytes)) ↔ Calm (slicedBytes rest) := by
        rw [calm_bind]
        simp only [required, faultless_ok, calm_ok, true_and, Except.ok.injEq, forall_eq']
        rw [calm_bind]
        exact and_iff_left fun bytes _ => calm_ok _
      rw [hrest, ih]
      simp [hcut]

section Codec
variable {γ : Type} {valid : γ → Prop} {codec : CursorCodec γ valid}

theorem calm_decodeAfter (marker kind value : String) :
    Calm (decodeAfter codec marker kind value) ↔ ¬ CutsCursor marker value := by
  unfold decodeAfter CutsCursor
  split
  · rename_i hmarker
    obtain ⟨hex, hvalue⟩ := List.isPrefixOf_iff_prefix.mp hmarker
    rw [← hvalue, List.drop_left]
    dsimp only
    have hother (hex' : List Char) : marker.toList ++ hex = marker.toList ++ hex' ↔ hex' = hex := by
      rw [List.append_cancel_left_eq, eq_comm]
    simp only [hother, exists_eq_left]
    split
    · rename_i hodd
      simp [hodd]
    · rename_i heven
      rw [calm_bind, calm_slicedBytes]
      simp only [calm_faultless, implies_true, and_true]
      have heven : byteLength hex % 2 = 0 := by omega
      simp [heven]
  · rename_i hmarker
    rw [iff_true_intro (calm_refused _), true_iff]
    intro ⟨hex, hvalue, _⟩
    exact hmarker (List.isPrefixOf_iff_prefix.mpr ⟨hex, hvalue.symm⟩)

/-! ### Round trips -/

theorem lowerHex_ascii : ∀ n < 16, (lowerHex n).utf8Size = 1 := by decide

theorem slicedBytes_hexText (bytes : List UInt8) : slicedBytes (hexText bytes) = .ok bytes := by
  induction bytes with
  | nil => rfl
  | cons byte bytes ih =>
    have hbyte := byte.toNat_lt
    have hhigh := lowerHex_ascii (byte.toNat / 16) (by omega)
    have hlow := lowerHex_ascii (byte.toNat % 16) (by omega)
    have htext : hexText (byte :: bytes) = lowerHex (byte.toNat / 16) ::
        lowerHex (byte.toNat % 16) :: hexText bytes := rfl
    rw [htext]
    unfold slicedBytes
    rw [if_neg (by omega), if_neg (by omega), fromStrRadix_lowerHex, ih]
    rfl

theorem byteLength_hexText (bytes : List UInt8) : byteLength (hexText bytes) = 2 * bytes.length := by
  induction bytes with
  | nil => rfl
  | cons byte bytes ih =>
    have hbyte := byte.toNat_lt
    have hhigh := lowerHex_ascii (byte.toNat / 16) (by omega)
    have hlow := lowerHex_ascii (byte.toNat % 16) (by omega)
    have htext : hexText (byte :: bytes) = lowerHex (byte.toNat / 16) ::
        lowerHex (byte.toNat % 16) :: hexText bytes := rfl
    unfold byteLength at ih ⊢
    rw [htext, List.map_cons, List.map_cons, List.sum_cons, List.sum_cons, ih, hhigh, hlow,
      List.length_cons]
    omega

theorem decodeAfter_encodeAfter (marker kind : String) {cursor : γ} (h : valid cursor) :
    decodeAfter codec marker kind (encodeAfter codec marker cursor) = .ok cursor := by
  have htext : (encodeAfter codec marker cursor).toList =
      marker.toList ++ hexText (codec.toVec cursor) := String.toList_ofList
  unfold decodeAfter
  rw [if_pos (by rw [htext]; exact List.isPrefixOf_iff_prefix.mpr ⟨_, rfl⟩), htext, List.drop_left]
  dsimp only
  rw [byteLength_hexText, if_neg (by omega), slicedBytes_hexText]
  dsimp only [bind, Except.bind]
  rw [codec.fromSlice_toVec cursor h]
  rfl

/-! ### Texts that spell a cursor -/

variable (codec) in
/-- After the marker, pairs of digits spell the cursor's bytes. -/
def Spells (marker value : String) (cursor : γ) : Prop :=
  ∃ hex bytes, value.toList = marker.toList ++ hex ∧ hex.length % 2 = 0 ∧
    hexBytes hex = some bytes ∧ codec.fromSlice bytes = some cursor

/-- Bytes that are sliced are those of pairs of characters. -/
theorem slicedBytes_eq_ok (hex : List Char) (bytes : List UInt8) :
    slicedBytes hex = .ok bytes ↔ hex.length % 2 = 0 ∧ hexBytes hex = some bytes := by
  induction hex using slicedBytes.induct generalizing bytes with
  | case1 => simp [slicedBytes, hexBytes]
  | case2 high htwo => simp [slicedBytes, htwo]
  | case3 high htwo => simp [slicedBytes, htwo]
  | case4 high low rest htwo =>
    have hpair : ¬ (fromStrRadix high low).isSome = true := fun h => by
      rw [(fromStrRadix_ascii h).1] at htwo
      contradiction
    unfold slicedBytes
    rw [if_pos htwo, hexBytes_cons]
    simp [Option.not_isSome_iff_eq_none.mp hpair]
  | case5 high low rest htwo hlong =>
    have hpair : ¬ (fromStrRadix high low).isSome = true := fun h => by
      have hascii := fromStrRadix_ascii h
      omega
    unfold slicedBytes
    rw [if_neg htwo, if_pos hlong, hexBytes_cons]
    simp [Option.not_isSome_iff_eq_none.mp hpair]
  | case6 high low rest htwo hshort ih =>
    have hlength : (high :: low :: rest).length % 2 = rest.length % 2 := by
      rw [List.length_cons, List.length_cons]
      omega
    unfold slicedBytes
    rw [if_neg htwo, if_neg hshort, hexBytes_cons, hlength]
    simp only [bind_eq_ok, faultless_eq_ok, required_eq_ok, pure_eq_ok, ih, Option.bind_eq_some_iff,
      Option.some.injEq]
    constructor
    · rintro ⟨byte, hbyte, after, hrest, hbytes⟩
      exact ⟨hrest.1, byte, hbyte, after, hrest.2, hbytes⟩
    · rintro ⟨heven, byte, hbyte, after, hafter, hbytes⟩
      exact ⟨byte, hbyte, after, ⟨heven, hafter⟩, hbytes⟩

theorem byteLength_hex {hex : List Char} (heven : hex.length % 2 = 0)
    (h : (hexBytes hex).isSome = true) : byteLength hex = hex.length := by
  induction hex using slicedBytes.induct with
  | case1 => rfl
  | case2 high | case3 high => simp at heven
  | case4 high low rest htwo =>
    rw [(fromStrRadix_ascii (hexBytes_cons_isSome.mp h).1).1] at htwo
    contradiction
  | case5 high low rest htwo hlong =>
    have hascii := fromStrRadix_ascii (hexBytes_cons_isSome.mp h).1
    omega
  | case6 high low rest htwo hshort ih =>
    have hpair := hexBytes_cons_isSome.mp h
    have hascii := fromStrRadix_ascii hpair.1
    rw [List.length_cons, List.length_cons] at heven ⊢
    have hrest := ih (by omega) hpair.2
    unfold byteLength at hrest ⊢
    rw [List.map_cons, List.map_cons, List.sum_cons, List.sum_cons, hrest]
    omega

theorem decodeAfter_eq_ok (marker kind value : String) (cursor : γ) :
    decodeAfter codec marker kind value = .ok cursor ↔ Spells codec marker value cursor := by
  unfold decodeAfter
  split
  · rename_i hmarker
    obtain ⟨hex, hvalue⟩ := List.isPrefixOf_iff_prefix.mp hmarker
    have hother (hex' : List Char) : value.toList = marker.toList ++ hex' ↔ hex' = hex := by
      rw [← hvalue, List.append_cancel_left_eq, eq_comm]
    rw [← hvalue, List.drop_left]
    unfold Spells
    simp only [hother, exists_and_left, exists_eq_left]
    split
    · rename_i hodd
      rw [iff_false_left (by simp)]
      rintro ⟨heven, bytes, hbytes, _⟩
      rw [byteLength_hex heven (by rw [hbytes]; rfl)] at hodd
      exact hodd heven
    · simp only [bind_eq_ok, slicedBytes_eq_ok, faultless_eq_ok, required_eq_ok]
      constructor
      · rintro ⟨bytes, hbytes, hcursor⟩
        exact ⟨hbytes.1, bytes, hbytes.2, hcursor⟩
      · rintro ⟨heven, bytes, hbytes, hcursor⟩
        exact ⟨bytes, ⟨heven, hbytes⟩, hcursor⟩
  · rename_i hmarker
    rw [iff_false_left (by simp)]
    rintro ⟨hex, bytes, hvalue, _⟩
    exact hmarker (List.isPrefixOf_iff_prefix.mpr ⟨hex, hvalue.symm⟩)

end Codec

end AgentSpreadsheet.Reads
