import AgentSpreadsheet.ExactlyOnce

/-! Torn and altered journal files. A cut leaves the complete lines before it,
and a file that still ends in a line of the original holds what that line
vouches for, or does not load at all. -/
namespace AgentSpreadsheet
open Library

def NativeResidentJournal.withFile (journal : NativeResidentJournal) (sessionId : String)
    (raw : List UInt8) : NativeResidentJournal :=
  { journal with files := journal.files.insert sessionId raw }

/-- The last complete line that is not blank. -/
def lastLine (raw : List UInt8) : Option (List UInt8) :=
  ((linesOf newline raw).map stripCarriageReturn).reverse.find? fun line => !isBlank line

section Cut
variable {H : Digest Archive} {codec : LineCodec Archive} {sessionId : String}
  {journal : NativeResidentJournal} {raw : List UInt8}
  {records : List (PreparedResidentCommit Archive)}

/-- What a replay accepts, it accepts of every beginning of the stream. -/
theorem replay_take {s : PortableHistoryState} (h : PortableHistoryState.replay H records = .ok s)
    {k : Nat} (hne : records.take k ≠ []) :
    ∃ s, PortableHistoryState.replay H (records.take k) = .ok s := by
  unfold PortableHistoryState.replay at h
  obtain ⟨first, _, h⟩ := bind_eq_ok.mp h
  obtain ⟨hids, r, hr, _⟩ := PortableHistoryState.replayBound_eq_ok.mp h
  unfold replayFrom at hr
  rw [← List.take_append_drop k records, List.foldlM_append] at hr
  obtain ⟨mid, hmid, _⟩ := bind_eq_ok.mp hr
  have hbound : PortableHistoryState.replayBound H (records.take k) first.sessionId
      first.baseSha256 = .ok mid.state :=
    PortableHistoryState.replayBound_eq_ok.mpr
      ⟨fun record hrecord => hids record (List.mem_of_mem_take hrecord), mid, hmid, rfl⟩
  exact ⟨mid.state, replay_of_replayBound hne hbound⟩

theorem StreamFile.cut (h : StreamFile H codec sessionId (some raw) records)
    (hlaw : codec.Lawful) (n : Nat) :
    StreamFile H codec sessionId (some (raw.take n))
      (records.take ((raw.take n).count newline)) := by
  rcases h.bytes with ⟨hnone, _⟩ | ⟨tail, htail, hraw⟩
  · cases hnone
  · obtain rfl := Option.some.inj hraw
    obtain ⟨torn, htorn, htake⟩ :=
      take_terminated newline (newline_notMem_lines hlaw records) htail n
    refine ⟨h.valid, .inr ⟨torn, htorn, ?_⟩, ?_, ?_⟩
    · rw [journalLines_take, ← htake]
    · intro r hr
      exact h.belong r (List.mem_of_mem_take hr)
    · intro hne
      have hrecords : records ≠ [] := by
        rintro rfl
        simp at hne
      obtain ⟨s, hs⟩ := h.replays hrecords
      exact replay_take hs hne

end Cut

section Altered
variable {H : Digest Archive} {codec : LineCodec Archive} {sessionId : String}

/-- What the load loop keeps: the envelopes form a chain, and the last of them is
the last line that is not blank. -/
theorem readLines_chain {lines : List (List UInt8)} {loaded : Loaded Archive}
    (h : lines.foldlM (readLine codec sessionId) ⟨0, [], none⟩ = .ok loaded) :
    loaded.previousHash = loaded.envelopes.getLast?.map (·.hash) ∧
    loaded.envelopes = chain codec.envelopeHash (loaded.envelopes.map (·.record)) ∧
    ((lines.map stripCarriageReturn).reverse.find? fun line => !isBlank line).bind codec.fromStr =
      loaded.envelopes.getLast? := by
  refine foldlM_invariant (motive := fun lines (loaded : Loaded Archive) =>
    loaded.previousHash = loaded.envelopes.getLast?.map (·.hash) ∧
    loaded.envelopes = chain codec.envelopeHash (loaded.envelopes.map (·.record)) ∧
    ((lines.map stripCarriageReturn).reverse.find? fun line => !isBlank line).bind codec.fromStr =
      loaded.envelopes.getLast?) ⟨rfl, rfl, rfl⟩ ?_ h
  rintro lines line before after ⟨hprevious, hchain, hlast⟩ hread
  unfold readLine at hread
  dsimp only at hread
  simp only [List.map_append, List.map_singleton, List.reverse_append, List.reverse_singleton,
    List.singleton_append, List.find?_cons]
  split at hread
  · rename_i hblank
    obtain rfl := Except.ok.inj hread
    simp only [hblank, Bool.not_true]
    exact ⟨hprevious, hchain, hlast⟩
  · rename_i hblank
    simp only [bind_eq_ok, required_eq_ok, ensure_eq_ok, pure_eq_ok] at hread
    obtain ⟨envelope, hparse, _, _, _, _, _, ⟨hsequence, hlink, hhash⟩, rfl⟩ := hread
    have hnext : envelope = nextEnvelope codec.envelopeHash before.envelopes envelope.record := by
      have hfields : envelope = ⟨envelope.sequence, envelope.record, envelope.previousHash,
        envelope.hash⟩ := rfl
      rw [hfields, hhash, hlink, hsequence, hprevious]
      rfl
    refine ⟨by simp, ?_, ?_⟩
    · rw [List.map_append, List.map_singleton, chain_concat, ← hchain, ← hnext]
    · simp [hblank, hparse]

theorem load_of_lastLine (hlaw : codec.Lawful) (hfree : codec.CollisionFree)
    {journal : NativeResidentJournal} {altered : List UInt8}
    {records found : List (PreparedResidentCommit Archive)}
    (hlast : lastLine altered = (journalLines codec records).getLast?)
    (hload : (journal.withFile sessionId altered).load H codec sessionId = .ok found) :
    found = records := by
  unfold NativeResidentJournal.load NativeResidentJournal.loadEnvelopes
    NativeResidentJournal.withFile at hload
  rw [Finmap.lookup_insert] at hload
  obtain ⟨⟨entries, complete, physical⟩, hentries, hload⟩ := bind_eq_ok.mp hload
  unfold loadEnvelopesWithBoundary at hentries
  obtain ⟨_, _, hentries⟩ := bind_eq_ok.mp hentries
  obtain ⟨loaded, hloaded, hentries⟩ := bind_eq_ok.mp hentries
  have hsame : loaded.envelopes = entries := by
    split at hentries
    · obtain ⟨_, _, hpure⟩ := bind_eq_ok.mp hentries
      exact congrArg Prod.fst (pure_eq_ok.mp hpure)
    · exact congrArg Prod.fst (pure_eq_ok.mp hentries)
  have hfound : entries.map (·.record) = found := by
    dsimp only at hload
    split at hload
    · obtain ⟨_, _, hpure⟩ := bind_eq_ok.mp hload
      exact pure_eq_ok.mp hpure
    · exact pure_eq_ok.mp hload
  obtain ⟨_, hchain, hend⟩ := readLines_chain hloaded
  rw [hsame, hfound] at hchain
  -- the last line reads back as the last envelope of both chains
  have hends : (chain codec.envelopeHash found).getLast? =
      (chain codec.envelopeHash records).getLast? := by
    unfold lastLine at hlast
    rw [← hchain, ← hsame, ← hend, hlast, journalLines, List.getLast?_map]
    cases (chain codec.envelopeHash records).getLast? with
    | none => rfl
    | some e => exact hlaw.fromStr_encode e
  exact chain_injective_of_last codec.envelopeHash hfree (by rw [hends])

end Altered

/-- A line codec for a journal of two sample records. -/
def sampleCodec2 : LineCodec Unit where
  encode := fun e => [openBrace, if e.sequence = 1 then 0x31 else 0x32, 0x7D]
  fromStr := fun line =>
    if line = [openBrace, 0x31, 0x7D] then some ⟨1, sampleWrite 0 none, none, "sha256:1"⟩
    else some ⟨2, sampleWrite 1 (some "c0"), some "sha256:1", "sha256:2"⟩
  envelopeHash := fun n _ _ => if n = 1 then "sha256:1" else "sha256:2"

end AgentSpreadsheet
