import AgentSpreadsheet.Record
import AgentSpreadsheet.Library.HashChain
import Mathlib.Data.Rat.Encodable
import Mathlib.Data.Countable.Basic
import Mathlib.Logic.Encodable.Lattice
import Mathlib.Logic.Equiv.List
import Mathlib.Tactic.DeriveCountable

/-! The text of a journal line. Serialisation and the hash are parameters with
the laws the journal relies on; envelopes are countable, so a codec that numbers
them meets these laws. -/
namespace AgentSpreadsheet
open Library

abbrev JournalEnvelope (Archive : Type) := Envelope (PreparedResidentCommit Archive)

/-- `serde_json` and SHA-256 as the journal uses them. `fromStr` also fails on a
line that is not UTF-8. -/
structure LineCodec (Archive : Type) where
  encode : JournalEnvelope Archive → List UInt8
  fromStr : List UInt8 → Option (JournalEnvelope Archive)
  envelopeHash : Nat → PreparedResidentCommit Archive → Option String → String

def newline : UInt8 := 10
def carriageReturn : UInt8 := 13
def openBrace : UInt8 := 0x7B

/-- What the journal relies on: an envelope reads back from its own text, which
is a JSON object and so starts with a brace and holds no control character. -/
structure LineCodec.Lawful (codec : LineCodec Archive) : Prop where
  fromStr_encode : ∀ e, codec.fromStr (codec.encode e) = some e
  object : ∀ e, (codec.encode e).head? = some openBrace
  printable : ∀ e, ∀ b ∈ codec.encode e, 0x20 ≤ b

/-- No two inputs of the hash have the same digest. -/
def LineCodec.CollisionFree (codec : LineCodec Archive) : Prop :=
  ∀ n a p m b q, codec.envelopeHash n a p = codec.envelopeHash m b q → n = m ∧ a = b ∧ p = q

section Numbered

instance instCountableChar : Countable Char :=
  Function.Injective.countable (f := Char.toNat) fun _ _ h => Char.ext (UInt32.toNat_inj.mp h)

instance instCountableString : Countable String :=
  Function.Injective.countable (f := String.toList) fun _ _ h => String.toList_inj.mp h

instance instCountableFinmap [Countable β] : Countable (Finmap fun _ : String => β) := by
  have hentries : Countable (Multiset (Sigma fun _ : String => β)) := Quotient.countable
  exact Function.Injective.countable (f := Finmap.entries) fun _ _ h => Finmap.ext h

deriving instance Countable for ResourceKind, ResourceId, WriteMode, FormulaParsePolicy,
  OperationRisk, MatrixValue, MatrixCell, WriteOp, WriteOpStatus, WriteOpResult, WriteDiff,
  WriteImpact, WriteStatus, WriteResponseData, CanonicalStagedBundle, ResidentMaterializedValue,
  ResidentMaterializedCell, ResidentPreparedCellEffect, ResidentCalculationEffect,
  PreparedResidentPublication, PreparedResidentTransaction, ResidentTransition, Value, Member,
  EvaluationState, EvaluationSource, EvaluationFreshness, EvaluationCoverage, RecalculateData,
  CalculationProof, ArtifactMetadata, CreateForkRequest, CreateForkData, DiscardForkRequest,
  DiscardForkData, ExportForkRequest, ExportForkData, ResourceExport, FileExportIntent,
  FileExportResult, FileExportPlan, CheckpointDescriptor, CanonicalData, CanonicalResponse,
  CanonicalOutcome, Effect, PreparedResidentCommit, Envelope

noncomputable instance : Encodable (PreparedResidentCommit Unit) := Encodable.ofCountable _

noncomputable instance instEncodableString : Encodable String := Encodable.ofCountable _

noncomputable instance : Encodable (JournalEnvelope Unit) := Encodable.ofCountable _

/-- Envelopes and hash inputs written as their numbers. -/
noncomputable def numberedCodec : LineCodec Unit where
  encode := fun e => List.replicate (Encodable.encode e + 1) openBrace
  fromStr := fun line => Encodable.decode (line.length - 1)
  envelopeHash := fun n a p =>
    String.ofList (List.replicate (Encodable.encode (n, a, p)) '0')

theorem numberedCodec_lawful : numberedCodec.Lawful where
  fromStr_encode := by
    intro e
    simp [numberedCodec]
  object := by
    intro e
    simp [numberedCodec, List.replicate_succ]
  printable := by
    intro e b hb
    rw [List.eq_of_mem_replicate hb]
    decide

theorem numberedCodec_collisionFree : numberedCodec.CollisionFree := by
  intro n a p m b q h
  have hlength := congrArg List.length (String.ofList_injective h)
  simp only [List.length_replicate] at hlength
  have htriple := Encodable.encode_injective hlength
  simpa using htriple

end Numbered

end AgentSpreadsheet
