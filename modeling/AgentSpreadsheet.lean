import AgentSpreadsheet.Library.Guard
import AgentSpreadsheet.Library.Chars
import AgentSpreadsheet.Library.Lineage
import AgentSpreadsheet.Library.Lines
import AgentSpreadsheet.Library.HashChain
import AgentSpreadsheet.Library.Exec
import AgentSpreadsheet.Library.FileTree
import AgentSpreadsheet.Library.Script
import AgentSpreadsheet.Library.Versions
import AgentSpreadsheet.Library.Quoted
import AgentSpreadsheet.Library.Paging
import AgentSpreadsheet.Library.Matches
import AgentSpreadsheet.Library.Offsets
import AgentSpreadsheet.Library.Merge
import AgentSpreadsheet.Library.MixedOrder
import AgentSpreadsheet.Library.Levels
import AgentSpreadsheet.Revision
import AgentSpreadsheet.Write
import AgentSpreadsheet.Record
import AgentSpreadsheet.History
import AgentSpreadsheet.Outcome
import AgentSpreadsheet.Replay
import AgentSpreadsheet.Stream
import AgentSpreadsheet.Timeline
import AgentSpreadsheet.Ancestry
import AgentSpreadsheet.Progression
import AgentSpreadsheet.Codec
import AgentSpreadsheet.Journal
import AgentSpreadsheet.StreamFile
import AgentSpreadsheet.ExactlyOnce
import AgentSpreadsheet.TornTail
import AgentSpreadsheet.Workbook
import AgentSpreadsheet.SnapshotCache
import AgentSpreadsheet.Evaluator
import AgentSpreadsheet.Store
import AgentSpreadsheet.Volatile
import AgentSpreadsheet.Session
import AgentSpreadsheet.Recovery
import AgentSpreadsheet.Durable
import AgentSpreadsheet.DurableWrite
import AgentSpreadsheet.Commit
import AgentSpreadsheet.Operation
import AgentSpreadsheet.Ran
import AgentSpreadsheet.RanWrite
import AgentSpreadsheet.Document
import AgentSpreadsheet.Materialize
import AgentSpreadsheet.Catalog
import AgentSpreadsheet.ExportReceipts
import AgentSpreadsheet.Agreement
import AgentSpreadsheet.Recovered
import AgentSpreadsheet.Soundness
import AgentSpreadsheet.Host
import AgentSpreadsheet.Library.Keyed
import AgentSpreadsheet.Rules.Sqref
import AgentSpreadsheet.Rules.Store
import AgentSpreadsheet.Library.Decimals
import AgentSpreadsheet.Sheets.Typing
import AgentSpreadsheet.Sheets.TypedWrites
import AgentSpreadsheet.Sheets.CsvImport
import AgentSpreadsheet.Sheets.GridRoundTrip
import AgentSpreadsheet.Sheets.GridReturns
import AgentSpreadsheet.Sheets.FormulaText
import AgentSpreadsheet.Sheets.Floats
import AgentSpreadsheet.Sheets.Dates
import AgentSpreadsheet.Diff.Cells
import AgentSpreadsheet.Diff.Changes
import AgentSpreadsheet.Diff.Names
import AgentSpreadsheet.Diff.Changeset
import AgentSpreadsheet.Transaction
import AgentSpreadsheet.Atomicity
import AgentSpreadsheet.Fork.Registry
import AgentSpreadsheet.Fork.Revisions
import AgentSpreadsheet.Fork.Commits
import AgentSpreadsheet.Fork.WorkbookCache
import AgentSpreadsheet.Fork.CacheFreshness
import AgentSpreadsheet.Fork.SharedFile
import AgentSpreadsheet.Fork.Serialisation
import AgentSpreadsheet.Fork.Workspace
import AgentSpreadsheet.Fork.WorkspaceBoundary
import AgentSpreadsheet.Fork.Checkpoints
import AgentSpreadsheet.Fork.Limits
import AgentSpreadsheet.Native.Admission
import AgentSpreadsheet.Legacy.Store
import AgentSpreadsheet.Legacy.Log
import AgentSpreadsheet.Legacy.Integrity
import AgentSpreadsheet.Legacy.Redo
import AgentSpreadsheet.Legacy.Race
import AgentSpreadsheet.Legacy.Import
import AgentSpreadsheet.Legacy.ImportReplay
import AgentSpreadsheet.Legacy.ImportOrder
import AgentSpreadsheet.Legacy.ImportHistory
import AgentSpreadsheet.Legacy.Imported
import AgentSpreadsheet.Library.Interval
import AgentSpreadsheet.Library.Layout
import AgentSpreadsheet.Sheets.Structure
import AgentSpreadsheet.Sheets.Merges
import AgentSpreadsheet.Sheets.Format
import AgentSpreadsheet.Sheets.Recalculation
import AgentSpreadsheet.Sheets.Transform
import AgentSpreadsheet.Sheets.Staging
import AgentSpreadsheet.Sheets.References
import AgentSpreadsheet.Sheets.Relocation
import AgentSpreadsheet.Sheets.RelocationExact
import AgentSpreadsheet.Sheets.Rename
import AgentSpreadsheet.Sheets.RenameExact
import AgentSpreadsheet.Sheets.RenameBook
import AgentSpreadsheet.Sheets.Replacement
import AgentSpreadsheet.Analysis.AddressOrder
import AgentSpreadsheet.Analysis.FormulaGraph
import AgentSpreadsheet.Analysis.Dependents
import AgentSpreadsheet.Analysis.DependentsExact
import AgentSpreadsheet.Analysis.Trace
import AgentSpreadsheet.Analysis.TraceComplete
import AgentSpreadsheet.Search.Values
import AgentSpreadsheet.Search.Paged
import AgentSpreadsheet.Search.Agreement
import AgentSpreadsheet.Verify.Compare
import AgentSpreadsheet.Verify.Maps
import AgentSpreadsheet.Verify.Verdict
import AgentSpreadsheet.Reads.Cells
import AgentSpreadsheet.Reads.Paging
import AgentSpreadsheet.Library.Interference
import AgentSpreadsheet.Native.Export
import AgentSpreadsheet.Native.Publication
import AgentSpreadsheet.Native.Resumption
import AgentSpreadsheet.Native.ExportSafety
import AgentSpreadsheet.Clone.Formula
import AgentSpreadsheet.Clone.Grid
import AgentSpreadsheet.Clone.Sums
import AgentSpreadsheet.Clone.Rows
import AgentSpreadsheet.Clone.RowsAgree
import AgentSpreadsheet.Clone.Copied
import AgentSpreadsheet.Library.Cuts
import AgentSpreadsheet.Library.Faults
import AgentSpreadsheet.Library.Runs
import AgentSpreadsheet.Styles.Ranges
import AgentSpreadsheet.Reads.Capped
import AgentSpreadsheet.Reads.Cursors
import AgentSpreadsheet.Reads.Checked
import AgentSpreadsheet.Reads.CursorCalls
import AgentSpreadsheet.Reads.Grid
import AgentSpreadsheet.Reads.VbaSource
import AgentSpreadsheet.Analysis.FormulaMap
import AgentSpreadsheet.Analysis.MapOrder
import AgentSpreadsheet.Analysis.Reported
import AgentSpreadsheet.Tables.Rows
import AgentSpreadsheet.Tables.SessionPages
import AgentSpreadsheet.Tables.Filters
import AgentSpreadsheet.Tables.Paged
import AgentSpreadsheet.Tables.Dense
import AgentSpreadsheet.Regions.Detect
import AgentSpreadsheet.Regions.Split
import AgentSpreadsheet.Render.NumberFormat
import AgentSpreadsheet.Render.Placement
import AgentSpreadsheet.Render.Digits
import AgentSpreadsheet.Render.Emission
import AgentSpreadsheet.Render.Faithful
import AgentSpreadsheet.Render.Extract
import AgentSpreadsheet.Render.Tiling
import AgentSpreadsheet.Library.Bijective
import AgentSpreadsheet.Diff.Addresses
import AgentSpreadsheet.Library.Unambiguous
import AgentSpreadsheet.Library.JsonText
import AgentSpreadsheet.Legacy.CanonicalJson
import AgentSpreadsheet.NamedRanges.Exact
import AgentSpreadsheet.Tables.CsvPayload
import AgentSpreadsheet.Library.Numbering
import AgentSpreadsheet.Tables.DedupeHeaders
import AgentSpreadsheet.Library.Pointwise
import AgentSpreadsheet.Formula.Pattern
import AgentSpreadsheet.Formula.Walk
import AgentSpreadsheet.Formula.Shift
