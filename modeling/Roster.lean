import Roster.Main
import Roster.Proofs.Report.Midnight
import Roster.Proofs.Store.Recompute
import Roster.Proofs.Rect.Remaining
import Roster.Proofs.Timeline.Shortening
import Roster.Proofs.Report.Reordering
import Roster.Proofs.Store.Query
import Roster.Proofs.Store.Retrieval
import Roster.Proofs.Store.FirstWins
import Roster.Proofs.Store.Merging
import Roster.Proofs.Store.Batching
import Roster.Proofs.Store.Transaction
import Roster.Proofs.Text.Lines
import Roster.Proofs.Import.FirstFault
import Roster.Proofs.Report.Duties
import Roster.Proofs.Import.Ownership
import Roster.Proofs.Rect.Entries
import Roster.Proofs.Json.Compact
import Roster.Proofs.Record.RoundTrip
import Roster.Proofs.Rect.Anchoring
import Roster.Proofs.Report.Accounting
import Roster.Proofs.Import.Spelling
import Roster.Proofs.Rect.Locality
import Roster.Proofs.Text.Bytes
import Roster.Proofs.Timeline.Regrouping
import Roster.Proofs.Timeline.Overlap
import Roster.Proofs.Rect.HandOver
import Roster.Proofs.Rect.Unchanged
import Roster.Proofs.Calendar.TextOrder
import Roster.Proofs.Store.DateRange
import Roster.Proofs.Store.Faults
import Roster.Proofs.Report.Minutes
import Roster.Proofs.Arguments.Window
import Roster.Proofs.Rect.Position
