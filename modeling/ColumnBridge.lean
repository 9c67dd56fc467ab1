import ColumnBridge.Column.Builder
import ColumnBridge.Engine.Faulty
import ColumnBridge.Engine.Memory
import ColumnBridge.Proofs.Arrow.Agreement
import ColumnBridge.Proofs.Arrow.Batch
import ColumnBridge.Proofs.Fetch.Flat
import ColumnBridge.Proofs.Fetch.Objects
import ColumnBridge.Proofs.Flags.Exact
import ColumnBridge.Proofs.Session.Append
import ColumnBridge.Proofs.Session.Bookkeeping
import ColumnBridge.Proofs.Session.Client
import ColumnBridge.Proofs.Session.Lifecycle
import ColumnBridge.Proofs.Session.Links
import ColumnBridge.Proofs.Session.Program
import ColumnBridge.Proofs.Session.RollBack
import ColumnBridge.Proofs.Session.Statements
import ColumnBridge.Proofs.Session.Stranded
import ColumnBridge.Proofs.Stored.Builder
import ColumnBridge.Proofs.Stored.Canonical
import ColumnBridge.Proofs.Stored.Cells
import ColumnBridge.Proofs.Stored.EntryPoints
import ColumnBridge.Proofs.Stored.Fetched
import ColumnBridge.Proofs.Stored.Nil
import ColumnBridge.Proofs.Stored.Restore
import ColumnBridge.Proofs.Stored.StoreRead
import ColumnBridge.Proofs.Time.HostDates
import ColumnBridge.Proofs.Time.StoreFetch
import ColumnBridge.Proofs.Time.Timestamp
import ColumnBridge.Session.Registry
import ColumnBridge.Settings.Load
import ColumnBridge.Proofs.Time.CheckedDates
import ColumnBridge.Proofs.Time.StoreRange
import ColumnBridge.Proofs.Engine.Handles
import ColumnBridge.Proofs.Engine.Kept
import ColumnBridge.Proofs.Engine.References
import ColumnBridge.Proofs.Engine.Release
import ColumnBridge.Proofs.Session.Ages
import ColumnBridge.Proofs.Session.Closed
import ColumnBridge.Proofs.Decimal.Rounded
import ColumnBridge.Proofs.Text.DecimalTexts
import ColumnBridge.Proofs.Decimal.RoundTrip
import ColumnBridge.Proofs.Flags.Backward
import ColumnBridge.Proofs.Text.RowIdTexts
import ColumnBridge.Proofs.Time.FetchRange
import ColumnBridge.Proofs.Time.TimeOfDay
import ColumnBridge.Proofs.Stored.Layout
import ColumnBridge.Proofs.Session.Prepared
import ColumnBridge.Proofs.Text.Integers
import ColumnBridge.Proofs.Settings.Precedence
import ColumnBridge.Proofs.Engine.Scripts
import ColumnBridge.Proofs.Host.Classes
import ColumnBridge.Proofs.Stored.Lookups
