import Facets.Activity.Counters
import Facets.Activity.Event
import Facets.Activity.Recorder
import Facets.Activity.Trace
import Facets.Ascending
import Facets.Expansion
import Facets.Facet.Basic
import Facets.Facet.Buckets
import Facets.Facet.Count
import Facets.Facet.Describe
import Facets.Facet.Narrow
import Facets.Facet.Pass
import Facets.Failure
import Facets.Histogram
import Facets.Hits
import Facets.Index.Basic
import Facets.Index.Column
import Facets.Index.Dictionary
import Facets.Index.Staged
import Facets.Index.Table
import Facets.Item
import Facets.Json.Basic
import Facets.Json.Parser
import Facets.Json.Printer
import Facets.Label
import Facets.Money
import Facets.Number.Exact
import Facets.Number.Key
import Facets.Number.Kind
import Facets.Number.Shortest
import Facets.Number.Sortable
import Facets.Plan
import Facets.Proofs.Ascending
import Facets.Proofs.Number.Key
import Facets.Proofs.Expansion
import Facets.Proofs.Plan
import Facets.Reading
import Facets.Scale.Linear
import Facets.Scale.Log
import Facets.Scale.Mode
import Facets.Scale.Ranks
import Facets.Session.Command
import Facets.Session.Run
import Facets.Settings
import Facets.Text.Extender
import Facets.Text.Quoted
import Facets.Text.Split
import Facets.Text.Unprintable
import Facets.Version
import Facets.Proofs.Facet.Buckets
import Facets.Proofs.Reading
import Facets.Proofs.Facet.Reference
import Facets.Proofs.Facet.Scans
import Facets.Proofs.Facet.Counting
import Facets.Proofs.Facet.Memory
import Facets.Proofs.Facet.Steady
import Facets.Proofs.Facet.Narrowing
import Facets.Proofs.Facet.Calls
import Facets.Proofs.Index.Opening
import Facets.Proofs.Index.Table
import Facets.Proofs.Facet.Agreement
import Facets.Proofs.Facet.Isolation
import Facets.Proofs.Facet.Totals
import Facets.Proofs.Facet.Composition
import Facets.Proofs.Facet.Failing
import Facets.Proofs.Facet.Reordering
import Facets.Proofs.Index.Terms
import Facets.Proofs.Text.Bytes
import Facets.Proofs.Facet.Grouping
import Facets.Proofs.Facet.Passes
import Facets.Proofs.Facet.Reports
import Facets.Proofs.Facet.Accounts
import Facets.Proofs.Facet.Cursors
import Facets.Proofs.Expansions
import Facets.Proofs.Facet.Timeline
import Facets.Proofs.Number.Packed
import Facets.Proofs.Number.Floats
import Facets.Proofs.Number.Rounding
import Facets.Proofs.Number.Sortable
import Facets.Proofs.Number.Single
import Facets.Proofs.Number.Kinds
import Facets.Proofs.Number.Nearest
import Facets.Proofs.Facet.Ranking
import Facets.Proofs.Number.Whole
import Facets.Proofs.Number.Conversions
import Facets.Proofs.Facet.Integers
import Facets.Proofs.Index.Numbers
import Facets.Proofs.Number.Grid
import Facets.Proofs.Number.Tenths
import Facets.Proofs.Number.Line
import Facets.Proofs.Number.Arithmetic
import Facets.Proofs.Number.Decimal
import Facets.Proofs.Money
import Facets.Proofs.Money.Currency
import Facets.Proofs.Labels
import Facets.Proofs.Histogram
import Facets.Proofs.Sorting
import Facets.Proofs.Requests
import Facets.Proofs.Gallery
import Facets.Proofs.Scale.Span
import Facets.Proofs.Scale.Position
import Facets.Proofs.Scale.Snapping
import Facets.Proofs.Scale.Tiling
import Facets.Proofs.Scale.Fitting
import Facets.Proofs.Scale.Extent
import Facets.Proofs.Scale.Edges
import Facets.Proofs.Facet.Ranges
import Facets.Proofs.Facet.Edges
import Facets.Proofs.Facet.Omissions
import Facets.Proofs.Scale.Logarithm
import Facets.Proofs.Scale.NearestLog
import Facets.Proofs.Scale.Decades
import Facets.Proofs.Tables
import Facets.Proofs.Facet.Tables
import Facets.Proofs.Activity.Tally
import Facets.Proofs.Activity.Counters
import Facets.Proofs.Activity.Listening
import Facets.Proofs.Session.Commands
import Facets.Proofs.Session.Listeners
