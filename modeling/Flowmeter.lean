import Flowmeter.Accounting
import Flowmeter.Association
import Flowmeter.Calendar
import Flowmeter.Collector.Clock
import Flowmeter.Collector.Failure
import Flowmeter.Collector.Schedule
import Flowmeter.Collector.Service
import Flowmeter.Collector.Site
import Flowmeter.Collector.TimeScale
import Flowmeter.Collector.Timing
import Flowmeter.CommandLine.Flag
import Flowmeter.CommandLine.Help
import Flowmeter.CommandLine.Options
import Flowmeter.CommandLine.Word
import Flowmeter.Config.Document
import Flowmeter.Config.Dotted
import Flowmeter.Config.Environment
import Flowmeter.Config.Load
import Flowmeter.Config.Loop
import Flowmeter.Config.Merge
import Flowmeter.Config.Mismatch
import Flowmeter.Config.Validation
import Flowmeter.Config.Value
import Flowmeter.Decimal.Binary64
import Flowmeter.Decimal.Notation
import Flowmeter.Decimal.Numeral
import Flowmeter.Decimal.Reading
import Flowmeter.Decimal.Scientific
import Flowmeter.Decimal.Shortest
import Flowmeter.Exporter
import Flowmeter.Files.Fault
import Flowmeter.Files.Path
import Flowmeter.Files.Tree
import Flowmeter.Flow.Counters
import Flowmeter.Flow.Entry
import Flowmeter.Flow.Key
import Flowmeter.Flow.Line
import Flowmeter.Flow.Port
import Flowmeter.Host.Direction
import Flowmeter.Host.Label
import Flowmeter.Host.LookUp
import Flowmeter.Host.Numeric
import Flowmeter.Host.Permitted
import Flowmeter.Host.Preparation
import Flowmeter.Host.Punycode
import Flowmeter.Ledger
import Flowmeter.Listen
import Flowmeter.Log.Directive
import Flowmeter.Log.Draft
import Flowmeter.Log.Fields
import Flowmeter.Log.Handlers
import Flowmeter.Log.Journal
import Flowmeter.Log.Layout
import Flowmeter.Log.Level
import Flowmeter.Log.Record
import Flowmeter.Log.RotatingFile
import Flowmeter.Log.Template
import Flowmeter.Main
import Flowmeter.Metrics.Exposition
import Flowmeter.Metrics.Instruments
import Flowmeter.Metrics.Published
import Flowmeter.Notice
import Flowmeter.Procfs
import Flowmeter.Program
import Flowmeter.Snapshot
import Flowmeter.Sockets
import Flowmeter.Text.Blank
import Flowmeter.Text.Case
import Flowmeter.Text.CodePoint
import Flowmeter.Text.CodeTable
import Flowmeter.Text.Combining
import Flowmeter.Text.Composition
import Flowmeter.Text.Decomposition
import Flowmeter.Text.Digit
import Flowmeter.Text.Lines
import Flowmeter.Text.Pattern
import Flowmeter.Text.Printable
import Flowmeter.Text.Quoted
import Flowmeter.Text.Stream
import Flowmeter.Text.Utf8
import Flowmeter.Web.Application
import Flowmeter.Web.Exchange
import Flowmeter.Web.PathTemplate
import Flowmeter.Web.Response
import Flowmeter.Web.ScrapeLimit
import Flowmeter.Web.Target
import Flowmeter.Web.Url
import Flowmeter.Yaml.BlockScalar
import Flowmeter.Yaml.Content
import Flowmeter.Yaml.Cursor
import Flowmeter.Yaml.Document
import Flowmeter.Yaml.Fault
import Flowmeter.Yaml.Graph
import Flowmeter.Yaml.Lexer
import Flowmeter.Yaml.Marker
import Flowmeter.Yaml.Merge
import Flowmeter.Yaml.Node
import Flowmeter.Yaml.PlainScalar
import Flowmeter.Yaml.QuotedScalar
import Flowmeter.Yaml.Scalar
import Flowmeter.Yaml.Source
import Flowmeter.Yaml.Tag
import Flowmeter.Yaml.Token
import Flowmeter.Proofs.Accounts.Record
import Flowmeter.Proofs.Accounts.Coherence
import Flowmeter.Proofs.Accounts.Exactness
import Flowmeter.Proofs.Collector.Lock
import Flowmeter.Proofs.Collector.History
import Flowmeter.Proofs.Collector.Acts
import Flowmeter.Proofs.Collector.Turns
import Flowmeter.Proofs.Collector.Readings
import Flowmeter.Proofs.Collector.Invariant
import Flowmeter.Proofs.Collector.Discipline
import Flowmeter.Proofs.Collector.Refinement
import Flowmeter.Proofs.Flow.Line
import Flowmeter.Proofs.Text.Spacing
import Flowmeter.Proofs.Flow.Pairs
import Flowmeter.Proofs.Snapshot.Grouping
import Flowmeter.Proofs.Snapshot.Survey
import Flowmeter.Proofs.Accounts.Collapse
import Flowmeter.Proofs.Decimal.Range
import Flowmeter.Proofs.Metrics.Scrape
import Flowmeter.Proofs.Collector.Tally
import Flowmeter.Proofs.Collector.Status
import Flowmeter.Proofs.Association
import Flowmeter.Proofs.Config.Merge
import Flowmeter.Proofs.Config.Dotted
import Flowmeter.Proofs.Config.Document
import Flowmeter.Proofs.Yaml.Judging
import Flowmeter.Proofs.Config.Settings
import Flowmeter.Proofs.Config.Precedence
import Flowmeter.Proofs.Config.Validation
import Flowmeter.Proofs.Decimal.Order
import Flowmeter.Proofs.Collector.Timing
import Flowmeter.Proofs.Program.Reports
import Flowmeter.Proofs.Accounts.Falls
import Flowmeter.Proofs.Snapshot.Indifference
import Flowmeter.Proofs.Web.Exchange
import Flowmeter.Proofs.Web.Places
import Flowmeter.Proofs.Decimal.Notation
import Flowmeter.Proofs.Text.Quotation
import Flowmeter.Proofs.Metrics.Reader
import Flowmeter.Proofs.Metrics.Faithful
import Flowmeter.Proofs.Collector.Schedule
import Flowmeter.Proofs.Collector.Serial
import Flowmeter.Proofs.Collector.Site
import Flowmeter.Proofs.Snapshot.Insertion
import Flowmeter.Proofs.Decimal.Numeral
import Flowmeter.Proofs.Flow.Writing
import Flowmeter.Proofs.Flow.Meaning
import Flowmeter.Proofs.Snapshot.Concatenation
import Flowmeter.Proofs.Flow.Key
import Flowmeter.Proofs.Collector.Keys
import Flowmeter.Proofs.Log.Fields
import Flowmeter.Proofs.Flow.Network
import Flowmeter.Proofs.Web.Counted
import Flowmeter.Proofs.Collector.Loops
import Flowmeter.Proofs.Collector.Clock
import Flowmeter.Proofs.Decimal.Spelling
import Flowmeter.Proofs.Listen
import Flowmeter.Proofs.Config.Overlay
import Flowmeter.Proofs.Config.Lens
import Flowmeter.Proofs.Accounting
import Flowmeter.Proofs.Files.Tree
import Flowmeter.Proofs.Log.RotatingFile
import Flowmeter.Proofs.Log.Journal
