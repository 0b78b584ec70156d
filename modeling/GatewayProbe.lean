import GatewayProbe.Command.Basic
import GatewayProbe.Command.Example
import GatewayProbe.Command.Run
import GatewayProbe.Command.Usage
import GatewayProbe.Conformance.Counters
import GatewayProbe.Conformance.Finding
import GatewayProbe.Conformance.Response
import GatewayProbe.Decimal.Exact
import GatewayProbe.Decimal.Fixed
import GatewayProbe.Decimal.Read
import GatewayProbe.Decimal.Shortest
import GatewayProbe.Decimal.Word
import GatewayProbe.Delivery.Basic
import GatewayProbe.Events.Basic
import GatewayProbe.Events.Body
import GatewayProbe.Events.Lines
import GatewayProbe.Exchange.Client
import GatewayProbe.Exchange.Fault
import GatewayProbe.Exchange.Head
import GatewayProbe.Exchange.Route
import GatewayProbe.Exchange.Script
import GatewayProbe.Exchange.Session
import GatewayProbe.Exchange.Target
import GatewayProbe.Exchange.Wire
import GatewayProbe.Folder
import GatewayProbe.Folder.Tree
import GatewayProbe.Inventory.Basic
import GatewayProbe.Inventory.Listing
import GatewayProbe.Inventory.Survey
import GatewayProbe.Json.Basic
import GatewayProbe.Json.Document
import GatewayProbe.Json.Numeral
import GatewayProbe.Json.Printer
import GatewayProbe.Json.Record
import GatewayProbe.Main
import GatewayProbe.Plan.Basic
import GatewayProbe.Plan.Binding
import GatewayProbe.Plan.Choice
import GatewayProbe.Records
import GatewayProbe.Run.Answers
import GatewayProbe.Run.Basic
import GatewayProbe.Run.Detection
import GatewayProbe.Run.Fetch
import GatewayProbe.Run.Modes
import GatewayProbe.Run.Provider
import GatewayProbe.Run.ProviderRoutes
import GatewayProbe.Run.Requests
import GatewayProbe.Run.Stories
import GatewayProbe.Run.Surface
import GatewayProbe.Settings.Basic
import GatewayProbe.Settings.Layers
import GatewayProbe.Settings.Log
import GatewayProbe.Settings.ModeTables
import GatewayProbe.Settings.Reading
import GatewayProbe.Settings.Thresholds
import GatewayProbe.Text.Ascii
import GatewayProbe.Text.Blank
import GatewayProbe.Text.Bytes
import GatewayProbe.Text.Excerpt
import GatewayProbe.Text.Lines
import GatewayProbe.Text.Ordered
import GatewayProbe.Text.Width
import GatewayProbe.Text.Width.Context
import GatewayProbe.Text.Width.Ranges
import GatewayProbe.Toml.Basic
import GatewayProbe.Toml.Document
import GatewayProbe.Toml.Growth
import GatewayProbe.Toml.Scalar
import GatewayProbe.View.Colour
import GatewayProbe.View.Documents
import GatewayProbe.View.Labels
import GatewayProbe.View.Pages
import GatewayProbe.View.Table
import GatewayProbe.Proofs.Plan.Bindings
import GatewayProbe.Proofs.Plan.Agreement
import GatewayProbe.Proofs.Text.Trimming
import GatewayProbe.Proofs.Events.Reader
import GatewayProbe.Proofs.Json.Grammar
import GatewayProbe.Proofs.Events.LineEnds
import GatewayProbe.Proofs.Events.Bodies
import GatewayProbe.Proofs.Json.Printing
import GatewayProbe.Proofs.Events.RoundTrip
import GatewayProbe.Proofs.Conformance.Verdict
import GatewayProbe.Proofs.Conformance.Vocabulary
import GatewayProbe.Proofs.Exchange.Sessions
import GatewayProbe.Proofs.Run.Start
import GatewayProbe.Proofs.Run.CounterSums
import GatewayProbe.Proofs.Run.ModeRecords
import GatewayProbe.Proofs.Plan.Guesses
import GatewayProbe.Proofs.Run.Phases
import GatewayProbe.Proofs.Run.SurfaceRecords
import GatewayProbe.Proofs.Exchange.Requests
import GatewayProbe.Proofs.Run.ProviderRequests
import GatewayProbe.Proofs.Run.Budgets
import GatewayProbe.Proofs.Command.InForce
import GatewayProbe.Proofs.Plan.Outage
import GatewayProbe.Proofs.Exchange.Lockstep
import GatewayProbe.Proofs.Run.Advice
import GatewayProbe.Proofs.Exchange.Steady
import GatewayProbe.Proofs.Run.Skips
import GatewayProbe.Proofs.Run.PhaseSkips
import GatewayProbe.Proofs.Exchange.Exchanges
import GatewayProbe.Proofs.Run.CounterRecord
import GatewayProbe.Proofs.Exchange.Trials
import GatewayProbe.Proofs.Run.StreamFaults
import GatewayProbe.Proofs.Settings.Checks
import GatewayProbe.Proofs.Delivery.Few
import GatewayProbe.Proofs.Run.Detections
import GatewayProbe.Proofs.Run.AnswerRecords
import GatewayProbe.Proofs.Run.Listings
import GatewayProbe.Proofs.Run.StoryRecords
import GatewayProbe.Proofs.Run.Failures
import GatewayProbe.Proofs.Exchange.Reach
import GatewayProbe.Proofs.Run.ServedCounts
import GatewayProbe.Proofs.Run.Conservation
import GatewayProbe.Proofs.Plan.Shares
import GatewayProbe.Proofs.Plan.Order
import GatewayProbe.Proofs.Json.Objects
import GatewayProbe.Proofs.Run.Generative
import GatewayProbe.Proofs.Json.Pretty
import GatewayProbe.Proofs.Json.Records
import GatewayProbe.Proofs.Inventory.Endpoints
import GatewayProbe.Proofs.Text.Quoting
import GatewayProbe.Proofs.Exchange.Hearing
import GatewayProbe.Proofs.Run.Quotations
import GatewayProbe.Proofs.Run.SurfaceQuotations
import GatewayProbe.Proofs.Run.Diagnostics
import GatewayProbe.Proofs.View.RecordLines
import GatewayProbe.Proofs.Delivery.ContentTimes
import GatewayProbe.Proofs.Events.Offsets
import GatewayProbe.Proofs.Inventory.Canonical
import GatewayProbe.Proofs.Json.Parts
import GatewayProbe.Proofs.Inventory.ModelPages
import GatewayProbe.Proofs.Run.ListedCounts
import GatewayProbe.Proofs.Run.DoneMarkers
import GatewayProbe.Proofs.Plan.Representative
import GatewayProbe.Proofs.Run.StoryPlans
import GatewayProbe.Proofs.Text.LetterCase
import GatewayProbe.Proofs.Settings.Tables
import GatewayProbe.Proofs.Text.Encoding
import GatewayProbe.Proofs.Settings.Layering
import GatewayProbe.Proofs.Plan.Addresses
import GatewayProbe.Proofs.Conformance.Fallbacks
import GatewayProbe.Proofs.Text.Ascending
import GatewayProbe.Proofs.Settings.StrippedAddresses
import GatewayProbe.Proofs.Run.ModelChoice
import GatewayProbe.Proofs.Plan.AddressKeys
