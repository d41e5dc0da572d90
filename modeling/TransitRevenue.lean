import TransitRevenue.Text.Unicode
import TransitRevenue.Text.Quote
import TransitRevenue.Binary64
import TransitRevenue.Decimal.Shortest
import TransitRevenue.Decimal.Layout
import TransitRevenue.Decimal.Read
import TransitRevenue.Fault
import TransitRevenue.Number
import TransitRevenue.Number.Sum
import TransitRevenue.Number.Rounding
import TransitRevenue.Calendar.Date
import TransitRevenue.Calendar.Moment
import TransitRevenue.Calendar.Iso
import TransitRevenue.Calendar.Stamp
import TransitRevenue.Value
import TransitRevenue.Value.Order
import TransitRevenue.Text.Numeral
import TransitRevenue.Text.Wrap
import TransitRevenue.Text.Encoding
import TransitRevenue.Text.Base64
import TransitRevenue.Json.Read
import TransitRevenue.Json.Write
import TransitRevenue.Record.Field
import TransitRevenue.Demand.Season
import TransitRevenue.Demand.Forecast
import TransitRevenue.Settings
import TransitRevenue.Pricing
import TransitRevenue.Route
import TransitRevenue.Profit.Trip
import TransitRevenue.Profit.Rollup
import TransitRevenue.Audit
import TransitRevenue.Audit.Broker
import TransitRevenue.Engine.Store
import TransitRevenue.Engine.Service
import TransitRevenue.Engine.Request
import TransitRevenue.Store.Memory
import TransitRevenue.Store.Document
import TransitRevenue.Store.FleetRecords
import TransitRevenue.Yaml.Mark
import TransitRevenue.Yaml.Token
import TransitRevenue.Yaml.Event
import TransitRevenue.Yaml.Scalar
import TransitRevenue.Yaml.Node
import TransitRevenue.Yaml.Printer
import TransitRevenue.Settings.File
import TransitRevenue.Config
import TransitRevenue.Config.DotEnv
import TransitRevenue.Config.Load
import TransitRevenue.Command.Grammar
import TransitRevenue.Command.Help
import TransitRevenue.Command.Arguments
import TransitRevenue.Command.Run
import TransitRevenue.Main
import TransitRevenue.Proofs.Except
import TransitRevenue.Proofs.Binary64
import TransitRevenue.Proofs.Binary64.Rounding
import TransitRevenue.Proofs.Binary64.Unpacked
import TransitRevenue.Proofs.Binary64.Arithmetic
import TransitRevenue.Proofs.Binary64.Rational
import TransitRevenue.Proofs.Number.Sum
import TransitRevenue.Proofs.Calendar
import TransitRevenue.Proofs.Engine.Atomicity
import TransitRevenue.Proofs.Store.Collections
import TransitRevenue.Proofs.Store.Filing
import TransitRevenue.Proofs.Store.Upserts
import TransitRevenue.Proofs.Profit.Rollup
import TransitRevenue.Proofs.Store.TripWindow
import TransitRevenue.Proofs.Engine.Profitability
import TransitRevenue.Proofs.Profit.Saturation
import TransitRevenue.Proofs.Profit.Partition
import TransitRevenue.Proofs.Demand.Band
import TransitRevenue.Proofs.Binary64.Order
import TransitRevenue.Proofs.Number.Order
import TransitRevenue.Proofs.Profit.Dashboard
import TransitRevenue.Proofs.Pricing.Bounds
import TransitRevenue.Proofs.Pricing.Monotone
import TransitRevenue.Proofs.Pricing.Band
import TransitRevenue.Proofs.Store.History
import TransitRevenue.Proofs.Demand.Trend
import TransitRevenue.Proofs.Number.ExactSum
import TransitRevenue.Proofs.Demand.Average
import TransitRevenue.Proofs.Profit.Breakdown
import TransitRevenue.Proofs.Store.Listing
import TransitRevenue.Proofs.Store.CostJoin
import TransitRevenue.Proofs.Settings.Rules
import TransitRevenue.Proofs.Config.Overrides
import TransitRevenue.Proofs.Command.Outcome
import TransitRevenue.Proofs.Decimal.Shortest
import TransitRevenue.Proofs.Json.Number
import TransitRevenue.Proofs.Json.Strings
import TransitRevenue.Proofs.Json.RoundTrip
import TransitRevenue.Proofs.Audit.Publisher
