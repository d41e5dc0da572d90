import TransitRevenue.Demand.Forecast
import TransitRevenue.Pricing
import TransitRevenue.Profit.Rollup
import TransitRevenue.Audit.Broker
/-!
What the engine needs from the outside: a store that answers questions about routes, trips and
earlier results and takes the engine's writes, and optionally a sink for audit events.

Reads are functions of the store's state. A write is a value (`Write`): a forecast, a trip
result, a price recommendation or new settings, applied by `Store.write`, which may fail, as a
database may refuse a write. The store also decides the creation time it keeps with a forecast
written at a given moment (`Store.createdAt`), since some stores record when a forecast was made;
`Store.stamp` is the forecast as stored, the same forecast with that time.
-/

namespace TransitRevenue

/-- A record the engine writes. -/
inductive Write where
  | forecast (f : Forecast)
  | tripResult (r : TripResult)
  | quote (q : Quote)
  | settings (s : Settings)
  deriving Inhabited

/-- The data an engine runs on, and where its results go. -/
class Store (σ : Type) where
  /-- The route with an id, if there is one. -/
  route? : σ → Int → Except Fault (Option RouteRef)
  /-- Weekly passenger totals of a route on a weekday, most recent week first, over the given
  number of weeks before the day of `now`. -/
  history : σ → Moment → Int → Int → Int → Except Fault (List Int)
  /-- What is known about a trip for costing it. -/
  costInputs : σ → Int → Except Fault CostInputs
  /-- The route a trip runs on, if known. -/
  routeForTrip : σ → Int → Except Fault (Option RouteRef)
  /-- How many trips are under way. -/
  activeTrips : σ → Except Fault Int
  /-- The creation time the store keeps with a forecast written at `now`. -/
  createdAt : Moment → Forecast → Option Moment
  /-- The stored forecasts of a route between two dates, in date order. -/
  forecasts : σ → Int → Date → Date → Except Fault (List Forecast)
  /-- The stored result of a trip. -/
  tripResult? : σ → Int → Except Fault (Option TripResult)
  /-- The stored results of the trips departing in a window (of one route, if given), latest
  departure first. -/
  tripResults : σ → Moment → Moment → Option Int → Except Fault (List TripResult)
  /-- The stored settings, if any. -/
  settings? : σ → Except Fault (Option Settings)
  /-- Apply a write, or fail leaving nothing written. -/
  write : σ → Write → Except Fault σ

/-- A forecast as the store keeps it when written at `now`: only its creation time changes. -/
def Store.stamp (σ : Type) [Store σ] (now : Moment) (f : Forecast) : Forecast :=
  { f with createdAt := Store.createdAt σ now f }

/-- A destination for audit events; publishing may fail, after changing the sink. -/
class AuditSink (α : Type) where
  publish : α → AuditEvent → α × Option Fault

/-- Recording sink: the events published so far, in order. -/
instance : AuditSink (List AuditEvent) where
  publish log e := (log ++ [e], none)

/-- Broker sink. -/
instance : AuditSink Publisher where
  publish p e := p.publish e

end TransitRevenue
