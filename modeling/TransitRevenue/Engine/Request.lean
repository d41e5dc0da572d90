import TransitRevenue.Engine.Service
/-!
The engine as a service that answers one call at a time.

A `Request` names an operation of the engine with its arguments, and `Engine.serve` answers it:
the engine after the call and its reply or failure. The operations that change something run
their plans through `Engine.run`; the others answer from the engine as it is. `Engine.session`
answers a sequence of calls, each on the engine the previous one left.
-/

namespace TransitRevenue

/-- A call on the engine. -/
inductive Request where
  | forecastDemand (routeId : Int) (date? : Option Date)
  | forecasts (routeId : Int) (start finish : Date)
  | quote (base passengers capacity : Number) (departure : Moment)
  | submitPrice (tripId : Int) (base passengers capacity : Number) (departure : Moment)
  | computeTripResult (tripId : Int)
  | tripResult (tripId : Int)
  | profitability (start finish : Date) (routeId : Option Int)
  | dashboard (now? : Option Moment)
  | settings
  | updateSettings (s : Settings) (userId : Option Int)

namespace Request

/-- Whether a call only reads: everything but the forecast, price, trip result and settings
updates. -/
def isRead : Request → Bool
  | .forecastDemand .. | .submitPrice .. | .computeTripResult _ | .updateSettings .. => false
  | _ => true

end Request

/-- What a call answers. -/
inductive Reply where
  | forecast (r : ForecastReply)
  | forecasts (routeId : Int) (fs : List Forecast)
  | quote (q : Quote)
  | tripResult (r : TripResult)
  | report (r : Report)
  | dashboard (d : Dashboard)
  | settings (s : Settings)

namespace Engine

variable {σ α : Type} [Store σ] [AuditSink α]

/-- Carry out a plan and wrap its answer as a reply. -/
def perform {β : Type} (e : Engine σ α) (plan : Except Fault (Plan β)) (wrap : β → Reply) :
    Engine σ α × Except Fault Reply :=
  let (e, r) := e.run plan
  (e, r.map wrap)

/-- Answer one call. -/
def serve (e : Engine σ α) : Request → Engine σ α × Except Fault Reply
  | .forecastDemand routeId date? => e.perform (e.forecastDemand routeId date?) .forecast
  | .forecasts routeId start finish =>
    (e, (e.forecastsOf routeId start finish).map (.forecasts routeId))
  | .quote base passengers capacity departure =>
    (e, (e.quote base passengers capacity departure).map .quote)
  | .submitPrice tripId base passengers capacity departure =>
    e.perform (e.submitPrice tripId base passengers capacity departure) .quote
  | .computeTripResult tripId => e.perform (e.computeTripResult tripId) .tripResult
  | .tripResult tripId => (e, (e.tripResult tripId).map .tripResult)
  | .profitability start finish routeId => (e, (e.profitability start finish routeId).map .report)
  | .dashboard now? => (e, (e.dashboard now?).map .dashboard)
  | .settings => (e, e.settings.map .settings)
  | .updateSettings s userId => e.perform (e.updateSettings s userId) .settings

/-- Answer calls in order, each on the engine the previous one left. -/
def session (e : Engine σ α) : List Request → Engine σ α × List (Except Fault Reply)
  | [] => (e, [])
  | q :: qs =>
    let (e, r) := e.serve q
    let (e, rs) := e.session qs
    (e, r :: rs)

end Engine

end TransitRevenue
