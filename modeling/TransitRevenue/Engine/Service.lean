import TransitRevenue.Engine.Store
/-!
The engine's operations: forecasts, prices, trip results, rollups and settings.

Every operation first reads what it needs from the store, then computes. The operations that
change something (`forecastDemand`, `submitPrice`, `computeTripResult`, `updateSettings`) end
with exactly one write of the record they return and, when an audit sink is configured, one
audit event about it; they are written as `Plan`s, so that failing before the write leaves no
trace by construction. The others return their answer with no effect at all. `Engine.run`
applies a plan's effects in order: the write, which the store may refuse, then the event, whose
publishing may fail too; a plan's answer is worked out after its effects, as a forecast's
capacity advice is.

The engine's clock is frozen; its `now` is the clock's instant in UTC.
-/

namespace TransitRevenue

/-- The engine's tunable parameters. -/
structure Tuning where
  weeks : Int := 12
  window : Int := 4
  trendWindow : Int := 8
  capacity : Int := 50
  contributors : List Contributor := []
  deriving Inhabited

/-- An effect of an operation. -/
inductive Effect where
  | write (w : Write)
  | publish (e : AuditEvent)
  deriving Inhabited

/-- A successful operation: its effects, in order, and its answer, worked out once they are
carried out; it may still fail then, with the effects in place. -/
structure Plan (β : Type) where
  effects : List Effect
  answer : Except Fault β

/-- A forecast with its weekday name and the action it suggests. -/
structure ForecastReply where
  forecast : Forecast
  dayName : String
  action : Demand.Action
  deriving Inhabited

namespace ForecastReply

/-- A reply as data. -/
def toValue (r : ForecastReply) : Value :=
  .obj [("forecast", r.forecast.toValue), ("day_name", .str r.dayName),
    ("recommendation", r.action.toValue)]

end ForecastReply

/-- An engine: its store, its audit sink if any, its clock and its tuning. -/
structure Engine (σ α : Type) where
  store : σ
  audit : Option α
  clock : Moment
  tuning : Tuning := {}

namespace Engine

variable {σ α : Type} [Store σ] [AuditSink α]

/-- The current instant in UTC. -/
def now (e : Engine σ α) : Moment := e.clock.toUtc

/-- The write of a record, then its audit event when a sink is configured. -/
def recordAndAudit (e : Engine σ α) (w : Write) (action entityType : String) (entityId : Value)
    (newValues : Value) (userId : Value := .null) : List Effect :=
  let event : AuditEvent :=
    { action, entityType := .str entityType, entityId, newValues, userId, createdAt := e.now }
  [.write w] ++ (if e.audit.isSome then [.publish event] else [])

/-- Fails unless the route exists. -/
def requireRoute (e : Engine σ α) (routeId : Int) : Except Fault Unit := do
  match ← Store.route? e.store routeId with
  | some _ => return ()
  | none => throw (.missing "route" (toString routeId))

/-! ## Forecasts -/

/-- Forecast a route's demand on a date (by default the day after today, in UTC), store it and
audit it. -/
def forecastDemand (e : Engine σ α) (routeId : Int) (date? : Option Date) :
    Except Fault (Plan ForecastReply) := do
  e.requireRoute routeId
  let date := date?.getD (e.now.date.addDays 1)
  let series ← Store.history e.store e.now routeId date.dayOfWeek e.tuning.weeks
  let forecast ← Forecast.compute routeId date series e.tuning.window e.tuning.trendWindow
  let stored := Store.stamp σ e.now forecast
  -- the capacity advice is worked out once the forecast is stored and audited
  return { effects := e.recordAndAudit (.forecast stored) "forecast.upsert" "demand_forecast"
             (.int routeId) stored.toPlainValue,
           answer := do
             let action ← Demand.recommend stored.predicted e.tuning.capacity
             return { forecast := stored, dayName := dayName stored.dayOfWeek, action } }

/-- The stored forecasts of a known route between two dates. -/
def forecastsOf (e : Engine σ α) (routeId : Int) (start finish : Date) :
    Except Fault (List Forecast) := do
  e.requireRoute routeId
  Store.forecasts e.store routeId start finish

/-! ## Settings -/

/-- The settings in force: the stored ones if they pass the range rules, the defaults if none
are stored. -/
def settings (e : Engine σ α) : Except Fault Settings := do
  match ← Store.settings? e.store with
  | none => return {}
  | some s => s.check; return s

/-- Replace the settings, stamped with the time and the user, when they pass the range rules. -/
def updateSettings (e : Engine σ α) (s : Settings) (userId : Option Int) :
    Except Fault (Plan Settings) := do
  s.check
  let updated := { s with updatedAt := some e.now, updatedBy := userId }
  let user : Value := (userId.map Value.int).getD .null
  return { effects := e.recordAndAudit (.settings updated) "settings.update" "system_settings" .null
             updated.toPlainValue user,
           answer := .ok updated }

/-! ## Prices -/

/-- The price recommendation for a departure under the settings in force. -/
def quote (e : Engine σ α) (base passengers capacity : Number) (departure : Moment) :
    Except Fault Quote := do
  Quote.compute base passengers capacity departure (← e.settings)

/-- Recommend a price for a trip and add it to the trip's price history. -/
def submitPrice (e : Engine σ α) (tripId : Int) (base passengers capacity : Number)
    (departure : Moment) : Except Fault (Plan Quote) := do
  let q ← e.quote base passengers capacity departure
  let q := { q with tripId := some tripId, createdAt := some e.now }
  return { effects := e.recordAndAudit (.quote q) "price_recommendation.append" "price_recommendation"
             (.int tripId) q.toPlainValue,
           answer := .ok q }

/-! ## Trip results and rollups -/

/-- Cost a trip, store the result and audit it. -/
def computeTripResult (e : Engine σ α) (tripId : Int) : Except Fault (Plan TripResult) := do
  let inputs ← Store.costInputs e.store tripId
  let r ← TripResult.compute inputs e.tuning.contributors e.now
  return { effects := e.recordAndAudit (.tripResult r) "trip_analytics.upsert" "trip_analytics"
             (.int tripId) r.toPlainValue,
           answer := .ok r }

/-- The stored result of a trip. -/
def tripResult (e : Engine σ α) (tripId : Int) : Except Fault TripResult := do
  match ← Store.tripResult? e.store tripId with
  | some r => return r
  | none => throw (.missing "trip_analytics" (toString tripId))

/-- The last microsecond of a day in UTC. -/
def endOfDay (d : Date) : Moment :=
  { date := d, hour := 23, minute := 59, second := 59, micro := 999999, offset := some 0 }

/-- The profitability report of the trips departing from the start of `start` to the end of
`finish` (UTC), of one route if given. -/
def profitability (e : Engine σ α) (start finish : Date) (routeId : Option Int) :
    Except Fault Report := do
  let results ← Store.tripResults e.store (Moment.startOfDay start) (endOfDay finish) routeId
  let routes ← results.mapM fun r => do return (r.tripId, ← Store.routeForTrip e.store r.tripId)
  let lookup := fun (tripId : Int) =>
    Except.ok ((routes.reverse.find? (·.1 == tripId)).bind (·.2))
  let report ← Rollup.report results lookup
  return { report with periodFrom := some start.iso, periodTo := some finish.iso }

/-- The dashboard of the week before `now` (by default the clock's time) up to a day after it. -/
def dashboard (e : Engine σ α) (now? : Option Moment) : Except Fault Dashboard := do
  let now := now?.getD e.now
  let start := Moment.startOfDay (now.date.addDays (-7))
  let active ← Store.activeTrips e.store
  let results ← Store.tripResults e.store start (now.addDays 1) none
  return Rollup.dashboard results active

/-! ## Running plans -/

/-- Apply effects in order; a refused write or a failed publish stops there. -/
def apply (e : Engine σ α) : List Effect → Engine σ α × Option Fault
  | [] => (e, none)
  | .write w :: rest =>
    match Store.write e.store w with
    | .ok store => { e with store }.apply rest
    | .error f => (e, some f)
  | .publish ev :: rest =>
    match e.audit with
    | none => e.apply rest
    | some sink =>
      let (sink, fault) := AuditSink.publish sink ev
      let e := { e with audit := some sink }
      match fault with
      | some f => (e, some f)
      | none => e.apply rest

/-- Carry out a plan: the engine after its effects, and its answer or failure. -/
def run {β : Type} (e : Engine σ α) (plan : Except Fault (Plan β)) : Engine σ α × Except Fault β :=
  match plan with
  | .error f => (e, .error f)
  | .ok p =>
    match e.apply p.effects with
    | (e, some f) => (e, .error f)
    | (e, none) => (e, p.answer)

end Engine

end TransitRevenue
