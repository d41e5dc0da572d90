import TransitRevenue.Engine.Store
import TransitRevenue.Store.Document
import TransitRevenue.Number.Rounding
import TransitRevenue.Text.Numeral
/-!
The fleet's records in a document database.

The collections are `routes`, `buses` and `trips` (keyed by `_id`), `passenger_events` and
`price_recommendations` (one document per event and per recommendation, tied to a trip by
`trip_id`), `trip_analytics` (one per trip), `demand_forecasts` (one per route and date, the
date kept as midnight UTC) and `system_settings` (the document with `_id` `"current"`).

The answers follow from the documents alone:
* a weekday's history takes the completed trips of the route that departed on that weekday in
  the given number of whole weeks before today (UTC), puts each in its week counted back from
  today (week 1 the most recent), and gives, oldest week last, the mean passenger count of each
  week with analysed trips, rounded half up;
* a trip's cost inputs join the trip, its route and its bus; passengers are the distinct devices
  that boarded, the peak is the largest count recorded after any event, and revenue is the sum
  of the trip's recommended prices, or the route's base fare for each passenger when there are
  none;
* a window's trip results are those of the trips departing in it, latest departure first.
-/

namespace TransitRevenue

/-- A number as a double, reading texts as decimals and truth values as one and zero. -/
def Value.asFloat : Value → Except Fault Float
  | .float x => .ok x
  | .int n => Number.intToFloat n
  | .bool b => .ok (if b then 1.0 else 0.0)
  | .str s =>
    match Numeral.readFloat? s with
    | some x => .ok x
    | none => .error (.notANumber (Text.quoted s))
  | v => .error (.wrongKind
      ("float() argument must be a string or a real number, not '" ++ v.kindName ++ "'"))

/-- Set the value of a key in a table kept as a list of pairs: the value of a loosely equal key
is replaced in place, keeping that key; otherwise the pair is appended. -/
def setKey {α : Type} (table : List (Value × α)) (k : Value) (v : α) : List (Value × α) :=
  if table.any (·.1.looseEq k) then table.map fun (k', v') => if k'.looseEq k then (k', v) else (k', v')
  else table ++ [(k, v)]

/-- The value of a key in a table kept as a list of pairs. -/
def keyed? {α : Type} (table : List (Value × α)) (k : Value) : Option α :=
  (table.find? (·.1.looseEq k)).map (·.2)

/-- The number of distinct values among some fields' values: the items of a list count one by one
and must each serve as a key, and mappings count once for each unequal one. -/
def distinctCount (xs : List Value) : Except Fault Nat := do
  let (keys, maps) ← xs.foldlM (fun (acc : List Value × List Value) v =>
    let (keys, maps) := acc
    match v with
    | .obj _ | .dict _ => pure (keys, if maps.any (·.looseEq v) then maps else maps ++ [v])
    | .list items => do
      let keys ← items.foldlM (fun keys x => do
        let x ← Value.asKey x
        pure (if keys.any (·.looseEq x) then keys else keys ++ [x])) keys
      pure (keys, maps)
    | x => pure (if keys.any (·.looseEq x) then keys else keys ++ [x], maps)) ([], [])
  return keys.length + maps.length

/-- The fleet's records: a database holding the collections above. -/
structure FleetRecords where
  db : Database := {}
  deriving Inhabited

namespace FleetRecords

/-- The id under which the settings are kept. -/
def settingsId : Value := .str "current"

/-- A field of a document, which must be there. -/
def field (doc : Value) (key : String) : Except Fault Value :=
  match doc.get? key with
  | some v => .ok v
  | none => .error (.noField key)

/-- The document of a collection with an id, or the record is missing. -/
def lookup (r : FleetRecords) (coll entity : String) (id : Value) : Except Fault Value :=
  match r.db.findOne? coll (·.fieldIs "_id" id) with
  | some doc => .ok doc
  | none => .error (.missing entity id.shown)

/-- A route's name: its origin and destination, `?` for one that is not given. -/
def routeName (route : Value) : String :=
  let city := fun k => ((route.get? k).map Value.shown).getD "?"
  city "origin_city" ++ " - " ++ city "destination_city"

/-- A record read from a document, its failed check as a fault. -/
def read {α : Type} (ofValue : Value → Except Issue α) (doc : Value) : Except Fault α :=
  (ofValue doc).mapError Fault.invalid

/-- Add a value to the list kept under a week, keeping weeks in order of first use. -/
def addToWeek (week : Int) (v : Value) : List (Int × List Value) → List (Int × List Value)
  | [] => [(week, [v])]
  | (w, vs) :: rest => if w == week then (w, vs ++ [v]) :: rest else (w, vs) :: addToWeek week v rest

/-- Whether a field's value lies in a window of moments, given as the tests of its two ends: a
moment when it passes both, a list when some moment of it passes the first and some the second. -/
def inWindow (lower upper : Moment → Bool) : Value → Bool
  | .time t => lower t && upper t
  | .list xs =>
    let times := xs.filterMap fun x => match x with
      | .time t => some t
      | _ => none
    times.any lower && times.any upper
  | _ => false

/-- The week of each completed trip of a route on a weekday in the weeks before `today`, counted
back from `today`, keyed by trip. -/
def weekOfTrips (r : FleetRecords) (today : Date) (routeId dow weeks : Int) :
    Except Fault (List (Value × Int)) :=
  let start := Moment.startOfDay (today.addDays (-7 * weeks))
  let finish := Moment.startOfDay today
  (r.db.docs "trips").foldlM (fun trips doc =>
    match doc.get? "scheduled_departure" with
    | some departure =>
      if doc.fieldIs "route_id" (.int routeId) && doc.fieldIs "status" (.str "completed") &&
          inWindow start.notAfter (·.before finish) departure then
        match departure with
        | .time t =>
          if (t.toUtc.date.dayOfWeek : Int) == dow then do
            let id ← Value.asKey ((doc.get? "_id").getD .null)
            pure (setKey trips id (Int.fdiv (t.toUtc.date.daysUntil today + 6) 7))
          else pure trips
        | other => .error (.noAttribute other.kindName "tzinfo")
      else pure trips
    | none => pure trips) []

/-- Weekly mean passenger counts of a route on a weekday, oldest week last. -/
def weeklyMeans (r : FleetRecords) (now : Moment) (routeId dow weeks : Int) :
    Except Fault (List Int) := do
  let trips ← r.weekOfTrips now.toUtc.date routeId dow weeks
  if trips.isEmpty then return []
  let analysed := (r.db.docs "trip_analytics").filter (·.fieldIn "trip_id" (trips.map (·.1)))
  let perWeek ← analysed.foldlM (fun acc doc => do
    let id ← Value.asKey (← field doc "trip_id")
    let week := (keyed? trips id).getD 0
    return addToWeek week (← field doc "total_passengers") acc) []
  let ordered := perWeek.mergeSort fun a b => a.1 ≤ b.1
  (ordered.filter fun (w, _) => 1 ≤ w && w ≤ weeks).mapM fun (_, vs) => do
    Number.roundHalfUp (← (← Value.sumAll vs).div (.int vs.length))

/-- What is known about a trip for costing it. -/
def costInputs (r : FleetRecords) (tripId : Int) : Except Fault CostInputs := do
  let trip ← r.lookup "trips" "trip" (.int tripId)
  let route ← r.lookup "routes" "route" (← field trip "route_id")
  let bus ← r.lookup "buses" "bus" (← field trip "bus_id")
  let events := r.db.find "passenger_events" (·.fieldIs "trip_id" (.int tripId))
  let boarded ← distinctCount (events.filterMap fun e =>
    if e.fieldIs "event_type" (.str "board") && e.fieldNotNull "device_local_id" then
      e.get? "device_local_id"
    else none)
  let peak ← Value.greatest (events.filterMap (·.getNonNull? "passenger_count_after"))
  let prices := r.db.find "price_recommendations" (·.fieldIs "trip_id" (.int tripId))
  let revenue ← if prices.isEmpty then do
      let fare ← (← field route "base_price").asFloat
      pure (fare * Float.ofNat boarded)
    else do
      (← Value.sumAll (prices.filterMap fun p => (p.get? "recommended_price").filter
        (·.numeric?.isSome))).toFloat
  let given := Value.obj [("trip_id", .int tripId),
    ("capacity", ← field bus "capacity"),
    ("fuel_consumption_per_100km", ← field bus "fuel_consumption_per_100km"),
    ("distance_km", ← field route "distance_km"),
    ("fuel_cost_per_km", ← field route "fuel_cost_per_km"),
    ("driver_cost_per_trip", ← field route "driver_cost_per_trip"),
    ("total_passengers", .int boarded),
    ("max_passengers", if peak.truthy then peak else .int 0),
    ("revenue", .float revenue)]
  read CostInputs.ofValue given

/-- The route a trip runs on, if the trip is known. -/
def routeForTrip (r : FleetRecords) (tripId : Int) : Except Fault (Option RouteRef) := do
  match r.db.findOne? "trips" (·.fieldIs "_id" (.int tripId)) with
  | none => return none
  | some trip =>
    let routeId ← field trip "route_id"
    let name := match r.db.findOne? "routes" (·.fieldIs "_id" routeId) with
      | some route => routeName route
      | none => RouteRef.unknownName
    return some (← read RouteRef.ofValue (.obj [("route_id", routeId), ("route_name", .str name)]))

/-- The route with an id, if there is one. -/
def route? (r : FleetRecords) (routeId : Int) : Option RouteRef :=
  (r.db.findOne? "routes" (·.fieldIs "_id" (.int routeId))).map fun route =>
    { routeId, name := routeName route }

/-- The moment a document is sorted by on a field: the field's moment, or the first item of a
list of them; `none` for anything else, which sorts below every moment. -/
def orderMoment : Value → Option Moment
  | .time t => some t
  | .list (.time t :: _) => some t
  | _ => none

/-- Whether one order moment is before another, `none` being before every moment. -/
def orderBefore : Option Moment → Option Moment → Bool
  | some a, some b => a.before b
  | none, some _ => true
  | _, none => false

/-- The stored forecasts of a route dated between two days, in date order. A date that is a list
is matched as a list is (`inWindow`) and sorted by its first item, and cannot be read back: its
document fails with the missing attribute of a moment. -/
def forecasts (r : FleetRecords) (routeId : Int) (start finish : Date) :
    Except Fault (List Forecast) :=
  let lo := Moment.startOfDay start
  let hi := Moment.startOfDay finish
  let found := (r.db.docs "demand_forecasts").filterMap fun doc =>
    match doc.get? "forecast_date" with
    | some date =>
      if doc.fieldIs "route_id" (.int routeId) && inWindow lo.notAfter (·.notAfter hi) date then
        some (doc, date)
      else none
    | none => none
  let ordered := found.mergeSort fun a b => !orderBefore (orderMoment b.2) (orderMoment a.2)
  ordered.mapM fun (doc, date) =>
    match date with
    | .time t =>
      match doc.withoutId with
      | .obj fs => read Forecast.ofValue (.obj (Value.setField fs "forecast_date" (.date t.toUtc.date)))
      | other => read Forecast.ofValue other
    | other => .error (.noAttribute other.kindName "tzinfo")

/-- The stored result of a trip. -/
def tripResult? (r : FleetRecords) (tripId : Int) : Except Fault (Option TripResult) :=
  match r.db.findOne? "trip_analytics" (·.fieldIs "trip_id" (.int tripId)) with
  | some doc => (read TripResult.ofValue doc.withoutId).map some
  | none => .ok none

/-- Insert into a list kept latest first, after items of the same moment. -/
def insertLatestFirst (x : Value × Option Moment) :
    List (Value × Option Moment) → List (Value × Option Moment)
  | [] => [x]
  | y :: ys => if orderBefore y.2 x.2 then x :: y :: ys else y :: insertLatestFirst x ys

/-- The stored results of the trips departing in a window, of one route if given, latest
departure first. -/
def tripResults (r : FleetRecords) (start finish : Moment) (routeId : Option Int) :
    Except Fault (List TripResult) := do
  let trips := (r.db.docs "trips").filterMap fun doc =>
    match doc.get? "scheduled_departure" with
    | some departure =>
      let onRoute := match routeId with
        | some id => doc.fieldIs "route_id" (.int id)
        | none => true
      if inWindow start.notAfter (·.notAfter finish) departure && onRoute then
        some ((doc.get? "_id").getD .null, orderMoment departure)
      else none
    | none => none
  let ids := (trips.foldl (fun acc x => insertLatestFirst x acc) []).map (·.1)
  if ids.isEmpty then return []
  let analysed := (r.db.docs "trip_analytics").filter (·.fieldIn "trip_id" ids)
  let found ← analysed.foldlM (fun acc doc => do
    let result ← read TripResult.ofValue doc.withoutId
    let id ← Value.asKey (← field doc "trip_id")
    return setKey acc id result) []
  return ids.filterMap (keyed? found)

/-- The stored settings, if any. -/
def settings? (r : FleetRecords) : Except Fault (Option Settings) :=
  match r.db.findOne? "system_settings" (·.fieldIs "_id" settingsId) with
  | some doc => (read Settings.ofValue doc.withoutId).map some
  | none => .ok none

/-- A forecast as it is kept: its date as midnight UTC. -/
def forecastDocument (f : Forecast) : Value :=
  .obj (Value.setField (f.fields .time) "forecast_date" (.time (Moment.startOfDay f.date)))

/-- Apply a write: forecasts and trip results replace the one of the same key, recommendations
are appended, and settings replace the current ones. -/
def write (r : FleetRecords) : Write → FleetRecords
  | .forecast f =>
    let day := Value.time (Moment.startOfDay f.date)
    let same := fun (doc : Value) => doc.fieldIs "route_id" (.int f.routeId) && doc.fieldIs "forecast_date" day
    { db := r.db.replaceOrInsert "demand_forecasts" same none (forecastDocument f) }
  | .tripResult t =>
    { db := r.db.replaceOrInsert "trip_analytics" (·.fieldIs "trip_id" (.int t.tripId)) none t.toValue }
  | .quote q => { db := r.db.insert "price_recommendations" q.toValue }
  | .settings s =>
    { db := r.db.replaceOrInsert "system_settings" (·.fieldIs "_id" settingsId) (some settingsId) s.toValue }

instance : Store FleetRecords where
  route? r id := .ok (r.route? id)
  history r now routeId dow weeks := r.weeklyMeans now routeId dow weeks
  costInputs := costInputs
  routeForTrip := routeForTrip
  activeTrips r := .ok (r.db.find "trips" (·.fieldIs "status" (.str "in_progress"))).length
  createdAt now _ := some now.toUtc
  forecasts := forecasts
  tripResult? := tripResult?
  tripResults := tripResults
  settings? := settings?
  write r w := .ok (r.write w)

end FleetRecords

end TransitRevenue
