import TransitRevenue.Engine.Store
/-!
A store held in memory.

Routes, weekday histories and trips are given up front; where an id is given twice the later
entry counts. A trip's cost inputs are kept as given and read into a record when asked for, so a
trip without inputs is as good as missing. Forecasts are kept one per route and date, trip
results one per trip, each replaced in place; price recommendations are appended. The trips of a
window are those whose departure lies in it (ends included), latest first, trips with equal
departures in the order they were given.
-/

namespace TransitRevenue

/-- A trip as the memory store knows it. -/
structure TripEntry where
  tripId : Int
  routeId : Option Int := none
  departure : Option Moment := none
  inputs : Option Value := none
  deriving Inhabited

/-- The state of a memory store. -/
structure MemoryStore where
  routes : List RouteRef := []
  history : List (Int × Int × List Int) := []
  trips : List TripEntry := []
  active : Int := 0
  forecasts : List Forecast := []
  results : List TripResult := []
  quotes : List Quote := []
  settings : Option Settings := none
  deriving Inhabited

/-- The first `n` items, counting from the end when `n` is negative. -/
def takeSigned {β : Type} (xs : List β) (n : Int) : List β :=
  if 0 ≤ n then xs.take n.toNat else xs.take (xs.length - n.natAbs)

/-- Replace the first item matching `same`, or append. -/
def replaceOrAppend {β : Type} (same : β → Bool) (x : β) (xs : List β) : List β :=
  if xs.any same then
    let i := xs.findIdx same
    xs.set i x
  else xs ++ [x]

/-- Insert into a list kept in descending order of a key, after items with an equal key. -/
def insertDescending {β : Type} (key : β → Int) (x : β) : List β → List β
  | [] => [x]
  | y :: ys => if key y < key x then x :: y :: ys else y :: insertDescending key x ys

namespace MemoryStore

/-- The last entry of a trip. -/
def trip? (m : MemoryStore) (tripId : Int) : Option TripEntry :=
  m.trips.reverse.find? (·.tripId == tripId)

/-- The last entry of a route. -/
def route? (m : MemoryStore) (routeId : Int) : Option RouteRef :=
  m.routes.reverse.find? (·.routeId == routeId)

/-- The trips departing in a window, of one route if given, latest first. -/
def tripsIn (m : MemoryStore) (start finish : Moment) (routeId : Option Int) : List TripEntry :=
  let inWindow := m.trips.filter fun t =>
    match t.departure with
    | some d => start.notAfter d && d.notAfter finish &&
        (match routeId with
         | some r => t.routeId == some r
         | none => true)
    | none => false
  inWindow.foldl (fun acc t => insertDescending (fun t => (t.departure.map (·.instant)).getD 0) t acc) []

/-- Apply a write: forecasts replace the one of the same route and date, trip results the one of
the same trip, recommendations are appended and settings replace the current ones. -/
def write (m : MemoryStore) : Write → MemoryStore
  | .forecast f =>
    let same := fun (g : Forecast) => g.routeId == f.routeId && g.date == f.date
    { m with forecasts := replaceOrAppend same f m.forecasts }
  | .tripResult r => { m with results := replaceOrAppend (·.tripId == r.tripId) r m.results }
  | .quote q => { m with quotes := m.quotes ++ [q] }
  | .settings s => { m with settings := some s }

instance : Store MemoryStore where
  route? m id := .ok (m.route? id)
  history m _ routeId dow weeks :=
    .ok (takeSigned ((m.history.reverse.find? fun (r, d, _) => r == routeId && d == dow).map
      (·.2.2) |>.getD []) weeks)
  costInputs m id :=
    match m.trip? id with
    | some { inputs := some v, .. } =>
      let given := match v with
        | .obj fs => Value.obj (("trip_id", .int id) :: fs)
        | other => other
      CostInputs.ofValue given |>.mapError Fault.invalid
    | _ => .error (.missing "trip" (toString id))
  routeForTrip m id :=
    match m.trip? id with
    | some { routeId := some r, .. } =>
      .ok (some ⟨r, ((m.route? r).map (·.name)).getD RouteRef.unknownName⟩)
    | _ => .ok none
  activeTrips m := .ok m.active
  createdAt _ f := f.createdAt
  forecasts m routeId start finish :=
    let found := m.forecasts.filter fun f =>
      f.routeId == routeId && compare start f.date != .gt && compare f.date finish != .gt
    .ok (found.mergeSort fun a b => compare a.date b.date != .gt)
  tripResult? m id := .ok (m.results.find? (·.tripId == id))
  tripResults m start finish routeId :=
    .ok ((m.tripsIn start finish routeId).filterMap fun t => m.results.find? (·.tripId == t.tripId))
  settings? m := .ok m.settings
  write m w := .ok (m.write w)

end MemoryStore

end TransitRevenue
