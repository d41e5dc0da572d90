import TransitRevenue.Profit.Trip
import TransitRevenue.Route
import TransitRevenue.Number.Sum
/-!
Profitability rolled up over a period, per route, and for the operations dashboard.

A group's profitability is recomputed from its totals (total profit over total costs, in
percent, with no limit), never averaged from its trips. Categories: below 0% unprofitable, below
20% low profit, below 50% normal, else (and for NaN) high profit.

Totals over all trips are column totals (`seriesSum`), averages column means; NaN entries are
left out of both, counting as zero in a total and not at all in a count. Per route, the trips
that have a route are grouped by route id in ascending order, NaN entries again left out. When
those trips already come in route order, a group's total is its first entry plus the pairwise
sum of the rest; otherwise each group is summed with compensation, trip by trip. A route's name
is the one given with its first trip.

Passenger counts are whole numbers stored as the column of all trips allows (`Storage`): in 64
bits, signed or unsigned, their totals wrap around; a route's total then passes through a double,
as the route's figures are read out together with its other, fractional, figures.
-/

namespace TransitRevenue

namespace Rollup

/-- How profitable a trip or route is. -/
inductive Category where
  | unprofitable
  | lowProfit
  | normal
  | highProfit
  deriving BEq, Repr, Inhabited, DecidableEq

namespace Category

/-- The category of a profitability in percent. -/
def ofPercent (p : Number) : Category :=
  if p.lt (.float 0.0) then .unprofitable
  else if p.lt (.float 20.0) then .lowProfit
  else if p.lt (.float 50.0) then .normal
  else .highProfit

/-- The category's key. -/
def key : Category → String
  | .unprofitable => "unprofitable"
  | .lowProfit => "low_profit"
  | .normal => "normal"
  | .highProfit => "high_profit"

/-- All categories. -/
def all : List Category := [.unprofitable, .lowProfit, .normal, .highProfit]

end Category

/-- Profit over costs in percent, without limit; 0 without costs. -/
def weighted (profit costs : Number) : Except Fault Number := do
  if costs.le (.int 0) then return .float 0.0
  (← profit.div costs).mul (.int 100)

/-- A double with NaN read as zero. -/
def nanAsZero (x : Float) : Float := if Binary64.isNaN x then 0.0 else x

/-- The total of a column, NaN entries counting as zero. -/
def columnSum (xs : List Float) : Float := seriesSum (xs.map nanAsZero)

/-- The mean of a column over its entries that are not NaN. -/
def columnMean (xs : List Float) : Float :=
  columnSum xs / (xs.filter (fun x => !Binary64.isNaN x)).length.toFloat

/-- Compensated sum of a group, leaving NaN entries out. -/
def groupCompensated (xs : List Float) : Float :=
  compensatedSum (xs.filter fun x => !Binary64.isNaN x)

/-- How a column of whole numbers is stored: as signed 64-bit integers when every entry fits
them, else as unsigned 64-bit integers when every entry fits those, else as exact integers. -/
inductive Storage where
  | signed
  | unsigned
  | exact
  deriving BEq, Inhabited

namespace Storage

/-- The storage of a column. -/
def of (xs : List Int) : Storage :=
  if xs.all fun x => -Int.pow 2 63 ≤ x && x < Int.pow 2 63 then .signed
  else if xs.all fun x => 0 ≤ x && x < Int.pow 2 64 then .unsigned
  else .exact

/-- The total of some entries as the storage keeps it: a 64-bit total wraps around. -/
def total (s : Storage) (xs : List Int) : Int :=
  let t := xs.foldr (· + ·) 0
  match s with
  | .signed => if t % Int.pow 2 64 < Int.pow 2 63 then t % Int.pow 2 64 else t % Int.pow 2 64 - Int.pow 2 64
  | .unsigned => t % Int.pow 2 64
  | .exact => t

/-- A route's total as it is read out: through a double, unless the storage is exact. -/
def readOut (s : Storage) (n : Int) : Except Fault Int :=
  match s with
  | .exact => .ok n
  | _ => do Number.floor (.float (← Number.intToFloat n))

end Storage

/-- The total of a column stored as its entries allow. -/
def wholeTotal (xs : List Int) : Int := (Storage.of xs).total xs

/-- The total of a group whose entries lie together: first entry plus the pairwise rest. -/
def groupAdjacent : List Float → Float
  | [] => 0.0
  | x :: rest => x + pairwiseSum rest

/-- One trip as the rollup sees it. -/
structure Row where
  tripId : Int
  passengers : Int
  occupancy : Float
  revenue : Float
  costs : Float
  profit : Float
  percent : Float

/-- The row of a trip result. -/
def Row.ofResult (r : TripResult) : Row :=
  { tripId := r.tripId, passengers := r.totalPassengers, occupancy := r.occupancy,
    revenue := r.revenue, costs := r.totalCosts, profit := r.profit, percent := r.percent }

end Rollup

/-- Totals over every trip of a period. -/
structure Summary where
  trips : Int := 0
  passengers : Int := 0
  revenue : Float := 0.0
  costs : Float := 0.0
  profit : Float := 0.0
  percent : Float := 0.0
  occupancy : Float := 0.0
  deriving Inhabited

/-- Totals over the trips of one route. -/
structure RouteTotals where
  route : RouteRef
  trips : Int := 0
  passengers : Int := 0
  occupancy : Float := 0.0
  revenue : Float := 0.0
  costs : Float := 0.0
  profit : Float := 0.0
  percent : Float := 0.0
  category : Rollup.Category := .unprofitable
  deriving Inhabited

/-- The profitability report of a period. -/
structure Report where
  periodFrom : Option String := none
  periodTo : Option String := none
  summary : Summary := {}
  byRoute : List RouteTotals := []
  deriving Inhabited

/-- Headline figures for the operations dashboard. -/
structure Dashboard where
  activeTrips : Int := 0
  passengers : Int := 0
  revenue : Float := 0.0
  profit : Float := 0.0
  occupancy : Float := 0.0
  percent : Float := 0.0
  profitable : Int := 0
  unprofitable : Int := 0
  byCategory : List (String × Int) := []
  deriving Inhabited

namespace Rollup

/-- The summary of all rows. -/
def summarize (rows : List Row) : Except Fault Summary := do
  let costs := columnSum (rows.map (·.costs))
  let profit := columnSum (rows.map (·.profit))
  let pct ← (weighted (.float profit) (.float costs)).bind Number.toFloat
  return { trips := rows.length, passengers := wholeTotal (rows.map (·.passengers)),
           revenue := columnSum (rows.map (·.revenue)), costs, profit, percent := pct,
           occupancy := columnMean (rows.map (·.occupancy)) }

/-- Insert a key into an ascending list of distinct integers. -/
def insertSorted (k : Int) : List Int → List Int
  | [] => [k]
  | x :: xs => if k < x then k :: x :: xs else if k == x then x :: xs else x :: insertSorted k xs

/-- Whether a list of integers never decreases. -/
def ascending : List Int → Bool
  | x :: y :: rest => x ≤ y && ascending (y :: rest)
  | _ => true

/-- The per-route totals of the rows that have a route, in ascending route order, passenger
counts stored as `storage`. -/
def byRoute (storage : Storage) (routed : List (Row × RouteRef)) :
    Except Fault (List RouteTotals) := do
  let keys := routed.foldl (fun ks (_, r) => insertSorted r.routeId ks) []
  let adjacent := ascending (routed.map (·.2.routeId))
  let total := fun (xs : List Float) =>
    if adjacent then groupAdjacent (xs.filter fun x => !Binary64.isNaN x) else groupCompensated xs
  keys.mapM fun k => do
    let rows := (routed.filter (·.2.routeId == k))
    let name := (rows.head?.map (·.2.name)).getD ""
    let rows := rows.map (·.1)
    let occupancies := rows.map (·.occupancy)
    let counted := (occupancies.filter fun x => !Binary64.isNaN x).length
    let revenue := total (rows.map (·.revenue))
    let costs := total (rows.map (·.costs))
    let profit := total (rows.map (·.profit))
    let pct ← (weighted (.float profit) (.float costs)).bind Number.toFloat
    let passengers ← storage.readOut (storage.total (rows.map (·.passengers)))
    return { route := ⟨k, name⟩, trips := rows.length, passengers,
             occupancy := total occupancies / counted.toFloat, revenue, costs, profit,
             percent := pct, category := Category.ofPercent (.float pct) }

/-- A trip's route, where a lookup that finds no record counts as no route. -/
def routeOf (lookup : Int → Except Fault (Option RouteRef)) (tripId : Int) :
    Except Fault (Option RouteRef) :=
  match lookup tripId with
  | .error (.missing _ _) => .ok none
  | r => r

/-- The profitability report of a list of trip results. -/
def report (results : List TripResult) (lookup : Int → Except Fault (Option RouteRef)) :
    Except Fault Report := do
  if results.isEmpty then return {}
  let rows := results.map Row.ofResult
  let summary ← summarize rows
  let routed ← rows.filterMapM fun row => do
    return (← routeOf lookup row.tripId).map (row, ·)
  return { summary, byRoute := ← byRoute (Storage.of (rows.map (·.passengers))) routed }

/-- The dashboard figures of a list of trip results. -/
def dashboard (results : List TripResult) (activeTrips : Int) : Dashboard :=
  if results.isEmpty then { activeTrips }
  else
    let rows := results.map Row.ofResult
    let percents := rows.map (·.percent)
    let cats := percents.map fun p => Category.ofPercent (.float p)
    -- each category met, in order of first appearance, then most frequent first: a stable sort
    let counts := (cats.eraseDups.map fun c => (c.key, ((cats.filter (· == c)).length : Int))).mergeSort
      fun a b => decide (b.2 ≤ a.2)
    { activeTrips, passengers := wholeTotal (rows.map (·.passengers)),
      revenue := columnSum (rows.map (·.revenue)), profit := columnSum (rows.map (·.profit)),
      occupancy := columnMean (rows.map (·.occupancy)), percent := columnMean percents,
      profitable := (percents.filter fun p => (0.0 : Float) ≤ p).length,
      unprofitable := (percents.filter fun p => p < (0.0 : Float)).length,
      byCategory := counts }

end Rollup

namespace Summary

/-- A summary as data. -/
def toValue (s : Summary) : Value :=
  .obj [("total_trips", .int s.trips), ("total_passengers", .int s.passengers),
    ("total_revenue", .float s.revenue), ("total_costs", .float s.costs),
    ("total_profit", .float s.profit), ("profitability_percent", .float s.percent),
    ("avg_occupancy", .float s.occupancy)]

end Summary

namespace RouteTotals

/-- A route's totals as data. -/
def toValue (r : RouteTotals) : Value :=
  .obj [("route_id", .int r.route.routeId), ("route_name", .str r.route.name),
    ("trips_count", .int r.trips), ("total_passengers", .int r.passengers),
    ("avg_occupancy", .float r.occupancy), ("revenue", .float r.revenue),
    ("costs", .float r.costs), ("profit", .float r.profit),
    ("profitability_percent", .float r.percent), ("category", .str r.category.key)]

end RouteTotals

namespace Report

/-- A report as data. -/
def toValue (r : Report) : Value :=
  .obj [("period_from", (r.periodFrom.map Value.str).getD .null),
    ("period_to", (r.periodTo.map Value.str).getD .null), ("summary", r.summary.toValue),
    ("by_route", .list (r.byRoute.map RouteTotals.toValue))]

end Report

namespace Dashboard

/-- Dashboard figures as data. -/
def toValue (d : Dashboard) : Value :=
  .obj [("active_trips", .int d.activeTrips), ("total_passengers", .int d.passengers),
    ("total_revenue", .float d.revenue), ("total_profit", .float d.profit),
    ("avg_occupancy", .float d.occupancy), ("avg_profitability", .float d.percent),
    ("profitable_trips", .int d.profitable), ("unprofitable_trips", .int d.unprofitable),
    ("trips_by_category", .obj (d.byCategory.map fun (k, n) => (k, .int n)))]

end Dashboard

end TransitRevenue
