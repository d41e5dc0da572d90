import TransitRevenue.Record.Field
/-!
The cost and profitability of one trip.

A trip's costs are fuel (`distance · consumption per 100 km / 100 · fuel cost per km`), the
driver's fee, and any further cost categories (`Contributor`s): a fixed amount, or a rate per
unit of one of the trip's figures. The categories form a breakdown by name, where a name given
twice keeps its first place and its last amount, and they are summed in that order from 0.0.
Profit is revenue minus all costs; profitability is profit over costs in percent, kept within
±9999.99 and 0 when there are no costs. Occupancy is the peak load over the seats, in percent.
-/

namespace TransitRevenue

/-- What is known about a trip for costing it. -/
structure CostInputs where
  tripId : Int
  capacity : Int
  consumption : Float
  distance : Float
  fuelCostPerKm : Float
  driverCost : Float
  totalPassengers : Int
  maxPassengers : Int
  revenue : Float
  deriving Inhabited

namespace CostInputs

/-- The trip's figures by name, as a rate can refer to them. -/
def figure? (i : CostInputs) (name : String) : Option Number :=
  match name with
  | "trip_id" => some (.int i.tripId)
  | "capacity" => some (.int i.capacity)
  | "fuel_consumption_per_100km" => some (.float i.consumption)
  | "distance_km" => some (.float i.distance)
  | "fuel_cost_per_km" => some (.float i.fuelCostPerKm)
  | "driver_cost_per_trip" => some (.float i.driverCost)
  | "total_passengers" => some (.int i.totalPassengers)
  | "max_passengers" => some (.int i.maxPassengers)
  | "revenue" => some (.float i.revenue)
  | _ => none

/-- The kind of what the inputs hold under a name that is not a figure but that every record
has: its settings and the names of its given fields (mappings and a set), its extra fields (none
are kept), and its methods. -/
def recordAttribute? : String → Option String
  | "model_extra" | "__pydantic_extra__" | "__pydantic_private__" => some "NoneType"
  | "model_config" | "model_fields" | "model_computed_fields" | "__dict__" => some "dict"
  | "model_fields_set" | "__pydantic_fields_set__" => some "set"
  | "__class__" => some "ModelMetaclass"
  | "model_construct" | "model_copy" | "model_dump" | "model_dump_json" | "model_json_schema"
  | "model_parametrized_name" | "model_post_init" | "model_rebuild" | "model_validate"
  | "model_validate_json" | "model_validate_strings" => some "method"
  | _ => none

/-- Cost inputs read from their fields. -/
def ofValue (v : Value) : Except Issue CostInputs := do
  let fs ← Fields.ofValue "TripCostInputs" v
  return {
    tripId := ← fs.req "trip_id" Field.int
    capacity := ← fs.req "capacity" Field.int
    consumption := ← fs.req "fuel_consumption_per_100km" Field.float
    distance := ← fs.req "distance_km" Field.float
    fuelCostPerKm := ← fs.req "fuel_cost_per_km" Field.float
    driverCost := ← fs.req "driver_cost_per_trip" Field.float
    totalPassengers := ← fs.req "total_passengers" Field.int
    maxPassengers := ← fs.req "max_passengers" Field.int
    revenue := ← fs.req "revenue" Field.float }

/-- Cost inputs as data. -/
def toValue (i : CostInputs) : Value :=
  .obj [("trip_id", .int i.tripId), ("capacity", .int i.capacity),
    ("fuel_consumption_per_100km", .float i.consumption), ("distance_km", .float i.distance),
    ("fuel_cost_per_km", .float i.fuelCostPerKm), ("driver_cost_per_trip", .float i.driverCost),
    ("total_passengers", .int i.totalPassengers), ("max_passengers", .int i.maxPassengers),
    ("revenue", .float i.revenue)]

/-- The fuel cost of a trip. -/
def fuelCost (i : CostInputs) : Float := i.distance * i.consumption / 100 * i.fuelCostPerKm

end CostInputs

/-- A further cost category of trips. -/
inductive Contributor where
  /-- The same amount for every trip. -/
  | fixed (name : String) (amount : Number)
  /-- A rate per unit of the trip figure named `per`. -/
  | perUnit (name : String) (per : String) (rate : Number)
  deriving Inhabited

namespace Contributor

/-- The category's name. -/
def name : Contributor → String
  | .fixed n _ => n
  | .perUnit n _ _ => n

/-- The category's amount for a trip, as a double. A rate on something the inputs hold that is
no number cannot be multiplied, and a rate on a name the inputs lack fails. -/
def amount (i : CostInputs) : Contributor → Except Fault Float
  | .fixed _ a => a.toFloat
  | .perUnit _ per rate =>
    match i.figure? per, CostInputs.recordAttribute? per with
    | some x, _ => do (← x.mul rate).toFloat
    | none, some kind => .error (.wrongKind ("unsupported operand type(s) for *: '" ++ kind ++
        "' and '" ++ (Value.ofNumber rate).kindName ++ "'"))
    | none, none => .error (.noAttribute "TripCostInputs" per)

end Contributor

namespace Profit

/-- Profit over costs in percent, within ±9999.99; 0 without costs. -/
def percent (profit costs : Number) : Except Fault Number := do
  if costs.le (.int 0) then return .float 0.0
  let p ← (← profit.div costs).mul (.int 100)
  return Number.clamp p (.float (-9999.99)) (.float 9999.99)

/-- Passengers over seats in percent; 0 without seats. -/
def occupancy (passengers capacity : Number) : Except Fault Number := do
  if capacity.le (.int 0) then return .float 0.0
  (← passengers.div capacity).mul (.int 100)

end Profit

/-- Cost, revenue and profitability of one trip. -/
structure TripResult where
  tripId : Int
  totalPassengers : Int
  maxPassengers : Int
  occupancy : Float
  revenue : Float
  fuelCost : Float
  driverCost : Float
  otherCosts : Float := 0.0
  breakdown : List (String × Float) := []
  profit : Float
  percent : Float
  calculatedAt : Option Moment := none
  deriving Inhabited

namespace TripResult

/-- All costs of the trip. -/
def totalCosts (r : TripResult) : Float := r.fuelCost + r.driverCost + r.otherCosts

/-- The breakdown of further costs by category, and their sum. -/
def breakdownOf (i : CostInputs) (cs : List Contributor) :
    Except Fault (List (String × Float) × Float) := do
  let amounts ← cs.mapM fun c => do return (c.name, ← c.amount i)
  let table := amounts.foldl (fun acc (n, a) => Value.setEntry acc n a) []
  return (table, table.foldl (fun s (_, a) => s + a) 0.0)

/-- The profitability of a trip from its cost inputs and further cost categories. -/
def compute (i : CostInputs) (cs : List Contributor) (now : Moment) : Except Fault TripResult := do
  let fuel := i.fuelCost
  let (table, other) ← breakdownOf i cs
  let total := fuel + i.driverCost + other
  let profit := i.revenue - total
  let pct ← (Profit.percent (.float profit) (.float total)).bind Number.toFloat
  let occ ← (Profit.occupancy (.int i.maxPassengers) (.int i.capacity)).bind Number.toFloat
  return { tripId := i.tripId, totalPassengers := i.totalPassengers, maxPassengers := i.maxPassengers,
           occupancy := occ, revenue := i.revenue, fuelCost := fuel, driverCost := i.driverCost,
           otherCosts := other, breakdown := table, profit, percent := pct, calculatedAt := some now }

/-- The fields of a trip result in declaration order. -/
def fields (r : TripResult) (moment : Moment → Value) : List (String × Value) :=
  [("trip_id", .int r.tripId), ("total_passengers", .int r.totalPassengers),
   ("max_passengers", .int r.maxPassengers), ("avg_occupancy_rate", .float r.occupancy),
   ("revenue", .float r.revenue), ("fuel_cost", .float r.fuelCost),
   ("driver_cost", .float r.driverCost), ("other_costs", .float r.otherCosts),
   ("cost_breakdown", .obj (r.breakdown.map fun (k, a) => (k, .float a))),
   ("profit", .float r.profit), ("profitability_percent", .float r.percent),
   ("calculated_at", (r.calculatedAt.map moment).getD .null)]

/-- A trip result as data. -/
def toValue (r : TripResult) : Value := .obj (r.fields .time)

/-- A trip result as plain data, moments as `zuluText`. -/
def toPlainValue (r : TripResult) : Value := .obj (r.fields fun t => .str t.zuluText)

/-- A trip result read from its fields. -/
def ofValue (v : Value) : Except Issue TripResult := do
  let fs ← Fields.ofValue "TripAnalytics" v
  return {
    tripId := ← fs.req "trip_id" Field.int
    totalPassengers := ← fs.req "total_passengers" Field.int
    maxPassengers := ← fs.req "max_passengers" Field.int
    occupancy := ← fs.req "avg_occupancy_rate" Field.float
    revenue := ← fs.req "revenue" Field.float
    fuelCost := ← fs.req "fuel_cost" Field.float
    driverCost := ← fs.req "driver_cost" Field.float
    otherCosts := ← fs.opt "other_costs" 0.0 Field.float
    breakdown := ← fs.opt "cost_breakdown" [] Field.numberMap
    profit := ← fs.req "profit" Field.float
    percent := ← fs.req "profitability_percent" Field.float
    calculatedAt := ← fs.maybe "calculated_at" Field.moment }

end TripResult

end TransitRevenue
