import TransitRevenue.Settings
import TransitRevenue.Demand.Season
import TransitRevenue.Number.Rounding
/-!
Ticket prices from occupancy, departure time, weekday and season.

The recommended price is the base price times four factors:
* demand, by occupancy: 0.75 below the low threshold, 0.95 below 60%, 1.10 below the high
  threshold, else 1.40;
* time of departure: the peak factor for hours 7–9 and 17–19, 0.80 at night (23–6), else 1.00;
* day: the weekend factor on Saturday and Sunday (else 1.00), times the season's multiplier
  (1.00 for a season without one);
then kept within `[base · min, base · max]` (bounds rounded to six places) and rounded to a
multiple of 5, half up. A rounded price that left the band is moved to the nearest multiple of 5
inside it, when the band holds one.

Quantities keep their kind: a factor given as an integer stays one, and the bounds of an
integral base and integral fractions are integers.
-/

namespace TransitRevenue

namespace Pricing

/-- Passengers per seat in percent; 0% without seats. -/
def occupancyRate (passengers capacity : Number) : Except Fault Number := do
  if capacity.le (.int 0) then return .float 0.0
  (← passengers.div capacity).mul (.int 100)

/-- The demand factor of an occupancy, given the low and high thresholds. -/
def demandFactor (occupancy low high : Number) : Float :=
  if occupancy.lt low then 0.75
  else if occupancy.lt (.float 60.0) then 0.95
  else if occupancy.lt high then 1.10
  else 1.40

/-- Whether an hour is a peak hour: 7 to 9 or 17 to 19. -/
def isPeakHour (hour : Nat) : Bool := (7 ≤ hour && hour ≤ 9) || (17 ≤ hour && hour ≤ 19)

/-- The time factor of a departure: the peak factor as given, 0.80 at night, else 1.00. -/
def timeFactor (departure : Moment) (peak : Number) : Number :=
  if isPeakHour departure.hour then peak
  else if departure.hour ≥ 23 || departure.hour ≤ 6 then .float 0.80
  else .float 1.00

/-- The configured multiplier of a season, if any. -/
def seasonMultiplier? (seasonal : List (String × Number)) (season : Season) : Option Number :=
  (seasonal.find? (·.1 == season.key)).map (·.2)

/-- The day factor of a departure: weekend or weekday base, times the season's multiplier. -/
def dayFactor (departure : Moment) (weekend : Number) (seasonal : List (String × Number)) :
    Except Fault Number :=
  let base := if departure.date.weekday ≥ 5 then weekend else .float 1.00
  base.mul ((seasonMultiplier? seasonal (Season.ofDate departure.date)).getD (.float 1.00))

/-- A price kept within the band around the base and rounded to a multiple of 5. -/
def applyBounds (base raw minFactor maxFactor : Number) : Except Fault Float := do
  let lower := Number.roundPlaces 6 (← base.mul minFactor)
  let upper := Number.roundPlaces 6 (← base.mul maxFactor)
  let unit := Number.float 5.0
  let price ← Number.roundToMultiple (Number.clamp raw lower upper) unit
  let price ←
    if price.lt lower then do
      let inside ← (Number.int (← (← lower.div unit).ceil)).mul unit
      pure (if inside.le upper then inside else price)
    else if upper.lt price then do
      let inside ← (Number.int (← (← upper.div unit).floor)).mul unit
      pure (if lower.le inside then inside else price)
    else pure price
  price.toFloat

/-- The recommended price for explicit factors. -/
def withFactors (base demand time day minFactor maxFactor : Number) : Except Fault Float := do
  let raw ← (← (← base.mul demand).mul time).mul day
  applyBounds base raw minFactor maxFactor

/-- How far a price moved, as a category. -/
inductive Category where
  | veryLow
  | low
  | normal
  | high
  | veryHigh
  deriving BEq, Repr, Inhabited, DecidableEq

namespace Category

/-- The category of a change in percent: down 20% or more is very low, down 10% low, up 30%
very high, up 15% high. -/
def ofChange (percent : Number) : Category :=
  if percent.le (.float (-20.0)) then .veryLow
  else if percent.le (.float (-10.0)) then .low
  else if (Number.float 30.0).le percent then .veryHigh
  else if (Number.float 15.0).le percent then .high
  else .normal

/-- The category's key. -/
def key : Category → String
  | .veryLow => "very_low"
  | .low => "low"
  | .normal => "normal"
  | .high => "high"
  | .veryHigh => "very_high"

end Category

/-- The explanation of a price change in percent. -/
def explanation (percent : Number) : String :=
  if (Number.float 20.0).le percent then "Price increase due to high occupancy and peak hours"
  else if (Number.float 10.0).le percent then "Moderate price increase due to elevated demand"
  else if percent.le (.float (-15.0)) then "Significant discount to stimulate demand"
  else if percent.le (.float (-5.0)) then "Small discount due to low occupancy"
  else "Standard price matches current demand"

end Pricing

/-- A recommended ticket price with the factors that produced it. -/
structure Quote where
  base : Float
  recommended : Float
  occupancy : Float
  demand : Float
  time : Float
  day : Float
  change : Float
  changePercent : Float
  category : String
  explanation : String
  tripId : Option Int := none
  createdAt : Option Moment := none
  deriving Inhabited

namespace Quote

/-- The price recommendation for a trip with `passengers` of `capacity` seats taken. -/
def compute (base passengers capacity : Number) (departure : Moment) (s : Settings) :
    Except Fault Quote := do
  let occupancy ← Pricing.occupancyRate passengers capacity
  let demand := Pricing.demandFactor occupancy (.int s.lowDemand) (.int s.highDemand)
  let time := Pricing.timeFactor departure (.float s.peakFactor)
  let day ← Pricing.dayFactor departure (.float s.weekendFactor)
    (s.seasonal.map fun (k, c) => (k, .float c))
  let recommended ← Pricing.withFactors base (.float demand) time day (.float s.minFactor)
    (.float s.maxFactor)
  let change ← (Number.float recommended).sub base
  let percent ← if (Number.int 0).lt base then do (← change.div base).mul (.int 100)
    else pure (.float 0.0)
  return {
    base := ← base.toFloat, recommended, occupancy := ← occupancy.toFloat, demand,
    time := ← time.toFloat, day := ← day.toFloat, change := ← change.toFloat,
    changePercent := ← percent.toFloat, category := (Pricing.Category.ofChange percent).key,
    explanation := Pricing.explanation percent }

/-- The fields of a recommendation in declaration order. -/
def fields (q : Quote) (moment : Moment → Value) : List (String × Value) :=
  [("base_price", .float q.base), ("recommended_price", .float q.recommended),
   ("occupancy_rate", .float q.occupancy), ("demand_coefficient", .float q.demand),
   ("time_coefficient", .float q.time), ("day_coefficient", .float q.day),
   ("price_change", .float q.change), ("price_change_percent", .float q.changePercent),
   ("category", .str q.category), ("recommendation", .str q.explanation),
   ("trip_id", (q.tripId.map Value.int).getD .null),
   ("created_at", (q.createdAt.map moment).getD .null)]

/-- The recommendation as data. -/
def toValue (q : Quote) : Value := .obj (q.fields .time)

/-- The recommendation as plain data, moments as `zuluText`. -/
def toPlainValue (q : Quote) : Value := .obj (q.fields fun t => .str t.zuluText)

/-- A recommendation read from its fields. -/
def ofValue (v : Value) : Except Issue Quote := do
  let fs ← Fields.ofValue "PriceRecommendation" v
  return {
    base := ← fs.req "base_price" Field.float
    recommended := ← fs.req "recommended_price" Field.float
    occupancy := ← fs.req "occupancy_rate" Field.float
    demand := ← fs.req "demand_coefficient" Field.float
    time := ← fs.req "time_coefficient" Field.float
    day := ← fs.req "day_coefficient" Field.float
    change := ← fs.req "price_change" Field.float
    changePercent := ← fs.req "price_change_percent" Field.float
    category := ← fs.req "category" Field.str
    explanation := ← fs.req "recommendation" Field.str
    tripId := ← fs.maybe "trip_id" Field.int
    createdAt := ← fs.maybe "created_at" Field.moment }

end Quote

end TransitRevenue
