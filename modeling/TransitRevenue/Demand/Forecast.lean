import TransitRevenue.Demand.Season
import TransitRevenue.Calendar.Moment
import TransitRevenue.Number.Rounding
import TransitRevenue.Number.Sum
import TransitRevenue.Record.Field
/-!
Demand forecasts from a weekly passenger history.

The history of a route for one weekday lists weekly passenger totals, most recent first. A
forecast multiplies three factors:
* the moving average of the most recent `window` weeks (30 passengers with no history);
* the trend: the last four weeks' total over the four before, kept within `[0.7, 1.5]`, and
  neutral (1.0) until `trendWindow` weeks exist or when the earlier total is zero;
* the season factor of the target date.
The band around the prediction is `1.96` population standard deviations of the most recent
(up to four) weeks around the average, or `1.96 · 5` passengers with fewer than two weeks.

Averages follow the summation order of `pairwiseSum` over doubles, which the recorded figures
depend on, whenever the history is held as machine integers: all entries within 64 signed bits,
or none negative and all within 64 unsigned bits. Other histories are summed exactly and divided
once.
-/

namespace TransitRevenue

namespace Demand

/-- Whether every entry of a history fits in 64 signed bits. -/
def fitsWord (series : List Int) : Bool :=
  series.all fun n => -Int.pow 2 63 ≤ n && n < Int.pow 2 63

/-- Whether every entry of a history fits in 64 unsigned bits. -/
def fitsUnsignedWord (series : List Int) : Bool :=
  series.all fun n => 0 ≤ n && n < Int.pow 2 64

/-- The mean of a non-empty history: over doubles in pairwise order when the entries are held as
64-bit integers, signed or unsigned, else the exact total divided once. -/
def historyMean (series : List Int) : Except Fault Float := do
  if fitsWord series || fitsUnsignedWord series then
    let xs ← series.mapM Number.intToFloat
    return pairwiseSum xs / series.length.toFloat
  else
    match ← (Number.int (series.foldr (· + ·) 0)).div (.int series.length) with
    | .float x => return x
    | .int n => Number.intToFloat n

/-- The average of the most recent `window` weeks; 30 with no history. -/
def movingAverage (series : List Int) (window : Int) : Except Fault Float := do
  if window < 1 then throw (.windowTooSmall (toString window))
  if series.isEmpty then return 30.0
  historyMean (series.take window.toNat)

/-- The trend factor: the last four weeks over the four before, within `[0.7, 1.5]`; 1.0 with
fewer than `trendWindow` weeks or an earlier total of zero. -/
def trendCoefficient (series : List Int) (trendWindow : Int) : Except Fault Float := do
  if (series.length : Int) < trendWindow then return 1.0
  let recent := (series.take 4).foldr (· + ·) 0
  let previous := ((series.drop 4).take 4).foldr (· + ·) 0
  if previous == 0 then return 1.0
  match Number.clamp (← (Number.int recent).div (.int previous)) (.float 0.7) (.float 1.5) with
  | .float x => return x
  | .int n => Number.intToFloat n

/-- The population standard deviation of the most recent (up to four) weeks around `mean`;
5.0 with fewer than two weeks. -/
def stdDev (series : List Int) (mean : Float) : Except Fault Float := do
  if series.length < 2 then return 5.0
  let points ← (series.take 4).mapM Number.intToFloat
  let squares := points.map fun p => (p - mean) * (p - mean)
  return Float.sqrt (pairwiseSum squares / points.length.toFloat)

/-- What to do about a trip given its expected occupancy. -/
inductive Action where
  | addTrip
  | cancelTrip
  | reducePrice
  | increasePrice
  | normal
  deriving BEq, Repr, Inhabited, DecidableEq

namespace Action

/-- The action's key. -/
def key : Action → String
  | .addTrip => "add_trip"
  | .cancelTrip => "cancel_trip"
  | .reducePrice => "reduce_price"
  | .increasePrice => "increase_price"
  | .normal => "normal"

/-- The action explained. -/
def details : Action → String
  | .addTrip => "Add an extra trip, demand is expected to exceed capacity"
  | .cancelTrip => "Consider cancelling the trip, demand is expected to be very low"
  | .reducePrice => "Lower the price to attract passengers"
  | .increasePrice => "A price increase is possible due to high demand"
  | .normal => "Standard occupancy expected"

end Action

/-- The action for a predicted load on a bus: over 95% full adds a trip, under 25% suggests
cancelling, under 40% a lower price, over 80% a higher one. An empty or negative capacity
counts as 0% full. -/
def recommend (predicted capacity : Int) : Except Fault Action := do
  let occupancy ← if capacity > 0 then (Number.int predicted).div (.int capacity)
    else pure (Number.float 0.0)
  if (Number.float 0.95).lt occupancy then return .addTrip
  if occupancy.lt (.float 0.25) then return .cancelTrip
  if occupancy.lt (.float 0.40) then return .reducePrice
  if (Number.float 0.80).lt occupancy then return .increasePrice
  return .normal

end Demand

/-- A point forecast with its 95% band for one route on one date. -/
structure Forecast where
  routeId : Int
  date : Date
  dayOfWeek : Int
  predicted : Int
  lower : Int
  upper : Int
  trend : Float
  season : Float
  algorithm : String
  actual : Option Int := none
  createdAt : Option Moment := none
  deriving Inhabited

namespace Forecast

/-- The name under which forecasts of this method are stored. -/
def method : String := "moving_average_4w_trend_seasonality"

/-- The forecast of a route on a date from its weekday history (most recent week first). -/
def compute (routeId : Int) (date : Date) (series : List Int) (window trendWindow : Int) :
    Except Fault Forecast := do
  let avg ← Demand.movingAverage series window
  let trend ← Demand.trendCoefficient series trendWindow
  let season := date.seasonFactor
  let raw := avg * trend * season
  let pred := if (0.0 : Float) < raw then raw else 0.0
  let spread := 1.96 * (← Demand.stdDev series avg)
  let predicted ← Number.roundHalfUp (.float pred)
  let lower ← Number.roundHalfUp (.float (pred - spread))
  let upper ← Number.roundHalfUp (.float (pred + spread))
  return { routeId, date, dayOfWeek := date.dayOfWeek, predicted, lower := max 0 lower, upper,
           trend, season, algorithm := method }

/-! ## As data -/

/-- The fields of a forecast, in declaration order, moments written by `moment`. -/
def fields (f : Forecast) (moment : Moment → Value) : List (String × Value) :=
  [("route_id", .int f.routeId), ("forecast_date", .date f.date),
    ("day_of_week", .int f.dayOfWeek), ("predicted_passengers", .int f.predicted),
    ("confidence_lower", .int f.lower), ("confidence_upper", .int f.upper),
    ("trend_coefficient", .float f.trend), ("season_coefficient", .float f.season),
    ("algorithm", .str f.algorithm), ("actual_passengers", (f.actual.map Value.int).getD .null),
    ("created_at", (f.createdAt.map moment).getD .null)]

/-- A forecast as data. -/
def toValue (f : Forecast) : Value := .obj (f.fields .time)

/-- A forecast as plain data, moments as `zuluText`. -/
def toPlainValue (f : Forecast) : Value := .obj (f.fields fun t => .str t.zuluText)

/-- A forecast read from its fields. -/
def ofValue (v : Value) : Except Issue Forecast := do
  let fs ← Fields.ofValue "ForecastResult" v
  return {
    routeId := ← fs.req "route_id" Field.int
    date := ← fs.req "forecast_date" Field.date
    dayOfWeek := ← fs.req "day_of_week" Field.int
    predicted := ← fs.req "predicted_passengers" Field.int
    lower := ← fs.req "confidence_lower" Field.int
    upper := ← fs.req "confidence_upper" Field.int
    trend := ← fs.req "trend_coefficient" Field.float
    season := ← fs.req "season_coefficient" Field.float
    algorithm := ← fs.req "algorithm" Field.str
    actual := ← fs.maybe "actual_passengers" Field.int
    createdAt := ← fs.maybe "created_at" Field.moment }

end Forecast

namespace Demand.Action

/-- An action with its explanation, as data. -/
def toValue (a : Action) : Value := .obj [("action", .str a.key), ("details", .str a.details)]

end Demand.Action

end TransitRevenue
