import TransitRevenue.Record.Field
/-!
The tunable business settings, and the rules they must satisfy.

Settings hold the fuel price, the multipliers for peak hours and weekends, the occupancy
thresholds that separate low, moderate and high demand, the band that a price may move within
(as fractions of the base price), and a multiplier per season, kept in the order given. Every
field has a default. `Settings.check` states the allowed ranges, tested in a fixed order; the
first rule broken is reported. A NaN lies in no range.
-/

namespace TransitRevenue

/-- The business settings. -/
structure Settings where
  fuelPrice : Float := 50.0
  peakFactor : Float := 1.2
  weekendFactor : Float := 1.15
  highDemand : Int := 85
  lowDemand : Int := 30
  minFactor : Float := 0.7
  maxFactor : Float := 1.5
  seasonal : List (String × Float) := [("new_year", 1.3), ("summer", 1.15), ("regular", 1.0)]
  updatedAt : Option Moment := none
  updatedBy : Option Int := none
  deriving Inhabited

namespace Settings

/-- Whether `lo ≤ x ≤ hi`; false for NaN. -/
def between (lo hi x : Float) : Bool := lo ≤ x && x ≤ hi

/-- The first range rule the settings break, in the order they are tested. -/
def violation? (s : Settings) : Option String :=
  if !between 10 200 s.fuelPrice then some "fuel price must be between 10 and 200"
  else if !between 0.5 3.0 s.peakFactor then
    some "peak hours coefficient must be between 0.5 and 3.0"
  else if !between 0.5 3.0 s.weekendFactor then
    some "weekend coefficient must be between 0.5 and 3.0"
  else if s.highDemand ≤ s.lowDemand then
    some "high demand threshold must be greater than low demand threshold"
  else if !(0 ≤ s.lowDemand && s.lowDemand ≤ 100) then
    some "low demand threshold must be between 0 and 100"
  else if !(0 ≤ s.highDemand && s.highDemand ≤ 100) then
    some "high demand threshold must be between 0 and 100"
  else if !((0 : Float) < s.minFactor && s.minFactor ≤ 1.0) then
    some "price min coefficient must be greater than 0 and at most 1.0"
  else if !between 1.0 5.0 s.maxFactor then
    some "price max coefficient must be between 1.0 and 5.0"
  else if s.maxFactor ≤ s.minFactor then
    some "price min coefficient must be less than price max coefficient"
  else
    (s.seasonal.find? fun (_, c) => !between 0.5 3.0 c).map fun (name, _) =>
      "seasonal coefficient for " ++ name ++ " must be between 0.5 and 3.0"

/-- The settings are within every range, or the first rule they break. -/
def check (s : Settings) : Except Fault Unit :=
  match s.violation? with
  | some text => .error (.invalidSettings text)
  | none => .ok ()

/-- Settings read from their fields; absent ones take their defaults, unknown ones are ignored. -/
def ofValue (v : Value) : Except Issue Settings := do
  let fs ← Fields.ofValue "SystemSettings" v
  let d : Settings := {}
  return {
    fuelPrice := ← fs.opt "fuel_price_per_liter" d.fuelPrice Field.float
    peakFactor := ← fs.opt "peak_hours_coefficient" d.peakFactor Field.float
    weekendFactor := ← fs.opt "weekend_coefficient" d.weekendFactor Field.float
    highDemand := ← fs.opt "high_demand_threshold" d.highDemand Field.int
    lowDemand := ← fs.opt "low_demand_threshold" d.lowDemand Field.int
    minFactor := ← fs.opt "price_min_coefficient" d.minFactor Field.float
    maxFactor := ← fs.opt "price_max_coefficient" d.maxFactor Field.float
    seasonal := ← fs.opt "seasonal_coefficients" d.seasonal Field.numberMap
    updatedAt := ← fs.maybe "updated_at" Field.moment
    updatedBy := ← fs.maybe "updated_by" Field.int }

/-- The fields of the settings in declaration order; `timeText` writes the update moment
(as a moment, or as text). -/
def fields (s : Settings) (moment : Moment → Value) : List (String × Value) :=
  [("fuel_price_per_liter", .float s.fuelPrice), ("peak_hours_coefficient", .float s.peakFactor),
   ("weekend_coefficient", .float s.weekendFactor), ("high_demand_threshold", .int s.highDemand),
   ("low_demand_threshold", .int s.lowDemand), ("price_min_coefficient", .float s.minFactor),
   ("price_max_coefficient", .float s.maxFactor),
   ("seasonal_coefficients", .obj (s.seasonal.map fun (k, c) => (k, .float c))),
   ("updated_at", (s.updatedAt.map moment).getD .null),
   ("updated_by", (s.updatedBy.map Value.int).getD .null)]

/-- The settings as data, the update moment kept as a moment. -/
def toValue (s : Settings) : Value := .obj (s.fields .time)

/-- The settings as plain data, the update moment as `zuluText`. -/
def toPlainValue (s : Settings) : Value := .obj (s.fields fun t => .str t.zuluText)

end Settings

end TransitRevenue
