import TransitRevenue.Calendar.Date
/-!
The travel calendar: the seasons that raise demand and prices, and the names of the weekdays.

Demand follows five calendar windows, tested in this order: the new-year window
(25 December to 10 January), the spring holidays (10 to 25 April), summer (June to August), the
rest of January, and the regular season. Prices know three seasons by name: the new-year window,
summer, and regular for everything else.
-/

namespace TransitRevenue

namespace Date

/-- 25 December to 10 January, both included. -/
def inNewYearWindow (d : Date) : Bool :=
  (d.month == 12 && d.day ≥ 25) || (d.month == 1 && d.day ≤ 10)

/-- June, July and August. -/
def inSummer (d : Date) : Bool := 6 ≤ d.month && d.month ≤ 8

/-- The demand multiplier of a date's calendar window: 1.30 around new year, 1.25 for the
spring holidays, 1.15 in summer, 1.10 for the rest of January, else 1.00. -/
def seasonFactor (d : Date) : Float :=
  if d.inNewYearWindow then 1.30
  else if d.month == 4 && 10 ≤ d.day && d.day ≤ 25 then 1.25
  else if d.inSummer then 1.15
  else if d.month == 1 && 11 ≤ d.day && d.day ≤ 31 then 1.10
  else 1.00

end Date

/-- The seasons that prices are set by. -/
inductive Season where
  | newYear
  | summer
  | regular
  deriving BEq, Repr, Inhabited, DecidableEq

namespace Season

/-- The season a date falls in; the new-year window wins over everything else. -/
def ofDate (d : Date) : Season :=
  if d.inNewYearWindow then .newYear else if d.inSummer then .summer else .regular

/-- The key under which a season's price multiplier is configured. -/
def key : Season → String
  | .newYear => "new_year"
  | .summer => "summer"
  | .regular => "regular"

end Season

/-- The names of the weekdays, Sunday first. -/
def weekdayNames : List String :=
  ["Sunday", "Monday", "Tuesday", "Wednesday", "Thursday", "Friday", "Saturday"]

/-- The name of a weekday numbered from Sunday as 0; `Unknown` outside 0 to 6. -/
def dayName (dow : Int) : String :=
  if 0 ≤ dow then weekdayNames.getD dow.toNat "Unknown" else "Unknown"

end TransitRevenue
