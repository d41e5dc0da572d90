/-!
Calendar dates of the proleptic Gregorian calendar.

A `Date` is a year, month and day; `Date.ordinal` numbers the days so that 1 January of year 1
is day 1, and `Date.ofOrdinal` goes back. Weekdays, day arithmetic and the ISO text
`YYYY-MM-DD` are read off these numbers. The conversion is the usual one through 400-year eras
of 146097 days, which is exact for every year.
-/

namespace TransitRevenue

/-- A calendar date. -/
structure Date where
  year : Int
  month : Nat
  day : Nat
  deriving BEq, Repr, Inhabited, DecidableEq

namespace Date

/-- Leap years: divisible by 4, and by 400 when divisible by 100. -/
def isLeap (y : Int) : Bool := y % 4 == 0 && (y % 100 != 0 || y % 400 == 0)

/-- The number of days of a month in a year. -/
def monthLength (y : Int) (m : Nat) : Nat :=
  match m with
  | 1 | 3 | 5 | 7 | 8 | 10 | 12 => 31
  | 4 | 6 | 9 | 11 => 30
  | 2 => if isLeap y then 29 else 28
  | _ => 0

/-- A date that exists, in years 1 to 9999. -/
def valid (d : Date) : Bool :=
  1 ≤ d.year && d.year ≤ 9999 && 1 ≤ d.month && d.month ≤ 12 && 1 ≤ d.day &&
    d.day ≤ monthLength d.year d.month

/-- Days from 1970-01-01 to a date, by eras of 400 years counted from 1 March of year 0
(integer division floors here, the divisors being positive). -/
def epochDays (d : Date) : Int :=
  let y : Int := if d.month ≤ 2 then d.year - 1 else d.year
  let era := y / 400
  let yoe := y - era * 400
  let mp : Int := if d.month > 2 then (d.month : Int) - 3 else (d.month : Int) + 9
  let doy := (153 * mp + 2) / 5 + d.day - 1
  let doe := yoe * 365 + yoe / 4 - yoe / 100 + doy
  era * 146097 + doe - 719468

/-- The date that lies a given number of days after 1970-01-01. -/
def ofEpochDays (n : Int) : Date :=
  let z := n + 719468
  let era := z / 146097
  let doe := z - era * 146097
  let yoe := (doe - doe / 1460 + doe / 36524 - doe / 146096) / 365
  let y := yoe + era * 400
  let doy := doe - (365 * yoe + yoe / 4 - yoe / 100)
  let mp := (5 * doy + 2) / 153
  let d := doy - (153 * mp + 2) / 5 + 1
  let m := if mp < 10 then mp + 3 else mp - 9
  { year := if m ≤ 2 then y + 1 else y, month := m.toNat, day := d.toNat }

/-- The day number with 1 January of year 1 as day 1. -/
def ordinal (d : Date) : Int := d.epochDays + 719163

/-- The date of a day number. -/
def ofOrdinal (n : Int) : Date := ofEpochDays (n - 719163)

/-- The date `n` days later (earlier for negative `n`). -/
def addDays (d : Date) (n : Int) : Date := ofEpochDays (d.epochDays + n)

/-- The weekday with Monday as 0 and Sunday as 6. -/
def weekday (d : Date) : Nat := ((d.ordinal + 6) % 7).toNat

/-- The weekday with Monday as 1 and Sunday as 7. -/
def isoWeekday (d : Date) : Nat := d.weekday + 1

/-- The weekday with Sunday as 0 and Saturday as 6. -/
def dayOfWeek (d : Date) : Nat := d.isoWeekday % 7

/-- Days from `a` to `b`. -/
def daysUntil (a b : Date) : Int := b.epochDays - a.epochDays

/-- A natural number as decimal text padded with zeros to `width` digits. -/
def pad (width : Nat) (n : Nat) : String :=
  let s := toString n
  String.ofList (List.replicate (width - s.length) '0') ++ s

/-- `YYYY-MM-DD`. -/
def iso (d : Date) : String :=
  pad 4 d.year.toNat ++ "-" ++ pad 2 d.month ++ "-" ++ pad 2 d.day

instance : Ord Date where
  compare a b := compare a.epochDays b.epochDays

end Date

end TransitRevenue
