import TransitRevenue.Calendar.Date
/-!
Moments: a date with a time of day to the microsecond, and an optional offset from UTC.

A moment with an offset ("aware") names one instant; `Moment.instant` counts it in microseconds
from 1970-01-01 00:00 UTC, and aware moments are compared by it. The fields (date, hour, …) are
always the local ones, read without conversion. A moment without an offset ("naive") has no
instant of its own; where one is needed it is taken as UTC.

Three texts are written: `isoText` (`2025-10-14T12:00:00+00:00`, microseconds only when not
zero), `spacedText` (the same with a space between date and time) and `zuluText`, which writes a
zero offset as `Z`. `Moment.parse?` reads the ISO forms `YYYY-MM-DD[Thh[:mm[:ss[.f…]]]]` with an
optional `Z` or `±hh:mm[:ss]`, the separator between date and time being any one character.
-/

namespace TransitRevenue

/-- A date and time of day, with an offset east of UTC in seconds when aware. -/
structure Moment where
  date : Date
  hour : Nat := 0
  minute : Nat := 0
  second : Nat := 0
  micro : Nat := 0
  offset : Option Int := none
  deriving BEq, Repr, Inhabited

namespace Moment

/-- Microseconds per second, minute, hour and day. -/
def usSecond : Int := 1000000
def usDay : Int := 86400 * usSecond

/-- Local wall-clock microseconds since 1970-01-01 00:00. -/
def localMicros (t : Moment) : Int :=
  t.date.epochDays * usDay +
    ((((t.hour : Int) * 60 + t.minute) * 60 + t.second) * usSecond + t.micro)

/-- The instant in microseconds since 1970-01-01 00:00 UTC; a naive moment counts as UTC. -/
def instant (t : Moment) : Int := t.localMicros - t.offset.getD 0 * usSecond

/-- The moment with the given local wall-clock microseconds and offset. -/
def ofLocalMicros (us : Int) (offset : Option Int) : Moment :=
  let days := us / usDay
  let rest := (us % usDay).toNat
  let secs := rest / 1000000
  { date := Date.ofEpochDays days, hour := secs / 3600, minute := secs / 60 % 60,
    second := secs % 60, micro := rest % 1000000, offset := offset }

/-- The moment of an instant, as seen at a given offset. -/
def ofInstant (us : Int) (offset : Int) : Moment :=
  ofLocalMicros (us + offset * usSecond) (some offset)

/-- The same instant written in UTC; a naive moment is taken as UTC. -/
def toUtc (t : Moment) : Moment := ofInstant t.instant 0

/-- Midnight UTC of a date. -/
def startOfDay (d : Date) : Moment := { date := d, offset := some 0 }

/-- The moment shifted by a number of microseconds, keeping its offset. -/
def addMicros (t : Moment) (us : Int) : Moment := ofLocalMicros (t.localMicros + us) t.offset

/-- The moment `n` days later, keeping its offset. -/
def addDays (t : Moment) (n : Int) : Moment := t.addMicros (n * usDay)

/-- The instant order of two moments. -/
def before (a b : Moment) : Bool := a.instant < b.instant

/-- Whether `a` is not after `b`. -/
def notAfter (a b : Moment) : Bool := a.instant ≤ b.instant

/-- The microseconds kept after truncating to milliseconds. -/
def truncateMillis (t : Moment) : Moment := { t with micro := t.micro / 1000 * 1000 }

/-! ## Texts -/

/-- `hh:mm:ss`, then `.ffffff` when there are microseconds. -/
def clockText (t : Moment) : String :=
  Date.pad 2 t.hour ++ ":" ++ Date.pad 2 t.minute ++ ":" ++ Date.pad 2 t.second ++
    (if t.micro == 0 then "" else "." ++ Date.pad 6 t.micro)

/-- An offset as `±hh:mm`, with `:ss` when it has seconds. -/
def offsetText (secs : Int) : String :=
  let sign := if secs < 0 then "-" else "+"
  let a := secs.natAbs
  sign ++ Date.pad 2 (a / 3600) ++ ":" ++ Date.pad 2 (a / 60 % 60) ++
    (if a % 60 == 0 then "" else ":" ++ Date.pad 2 (a % 60))

/-- Date, separator, clock and offset. -/
def textWith (sep : String) (zulu : Bool) (t : Moment) : String :=
  t.date.iso ++ sep ++ t.clockText ++
    match t.offset with
    | none => ""
    | some 0 => if zulu then "Z" else offsetText 0
    | some o => offsetText o

/-- ISO text with a `T`: `2025-10-14T12:00:00+00:00`. -/
def isoText (t : Moment) : String := textWith "T" false t

/-- ISO text with a space: `2025-10-14 12:00:00+00:00`. -/
def spacedText (t : Moment) : String := textWith " " false t

/-- ISO text with a `T` and a zero offset written `Z`: `2025-10-14T12:00:00Z`. -/
def zuluText (t : Moment) : String := textWith "T" true t

/-! ## Reading ISO text -/

/-- The value of a run of decimal digits. -/
def digitsValue (cs : List Char) : Nat :=
  cs.foldl (fun n c => n * 10 + (c.toNat - '0'.toNat)) 0

/-- Exactly `n` digits at the front of `cs`, and the rest. -/
def takeDigits (n : Nat) (cs : List Char) : Option (Nat × List Char) :=
  let ds := cs.take n
  if ds.length == n && ds.all Char.isDigit then some (digitsValue ds, cs.drop n) else none

/-- A date `YYYY-MM-DD` at the front of `cs`. -/
def readDate (cs : List Char) : Option (Date × List Char) := do
  let (y, r) ← takeDigits 4 cs
  match r with
  | '-' :: r =>
    let (m, r) ← takeDigits 2 r
    match r with
    | '-' :: r =>
      let (d, r) ← takeDigits 2 r
      let date : Date := ⟨y, m, d⟩
      if date.valid then some (date, r) else none
    | _ => none
  | _ => none

/-- Fraction digits: the first six give microseconds, later ones are dropped. -/
def fractionMicros (ds : List Char) : Nat :=
  let six := ds.take 6
  digitsValue six * Nat.pow 10 (6 - six.length)

/-- An offset `hh:mm[:ss]` (or `hhmm`) after its sign. -/
def readOffset (neg : Bool) (cs : List Char) : Option Int := do
  let (h, r) ← takeDigits 2 cs
  let (m, r) ← match r with
    | ':' :: r => takeDigits 2 r
    | [] => some (0, [])
    | r => takeDigits 2 r
  let (s, r) ← match r with
    | ':' :: r => takeDigits 2 r
    | r => some (0, r)
  if !r.isEmpty || h > 23 || m > 59 || s > 59 then none
  else
    let secs : Int := (h * 3600 + m * 60 + s : Nat)
    some (if neg then -secs else secs)

/-- A time of day with optional offset: `hh[:mm[:ss[.f…]]]` then `Z` or `±hh:mm`. -/
def readClock (date : Date) (cs : List Char) : Option Moment := do
  let (h, r) ← takeDigits 2 cs
  let (m, r) ← match r with
    | ':' :: r => takeDigits 2 r
    | r => some (0, r)
  let (s, r) ← match r with
    | ':' :: r => takeDigits 2 r
    | r => some (0, r)
  let (us, r) := match r with
    | c :: r =>
      if c == '.' || c == ',' then
        let ds := r.takeWhile Char.isDigit
        (fractionMicros ds, r.drop ds.length)
      else (0, c :: r)
    | [] => (0, [])
  let offset ← match r with
    | [] => some none
    | ['Z'] => some (some 0)
    | '+' :: r => (readOffset false r).map some
    | '-' :: r => (readOffset true r).map some
    | _ => none
  if h > 23 || m > 59 || s > 59 then none
  else some { date, hour := h, minute := m, second := s, micro := us, offset }

/-- A date, or a date and time, in ISO text; a date alone is its midnight, naive. -/
def parse? (s : String) : Option Moment := do
  let (date, r) ← readDate s.toList
  match r with
  | [] => some { date }
  | _ :: r => readClock date r

/-- A date alone in ISO text `YYYY-MM-DD`. -/
def parseDate? (s : String) : Option Date := do
  let (date, r) ← readDate s.toList
  if r.isEmpty then some date else none

end Moment

end TransitRevenue
