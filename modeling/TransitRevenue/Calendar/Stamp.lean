import TransitRevenue.Calendar.Iso
import TransitRevenue.Decimal.Read
/-!
Reading the dates and moments that record fields are given as text or as Unix times.

The text is read byte by byte (UTF-8). A date is exactly `YYYY-MM-DD`. A moment is a date, a
separator (`T`, `t`, `_` or a blank), then `HH:MM`, optionally `:SS` and a fraction after `.` or
`,` (digits past the sixth are read and dropped), then optionally a zone: `Z`, `z`, or a sign (`+`,
`-` or the minus sign U+2212) with `HH:MM` or `HHMM`, less than a day. Nothing may follow. Years
are four digits, so year 0 reads here; whether it can be kept is decided by the reader of the
record.

Where a text is no such date or moment, an integer text (within 64 bits) or, for moments, a
decimal numeral (`Decimal.readFloat?`), is read as a Unix time. A Unix time whose size exceeds
`2·10^10` counts milliseconds; it must fall within the years 0 to 9999, and lands in UTC.

Every failure is named in the words of the error it stands for.
-/

namespace TransitRevenue

namespace Stamp

open Iso

/-- A clock reading at a byte position: hours, minutes, seconds and microseconds. -/
structure Clock where
  hour : Nat := 0
  minute : Nat := 0
  second : Nat := 0
  micro : Nat := 0
  deriving Inhabited

/-- The words of the failures. -/
def tooShort : String := "input is too short"
def extra : String := "unexpected extra characters at the end of the input"

/-- The digit at a byte position, or the failure `err`. -/
def digitAt (b : Bytes) (i : Nat) (err : String) : Except String Nat :=
  if i < b.size && isDigit (b.byte i) then .ok (b.byte i - 48) else .error err

/-- Two digits at a byte position, as a number. -/
def twoAt (b : Bytes) (i : Nat) (err : String) : Except String Nat := do
  return (← digitAt b i err) * 10 + (← digitAt b (i + 1) err)

/-- The date at the start of the bytes, its month and day checked. -/
def datePrefix (b : Bytes) : Except String Date := do
  if b.size < 10 then throw tooShort
  let y ← twoAt b 0 "invalid character in year"
  let y' ← twoAt b 2 "invalid character in year"
  unless b.byte 4 == code '-' do throw "invalid date separator, expected `-`"
  let month ← twoAt b 5 "invalid character in month"
  unless b.byte 7 == code '-' do throw "invalid date separator, expected `-`"
  let day ← twoAt b 8 "invalid character in day"
  let year : Int := (y * 100 + y' : Nat)
  unless 1 ≤ month && month ≤ 12 do throw "month value is outside expected range of 1-12"
  unless 1 ≤ day && day ≤ Date.monthLength year month do
    throw "day value is outside expected range"
  return ⟨year, month, day⟩

/-- A text that is exactly a date. -/
def exactDate (b : Bytes) : Except String Date := do
  let d ← datePrefix b
  if b.size > 10 then throw extra
  return d

/-- The fraction of a second from position `p`: its microseconds (digits past the sixth
dropped) and the position after its digits. -/
def fraction (b : Bytes) (p : Nat) : Except String (Nat × Nat) :=
  let ds := ((List.range (b.size - p)).map (p + ·)).takeWhile fun i => isDigit (b.byte i)
  if ds.isEmpty then .error "second fraction digits missing after `.`"
  else
    let kept := ds.take 6
    let v := kept.foldl (fun acc i => acc * 10 + (b.byte i - 48)) 0
    .ok (v * Nat.pow 10 (6 - kept.length), p + ds.length)

/-- The clock at position `o`: `HH:MM[:SS[.f…]]`, and the position after it. -/
def clockAt (b : Bytes) (o : Nat) : Except String (Clock × Nat) := do
  if b.size < o + 5 then throw tooShort
  let hour ← twoAt b o "invalid character in hour"
  unless b.byte (o + 2) == code ':' do throw "invalid time separator, expected `:`"
  let minute ← twoAt b (o + 3) "invalid character in minute"
  if hour > 23 then throw "hour value is outside expected range of 0-23"
  if minute > 59 then throw "minute value is outside expected range of 0-59"
  if o + 5 < b.size && b.byte (o + 5) == code ':' then
    let second ← twoAt b (o + 6) "invalid character in second"
    if second > 59 then throw "second value is outside expected range of 0-59"
    let sep := b.byte (o + 8)
    if o + 8 < b.size && (sep == code '.' || sep == code ',') then
      let (micro, p) ← fraction b (o + 9)
      return ({ hour, minute, second, micro }, p)
    return ({ hour, minute, second }, o + 8)
  return ({ hour, minute }, o + 5)

/-- The zone from position `p` to the end: `none` when there is none, else its offset in
seconds. -/
def zoneAt (b : Bytes) (p : Nat) : Except String (Option Int) := do
  if p ≥ b.size then return none
  let c := b.byte p
  if c == code 'Z' || c == code 'z' then
    if b.size > p + 1 then throw extra
    return some 0
  let (sign, p) ← if c == code '+' then pure ((1 : Int), p + 1)
    else if c == code '-' then pure (-1, p + 1)
    else if c == 226 && b.byte (p + 1) == 136 && b.byte (p + 2) == 146 then pure (-1, p + 3)
    else throw "invalid timezone sign"
  let hours ← twoAt b p "invalid timezone hour"
  let p := p + 2
  let p ← if p < b.size && b.byte p == code ':' then pure (p + 1)
    else if p < b.size && isDigit (b.byte p) then pure p
    else throw "invalid timezone minute"
  let minutes ← twoAt b p "invalid timezone minute"
  if minutes > 59 then throw "timezone minute value is outside expected range of 0-59"
  let total : Int := sign * ((hours * 3600 + minutes * 60 : Nat) : Int)
  if total.natAbs ≥ 86400 then throw "timezone offset must be less than 24 hours"
  if b.size > p + 2 then throw extra
  return some total

/-- A text that is exactly a moment: the date, the clock and the zone. -/
def exactMoment (b : Bytes) : Except String (Date × Clock × Option Int) := do
  let d ← datePrefix b
  let sep := b.byte 10
  unless b.size > 10 && (sep == code 'T' || sep == code 't' || sep == code ' ' || sep == code '_') do
    throw "invalid datetime separator, expected `T`, `t`, `_` or space"
  let (clock, p) ← clockAt b 11
  let zone ← zoneAt b p
  return (d, clock, zone)

/-! ## Unix times -/

/-- The bound on Unix times counted in seconds; larger ones count milliseconds. -/
def watershed : Int := 20000000000

/-- The Unix times of the first moment of year 0 and the last second of year 9999. -/
def firstSecond : Int := -62167219200
def lastSecond : Int := 253402300799

/-- The largest 64-bit integer. -/
def maxInt64 : Int := 9223372036854775807

/-- An integer text: an optional sign and decimal digits, within 64 bits. -/
def intText? (b : Bytes) : Option Int :=
  let (neg, ds) := match b.data with
    | 45 :: r => (true, r)
    | 43 :: r => (false, r)
    | r => (false, r)
  if ds.isEmpty || !ds.all isDigit then none
  else
    let n : Int := (ds.foldl (fun acc c => acc * 10 + (c - 48)) 0 : Nat)
    if n > maxInt64 then none else some (if neg then -n else n)

/-- A number text as a Unix time: an integer within 64 bits, or else a decimal numeral. -/
inductive Reading where
  | int (n : Int)
  | float (x : Float)
  | none

/-- Read a number text, given by its bytes, as a Unix time; bytes that are not UTF-8 text are no
number. -/
def numberText (b : Bytes) : Reading :=
  match intText? b with
  | some n => .int n
  | none =>
    match (String.fromUTF8? (ByteArray.mk (b.data.map Nat.toUInt8).toArray)).bind Decimal.readFloat? with
    | some x => .float x
    | none => .none

/-- The seconds and microseconds of a Unix time given with extra microseconds: a time past the
watershed counts milliseconds, and a fraction of a millisecond is rounded to microseconds. -/
def split (ts : Int) (micro : Nat) : Except String (Int × Nat) := do
  if ts < -maxInt64 then throw "dates before 0000 are not supported as unix timestamps"
  let (secs, extraMicro, micro) :=
    if ts.natAbs ≤ watershed.natAbs then (ts, 0, micro)
    else (Int.fdiv ts 1000, (Int.fmod ts 1000).toNat * 1000, (micro + 500) / 1000)
  let total := micro + extraMicro
  let secs := secs + (total / 1000000 : Nat)
  if secs < firstSecond then throw "dates before 0000 are not supported as unix timestamps"
  if secs > lastSecond then throw "dates after 9999 are not supported as unix timestamps"
  return (secs, total % 1000000)

/-- The moment, in UTC, of a Unix time with extra microseconds. -/
def ofUnix (ts : Int) (micro : Nat) : Except String Moment := do
  let (secs, micro) ← split ts micro
  return Moment.ofInstant (secs * 1000000 + micro) 0

/-- A double clamped to a 64-bit integer, rounding down; not-a-number gives zero. -/
def floorInt64 (x : Float) : Int :=
  if x.isNaN then 0
  else if x ≥ 9223372036854775807.0 then maxInt64
  else if x ≤ -9223372036854775808.0 then -maxInt64 - 1
  else
    let f := x.floor
    if f ≥ 0 then (f.toUInt64.toNat : Int) else -((-f).toUInt64.toNat : Int)

/-- The moment of a Unix time given as a double: its whole seconds rounded down, and the
microseconds from there to the time rounded to nearest. -/
def ofUnixFloat (x : Float) : Except String Moment := do
  if x.isNaN then throw "NaN values not permitted"
  let frac := (x - x.floor) * 1000000.0
  let micro := (frac.round).toUInt64.toNat
  ofUnix (floorInt64 x) micro

/-- The date of a Unix time that falls exactly on midnight. -/
def dateOfUnix (ts : Int) : Except String Date := do
  let secs := if ts.natAbs ≤ watershed.natAbs then ts else Int.fdiv ts 1000
  if secs < firstSecond then throw "dates before 0000 are not supported as unix timestamps"
  if secs > lastSecond then throw "dates after 9999 are not supported as unix timestamps"
  unless Int.fmod secs 86400 == 0 do throw "Timestamp is not an exact date"
  return (Moment.ofInstant (secs * 1000000) 0).date

/-! ## Texts -/

/-- A date text: exactly a date, or else an integer Unix time of an exact midnight; the failure
is that of the date reading when the text is no integer. -/
def dateOfBytes (b : Bytes) : Except String Date :=
  match exactDate b with
  | .ok d => .ok d
  | .error e =>
    match intText? b with
    | some n => dateOfUnix n
    | none => .error e

/-- A moment text: exactly a moment (naive unless a zone is given), or else a number read as a
Unix time; the failure is that of the moment reading when the text is no number. -/
def momentOfBytes (b : Bytes) : Except String Moment :=
  match exactMoment b with
  | .ok (d, c, zone) =>
    .ok { date := d, hour := c.hour, minute := c.minute, second := c.second, micro := c.micro,
          offset := zone }
  | .error e =>
    match numberText b with
    | .int n => ofUnix n 0
    | .float x => ofUnixFloat x
    | .none => .error e

/-- A date text, read from its UTF-8 bytes. -/
def date (s : String) : Except String Date := dateOfBytes (Bytes.ofString s)

/-- A moment text, read from its UTF-8 bytes. -/
def moment (s : String) : Except String Moment := momentOfBytes (Bytes.ofString s)

end Stamp

end TransitRevenue
