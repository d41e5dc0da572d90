import TransitRevenue.Calendar.Moment
/-!
Reading dates and moments from ISO 8601 text, as command-line arguments are read.

The text is read byte by byte (UTF-8), a zero byte standing past its end, exactly as the checks
below rely on.

A date is `YYYY-MM-DD` or `YYYYMMDD`, or an ISO week date `YYYY-Www[-D]` / `YYYYWww[D]` (the
Monday when the day is left out). A date text has 7, 8 or 10 bytes and what follows the day is
not looked at, so `2025121500` is 15 December 2025.

A moment is a date, then any one separator character, then a clock `HH[:MM[:SS[.f…]]]` (or the
same without colons, `,` also marking the fraction) and an optional zone: `Z`, or `±HH[:MM[:SS]]`.
The fraction keeps at most six digits. Where the date ends is decided from its first characters
alone. The text must have at least seven characters. The clock is read up to the zone sign, and
a single stray character may stand before a zone. A zone of zero is UTC; a zone must lie strictly
within a day.

Every field is checked at the end: years 1 to 9999, existing days, hours to 23, minutes and
seconds to 59.
-/

namespace TransitRevenue

namespace Iso

/-- The bytes of a text; zero past its end. -/
structure Bytes where
  data : List Nat
  deriving Inhabited

namespace Bytes

/-- The bytes of a text in UTF-8. -/
def ofString (s : String) : Bytes := ⟨s.toUTF8.toList.map UInt8.toNat⟩

/-- The byte at a position, zero past the end. -/
def byte (b : Bytes) (i : Nat) : Nat := b.data.getD i 0

/-- The number of bytes. -/
def size (b : Bytes) : Nat := b.data.length

end Bytes

/-- Whether a byte is an ASCII digit. -/
def isDigit (c : Nat) : Bool := 48 ≤ c && c ≤ 57

/-- `n` digits from position `p`: their value and the position after them. -/
def digits (b : Bytes) (p n : Nat) : Option (Nat × Nat) :=
  (List.range n).foldlM (fun (v, q) _ =>
    let c := b.byte q
    if isDigit c then some (v * 10 + (c - 48), q + 1) else none) (0, p)

/-- The byte code of a character. -/
def code (c : Char) : Nat := c.toNat

/-- The Monday starting week 1 of an ISO year, as an ordinal. -/
def week1Monday (year : Int) : Int :=
  let first := (Date.mk year 1 1).ordinal
  let firstWeekday := (first + 6) % 7
  let monday := first - firstWeekday
  if firstWeekday > 3 then monday + 7 else monday

/-- The date of a day of an ISO week; week 53 only in years that have it. -/
def ofIsoWeek (year : Int) (week day : Nat) : Option Date :=
  let firstWeekday := ((Date.mk year 1 1).ordinal + 6) % 7
  let weekOk := (1 ≤ week && week < 53) ||
    (week == 53 && (firstWeekday == 3 || (firstWeekday == 2 && Date.isLeap year)))
  if year < 1 || !weekOk || day < 1 || day > 7 then none
  else some (Date.ofOrdinal (week1Monday year + ((week : Int) - 1) * 7 + day - 1))

/-- The date at the start of the text, read within `limit` bytes (`none`: no limit), not yet
checked for existence. -/
def readDate (b : Bytes) (limit : Option Nat) : Option Date := do
  let (year, p) ← digits b 0 4
  let sep := b.byte p == code '-'
  let p := if sep then p + 1 else p
  if b.byte p == code 'W' then
    let (week, p) ← digits b (p + 1) 2
    let within := match limit with
      | some n => decide (p < n)
      | none => true
    if within then
      if sep && b.byte p != code '-' then none
      else
        let p := if sep then p + 1 else p
        let (day, _) ← digits b p 1
        ofIsoWeek year week day
    else ofIsoWeek year week 1
  else
    let (month, p) ← digits b p 2
    if sep && b.byte p != code '-' then none
    else
      let p := if sep then p + 1 else p
      let (day, _) ← digits b p 2
      some ⟨year, month, day⟩

/-- A date text: 7, 8 or 10 bytes, naming a day that exists. -/
def date? (s : String) : Option Date := do
  let b := Bytes.ofString s
  if b.size != 7 && b.size != 8 && b.size != 10 then none
  let d ← readDate b (some b.size)
  if d.valid then some d else none

/-- Where the date of a moment text ends, decided from its first characters; `none` where
no date form fits. -/
def dateEnd (b : Bytes) : Option Nat :=
  let len := b.size
  if len == 7 then some 7
  else if b.byte 4 == code '-' then
    if b.byte 5 == code 'W' then
      if len > 8 && b.byte 8 == code '-' then
        if len == 9 then none
        else if len > 10 && isDigit (b.byte 10) then some 8
        else some 10
      else some 8
    else some 10
  else if b.byte 4 == code 'W' then
    let idx := ((List.range len).drop 7).find? (fun i => !isDigit (b.byte i)) |>.getD len
    if idx < 9 then some idx
    else if idx % 2 == 0 then some 7 else some 8
  else some 8

/-- A clock reading: hours, minutes, seconds, microseconds. -/
structure Clock where
  hour : Nat := 0
  minute : Nat := 0
  second : Nat := 0
  micro : Nat := 0

/-- The outcome of reading a clock: failed, or read with whether anything but the end of the
text followed it. -/
inductive ClockRead where
  | failed
  | read (c : Clock) (more : Bool)

/-- The microseconds of the first `n` (at most six) digits of a fraction. -/
def scaleFraction (v n : Nat) : Nat := v * Nat.pow 10 (6 - n)

/-- `HH[:MM[:SS[.f…]]]` (or without colons) from `start`, reading up to `stop`. -/
def readClock (b : Bytes) (start stop : Nat) : ClockRead :=
  let rec fields : Nat → Nat → Bool → List Nat → ClockRead
    | 0, p, _, vals => fraction p vals
    | k + 1, p, sep?, vals =>
      match digits b p 2 with
      | none => .failed
      | some (v, q) =>
        let vals := vals ++ [v]
        let c := b.byte q
        let q := q + 1
        let hasSep := if vals.length == 1 then c == code ':' else sep?
        if q ≥ stop then .read (clockOf vals 0) (c != 0)
        else if hasSep && c == code ':' then fields k q hasSep vals
        else if c == code '.' || c == code ',' then fraction q vals
        else if !hasSep then fields k (q - 1) hasSep vals
        else .failed
  fields 3 start true []
where
  clockOf (vals : List Nat) (micro : Nat) : Clock :=
    { hour := vals.getD 0 0, minute := vals.getD 1 0, second := vals.getD 2 0, micro }
  fraction (p : Nat) (vals : List Nat) : ClockRead :=
    let n := min 6 (stop - p)
    match digits b p n with
    | none => .failed
    | some (v, q) =>
      let rest := ((List.range b.size).drop q).find? (fun i => !isDigit (b.byte i)) |>.getD b.size
      .read (clockOf vals (scaleFraction v n)) (b.byte rest != 0)

/-- A time of day and zone from `start` to the end: the clock and the zone offset in seconds
(`none` when there is no zone). -/
def readTime (b : Bytes) (start : Nat) : Option (Clock × Option Int) :=
  let stop := b.size
  let zoneAt := ((List.range stop).drop start).find? (fun i =>
    let c := b.byte i
    c == code 'Z' || c == code '+' || c == code '-') |>.getD (max stop (start + 1))
  match readClock b start zoneAt with
  | .failed => none
  | .read clock more =>
    if zoneAt ≥ stop then (if more then none else some (clock, none))
    else if b.byte zoneAt == code 'Z' then
      if b.byte (zoneAt + 1) != 0 then none else some (clock, some 0)
    else
      let sign : Int := if b.byte zoneAt == code '-' then -1 else 1
      match readClock b (zoneAt + 1) stop with
      | .read z false =>
        let secs : Int := sign * (z.hour * 3600 + z.minute * 60 + z.second)
        let micros : Int := secs * 1000000 + sign * z.micro
        if micros.natAbs ≥ 86400 * 1000000 then none else some (clock, some secs)
      | _ => none

/-- The bytes of the UTF-8 character that starts with `lead`, as the separator is skipped: one for
ASCII, three or four for the leads of those lengths, and two otherwise. -/
def charWidth (lead : Nat) : Nat :=
  if lead < 0x80 then 1 else if lead / 16 == 0xE then 3 else if lead / 16 == 0xF then 4 else 2

/-- A moment text: a date, and a separator and time when the text goes on. -/
def moment? (s : String) : Option Moment := do
  if s.length < 7 then none
  let b := Bytes.ofString s
  let stop ← dateEnd b
  let d ← readDate b (some stop)
  let (clock, offset) ← if b.size > stop then readTime b (stop + charWidth (b.byte stop)) else some ({}, none)
  if !d.valid || clock.hour > 23 || clock.minute > 59 || clock.second > 59 then none
  else some { date := d, hour := clock.hour, minute := clock.minute, second := clock.second,
              micro := clock.micro, offset }

end Iso

end TransitRevenue
