import TransitRevenue.Yaml.Mark
import TransitRevenue.Record.Field
import TransitRevenue.Text.Numeral
import TransitRevenue.Text.Encoding
import TransitRevenue.Text.Base64
/-!
Scalars of YAML 1.1: which type a plain scalar has, and the value its text stands for.

A plain scalar's type is read off its text by the YAML 1.1 rules, tried in a fixed order among
those that apply to its first character: booleans (`yes`, `No`, `ON`, `false`, ...), floats
(`1.5`, `1.2e+3`, `.inf`, `1:30.5`; an exponent needs a sign and the mantissa a point, so `1e3`
is text), integers (`0b101`, `017`, `0x1F`, `1_000`, `1:30`), the merge key `<<`, null (`~`,
`null`, empty), timestamps (`2025-01-02`, `2025-01-02T03:04:05Z`) and the value key `=`. Any
other text, and any quoted scalar, is a string.

A scalar tagged as a timestamp must have exactly that form, blanks standing only before a zone;
a binary scalar is base64 of ASCII text.
-/

namespace TransitRevenue.Yaml

/-- A pattern over characters: the rests that remain after each way it matches a front part. -/
def Pattern := List Char → List (List Char)

namespace Pattern

/-- One character satisfying `p`. -/
def one (p : Char → Bool) : Pattern
  | c :: cs => if p c then [cs] else []
  | [] => []

/-- A fixed text. -/
def word (s : String) : Pattern := fun cs =>
  if s.toList.isPrefixOf cs then [cs.drop s.length] else []

/-- One pattern, then another. -/
def andThen (a b : Pattern) : Pattern := fun cs => (a cs).flatMap b

/-- Either pattern. -/
def or (a b : Pattern) : Pattern := fun cs => a cs ++ b cs

/-- A pattern, or nothing. -/
def opt (a : Pattern) : Pattern := fun cs => cs :: a cs

/-- Zero or more repetitions of a pattern that consumes at least one character each time. -/
def many (a : Pattern) : Pattern := fun cs => go (cs.length + 1) cs
where
  /-- At most `n` more repetitions. -/
  go : Nat → List Char → List (List Char)
    | 0, cs => [cs]
    | n + 1, cs => cs :: ((a cs).filter (·.length < cs.length)).flatMap (go n)

/-- One or more repetitions. -/
def many1 (a : Pattern) : Pattern := andThen a (many a)

/-- A sequence of patterns. -/
def all : List Pattern → Pattern
  | [] => fun cs => [cs]
  | p :: ps => andThen p (all ps)

/-- Any of some patterns. -/
def any : List Pattern → Pattern
  | [] => fun _ => []
  | p :: ps => or p (any ps)

/-- Whether the pattern matches the whole text (a final line break may be left over). -/
def fullMatch (p : Pattern) (s : String) : Bool :=
  (p s.toList).any fun rest => rest.isEmpty || rest == ['\n']

end Pattern

open Pattern

/-- A decimal digit. -/
def digit : Pattern := one Char.isDigit
/-- A decimal digit or `_`. -/
def digitOrBar : Pattern := one fun c => c.isDigit || c == '_'
/-- A sign. -/
def sign : Pattern := one fun c => c == '-' || c == '+'
/-- `:` and a base-60 digit pair. -/
def sexagesimalPart : Pattern := all [word ":", opt (one fun c => '0' ≤ c && c ≤ '5'), digit]
/-- An exponent with its sign. -/
def exponentPart : Pattern := all [one fun c => c == 'e' || c == 'E', sign, many1 digit]

/-- Texts of floats. -/
def floatPattern : Pattern := any [
  all [opt sign, digit, many digitOrBar, word ".", many digitOrBar, opt exponentPart],
  all [word ".", digit, many digitOrBar, opt exponentPart],
  all [opt sign, digit, many digitOrBar, many1 sexagesimalPart, word ".", many digitOrBar],
  all [opt sign, word ".", any [word "inf", word "Inf", word "INF"]],
  all [word ".", any [word "nan", word "NaN", word "NAN"]]]

/-- Texts of integers. -/
def intPattern : Pattern := any [
  all [opt sign, word "0b", many1 (one fun c => c == '0' || c == '1' || c == '_')],
  all [opt sign, word "0", many1 (one fun c => ('0' ≤ c && c ≤ '7') || c == '_')],
  all [opt sign, or (word "0") (all [one fun c => '1' ≤ c && c ≤ '9', many digitOrBar])],
  all [opt sign, word "0x", many1 (one fun c => isHexDigit c || c == '_')],
  all [opt sign, one (fun c => '1' ≤ c && c ≤ '9'), many digitOrBar, many1 sexagesimalPart]]

/-- Texts of timestamps: a date, or a date and time with an optional zone. -/
def timestampPattern : Pattern := any [
  all [digit, digit, digit, digit, word "-", digit, digit, word "-", digit, digit],
  all [digit, digit, digit, digit, word "-", digit, opt digit, word "-", digit, opt digit,
    or (one fun c => c == 'T' || c == 't') (many1 (one fun c => c == ' ' || c == '\t')),
    digit, opt digit, word ":", digit, digit, word ":", digit, digit,
    opt (all [word ".", many digit]),
    opt (all [many (one fun c => c == ' ' || c == '\t'),
      or (word "Z") (all [sign, digit, opt digit, opt (all [word ":", digit, digit])])])]]

/-- The words of booleans. -/
def boolWords : List String :=
  ["yes", "Yes", "YES", "no", "No", "NO", "true", "True", "TRUE", "false", "False", "FALSE",
   "on", "On", "ON", "off", "Off", "OFF"]

/-- The words of null. -/
def nullWords : List String := ["~", "null", "Null", "NULL", ""]

/-- The prefix of the standard tags. -/
def stdTag (name : String) : String := "tag:yaml.org,2002:" ++ name

/-- The type of a plain scalar, by the first rule that applies to its first character and
matches its text; strings otherwise. -/
def implicitTag (v : String) : String :=
  let first := v.toList.head?
  let starts := fun (cs : String) => match first with
    | some c => cs.contains c
    | none => false
  let isWord := fun (ws : List String) => ws.contains v || (v.endsWith "\n" && ws.contains (v.dropEnd 1).toString)
  let rules : List (Bool × Bool × String) := [
    (starts "yYnNtTfFoO", isWord boolWords, "bool"),
    (starts "-+0123456789.", Pattern.fullMatch floatPattern v, "float"),
    (starts "-+0123456789", Pattern.fullMatch intPattern v, "int"),
    (starts "<", v == "<<" || v == "<<\n", "merge"),
    (first.isNone || starts "~nN", isWord nullWords, "null"),
    (starts "0123456789", Pattern.fullMatch timestampPattern v, "timestamp"),
    (starts "=", v == "=" || v == "=\n", "value")]
  match rules.find? (fun (applies, hit, _) => applies && hit) with
  | some (_, _, name) => stdTag name
  | none => stdTag "str"

/-! ## Values of scalars -/

/-- An integer written in a base, read as `Numeral.readInt` reads it; the failure quotes the
text. -/
def integerOfText (s : String) (base : Nat) : Except Fault Int :=
  (Numeral.readInt s base).mapError fun e => Fault.outOfRange (Numeral.intMessage s base e)

/-- A double from a decimal text, read as `Numeral.readFloat?` reads it; the failure quotes the
text. -/
def floatOfText (s : String) : Except Fault Float :=
  match Numeral.readFloat? s with
  | some x => .ok x
  | none => .error (.notANumber (Text.quoted s))

/-- The sign of a numeral and the rest of it; fails on empty text. -/
def splitSign (cs : List Char) : Except Fault (Bool × List Char) :=
  match cs with
  | '-' :: rest => .ok (true, rest)
  | '+' :: rest => .ok (false, rest)
  | [] => .error .emptyText
  | cs => .ok (false, cs)

/-- The integer a scalar stands for: binary, hexadecimal, octal (leading zero), base 60
(`:`-separated) or decimal, underscores ignored. -/
def intValue (text : String) : Except Fault Int := do
  let (neg, cs) ← splitSign (text.toList.filter (· != '_'))
  let v := String.ofList cs
  let signed := fun (n : Int) => if neg then -n else n
  if v == "0" then return 0
  if v.startsWith "0b" then return signed (← integerOfText (String.ofList (cs.drop 2)) 2)
  if v.startsWith "0x" then return signed (← integerOfText (String.ofList (cs.drop 2)) 16)
  match cs with
  | '0' :: _ => return signed (← integerOfText v 8)
  | [] => throw .emptyText
  | _ =>
    if cs.contains ':' then
      let parts ← (v.splitOn ":").mapM (integerOfText · 10)
      return signed (parts.foldl (fun acc d => acc * 60 + d) 0)
    return signed (← integerOfText v 10)

/-- The double a scalar stands for: `.inf`, `.nan`, base 60 or decimal, underscores ignored and
letters read in lower case. In base 60 the parts are read as doubles and summed from the last,
each multiplied by the exact power of sixty of its place, that power rounded to a double (so a
place beyond the double range fails). -/
def floatValue (text : String) : Except Fault Float := do
  let lowered := Unicode.lower (String.ofList (text.toList.filter (· != '_')))
  let (neg, cs) ← splitSign lowered.toList
  let v := String.ofList cs
  let signed := fun (x : Float) => if neg then -x else x
  if v == ".inf" then return signed (1.0 / 0.0)
  if v == ".nan" then return (0.0 / 0.0)
  if cs.contains ':' then
    let parts ← (v.splitOn ":").mapM floatOfText
    let (total, _) ← parts.reverse.foldlM (fun (acc : Float × Nat) d => do
      let place ← Number.intToFloat acc.2
      pure (acc.1 + d * place, acc.2 * 60)) (0.0, 1)
    return signed total
  return signed (← floatOfText v)

/-- The truth value of a boolean word, in any case. -/
def boolValue (text : String) : Except Fault Bool :=
  let w := Unicode.lower text
  if ["yes", "true", "on"].contains w then .ok true
  else if ["no", "false", "off"].contains w then .ok false
  else .error (.noField w)

/-- Check a calendar date. -/
def checkDate (year : Int) (month day : Nat) : Except Fault Date := do
  if year < 1 || year > 9999 then throw (.outOfRange ("year " ++ toString year ++ " is out of range"))
  if month < 1 || month > 12 then throw (.outOfRange "month must be in 1..12")
  if day < 1 || day > Date.monthLength year month then throw (.outOfRange "day is out of range for month")
  return { year, month, day }

/-- Digits as a number. -/
def digitsNat (cs : List Char) : Nat := cs.foldl (fun acc c => acc * 10 + (c.toNat - '0'.toNat)) 0

/-- Up to two digits, as many as there are. -/
def takeUpTo2 (cs : List Char) : List Char × List Char :=
  match cs with
  | a :: b :: rest => if a.isDigit && b.isDigit then ([a, b], rest) else if a.isDigit then ([a], b :: rest) else ([], cs)
  | [a] => if a.isDigit then ([a], []) else ([], cs)
  | [] => ([], [])

/-- Exactly `n` digits. -/
def takeExactly (n : Nat) (cs : List Char) : Option (List Char × List Char) :=
  let ds := cs.take n
  if ds.length == n && ds.all Char.isDigit then some (ds, cs.drop n) else none

/-- The fields of a timestamp: year, month, day, and optionally the time of day with its
fraction digits and zone (`none` for a local time, `some none` for `Z`, else sign, hours and
minutes). -/
structure StampFields where
  year : Nat
  month : Nat
  day : Nat
  time : Option (Nat × Nat × Nat × List Char × Option (Option (Bool × Nat × Nat)))

/-- Read the fields of a timestamp text. -/
def stampFields (text : String) : Option StampFields := do
  let cs := text.toList
  let cs := if cs.getLast? == some '\n' then cs.dropLast else cs
  let (y, cs) ← takeExactly 4 cs
  let cs ← match cs with
    | '-' :: r => some r
    | _ => none
  let (mo, cs) := takeUpTo2 cs
  if mo.isEmpty then none
  let cs ← match cs with
    | '-' :: r => some r
    | _ => none
  let (d, cs) := takeUpTo2 cs
  if d.isEmpty then none
  let date := { year := digitsNat y, month := digitsNat mo, day := digitsNat d, time := none : StampFields }
  if cs.isEmpty then return date
  let cs ← match cs with
    | 'T' :: r | 't' :: r => some r
    | c :: _ => if c == ' ' || c == '\t' then some (cs.dropWhile fun c => c == ' ' || c == '\t') else none
    | [] => none
  let (h, cs) := takeUpTo2 cs
  if h.isEmpty then none
  let cs ← match cs with
    | ':' :: r => some r
    | _ => none
  let (mi, cs) ← takeExactly 2 cs
  let cs ← match cs with
    | ':' :: r => some r
    | _ => none
  let (se, cs) ← takeExactly 2 cs
  let (frac, cs) := match cs with
    | '.' :: r => (r.takeWhile Char.isDigit, r.dropWhile Char.isDigit)
    | _ => ([], cs)
  let zoned := cs.dropWhile fun c => c == ' ' || c == '\t'
  let zone ← match zoned with
    | [] => if cs.isEmpty then some none else none
    | ['Z'] => some (some none)
    | s :: r =>
      if s == '-' || s == '+' then do
        let (zh, r) := takeUpTo2 r
        if zh.isEmpty then none
        match r with
        | [] => some (some (some (s == '-', digitsNat zh, 0)))
        | ':' :: r =>
          let (zm, r) ← takeExactly 2 r
          if r.isEmpty then some (some (some (s == '-', digitsNat zh, digitsNat zm))) else none
        | _ => none
      else none
  return { date with time := some (digitsNat h, digitsNat mi, digitsNat se, frac, zone) }

/-- The bytes of a binary scalar: its text must be ASCII, and is read as base64. -/
def binaryValue (text : String) : Except String (List UInt8) :=
  match Encoding.asciiFault? text with
  | some why => .error ("failed to convert base64 data into ascii: " ++ why)
  | none =>
    (Base64.decode (text.toList.map fun c => c.toNat.toUInt8)).mapError
      ("failed to decode base64 data: " ++ ·)

/-- The date or moment a timestamp stands for. -/
def timestampValue (text : String) : Except Fault Value := do
  let some f := stampFields text | throw (.noAttribute "NoneType" "groupdict")
  match f.time with
  | none => return .date (← checkDate f.year f.month f.day)
  | some (h, mi, se, frac, zone) =>
    let micro := digitsNat ((frac.take 6) ++ List.replicate (6 - (frac.take 6).length) '0')
    let offset ← match zone with
      | none => pure none
      | some none => pure (some 0)
      | some (some (neg, zh, zm)) =>
        let secs : Int := (zh * 3600 + zm * 60 : Nat)
        let secs := if neg then -secs else secs
        if secs ≤ -86400 || secs ≥ 86400 then
          throw (.outOfRange ("offset must be a timedelta strictly between -timedelta(hours=24) and " ++
            "timedelta(hours=24), not " ++ Value.durationCode secs ++ "."))
        pure (some secs)
    let date ← checkDate f.year f.month f.day
    if h > 23 then throw (.outOfRange "hour must be in 0..23")
    if mi > 59 then throw (.outOfRange "minute must be in 0..59")
    if se > 59 then throw (.outOfRange "second must be in 0..59")
    return .time { date, hour := h, minute := mi, second := se, micro, offset }

end TransitRevenue.Yaml
