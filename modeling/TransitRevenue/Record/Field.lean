import TransitRevenue.Value
import TransitRevenue.Decimal.Read
import TransitRevenue.Calendar.Stamp
import TransitRevenue.Text.Encoding
/-!
Reading the fields of records from loosely typed values, leniently.

Each reader accepts what the field's meaning allows and says why it refuses the rest, in the
words of an `Issue` whose location is filled in by the caller:
* an integer field takes integers, booleans (as 1 and 0), doubles without a fraction strictly
  within 64 bits, and texts read by `intOfText`: a sign, then (at most 4300 bytes) leading zeros
  and underscores that are skipped, then digits, perhaps with a sign of their own and followed by
  a point and zeros; underscores may stand anywhere but at either end or beside another;
* a number field takes doubles, integers, booleans, and texts that read as a decimal numeral,
  `inf` or `nan`, after trimming blanks; failing that, the untrimmed text with its underscores
  removed, when none stands at either end or next to another;
* a text field takes texts only; a flag takes booleans, 0 and 1 (also as doubles), and the usual
  words in any case;
* a moment field takes moments, dates (at midnight), texts read as `Stamp.moment` or else
  `Stamp.date` reads them, and Unix times; a date field takes dates, moments at midnight, texts
  read as `Stamp.date` or else `Stamp.moment` reads them, and Unix times of a midnight.
Byte strings are read as the texts they encode in UTF-8 (bytes that encode none fail as a text
that does not read would), and moment and date fields read their bytes as they read a text's.
A mapping key that is not a text is located by `Value.keyText`.
Records are read field by field in their declared order, so the first issue reported is that of
the earliest field; a missing field without a default is `Field required`.
-/

namespace TransitRevenue

namespace Field

/-- The characters trimmed from both ends of a text before it is read as a number. -/
def isBlank (c : Char) : Bool :=
  let n := c.toNat
  (9 ≤ n && n ≤ 13) || n == 32 || n == 0x85 || n == 0xA0 || n == 0x1680 ||
    (0x2000 ≤ n && n ≤ 0x200A) || n == 0x2028 || n == 0x2029 || n == 0x202F || n == 0x205F ||
    n == 0x3000

/-- A text without blanks at either end. -/
def trimBlank (s : String) : String :=
  String.ofList ((s.toList.dropWhile isBlank).reverse.dropWhile isBlank).reverse

/-- A text with its underscores removed, when none stands at either end or next to another. -/
def dropUnderscores (s : String) : Option String :=
  if s.startsWith "_" || s.endsWith "_" || (s.splitOn "__").length > 1 then none
  else some (String.ofList (s.toList.filter (· != '_')))

/-- A failed read, without location. -/
def fail {α : Type} (msg : String) : Except Issue α := .error ⟨[], msg⟩

/-- A text read as a double, as number fields do: trimmed of blanks, or else, untrimmed, with its
underscores removed. -/
def floatOfText? (s : String) : Option Float :=
  match Decimal.readFloat? (trimBlank s) with
  | some x => some x
  | none => (dropUnderscores s).bind Decimal.readFloat?

/-- The message of an integer too large to be read. -/
def tooLarge : String := "Unable to parse input string as an integer, exceeded maximum size"

/-- What follows the zeros at the front of a numeral: zeros and underscores after a first zero
are skipped and the rest is kept whatever it starts with, except that a point keeps the character
before it; a numeral of zeros and underscores only keeps its last character. `none` when the
numeral does not start with a digit. -/
def afterLeadingZeros (cs : List Char) : Option (List Char) :=
  match cs with
  | '0' :: rest => some (skipZeros '0' rest)
  | c :: _ => if '1' ≤ c && c ≤ '9' then some cs else none
  | [] => none
where
  /-- Skip zeros and underscores, `last` being the character before the rest. -/
  skipZeros (last : Char) : List Char → List Char
    | [] => [last]
    | c :: r =>
      if c == '0' || c == '_' then skipZeros c r
      else if c == '.' then last :: c :: r
      else c :: r

/-- An integer numeral: an optional sign and ASCII digits, its underscores removed first, when
none stands at either end or beside another. -/
def signedNumeral? (cs : List Char) : Option Int := do
  let cs ← if cs.contains '_' then (dropUnderscores (String.ofList cs)).map String.toList
    else some cs
  let (neg, ds) := Decimal.readSign cs
  if ds.isEmpty || !ds.all Char.isDigit then none
  else
    let n : Int := Decimal.digitsValue ds
    some (if neg then -n else n)

/-- The whole part of a numeral that ends in a point and one or more zeros. -/
def wholeOfDecimal? (cs : List Char) : Option (List Char) :=
  let w := cs.takeWhile (· != '.')
  match cs.drop w.length with
  | '.' :: f => if !f.isEmpty && f.all (· == '0') then some w else none
  | _ => none

/-- A text read as an integer. Blanks are trimmed and a sign taken off; the rest (at most 4300
bytes) is read from after its leading zeros (`afterLeadingZeros`), as an integer numeral that may
carry a sign of its own, or else as one followed by a point and zeros. -/
def intOfText (s : String) : Except Issue Int :=
  let (neg, u) := Decimal.readSign (trimBlank s).toList
  if (String.ofList u).utf8ByteSize > 4300 then fail tooLarge
  else
    let value? := (afterLeadingZeros u).bind fun r =>
      (signedNumeral? r).orElse fun _ => (wholeOfDecimal? r).bind signedNumeral?
    match value? with
    | some n => .ok (if neg then -n else n)
    | none => fail "Input should be a valid integer, unable to parse string as an integer"

/-- An integral double as an integer, when it lies strictly within 64 bits. -/
def intOfFloat (x : Float) : Except Issue Int :=
  match Extended.ofFloat? x with
  | some (.finite q) =>
    if q.den != 1 then fail "Input should be a valid integer, got a number with a fractional part"
    else if -Int.pow 2 63 < q.num && q.num < Int.pow 2 63 then .ok q.num
    else fail tooLarge
  | _ => fail "Input should be a finite number"

/-- An integer field. -/
def int : Value → Except Issue Int
  | .int n => .ok n
  | .bool b => .ok (if b then 1 else 0)
  | .float x => intOfFloat x
  | .str s => intOfText s
  | .bytes b =>
    match Encoding.decodeUtf8 b with
    | .ok s => intOfText s
    | .error _ => fail "Input should be a valid integer, unable to parse string as an integer"
  | _ => fail "Input should be a valid integer"

/-- A number field, as a double. -/
def float : Value → Except Issue Float
  | .float x => .ok x
  | .int n =>
    match Number.intToFloat n with
    | .ok x => .ok x
    | .error _ => fail "Input should be a valid number"
  | .bool b => .ok (if b then 1.0 else 0.0)
  | .str s =>
    match floatOfText? s with
    | some x => .ok x
    | none => fail "Input should be a valid number, unable to parse string as a number"
  | .bytes b =>
    match (Encoding.decodeUtf8 b).toOption.bind floatOfText? with
    | some x => .ok x
    | none => fail "Input should be a valid number, unable to parse string as a number"
  | _ => fail "Input should be a valid number"

/-- A text field. -/
def str : Value → Except Issue String
  | .str s => .ok s
  | .bytes b =>
    match Encoding.decodeUtf8 b with
    | .ok s => .ok s
    | .error _ => fail "Input should be a valid string, unable to parse raw data as a unicode string"
  | _ => fail "Input should be a valid string"

/-- The words a flag field reads as true and as false. -/
def trueWords : List String := ["1", "on", "t", "true", "y", "yes"]
def falseWords : List String := ["0", "off", "f", "false", "n", "no"]

/-- A flag given as a word, in any case. -/
def boolOfText (s : String) : Except Issue Bool :=
  let w := s.toLower
  if trueWords.contains w then .ok true else if falseWords.contains w then .ok false
  else fail "Input should be a valid boolean, unable to interpret input"

/-- A flag field. -/
def bool : Value → Except Issue Bool
  | .bool b => .ok b
  | .int n =>
    if n == 0 then .ok false else if n == 1 then .ok true
    else fail "Input should be a valid boolean, unable to interpret input"
  | .float x =>
    match intOfFloat x with
    | .ok 0 => .ok false
    | .ok 1 => .ok true
    | .ok _ => fail "Input should be a valid boolean, unable to interpret input"
    | .error _ => fail "Input should be a valid boolean"
  | .str s => boolOfText s
  | .bytes b =>
    match Encoding.decodeUtf8 b with
    | .ok s => boolOfText s
    | .error _ => fail "Input should be a valid boolean, unable to interpret input"
  | _ => fail "Input should be a valid boolean"

/-! ## Moments -/

/-- A moment as a record keeps it: year 0 cannot be kept. -/
def keepMoment (t : Moment) : Except Issue Moment :=
  if t.date.year < 1 then
    fail ("Input should be a valid datetime, year " ++ toString t.date.year ++ " is out of range")
  else .ok t

/-- A date as a record keeps it: year 0 cannot be kept. -/
def keepDate (d : Date) : Except Issue Date :=
  if d.year < 1 then
    fail ("Input should be a valid date in the format YYYY-MM-DD, year " ++ toString d.year ++
      " is out of range")
  else .ok d

/-- A moment read from a Unix time, or the issue of one out of range. -/
def unixMoment (r : Except String Moment) : Except Issue Moment :=
  match r with
  | .ok t => keepMoment t
  | .error e => fail ("Input should be a valid datetime, " ++ e)

/-- The largest magnitude of a 64-bit integer. -/
def int64Max : Int := 9223372036854775807

/-- A moment given as the bytes of a text: read as `Stamp.moment` or else `Stamp.date` reads
them. -/
def momentOfBytes (b : Iso.Bytes) : Except Issue Moment :=
  match Stamp.momentOfBytes b with
  | .ok t => keepMoment t
  | .error _ =>
    match Stamp.dateOfBytes b with
    | .ok d => keepMoment { date := d }
    | .error e => fail ("Input should be a valid datetime or date, " ++ e)

/-- A moment field. -/
def moment : Value → Except Issue Moment
  | .time t => .ok t
  | .date d => .ok { date := d }
  | .str s => momentOfBytes (Iso.Bytes.ofString s)
  | .bytes b => momentOfBytes ⟨b.map UInt8.toNat⟩
  | .int n =>
    if -int64Max - 1 ≤ n && n ≤ int64Max then unixMoment (Stamp.ofUnix n 0)
    else match Number.intToFloat n with
      | .ok x => unixMoment (Stamp.ofUnixFloat x)
      | .error _ => fail "Input should be a valid datetime"
  | .float x => unixMoment (Stamp.ofUnixFloat x)
  | _ => fail "Input should be a valid datetime"

/-- The day of a moment at exactly midnight. -/
def exactDay (t : Moment) : Except Issue Date :=
  if t.hour == 0 && t.minute == 0 && t.second == 0 && t.micro == 0 then keepDate t.date
  else fail "Datetimes provided to dates should have zero time - e.g. be exact dates"

/-- The day of a moment read from a Unix time, or the issue of one out of range. -/
def unixDay (r : Except String Moment) : Except Issue Date :=
  match r with
  | .ok t => exactDay t
  | .error e => fail ("Input should be a valid date or datetime, " ++ e)

/-- A date given as the bytes of a text: read as `Stamp.date` or else `Stamp.moment` reads them,
at exactly midnight. -/
def dateOfBytes (b : Iso.Bytes) : Except Issue Date :=
  match Stamp.dateOfBytes b with
  | .ok d => keepDate d
  | .error _ =>
    match Stamp.momentOfBytes b with
    | .ok t => exactDay t
    | .error e => fail ("Input should be a valid date or datetime, " ++ e)

/-- A date field: a date, a moment at exactly midnight, or a text naming one. -/
def date : Value → Except Issue Date
  | .date d => .ok d
  | .time t => exactDay t
  | .str s => dateOfBytes (Iso.Bytes.ofString s)
  | .bytes b => dateOfBytes ⟨b.map UInt8.toNat⟩
  | .int n =>
    if -int64Max - 1 ≤ n && n ≤ int64Max then unixDay (Stamp.ofUnix n 0)
    else match Number.intToFloat n with
      | .ok x => unixDay (Stamp.ofUnixFloat x)
      | .error _ => fail "Input should be a valid date"
  | .float x => unixDay (Stamp.ofUnixFloat x)
  | _ => fail "Input should be a valid date"

/-- An optional field: `null` is absent. -/
def optional {α : Type} (read : Value → Except Issue α) : Value → Except Issue (Option α)
  | .null => .ok none
  | v => (read v).map some

/-- A list field, items read in order, an issue located at its item's position. -/
def listOf {α : Type} (read : Value → Except Issue α) : Value → Except Issue (List α)
  | .list items =>
    (items.zipIdx.mapM fun (v, i) => (read v).mapError (Issue.within (toString i)))
  | _ => fail "Input should be a valid list"

/-- A mapping from texts to numbers, in insertion order; a key that is not a text is reported at
`<key>.[key]`, a bad value at `<key>`. -/
def numberMap : Value → Except Issue (List (String × Float))
  | .obj fields =>
    fields.mapM fun (k, v) => do
      let x ← (float v).mapError (Issue.within k)
      return (k, x)
  | .dict entries =>
    entries.mapM fun (k, v) => do
      let key ← (str k).mapError fun i => ⟨[k.keyText, "[key]"], i.msg⟩
      let x ← (float v).mapError (Issue.within k.keyText)
      return (key, x)
  | _ => fail "Input should be a valid dictionary"

end Field

/-! ## Records -/

/-- The fields given for a record, read one by one. -/
structure Fields where
  given : List (String × Value)

namespace Fields

/-- The fields of a mapping value, or the issue of a value that is not one, naming the record. -/
def ofValue (record : String) : Value → Except Issue Fields
  | .obj fs => .ok ⟨fs⟩
  | .dict es => .ok ⟨es.filterMap fun (k, v) => k.str?.map (·, v)⟩
  | _ => .error ⟨[], "Input should be a valid dictionary or instance of " ++ record⟩

/-- A required field. -/
def req {α : Type} (fs : Fields) (name : String) (read : Value → Except Issue α) :
    Except Issue α :=
  match Value.field? fs.given name with
  | some v => (read v).mapError (Issue.within name)
  | none => .error ⟨[name], "Field required"⟩

/-- A field with a default. -/
def opt {α : Type} (fs : Fields) (name : String) (dflt : α) (read : Value → Except Issue α) :
    Except Issue α :=
  match Value.field? fs.given name with
  | some v => (read v).mapError (Issue.within name)
  | none => .ok dflt

/-- An optional field, absent when missing or `null`. -/
def maybe {α : Type} (fs : Fields) (name : String) (read : Value → Except Issue α) :
    Except Issue (Option α) :=
  fs.opt name none (Field.optional read)

end Fields

end TransitRevenue
