import TransitRevenue.Value
import TransitRevenue.Decimal.Read
/-!
Reading integers and doubles from text the way the general-purpose conversions of text to
numbers do, for command-line options and for explicitly tagged markup scalars.

The text is first brought to ASCII: a decimal digit of any script becomes its ASCII digit, any
other whitespace becomes a blank, and the first other character outside ASCII becomes `?` (which
no numeral accepts), the text ending there. Then:
* an integer in base `b` is blanks, an optional sign, in bases 2, 8 and 16 an optional `0b`,
  `0o` or `0x` prefix (either case) that an underscore may follow, then digits of the base with
  single underscores between them, then blanks. In base 10 a numeral of more than 4300 digits is
  refused on its length alone, before anything after its digits is looked at;
* a double is blanks, a decimal numeral with an optional point and exponent or one of `inf`,
  `infinity` and `nan` in any case (each with an optional sign), then blanks; an underscore may
  stand only between two digits.
-/

namespace TransitRevenue

namespace Numeral

/-- The text brought to ASCII: digits of other scripts become ASCII digits, other whitespace
becomes a blank, and the first other character outside ASCII becomes `?`, ending the text. -/
def toAscii (s : String) : List Char :=
  let rec go : List Char → List Char
    | [] => []
    | c :: rest =>
      if c.toNat < 127 then c :: go rest
      else if Unicode.isSpace c then ' ' :: go rest
      else match Unicode.digitValue? c with
        | some d => Char.ofNat (48 + d) :: go rest
        | none => ['?']
  go s.toList

/-- An ASCII blank or line end. -/
def isAsciiSpace (c : Char) : Bool := c == ' ' || ('\t' ≤ c && c ≤ '\r')

/-- The value of a digit in any base up to 36; 99 for a character that is no digit. -/
def digitIn (c : Char) : Nat :=
  if '0' ≤ c && c ≤ '9' then c.toNat - '0'.toNat
  else if 'a' ≤ c && c ≤ 'z' then c.toNat - 'a'.toNat + 10
  else if 'A' ≤ c && c ≤ 'Z' then c.toNat - 'A'.toNat + 10
  else 99

/-- Why a text is no integer. -/
inductive IntFailure where
  /-- The text is not an integer numeral. -/
  | invalid
  /-- A decimal numeral with more digits than the limit; the count of its digits. -/
  | tooLong (digits : Nat)
  deriving Inhabited, BEq

/-- The most digits a decimal numeral may have. -/
def maxDigits : Nat := 4300

/-- The digits of a base at the front of `cs`, single underscores allowed between them: the
digits, what follows them, and whether the run is well formed (no doubled or trailing
underscore). -/
def digitRun (base : Nat) (cs : List Char) : List Nat × List Char × Bool :=
  let rec go : List Char → Char → List Nat × List Char × Bool
    | c :: rest, prev =>
      if c == '_' then
        if prev == '_' then ([], c :: rest, false)
        else
          let (ds, after, ok) := go rest '_'
          (ds, after, ok)
      else if digitIn c < base then
        let (ds, after, ok) := go rest c
        (digitIn c :: ds, after, ok)
      else ([], c :: rest, prev != '_')
    | [], prev => ([], [], prev != '_')
  go cs '0'

/-- The prefix a base may carry after the sign. -/
def basePrefix (base : Nat) : Option Char :=
  if base == 16 then some 'x' else if base == 8 then some 'o' else if base == 2 then some 'b'
  else none

/-- An integer numeral in a base from 2 to 36. -/
def readInt (s : String) (base : Nat) : Except IntFailure Int := do
  let cs := (toAscii s).dropWhile isAsciiSpace
  let (neg, cs) := match cs with
    | '-' :: r => (true, r)
    | '+' :: r => (false, r)
    | r => (false, r)
  let cs := match basePrefix base, cs with
    | some p, '0' :: x :: r => if x.toLower == p then (match r with | '_' :: r' => r' | r' => r') else cs
    | _, _ => cs
  if cs.head? == some '_' then throw .invalid
  let (ds, after, ok) := digitRun base cs
  unless ok do throw .invalid
  if base == 10 && ds.length > maxDigits then throw (.tooLong ds.length)
  if ds.isEmpty || !(after.all isAsciiSpace) then throw .invalid
  let n : Int := (ds.foldl (fun acc d => acc * base + d) 0 : Nat)
  return if neg then -n else n

/-- A numeral with its underscores removed, when each stands between two digits. -/
def withoutUnderscores (cs : List Char) : Option (List Char) :=
  let rec go : List Char → Char → Option (List Char)
    | [], prev => if prev == '_' then none else some []
    | '_' :: r, prev => if prev.isDigit then go r '_' else none
    | c :: r, prev =>
      if prev == '_' && !c.isDigit then none else (go r c).map (c :: ·)
  go cs '\x00'

/-- A decimal numeral as the nearest double. -/
def readFloat? (s : String) : Option Float := do
  let cs := toAscii s
  let cs ← if cs.contains '_' then withoutUnderscores cs else some cs
  let cs := ((cs.dropWhile isAsciiSpace).reverse.dropWhile isAsciiSpace).reverse
  Decimal.readFloat? (String.ofList cs)

/-- The message of a text that is no integer in a base, quoting at most 200 characters of it. -/
def intMessage (s : String) (base : Nat) : IntFailure → String
  | .invalid => "invalid literal for int() with base " ++ toString base ++ ": " ++
      Text.quotedUpTo 200 s
  | .tooLong n => "Exceeds the limit (" ++ toString maxDigits ++
      " digits) for integer string conversion: value has " ++ toString n ++
      " digits; use sys.set_int_max_str_digits() to increase the limit"

/-- The message of a text that is no double. -/
def floatMessage (s : String) : String := "could not convert string to float: " ++ Text.quoted s

end Numeral

end TransitRevenue
