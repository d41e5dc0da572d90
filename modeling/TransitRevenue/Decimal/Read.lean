import TransitRevenue.Binary64
/-!
Reading decimal numerals.

`Decimal.toFloat` turns sign, digits, the count of digits after the point and an exponent into
the nearest double, exactly (values far outside the double range are settled by the count of their
significant digits alone). `Decimal.readFloat?` reads the common numeral grammar: an optional sign, then `inf`,
`infinity` or `nan` in any case, or digits with an optional point (at least one digit on some side
of it) and an optional `e`/`E` exponent. `Decimal.readInt?` reads an optional sign and digits.
-/

namespace TransitRevenue

namespace Decimal

/-- The value of a run of decimal digits. -/
def digitsValue (cs : List Char) : Nat :=
  cs.foldl (fun n c => n * 10 + (c.toNat - '0'.toNat)) 0

/-- The double nearest `±digits · 10^(exp - fracDigits)`, keeping the sign of zero. -/
def toFloat (neg : Bool) (digits : List Char) (fracDigits : Nat) (exp : Int) : Float :=
  let m := digitsValue digits
  let scale : Int := exp - fracDigits
  let significant := (digits.dropWhile (· == '0')).length
  let zero := if neg then -0.0 else 0.0
  if m == 0 then zero
  else if scale + significant > 400 then (if neg then -1.0 / 0.0 else 1.0 / 0.0)
  else if scale + significant < -400 then zero
  else
    let x := Binary64.ofRat ((m : Rat) * Rat.zpow 10 scale)
    if neg then -x else x

/-- A sign at the front of a numeral: whether it is negative, and the rest. -/
def readSign : List Char → Bool × List Char
  | '-' :: r => (true, r)
  | '+' :: r => (false, r)
  | r => (false, r)

/-- An exponent `[+-]digits`, all of the rest. -/
def readExponent (cs : List Char) : Option Int :=
  let (neg, r) := readSign cs
  if r.isEmpty || !r.all Char.isDigit then none
  else
    let n : Int := digitsValue r
    some (if neg then -n else n)

/-- The words for the non-finite values, matched without regard to case. -/
def specialValue? (neg : Bool) (word : String) : Option Float :=
  let w := word.toLower
  if w == "inf" || w == "infinity" then some (if neg then -1.0 / 0.0 else 1.0 / 0.0)
  else if w == "nan" then some (0.0 / 0.0)
  else none

/-- A decimal numeral as the nearest double. -/
def readFloat? (s : String) : Option Float :=
  let (neg, r) := readSign s.toList
  match specialValue? neg (String.ofList r) with
  | some x => some x
  | none =>
    let whole := r.takeWhile Char.isDigit
    let r := r.drop whole.length
    let (frac, r) := match r with
      | '.' :: r => let f := r.takeWhile Char.isDigit; (f, r.drop f.length)
      | r => ([], r)
    if whole.isEmpty && frac.isEmpty then none
    else
      let exp? : Option Int := match r with
        | [] => some 0
        | c :: r => if c == 'e' || c == 'E' then readExponent r else none
      exp?.map (toFloat neg (whole ++ frac) frac.length)

/-- A decimal integer with an optional sign. -/
def readInt? (s : String) : Option Int :=
  let (neg, r) := readSign s.toList
  if r.isEmpty || !r.all Char.isDigit then none
  else
    let n : Int := digitsValue r
    some (if neg then -n else n)

end Decimal

end TransitRevenue
