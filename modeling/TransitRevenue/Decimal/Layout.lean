import TransitRevenue.Decimal.Shortest
/-!
Writing a double as text.

The digits are always the shortest that read back (`Digits.shortest`); a `Layout` decides the
rest: for which decimal exponents the number is written positionally, how the exponent of the
scientific form is signed and padded, whether an integral mantissa keeps its `.0` there, and the
words for the non-finite values. Positional text always shows at least one digit after the point.
-/

namespace TransitRevenue

/-- How a double's shortest digits are laid out as text. -/
structure Layout where
  /-- Leading-digit exponents from `fixedFrom` to `fixedTo` are written positionally. -/
  fixedFrom : Int
  fixedTo : Int
  /-- Positive exponents carry a `+`. -/
  plusSign : Bool
  /-- Least number of exponent digits, zero-padded. -/
  expWidth : Nat
  /-- A one-digit mantissa in scientific form is written `d.0`. -/
  pointInScientific : Bool
  nan : String
  inf : String
  negInf : String

namespace Layout

/-- `n` copies of the digit zero. -/
def zeros (n : Nat) : String := String.ofList (List.replicate n '0')

/-- The text of a positive decimal whose digits are `ds` and whose leading digit has
exponent `lead`. -/
def body (l : Layout) (ds : String) (lead : Int) : String :=
  let n := ds.length
  if l.fixedFrom ≤ lead && lead ≤ l.fixedTo then
    if 0 ≤ lead then
      let whole := lead.toNat + 1
      if n ≤ whole then ds ++ zeros (whole - n) ++ ".0"
      else String.ofList (ds.toList.take whole) ++ "." ++ String.ofList (ds.toList.drop whole)
    else "0." ++ zeros ((-lead).toNat - 1) ++ ds
  else
    let first := String.ofList (ds.toList.take 1)
    let rest := String.ofList (ds.toList.drop 1)
    let mant := if n > 1 then first ++ "." ++ rest
      else if l.pointInScientific then first ++ ".0" else first
    let digits := toString lead.natAbs
    let padded := zeros (l.expWidth - digits.length) ++ digits
    let sign := if lead < 0 then "-" else if l.plusSign then "+" else ""
    mant ++ "e" ++ sign ++ padded

/-- The text of a double in this layout. -/
def render (l : Layout) (x : Float) : String :=
  match Binary64.decode x with
  | .nan => l.nan
  | .infinite neg => if neg then l.negInf else l.inf
  | .finite neg m e =>
    let sign := if neg then "-" else ""
    if m == 0 then sign ++ "0.0"
    else
      let d := Digits.shortest m e
      let ds := toString d.coef
      sign ++ l.body ds (d.exp + ds.length - 1)

end Layout

end TransitRevenue
