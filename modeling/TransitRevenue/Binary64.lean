/-!
Doubles as exact rationals.

A finite double is `±m·2^e` with `m < 2^53`; `Binary64.decode` reads that triple off the bit
pattern, and `Binary64.toRat?` gives the exact rational it stands for. The way back is
`Binary64.ofRat`: the double nearest a rational, a tie going to the even significand, with
gradual underflow below `2^-1022` and overflow to infinity from `2^1024 - 2^970` on, as IEEE 754
rounds every operation. Floors, exact comparisons with integers and decimal rounding elsewhere
in the library are computed on these rationals, never on `Float` operations.
-/

namespace TransitRevenue

/-- The three kinds of double: a finite value `±mant·2^exp`, an infinity, and NaN. -/
inductive Binary64 where
  | finite (neg : Bool) (mant : Nat) (exp : Int)
  | infinite (neg : Bool)
  | nan
  deriving Repr, Inhabited

namespace Binary64

/-- Split the bit pattern of a double into sign, significand and exponent. -/
def decode (x : Float) : Binary64 :=
  let bits : Nat := x.toBits.toNat
  let neg := bits / Nat.pow 2 63 % 2 == 1
  let field : Nat := bits / Nat.pow 2 52 % Nat.pow 2 11
  let frac : Nat := bits % Nat.pow 2 52
  if field == 2047 then
    if frac == 0 then .infinite neg else .nan
  else if field == 0 then .finite neg frac (-1074)
  else .finite neg (frac + Nat.pow 2 52) ((field : Int) - 1075)

/-- The exact value of a finite double; `none` for an infinity or NaN. -/
def toRat? (x : Float) : Option Rat :=
  match decode x with
  | .finite neg m e =>
    let mag : Rat := (m : Rat) * Rat.zpow 2 e
    some (if neg then -mag else mag)
  | _ => none

/-- The sign bit of a double, also for zeros and NaN. -/
def signBit (x : Float) : Bool := x.toBits.toNat / Nat.pow 2 63 % 2 == 1

/-- A double from sign, significand and exponent, where `mant < 2^53` and either
`2^52 ≤ mant` or `exp = -1074`; exponents above the range give infinity. -/
def assemble (neg : Bool) (mant : Nat) (exp : Int) : Float :=
  let sign := if neg then Nat.pow 2 63 else 0
  if exp > 971 then Float.ofBits (UInt64.ofNat (sign + 2047 * Nat.pow 2 52))
  else if mant < Nat.pow 2 52 then Float.ofBits (UInt64.ofNat (sign + mant))
  else Float.ofBits (UInt64.ofNat (sign + (exp + 1075).toNat * Nat.pow 2 52 + (mant - Nat.pow 2 52)))

/-- Scale `num/den` by `2^s` as a fraction of naturals. -/
def shiftFrac (num den : Nat) (s : Int) : Nat × Nat :=
  if 0 ≤ s then (num * Nat.pow 2 s.toNat, den) else (num, den * Nat.pow 2 (-s).toNat)

/-- Round `num/den` to a natural, a tie going to the even neighbour. -/
def roundHalfEven (num den : Nat) : Nat :=
  let q := num / den
  let r := num % den
  if 2 * r > den || (2 * r == den && q % 2 == 1) then q + 1 else q

/-- The unit exponent for rounding `num/den > 0`: the `s` with `2^52 ≤ num·2^s/den < 2^53`,
but at most `1074`, where the subnormal grid begins. -/
def scaleFor (num den : Nat) : Int :=
  let s := (52 : Int) - Nat.log2 num + Nat.log2 den
  let (n, d) := shiftFrac num den s
  let s := if n / d < Nat.pow 2 52 then s + 1 else s
  min s 1074

/-- The double nearest to `±num/den` (`den > 0`), ties to the even significand. -/
def ofFrac (neg : Bool) (num den : Nat) : Float :=
  if num == 0 || den == 0 then assemble neg 0 (-1074)
  else
    let s := scaleFor num den
    let (n, d) := shiftFrac num den s
    let m := roundHalfEven n d
    if m == Nat.pow 2 53 then assemble neg (Nat.pow 2 52) (-s + 1) else assemble neg m (-s)

/-- The double nearest to a rational, ties to the even significand; zero is `+0.0`. -/
def ofRat (q : Rat) : Float :=
  ofFrac (q < 0) q.num.natAbs q.den

/-- Whether a double is finite. -/
def isFinite (x : Float) : Bool :=
  match decode x with
  | .finite .. => true
  | _ => false

/-- Whether a double is NaN. -/
def isNaN (x : Float) : Bool :=
  match decode x with
  | .nan => true
  | _ => false

end Binary64

end TransitRevenue
