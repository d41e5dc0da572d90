import TransitRevenue.Decimal.Layout
import TransitRevenue.Fault
/-!
Numbers that are either exact integers or doubles.

Quantities in this library keep the kind they arrived with: integers of any size stay exact
under `+`, `-` and `*`, and only meeting a double, or a true division, turns them into doubles
(rounded to nearest). Comparisons between the two kinds are exact, on the real values, and NaN
is unordered. `Number.max` and `Number.min` keep their first argument on a tie, so `clamp` can
return `-0.0` for `0.0` or an integer for an equal double. Conversions to integers (`floor`,
`ceil`) fail on infinities and NaN; the text of a double is its shortest round-trip digits.
-/

namespace TransitRevenue

/-- An exact integer or a double. -/
inductive Number where
  | int (n : Int)
  | float (x : Float)
  deriving Inhabited

/-- A real value extended by the two infinities: the order of numbers, NaN left out. -/
inductive Extended where
  | negInf
  | finite (q : Rat)
  | posInf
  deriving BEq, Inhabited

namespace Extended

/-- The order of extended reals. -/
def compare : Extended → Extended → Ordering
  | .negInf, .negInf => .eq
  | .negInf, _ => .lt
  | _, .negInf => .gt
  | .posInf, .posInf => .eq
  | .posInf, _ => .gt
  | _, .posInf => .lt
  | .finite a, .finite b => if a < b then .lt else if b < a then .gt else .eq

end Extended

/-- Where a double lies on the extended real line; `none` for NaN. -/
def Extended.ofFloat? (x : Float) : Option Extended :=
  match Binary64.decode x with
  | .nan => none
  | .infinite neg => some (if neg then .negInf else .posInf)
  | .finite neg m e =>
    let mag : Rat := (m : Rat) * Rat.zpow 2 e
    some (.finite (if neg then -mag else mag))

/-- The text of a double: shortest round-trip digits, positional for leading exponents
`-4` to `15`, else `d.ddde±XX`; `nan`, `inf` and `-inf` for the rest. -/
def Layout.standard : Layout :=
  { fixedFrom := -4, fixedTo := 15, plusSign := true, expWidth := 2, pointInScientific := false,
    nan := "nan", inf := "inf", negInf := "-inf" }

namespace Number

/-- The place of a number on the extended real line; `none` for NaN. -/
def extended? : Number → Option Extended
  | .int n => some (.finite n)
  | .float x => Extended.ofFloat? x

/-- The exact order of two numbers, `none` if either is NaN. -/
def compare? (a b : Number) : Option Ordering := do
  Extended.compare (← a.extended?) (← b.extended?)

/-- `a < b` on real values. -/
def lt (a b : Number) : Bool := a.compare? b == some .lt

/-- `a ≤ b` on real values. -/
def le (a b : Number) : Bool :=
  match a.compare? b with
  | some .lt | some .eq => true
  | _ => false

/-- `a = b` on real values, so `3 = 3.0` and `0.0 = -0.0`, and NaN equals nothing. -/
def eq (a b : Number) : Bool := a.compare? b == some .eq

/-- The larger of two numbers, the first on a tie or when unordered. -/
def max (a b : Number) : Number := if a.lt b then b else a

/-- The smaller of two numbers, the first on a tie or when unordered. -/
def min (a b : Number) : Number := if b.lt a then b else a

/-- `value` limited to `[lower, upper]`: `max lower (min upper value)`, so `lower` wins when
the bounds cross. -/
def clamp (value lower upper : Number) : Number := max lower (min upper value)

/-- The double nearest an integer, failing when it is out of the double range. -/
def intToFloat (n : Int) : Except Fault Float :=
  let x := Binary64.ofRat n
  if Binary64.isFinite x then .ok x else .error .intTooLarge

/-- A number as a double; integers are rounded to nearest. -/
def toFloat : Number → Except Fault Float
  | .int n => intToFloat n
  | .float x => .ok x

/-- Sum: exact on two integers, else on doubles. -/
def add : Number → Number → Except Fault Number
  | .int a, .int b => .ok (.int (a + b))
  | a, b => do return .float ((← a.toFloat) + (← b.toFloat))

/-- Difference: exact on two integers, else on doubles. -/
def sub : Number → Number → Except Fault Number
  | .int a, .int b => .ok (.int (a - b))
  | a, b => do return .float ((← a.toFloat) - (← b.toFloat))

/-- Product: exact on two integers, else on doubles. -/
def mul : Number → Number → Except Fault Number
  | .int a, .int b => .ok (.int (a * b))
  | a, b => do return .float ((← a.toFloat) * (← b.toFloat))

/-- True division, always a double: the quotient of two integers is rounded once from its
exact value; a zero divisor fails. -/
def div : Number → Number → Except Fault Number
  | .int a, .int b =>
    if b == 0 then .error .divisionByZero
    else
      let x := Binary64.ofRat ((a : Rat) / (b : Rat))
      if Binary64.isFinite x then .ok (.float x) else .error .quotientTooLarge
  | a, b => do
    let x ← a.toFloat
    let y ← b.toFloat
    if y == 0 then .error .floatDivisionByZero else return .float (x / y)

/-- The largest integer not above a number. -/
def floor : Number → Except Fault Int
  | .int n => .ok n
  | .float x =>
    match Extended.ofFloat? x with
    | some (.finite q) => .ok q.floor
    | some _ => .error .infinityToInt
    | none => .error .nanToInt

/-- The least integer not below a number. -/
def ceil : Number → Except Fault Int
  | .int n => .ok n
  | .float x =>
    match Extended.ofFloat? x with
    | some (.finite q) => .ok q.ceil
    | some _ => .error .infinityToInt
    | none => .error .nanToInt

/-- A number rounded to `places` decimals: integers are kept, a finite double becomes the
double nearest its exact value rounded half-to-even at that place, keeping the sign of zero. -/
def roundPlaces (places : Nat) : Number → Number
  | .int n => .int n
  | .float x =>
    match Extended.ofFloat? x with
    | some (.finite q) =>
      let scale : Rat := Rat.pow 10 places
      let t := q * scale
      let lo := t.floor
      let frac := t - lo
      let k := if frac > 1/2 || (frac == 1/2 && lo % 2 == 1) then lo + 1 else lo
      let y := Binary64.ofRat ((k : Rat) / scale)
      .float (if k == 0 && Binary64.signBit x then -y else y)
    | _ => .float x

/-- Whether a number is a NaN double. -/
def isNaN : Number → Bool
  | .int _ => false
  | .float x => Binary64.isNaN x

/-- The text of a number: decimal digits for an integer, `Layout.standard` for a double. -/
def text : Number → String
  | .int n => toString n
  | .float x => Layout.standard.render x

end Number

end TransitRevenue
