import TransitRevenue.Binary64
/-!
The shortest decimal that reads back as a given double.

Every double `v = m·2^e` owns the interval of reals that round to it: half a unit on either
side, a quarter below at the bottom of a binade, ends included when `m` is even. For `p = 1, 2, …`
significant digits the decimal grid of step `10^(⌊log10 v⌋ - p + 1)` is tried, and its two
points around `v` are tested for membership in the interval; the first `p` with a hit gives the
digits, and of two hits the nearer to `v` wins, an exact tie going to the even digit. Seventeen
digits always suffice, so the search is bounded. All arithmetic is exact, on rationals.
-/

namespace TransitRevenue

/-- A decimal `coef·10^exp`; `Digits.shortest` keeps `coef` free of trailing zeros. -/
structure Digits where
  coef : Nat
  exp : Int
  deriving Repr, BEq, Inhabited

namespace Digits

/-- The rational a decimal stands for. -/
def value (d : Digits) : Rat := (d.coef : Rat) * Rat.zpow 10 d.exp

/-- Drop trailing zeros of the coefficient, moving them into the exponent. -/
def normalize (c : Nat) (s : Int) : Digits :=
  if h : c ≠ 0 ∧ c % 10 = 0 then normalize (c / 10) (s + 1) else ⟨c, s⟩
termination_by c
decreasing_by omega

/-- The reals that round to `m·2^e` (a finite positive double): the half-unit interval,
narrower below at a binade's bottom. -/
def interval (m : Nat) (e : Int) : Rat × Rat :=
  let v : Rat := (m : Rat) * Rat.zpow 2 e
  let up : Rat := Rat.zpow 2 (e - 1)
  let down : Rat := if m == Nat.pow 2 52 && e > -1074 then Rat.zpow 2 (e - 2) else up
  (v - down, v + up)

/-- `⌊log10 v⌋` for a positive rational, found from a binary estimate and a few corrections. -/
def log10Floor (v : Rat) : Int :=
  let bin : Int := (Nat.log2 v.num.natAbs : Int) - Nat.log2 v.den
  let guess : Int := bin * 30103 / 100000
  let rec fix (fuel : Nat) (k : Int) : Int :=
    match fuel with
    | 0 => k
    | fuel + 1 =>
      if v < Rat.zpow 10 k then fix fuel (k - 1)
      else if Rat.zpow 10 (k + 1) ≤ v then fix fuel (k + 1)
      else k
  fix 8 guess

/-- Whether `x` lies in `[lo, hi]`, the ends counting when `closed`. -/
def within (closed : Bool) (lo hi x : Rat) : Bool :=
  if closed then lo ≤ x && x ≤ hi else lo < x && x < hi

/-- The grid point of `p` significant digits nearest `v` that lies in the interval, if any. -/
def onGrid (closed : Bool) (lo hi v : Rat) (top : Int) (p : Nat) : Option Digits :=
  let s : Int := top - p + 1
  let t : Rat := v / Rat.zpow 10 s
  let c0 := t.floor.toNat
  let below : Digits := ⟨c0, s⟩
  let above : Digits := ⟨c0 + 1, s⟩
  let inBelow := within closed lo hi below.value
  let inAbove := t ≠ (c0 : Rat) && within closed lo hi above.value
  match inBelow, inAbove with
  | true, false => some below
  | false, true => some above
  | true, true =>
    let dBelow := v - below.value
    let dAbove := above.value - v
    if dBelow < dAbove then some below
    else if dAbove < dBelow then some above
    else if c0 % 2 == 0 then some below else some above
  | false, false => none

/-- The shortest decimal in the rounding interval of `m·2^e` (`m > 0`), nearest on ties of
length; trailing zeros are moved into the exponent. -/
def shortest (m : Nat) (e : Int) : Digits :=
  let v : Rat := (m : Rat) * Rat.zpow 2 e
  let (lo, hi) := interval m e
  let closed := m % 2 == 0
  let top := log10Floor v
  let rec search : List Nat → Digits
    | [] => normalize (v / Rat.zpow 10 (top - 16)).floor.toNat (top - 16)
    | p :: ps =>
      match onGrid closed lo hi v top p with
      | some d => normalize d.coef d.exp
      | none => search ps
  search (List.range' 1 17)

end Digits

end TransitRevenue
