import TransitRevenue.Number
/-!
Sums of doubles in the orders that fix their rounding.

Floating-point addition is not associative, so a sum is only defined once its order is:
* `pairwiseSum` adds short runs left to right from `-0.0`, runs of up to 128 in eight
  interleaved lanes, and longer runs by splitting them in two at a multiple of eight;
* `compensatedSum` adds left to right while carrying the rounding error of each step
  (Kahan's method), dropping a carry that became NaN;
* `seriesSum` and `seriesMean` are the totals of a column of figures: `0.0 + pairwiseSum`, and
  that divided by the count.
-/

namespace TransitRevenue

/-- Left-to-right sum of a list onto a start value. -/
def sumFrom (start : Float) (xs : List Float) : Float := xs.foldl (· + ·) start

/-- Lane-wise sum of two lists of equal length. -/
def addLanes (r xs : List Float) : List Float := List.zipWith (· + ·) r xs

/-- Split a list into blocks of eight (the last one may be shorter). -/
def blocks8 (xs : List Float) : List (List Float) :=
  if xs.isEmpty then [] else if _h : xs.length ≤ 8 then [xs] else xs.take 8 :: blocks8 (xs.drop 8)
termination_by xs.length
decreasing_by simp; omega

/-- The sum of up to 128 values, at least eight: eight lanes start with the first block and take
each further full block lane by lane; the lanes are combined as a balanced tree, then the last
partial block is added left to right. -/
def laneSum (xs : List Float) : Float :=
  let full := xs.length - xs.length % 8
  let lanes := (blocks8 ((xs.take full).drop 8)).foldl addLanes (xs.take 8)
  let r := fun i => lanes.getD i 0.0
  let tree := ((r 0 + r 1) + (r 2 + r 3)) + ((r 4 + r 5) + (r 6 + r 7))
  sumFrom tree (xs.drop full)

/-- Pairwise summation: fewer than eight values left to right from `-0.0`, up to 128 by
`laneSum`, more by halves split at a multiple of eight. -/
def pairwiseSum (xs : List Float) : Float :=
  if xs.length < 8 then sumFrom (-0.0) xs
  else if xs.length ≤ 128 then laneSum xs
  else
    let half := xs.length / 2
    let m := half - half % 8
    pairwiseSum (xs.take m) + pairwiseSum (xs.drop m)
termination_by xs.length
decreasing_by all_goals simp; omega

/-- One step of compensated summation: running sum and carried error, then a value. -/
def compensatedStep (acc : Float × Float) (x : Float) : Float × Float :=
  let (s, c) := acc
  let y := x - c
  let t := s + y
  let c := (t - s) - y
  (t, if Binary64.isNaN c then 0.0 else c)

/-- Kahan's compensated sum, left to right from zero. -/
def compensatedSum (xs : List Float) : Float := (xs.foldl compensatedStep (0.0, 0.0)).1

/-- The total of a column of figures: `0.0 + pairwiseSum`. -/
def seriesSum (xs : List Float) : Float := 0.0 + pairwiseSum xs

/-- The mean of a column of figures: its total over its count. -/
def seriesMean (xs : List Float) : Float := seriesSum xs / xs.length.toFloat

end TransitRevenue
