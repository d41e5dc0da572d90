import TransitRevenue.Number
/-!
Rounding to whole numbers and to multiples.

Both roundings add one half and take the floor, so a value halfway between two results goes
up, toward positive infinity. The half is a double, so the addition itself rounds:
`0.49999999999999994` becomes `1`, and an integer argument becomes a double first.
-/

namespace TransitRevenue

namespace Number

/-- The nearest integer, halves rounding up: `⌊value + 0.5⌋`. -/
def roundHalfUp (value : Number) : Except Fault Int := do
  (← value.add (.float 0.5)).floor

/-- The nearest multiple of `unit`, half a unit rounding up: `⌊value / unit + 0.5⌋ · unit`,
an integer when `unit` is one. -/
def roundToMultiple (value unit : Number) : Except Fault Number := do
  let steps ← (← (← value.div unit).add (.float 0.5)).floor
  (Number.int steps).mul unit

end Number

end TransitRevenue
