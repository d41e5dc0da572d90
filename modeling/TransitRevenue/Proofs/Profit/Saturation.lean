import Mathlib
import TransitRevenue.Profit.Trip
import TransitRevenue.Proofs.Number
/-!
A trip's profitability saturates within ±9999.99, whatever its doubles hold.

Costing a trip fails only where a further cost category's amount has no double
(`TripResult.compute_ok_of_amounts`). Its profitability is then the quotient of profit over costs in
percent, clamped to ±9999.99: the quotient itself inside the range, the upper bound above it and
for NaN (a NaN quotient is unordered, and `clamp` keeps the bound it is compared with), the lower
bound below it, and `0` without costs (`Profit.percent_law`). The occupancy is the peak load over
the seats in percent, or `0` without seats (`Profit.occupancy_law`).
-/

namespace TransitRevenue

namespace Profit

/-! ## The bounds of the range -/

theorem extended?_upperBound :
    (Number.float 9999.99).extended? = some (.finite (5497552641321861 / 549755813888)) := by
  have hb : (9999.99 : Float).toBits.toNat = 4666723166969785221 := by decide
  simp only [Number.extended?_float, Extended.ofFloat?, Binary64.decode, hb, rat_zpow_eq]
  norm_num

theorem extended?_lowerBound :
    (Number.float (-9999.99)).extended? = some (.finite (-(5497552641321861 / 549755813888))) := by
  have hb : (-9999.99 : Float).toBits.toNat = 13890095203824561029 := by decide
  simp only [Number.extended?_float, Extended.ofFloat?, Binary64.decode, hb, rat_zpow_eq]
  norm_num

theorem extended?_zero : (Number.float 0.0).extended? = some (.finite 0) :=
  Binary64.ofFloat?_of_beq_zero (x := 0.0) (by decide)

/-! ## Saturation -/

/-- What the profitability of `profit` over `costs` is: `0` without costs; else the quotient in
percent when it lies in the range, the upper bound above it or for NaN, the lower bound below it.
It always lies in the range. -/
structure PercentLaw (profit costs pct : Float) : Prop where
  within : (Number.float (-9999.99)).le (.float pct) = true ∧ (Number.float pct).le (.float 9999.99) = true
  no_costs : (Number.float costs).le (.int 0) = true → pct = 0.0
  inside : (Number.float costs).le (.int 0) = false →
    (Number.float (-9999.99)).le (.float (profit / costs * 100)) = true →
    (Number.float (profit / costs * 100)).le (.float 9999.99) = true → pct = profit / costs * 100
  above : (Number.float costs).le (.int 0) = false →
    ((Number.float 9999.99).lt (.float (profit / costs * 100)) = true ∨
      Binary64.isNaN (profit / costs * 100) = true) → pct = 9999.99
  below : (Number.float costs).le (.int 0) = false →
    (Number.float (profit / costs * 100)).lt (.float (-9999.99)) = true → pct = -9999.99

section Clamp

variable (q : Float)

theorem bounds_lt : (Number.float (-9999.99)).lt (.float 9999.99) = true := by
  rw [Number.lt_of_finite extended?_lowerBound extended?_upperBound]
  norm_num

/-- The clamp of a quotient in the range is the quotient: strictly inside it is kept, and at
either end the bound is the same double as the quotient. -/
theorem clamp_of_within (hlo : (Number.float (-9999.99)).le (.float q) = true)
    (hhi : (Number.float q).le (.float 9999.99) = true) :
    Number.clamp (.float q) (.float (-9999.99)) (.float 9999.99) = .float q := by
  -- only a finite quotient lies in the range
  obtain ⟨v, hv⟩ : ∃ v, Extended.ofFloat? q = some (.finite v) := by
    rcases hq : Extended.ofFloat? q with _ | (_ | v | _)
    · rw [Number.le_of_nan_right (by simpa using hq)] at hlo
      cases hlo
    · rw [Number.le_of_negInf_right (by simpa using extended?_lowerBound) (by simpa using hq)] at hlo
      cases hlo
    · exact ⟨v, rfl⟩
    · rw [Number.le_of_posInf_left (by simpa using hq) (by simpa using extended?_upperBound)] at hhi
      cases hhi
  have hv' : (Number.float q).extended? = some (.finite v) := hv
  have hl : (Number.float (-9999.99)).extended? = some (.finite (-(5497552641321861 / 549755813888))) :=
    extended?_lowerBound
  have hh : (Number.float 9999.99).extended? = some (.finite (5497552641321861 / 549755813888)) :=
    extended?_upperBound
  rw [Number.le_of_finite hl hv', decide_eq_true_eq] at hlo
  rw [Number.le_of_finite hv' hh, decide_eq_true_eq] at hhi
  rcases hlo.lt_or_eq with hlo | rfl
  · rcases hhi.lt_or_eq with hhi | rfl
    · exact Number.clamp_of_between (by simpa [Number.lt_of_finite hl hv'] using hlo)
        (by simpa [Number.lt_of_finite hv' hh] using hhi)
    · rw [Number.clamp_of_le_upper hl hh (by norm_num) (by simp [Number.le_of_finite hh hv']),
        Number.float_eq_of_extended?_eq extended?_upperBound hv (by norm_num)]
  · rw [Number.clamp_of_le_lower hl hh (by norm_num) (by simp [Number.le_of_finite hv' hl]),
      Number.float_eq_of_extended?_eq extended?_lowerBound hv (by norm_num)]

theorem clamp_of_above (h : (Number.float 9999.99).lt (.float q) = true ∨ Binary64.isNaN q = true) :
    Number.clamp (.float q) (.float (-9999.99)) (.float 9999.99) = .float 9999.99 := by
  rcases h with h | h
  · exact Number.clamp_of_le_upper extended?_lowerBound extended?_upperBound (by norm_num) (Number.le_of_lt h)
  · exact Number.clamp_of_nan extended?_lowerBound extended?_upperBound (by norm_num) (Number.extended?_eq_none_iff.2 h)

theorem clamp_of_below (h : (Number.float q).lt (.float (-9999.99)) = true) :
    Number.clamp (.float q) (.float (-9999.99)) (.float 9999.99) = .float (-9999.99) :=
  Number.clamp_of_le_lower extended?_lowerBound extended?_upperBound (by norm_num) (Number.le_of_lt h)

/-- Whichever of the three the clamp picks lies in the range. -/
theorem clamp_within :
    (Number.float (-9999.99)).le (Number.clamp (.float q) (.float (-9999.99)) (.float 9999.99)) = true ∧
      (Number.clamp (.float q) (.float (-9999.99)) (.float 9999.99)).le (.float 9999.99) = true := by
  have hl := extended?_lowerBound
  have hh := extended?_upperBound
  have hlo : (Number.float (-9999.99)).le (.float (-9999.99)) = true := by simp [Number.le_of_finite hl hl]
  have hhi : (Number.float 9999.99).le (.float 9999.99) = true := by simp [Number.le_of_finite hh hh]
  have hlh : (Number.float (-9999.99)).le (.float 9999.99) = true := by
    simp only [Number.le_of_finite hl hh, decide_eq_true_eq]
    norm_num
  by_cases habove : (Number.float 9999.99).lt (.float q) = true ∨ Binary64.isNaN q = true
  · rw [clamp_of_above q habove]
    exact ⟨hlh, hhi⟩
  by_cases hbelow : (Number.float q).lt (.float (-9999.99)) = true
  · rw [clamp_of_below q hbelow]
    exact ⟨hlo, hlh⟩
  -- neither above nor NaN nor below: in the range
  obtain ⟨habove, hnan⟩ := not_or.1 habove
  have hq : (Number.float q).extended? ≠ none := fun h => hnan (Number.extended?_eq_none_iff.1 h)
  simp only [Bool.not_eq_true] at habove hbelow
  have hin₁ := (Number.lt_eq_false_iff_le hq (by simp [hl])).1 hbelow
  have hin₂ := (Number.lt_eq_false_iff_le (by simp [hh]) hq).1 habove
  rw [clamp_of_within q hin₁ hin₂]
  exact ⟨hin₁, hin₂⟩

end Clamp

/-- The profitability of profit over costs, both doubles, exists and follows the law. -/
theorem percent_law (profit costs : Float) :
    ∃ pct, (percent (.float profit) (.float costs)).bind Number.toFloat = .ok pct ∧
      PercentLaw profit costs pct := by
  by_cases hc : (Number.float costs).le (.int 0) = true
  · -- no costs: zero, which lies in the range
    refine ⟨0.0, by simp [percent, hc]; rfl, ⟨?_, fun _ => rfl, ?_, ?_, ?_⟩⟩
    · simp only [Number.le_of_finite extended?_lowerBound extended?_zero,
        Number.le_of_finite extended?_zero extended?_upperBound, decide_eq_true_eq]
      norm_num
    all_goals intro h; simp [hc] at h
  · -- costs: the clamp of the quotient
    simp only [Bool.not_eq_true] at hc
    set q := profit / costs * 100
    obtain ⟨pct, hpct⟩ := Number.clamp_float q (-9999.99) 9999.99
    have hrun : percent (.float profit) (.float costs) = .ok (.float pct) := by
      simp only [percent, hc, Bool.false_eq_true, if_false, Number.div_float_of_not_le_zero hc,
        Except.ok_bind, Number.mul_hundred]
      rw [← hpct]
      rfl
    refine ⟨pct, by rw [hrun]; rfl, ⟨?_, fun h => by simp [hc] at h, fun _ h₁ h₂ => ?_,
      fun _ h => ?_, fun _ h => ?_⟩⟩
    · rw [← hpct]
      exact clamp_within q
    · simpa [clamp_of_within q h₁ h₂] using hpct.symm
    · simpa [clamp_of_above q h] using hpct.symm
    · simpa [clamp_of_below q h] using hpct.symm

/-- What the occupancy of a trip is: `0` without seats, else the peak load over the seats, rounded
once, times 100. -/
structure OccupancyLaw (passengers capacity : Int) (occ : Float) : Prop where
  no_seats : capacity ≤ 0 → occ = 0.0
  rate : 0 < capacity → occ = Binary64.ofRat (passengers / capacity) * 100

/-- The occupancy of a trip exists wherever the load over the seats has a double. -/
theorem occupancy_law (passengers capacity : Int)
    (hfin : 0 < capacity → Binary64.isFinite (Binary64.ofRat (passengers / capacity)) = true) :
    ∃ occ, (occupancy (.int passengers) (.int capacity)).bind Number.toFloat = .ok occ ∧
      OccupancyLaw passengers capacity occ := by
  have hle : (Number.int capacity).le (.int 0) = decide (capacity ≤ 0) := by
    simpa using Number.le_of_finite (Number.extended?_int capacity) (Number.extended?_int 0)
  by_cases hc : capacity ≤ 0
  · refine ⟨0.0, by simp [occupancy, hle, hc]; rfl, ⟨fun _ => rfl, fun h => absurd h (by omega)⟩⟩
  · have hpos : 0 < capacity := by omega
    have hdiv : (Number.int passengers).div (.int capacity) =
        .ok (.float (Binary64.ofRat (passengers / capacity))) := by
      have hne : (capacity == 0) = false := by simp; omega
      simp [Number.div, hne, hfin hpos]
    refine ⟨Binary64.ofRat (passengers / capacity) * 100, ?_, ⟨fun h => absurd h hc, fun _ => rfl⟩⟩
    simp only [occupancy, hle, hc, decide_false, Bool.false_eq_true, if_false, hdiv,
      Except.ok_bind, Number.mul_hundred]
    rfl

end Profit

namespace TripResult

/-- The breakdown of further costs exists when every category's amount has a double. -/
theorem breakdownOf_ok (i : CostInputs) (cs : List Contributor) (h : ∀ c ∈ cs, ∃ x, c.amount i = .ok x) :
    ∃ table other, breakdownOf i cs = .ok (table, other) := by
  obtain ⟨amounts, hm, -⟩ := Except.mapM_forall₂ (R := fun _ _ => True)
    (f := fun c => do return (c.name, ← c.amount i)) (l := cs) fun c hc => by
      obtain ⟨x, hx⟩ := h c hc
      exact ⟨(c.name, x), by simp [hx], trivial⟩
  exact ⟨_, _, by simp only [breakdownOf, hm, Except.ok_bind]; rfl⟩

/-- Costing a trip whose further cost categories all have a double as their amount succeeds. Its
profit is revenue minus all costs, its profitability saturates within ±9999.99 and its occupancy
is the peak load over the seats in percent, for all doubles among the inputs, infinities and NaN
included. -/
theorem compute_saturates (i : CostInputs) (cs : List Contributor) (now : Moment)
    (hcs : ∀ c ∈ cs, ∃ x, c.amount i = .ok x)
    (hocc : 0 < i.capacity → Binary64.isFinite (Binary64.ofRat (i.maxPassengers / i.capacity)) = true) :
    ∃ r, compute i cs now = .ok r ∧ r.profit = r.revenue - r.totalCosts ∧
      Profit.PercentLaw r.profit r.totalCosts r.percent ∧
      Profit.OccupancyLaw i.maxPassengers i.capacity r.occupancy := by
  obtain ⟨table, other, hb⟩ := breakdownOf_ok i cs hcs
  obtain ⟨pct, hpct, hlaw⟩ := Profit.percent_law (i.revenue - (i.fuelCost + i.driverCost + other))
    (i.fuelCost + i.driverCost + other)
  obtain ⟨occ, hocc', hoccLaw⟩ := Profit.occupancy_law i.maxPassengers i.capacity hocc
  refine ⟨?r, ?run, ?profit, ?law, ?occ⟩
  case run =>
    simp only [compute, hb, Except.ok_bind, hpct, hocc']
    rfl
  case profit => rfl
  case law => exact hlaw
  case occ => exact hoccLaw

/-- A 480 km trip on a 50-seat bus with insurance and tolls per kilometre is costed, and follows
the law. -/
theorem compute_saturates_with_insurance_and_tolls :
    let trip : CostInputs :=
      { tripId := 17, capacity := 50, consumption := 25.0, distance := 480.1, fuelCostPerKm := 10.0,
        driverCost := 800.0, totalPassengers := 52, maxPassengers := 45, revenue := 3550.0 }
    let extras := [Contributor.fixed "insurance" (.float 150.0), .perUnit "tolls" "distance_km" (.float 0.1)]
    (∀ c ∈ extras, ∃ x, c.amount trip = .ok x) ∧
      (0 < trip.capacity → Binary64.isFinite (Binary64.ofRat (trip.maxPassengers / trip.capacity)) = true) ∧
      ∃ r, compute trip extras { date := ⟨2025, 12, 15⟩, hour := 20, offset := some 0 } = .ok r ∧
        r.profit = r.revenue - r.totalCosts ∧ Profit.PercentLaw r.profit r.totalCosts r.percent ∧
        Profit.OccupancyLaw trip.maxPassengers trip.capacity r.occupancy := by
  intro trip extras
  have hextras : ∀ c ∈ extras, ∃ x, c.amount trip = .ok x := by
    intro c hc
    simp only [extras, List.mem_cons, List.not_mem_nil, or_false] at hc
    rcases hc with rfl | rfl
    · exact ⟨150.0, rfl⟩
    · exact ⟨480.1 * 0.1, rfl⟩
  have hocc : 0 < trip.capacity → Binary64.isFinite (Binary64.ofRat (trip.maxPassengers / trip.capacity)) = true :=
    fun _ => by decide +kernel
  exact ⟨hextras, hocc, compute_saturates trip extras _ hextras hocc⟩

/-- A trip costed with a fixed further cost of `10^400`, an integer beyond the range of doubles,
is not costed at all: converting the amount fails. -/
theorem compute_fails_on_levy_beyond_doubles :
    compute
      { tripId := 1, capacity := 50, consumption := 30.0, distance := 100.0, fuelCostPerKm := 2.0,
        driverCost := 500.0, totalPassengers := 40, maxPassengers := 30, revenue := 2000.0 }
      [.fixed "levy" (.int (10 ^ 200 * 10 ^ 200))] { date := ⟨2025, 10, 14⟩, hour := 12, offset := some 0 } =
      .error .intTooLarge := by
  generalize hN : (10 ^ 200 * 10 ^ 200 : Int) = N
  have hconv : Number.intToFloat N = .error .intTooLarge := by
    subst hN
    have hinf : Binary64.isFinite (Binary64.ofRat ((10 ^ 200 * 10 ^ 200 : Int) : ℚ)) = false := by
      decide +kernel
    simp only [Number.intToFloat, hinf, Bool.false_eq_true, if_false]
  simp [compute, breakdownOf, Contributor.amount, Number.toFloat, hconv]

end TripResult

end TransitRevenue
