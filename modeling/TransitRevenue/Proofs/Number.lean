import Mathlib
import TransitRevenue.Proofs.Binary64
import TransitRevenue.Proofs.Except
/-!
The order of numbers, and what `clamp` picks, read off their values.

Numbers compare by where they lie on the extended real line, NaN being unordered. Between two
finite values the comparisons are those of the rationals (`lt_of_finite`, `le_of_finite`); an
infinity lies beyond every finite value, and NaN answers every comparison with `false`. So
`clamp p lo hi`, for finite bounds `lo < hi`, is `hi` when `p` is NaN or at least `hi`, `lo` when
`p` is at most `lo`, and `p` itself strictly between them (`clamp_of_nan`, `clamp_of_le_upper`,
`clamp_of_le_lower`, `clamp_of_between`).
-/

namespace TransitRevenue

namespace Number

@[simp] theorem extended?_int (n : Int) : (Number.int n).extended? = some (.finite n) := rfl

@[simp] theorem extended?_float (x : Float) : (Number.float x).extended? = Extended.ofFloat? x := rfl

/-! ## Arithmetic that cannot fail -/

theorem ofRat_hundred : Binary64.ofRat 100 = 100 := by decide

theorem intToFloat_hundred : intToFloat 100 = .ok 100 := by
  have h : Binary64.isFinite 100 = true := by decide
  rw [intToFloat]
  simp only [Int.cast_ofNat, ofRat_hundred, h, if_true]

theorem mul_hundred (x : Float) : (Number.float x).mul (.int 100) = .ok (.float (x * 100)) := by
  simp only [mul, toFloat, intToFloat_hundred, Except.ok_bind]
  rfl

/-- A divisor above zero is no zero double, so the division goes through. -/
theorem div_float_of_not_le_zero {p c : Float} (hc : (Number.float c).le (.int 0) = false) :
    (Number.float p).div (.float c) = .ok (.float (p / c)) := by
  have hz : (c == 0) = false := by
    cases h : c == 0
    case false => rfl
    case true => exact absurd (le_zero_of_beq_zero h) (by simp [hc])
  simp only [div, toFloat, Except.ok_bind, hz, Bool.false_eq_true, if_false]
  rfl

/-- Two doubles of the same value other than zero are the same double. -/
theorem float_eq_of_extended?_eq {x y : Float} {v : ℚ} (hx : (Number.float x).extended? = some (.finite v))
    (hy : (Number.float y).extended? = some (.finite v)) (hv : v ≠ 0) : x = y :=
  Binary64.eq_of_ofFloat?_eq hx hy hv

/-! ## Comparisons -/

section Finite

variable {a b : Number} {p q : ℚ}

theorem compare?_of_finite (ha : a.extended? = some (.finite p)) (hb : b.extended? = some (.finite q)) :
    a.compare? b = some (if p < q then .lt else if q < p then .gt else .eq) := by
  simp [compare?, ha, hb, Extended.compare]

theorem lt_of_finite (ha : a.extended? = some (.finite p)) (hb : b.extended? = some (.finite q)) :
    a.lt b = decide (p < q) := by
  rw [lt, compare?_of_finite ha hb]
  by_cases h : p < q
  · simp [h]
  · by_cases h' : q < p <;> simp [h, h']

theorem le_of_finite (ha : a.extended? = some (.finite p)) (hb : b.extended? = some (.finite q)) :
    a.le b = decide (p ≤ q) := by
  rw [le, compare?_of_finite ha hb]
  rcases lt_trichotomy p q with h | rfl | h
  · simp [h, h.le]
  · simp
  · simp [h, not_lt.2 h.le, not_le.2 h]

end Finite

theorem le_of_lt {a b : Number} (h : a.lt b = true) : a.le b = true := by
  simp only [lt, beq_iff_eq] at h
  simp [le, h]

/-- Between two numbers that are not NaN, one is not below the other exactly when it is at least
the other. -/
theorem lt_eq_false_iff_le {a b : Number} (ha : a.extended? ≠ none) (hb : b.extended? ≠ none) :
    a.lt b = false ↔ b.le a = true := by
  rcases hae : a.extended? with _ | (_ | p | _) <;> rcases hbe : b.extended? with _ | (_ | q | _) <;>
    simp only [hae, hbe, ne_eq, not_true_eq_false, reduceCtorEq, not_false_eq_true] at ha hb <;>
    simp [lt, le, compare?, hae, hbe, Extended.compare]
  -- two finite values: the order of the rationals
  rcases lt_trichotomy p q with h | rfl | h
  · simp [h, not_lt.2 h.le]
  · simp
  · simp [h, h.le]

section Unordered

variable {a b : Number}

theorem lt_of_nan_left (ha : a.extended? = none) : a.lt b = false := by
  simp [lt, compare?, ha]

theorem lt_of_nan_right (hb : b.extended? = none) : a.lt b = false := by
  cases ha : a.extended? <;> simp [lt, compare?, ha, hb]

theorem le_of_nan_left (ha : a.extended? = none) : a.le b = false := by
  simp [le, compare?, ha]

theorem le_of_nan_right (hb : b.extended? = none) : a.le b = false := by
  cases ha : a.extended? <;> simp [le, compare?, ha, hb]

/-- A double has no place on the extended real line exactly when it is NaN. -/
theorem extended?_eq_none_iff {x : Float} : (Number.float x).extended? = none ↔ Binary64.isNaN x = true := by
  simp only [Binary64.isNaN, extended?_float, Extended.ofFloat?]
  rcases Binary64.decode x with _ | _ | _ <;> simp

end Unordered

section Infinite

variable {a b : Number} {q : ℚ}

theorem lt_of_posInf_left (ha : a.extended? = some .posInf) (hb : b.extended? = some (.finite q)) :
    a.lt b = false := by
  simp [lt, compare?, ha, hb, Extended.compare]

theorem le_of_posInf_left (ha : a.extended? = some .posInf) (hb : b.extended? = some (.finite q)) :
    a.le b = false := by
  simp [le, compare?, ha, hb, Extended.compare]

theorem lt_of_posInf_right (ha : a.extended? = some (.finite q)) (hb : b.extended? = some .posInf) :
    a.lt b = true := by
  simp [lt, compare?, ha, hb, Extended.compare]

theorem lt_of_negInf_left (ha : a.extended? = some .negInf) (hb : b.extended? = some (.finite q)) :
    a.lt b = true := by
  simp [lt, compare?, ha, hb, Extended.compare]

theorem le_of_negInf_left (ha : a.extended? = some .negInf) (hb : b.extended? = some (.finite q)) :
    a.le b = true := by
  simp [le, compare?, ha, hb, Extended.compare]

theorem lt_of_negInf_right (ha : a.extended? = some (.finite q)) (hb : b.extended? = some .negInf) :
    a.lt b = false := by
  simp [lt, compare?, ha, hb, Extended.compare]

theorem le_of_negInf_right (ha : a.extended? = some (.finite q)) (hb : b.extended? = some .negInf) :
    a.le b = false := by
  simp [le, compare?, ha, hb, Extended.compare]

end Infinite

/-! ## Clamping between finite bounds -/

section MinMax

variable {a b : Number}

theorem min_of_lt (h : b.lt a = true) : min a b = b := by simp [min, h]

theorem min_of_not_lt (h : b.lt a = false) : min a b = a := by simp [min, h]

theorem max_of_lt (h : a.lt b = true) : max a b = b := by simp [max, h]

theorem max_of_not_lt (h : a.lt b = false) : max a b = a := by simp [max, h]

end MinMax

section Clamp

variable {p lo hi : Number} {l h : ℚ} (hl : lo.extended? = some (.finite l))
  (hh : hi.extended? = some (.finite h)) (hlh : l < h)
include hl hh hlh

theorem clamp_of_nan (hp : p.extended? = none) : clamp p lo hi = hi := by
  rw [clamp, min_of_not_lt (lt_of_nan_left hp), max_of_lt (by simpa [lt_of_finite hl hh] using hlh)]

/-- At or above the upper bound, and at positive infinity, the clamp gives the upper bound. -/
theorem clamp_of_le_upper (hp : hi.le p = true) : clamp p lo hi = hi := by
  -- no value at least `hi` lies below it
  have hnot : p.lt hi = false := by
    rcases hpe : p.extended? with _ | (_ | q | _)
    · exact lt_of_nan_left hpe
    · rw [le_of_negInf_right hh hpe] at hp
      cases hp
    · rw [le_of_finite hh hpe] at hp
      rw [lt_of_finite hpe hh]
      simpa using hp
    · exact lt_of_posInf_left hpe hh
  rw [clamp, min_of_not_lt hnot, max_of_lt (by simpa [lt_of_finite hl hh] using hlh)]

/-- At or below the lower bound, and at negative infinity, the clamp gives the lower bound. -/
theorem clamp_of_le_lower (hp : p.le lo = true) : clamp p lo hi = lo := by
  -- a value at most `lo` lies below `hi`, and not above `lo`
  have hbelow : p.lt hi = true ∧ lo.lt p = false := by
    rcases hpe : p.extended? with _ | (_ | q | _)
    · rw [le_of_nan_left hpe] at hp
      cases hp
    · exact ⟨lt_of_negInf_left hpe hh, lt_of_negInf_right hl hpe⟩
    · rw [le_of_finite hpe hl] at hp
      have hq : q ≤ l := by simpa using hp
      rw [lt_of_finite hpe hh, lt_of_finite hl hpe]
      exact ⟨by simpa using hq.trans_lt hlh, by simpa using hq⟩
    · rw [le_of_posInf_left hpe hl] at hp
      cases hp
  rw [clamp, min_of_lt hbelow.1, max_of_not_lt hbelow.2]

end Clamp

/-- The clamp of doubles is one of them. -/
theorem clamp_float (p lo hi : Float) : ∃ y : Float, clamp (.float p) (.float lo) (.float hi) = .float y := by
  unfold clamp max min
  split_ifs <;> exact ⟨_, rfl⟩

/-- Strictly between its bounds a number is kept as it is. -/
theorem clamp_of_between {p lo hi : Number} (hlo : lo.lt p = true) (hhi : p.lt hi = true) :
    clamp p lo hi = p := by
  rw [clamp, min_of_lt hhi, max_of_lt hlo]

/-- A finite number clamps to a finite value between finite bounds. -/
theorem extended?_clamp {p lo hi : Number} {q l h : ℚ} (hl : lo.extended? = some (.finite l))
    (hh : hi.extended? = some (.finite h)) (hlh : l < h) (hp : p.extended? = some (.finite q)) :
    ∃ c, (clamp p lo hi).extended? = some (.finite c) ∧ l ≤ c ∧ c ≤ h := by
  by_cases hhq : h ≤ q
  case pos =>
    rw [clamp_of_le_upper hl hh hlh (by simpa [le_of_finite hh hp] using hhq)]
    exact ⟨h, hh, hlh.le, le_rfl⟩
  by_cases hql : q ≤ l
  case pos =>
    rw [clamp_of_le_lower hl hh hlh (by simpa [le_of_finite hp hl] using hql)]
    exact ⟨l, hl, le_rfl, hlh.le⟩
  rw [not_le] at hhq hql
  rw [clamp_of_between (by simpa [lt_of_finite hl hp] using hql) (by simpa [lt_of_finite hp hh] using hhq)]
  exact ⟨q, hp, hql.le, hhq.le⟩

end Number

end TransitRevenue
