import Mathlib
import TransitRevenue.Pricing
import TransitRevenue.Proofs.Number.Order
import TransitRevenue.Proofs.Demand.Band
/-!
A price kept within its band never falls when the raw price rises.

`applyBounds` rounds the band's ends to six decimals, clamps the raw price into the band, rounds it
to a multiple of 5 (`fives`: a fifth of the value, plus one half, floored, each step rounded as
doubles round), and moves a rounding that left the band to the multiple of 5 just inside it, when
the band holds one (`settle`). On values: the clamp is monotone, and so is every rounding, so the
count of fives is. The move is monotone too, because the multiple it moves to lies below every
multiple of 5 in the band, or above every one: `⌈l/5⌉` and `⌊u/5⌋`, computed on doubles, still
bound every integer count from below and above, since integers are doubles and rounding keeps
what it can represent. When the band holds no multiple of 5 the rounding is kept, and a rounding
below the band stays below one above it (`settle_mono`). Hence `applyBounds_mono`.
-/

namespace TransitRevenue

open Binary64

namespace Number

theorem toFloat_of_extended? {a : Number} {v : ℚ} (ha : a.extended? = some (.finite v)) (hv : |v| ≤ 2 ^ 53) :
    ∃ f, a.toFloat = .ok f ∧ Extended.ofFloat? f = some (.finite v) := by
  cases a with
  | float x => exact ⟨x, rfl, ha⟩
  | int n =>
    simp only [extended?_int, Option.some.injEq, Extended.finite.injEq] at ha
    subst ha
    have hrep : Representable (n : ℚ) := by
      simpa using representable_of_abs_le (n := n) (k := 0) (by exact_mod_cast hv) (by norm_num)
    have hx : Extended.ofFloat? (ofRat n) = some (.finite n) := by
      rw [ofFloat?_ofRat, roundNearest_of_representable hrep, packed_of_lt (by
        calc |(n : ℚ)| ≤ 2 ^ 53 := hv
          _ < 2 ^ 1024 := pow_lt_pow_right₀ (by norm_num) (by norm_num))]
    refine ⟨ofRat n, ?_, hx⟩
    simp [toFloat, intToFloat, isFinite_of_ofFloat? hx]

theorem neg_ofRat_zero : Extended.ofFloat? (-(ofRat 0)) = some (.finite 0) := by
  rw [ofFloat?_of_decode (by rfl : decode (-(ofRat 0)) = .finite true 0 (-1074))]
  simp


section MeetDouble

variable {a : Number} {f : Float}

theorem mul_float_of_toFloat (ha : a.toFloat = .ok f) (y : Float) : a.mul (.float y) = .ok (.float (f * y)) := by
  cases a <;> simp only [mul] <;> rw [ha] <;> rfl

theorem add_float_of_toFloat (ha : a.toFloat = .ok f) (y : Float) : a.add (.float y) = .ok (.float (f + y)) := by
  cases a <;> simp only [add] <;> rw [ha] <;> rfl

theorem div_float_of_toFloat (ha : a.toFloat = .ok f) {y : Float} (hy : (y == 0) = false) :
    a.div (.float y) = .ok (.float (f / y)) := by
  cases a <;> simp only [div] <;> rw [ha] <;> simp [toFloat, hy]

theorem floor_float_of_ofFloat? {x : Float} {q : ℚ} (hx : Extended.ofFloat? x = some (.finite q)) :
    floor (.float x) = .ok ⌊q⌋ := by
  simp only [floor, hx]
  rfl

theorem ceil_float_of_ofFloat? {x : Float} {q : ℚ} (hx : Extended.ofFloat? x = some (.finite q)) :
    ceil (.float x) = .ok ⌈q⌉ := by
  simp only [ceil, hx, Rat.ceil_eq_neg_floor_neg]
  rfl

end MeetDouble


/-- The digits `roundPlaces` keeps are the nearest integer, a tie going to the even one. -/
theorem roundPlaces_digits (t : ℚ) :
    (if t - t.floor > 1 / 2 || (t - t.floor == 1 / 2 && t.floor % 2 == 1) then t.floor + 1 else t.floor) =
      nearestInt t := by
  have hf : t.floor = ⌊t⌋ := rfl
  rw [hf, nearestInt]
  generalize t - ⌊t⌋ = f
  simp only [gt_iff_lt, Bool.or_eq_true, decide_eq_true_eq, Bool.and_eq_true, beq_iff_eq]
  by_cases h₁ : f < 1 / 2
  · rw [if_pos h₁, if_neg (by rintro (h | ⟨h, -⟩) <;> linarith)]
  by_cases h₂ : 1 / 2 < f
  · rw [if_neg h₁, if_pos h₂, if_pos (.inl h₂)]
  have h₃ : f = 1 / 2 := le_antisymm (not_lt.1 h₂) (not_lt.1 h₁)
  rw [if_neg h₁, if_neg h₂]
  by_cases h₄ : ⌊t⌋ % 2 = 0
  · rw [if_pos h₄, if_neg (by rintro (h | ⟨-, h⟩) <;> [linarith; omega])]
  · rw [if_neg h₄, if_pos (.inr ⟨h₃, by omega⟩)]

/-- A finite double rounded to `places` decimals: the double nearest its value rounded to that
many decimals, half to even. -/
theorem roundPlaces_float {x : Float} {q : ℚ} (hx : Extended.ofFloat? x = some (.finite q)) (places : ℕ)
    {e : ℤ} (he : 0 ≤ e) (he' : e < 1023) (hq : |q| ≤ 2 ^ e) :
    ∃ y, roundPlaces places (.float x) = .float y ∧
      Extended.ofFloat? y = some (.finite (roundNearest (nearestInt (q * 10 ^ places) / 10 ^ places))) := by
  simp only [roundPlaces, hx, rat_pow_eq, roundPlaces_digits]
  refine ⟨_, rfl, ?_⟩
  set k := nearestInt (q * 10 ^ places) with hk
  have hs : (0 : ℚ) < 10 ^ places := by positivity
  -- the digits lie within half a digit of the value
  have hbound : |(k : ℚ) / 10 ^ places| ≤ 2 ^ (e + 1) := by
    have hnear : |q * 10 ^ places - k| ≤ 1 / 2 := by
      rcases nearestTo_nearestInt (q * 10 ^ places) with h | ⟨h, -⟩ <;> linarith
    have hk' : |(k : ℚ)| ≤ |q| * 10 ^ places + 1 / 2 := by
      calc |(k : ℚ)| = |q * 10 ^ places - (q * 10 ^ places - k)| := by ring_nf
        _ ≤ |q * 10 ^ places| + |q * 10 ^ places - k| := abs_sub _ _
        _ ≤ |q| * 10 ^ places + 1 / 2 := by rw [abs_mul, abs_of_pos hs]; linarith
    have hs1 : (1 : ℚ) ≤ 10 ^ places := one_le_pow₀ (by norm_num)
    have h1 : (1 : ℚ) ≤ 2 ^ e := one_le_zpow₀ (by norm_num) he
    rw [abs_div, abs_of_pos hs, div_le_iff₀ hs, zpow_add_one₀ (by norm_num)]
    nlinarith
  have hy := ofFloat?_of_round (ofFloat?_ofRat ((k : ℚ) / 10 ^ places)) (by omega) (by omega) hbound
  by_cases hk0 : k = 0
  · -- no digits: zero, with the sign of `x`
    rw [hk0] at hy ⊢
    simp only [Int.cast_zero, zero_div, roundNearest_zero] at hy ⊢
    by_cases hsign : signBit x = true
    · rw [if_pos (by simp [hsign])]
      exact neg_ofRat_zero
    · rw [if_neg (by simp [hsign])]
      exact hy
  · rw [if_neg (by simp [hk0])]
    exact hy

end Number

namespace Pricing

/-! ## Counting fives -/

/-- The count of fives a value rounds to: `⌊v / 5 + 1/2⌋`, the quotient and the sum each rounded
to a double. -/
def fives (v : ℚ) : ℤ := ⌊roundNearest (roundNearest (v / 5) + 1 / 2)⌋

theorem fives_mono : Monotone fives := by
  intro v w h
  have hq : roundNearest (v / 5) ≤ roundNearest (w / 5) := roundNearest_mono (by linarith)
  have hs : roundNearest (v / 5) + 1 / 2 ≤ roundNearest (w / 5) + 1 / 2 := by linarith
  exact Int.floor_mono (roundNearest_mono hs)

/-- A fifth of a value up to `2^45`, rounded, stays within `2^45`. -/
theorem fifth_bounds {v : ℚ} (hv0 : 0 ≤ v) (hv : v ≤ 2 ^ 45) :
    0 ≤ roundNearest (v / 5) ∧ roundNearest (v / 5) ≤ 2 ^ 45 := by
  refine ⟨roundNearest_nonneg (by positivity), ?_⟩
  have h := abs_roundNearest_le (x := v / 5) (k := 45) (by norm_num)
    (by rw [abs_of_nonneg (by positivity)]; norm_num; linarith)
  exact (le_abs_self _).trans (by simpa using h)

/-- One half more, rounded, stays within `2^46`. -/
theorem half_more_bounds {v : ℚ} (hv0 : 0 ≤ v) (hv : v ≤ 2 ^ 45) :
    0 ≤ roundNearest (roundNearest (v / 5) + 1 / 2) ∧ roundNearest (roundNearest (v / 5) + 1 / 2) ≤ 2 ^ 46 := by
  have hq := fifth_bounds hv0 hv
  refine ⟨roundNearest_nonneg (by linarith), ?_⟩
  have h := abs_roundNearest_le (x := roundNearest (v / 5) + 1 / 2) (k := 46) (by norm_num)
    (by rw [abs_of_nonneg (by linarith)]; norm_num; linarith)
  exact (le_abs_self _).trans (by simpa using h)

theorem fives_bounds {v : ℚ} (hv0 : 0 ≤ v) (hv : v ≤ 2 ^ 45) : 0 ≤ fives v ∧ fives v ≤ 2 ^ 46 := by
  have hs := half_more_bounds hv0 hv
  exact ⟨Int.floor_nonneg.2 hs.1, Int.floor_le_iff.2 (by push_cast; linarith)⟩

/-! ## Settling into the band -/

/-- The count of fives of a price of `n` fives once settled into `[l, u]`: a price below the band
moves up to `i` fives, one above it down to `j`, if that multiple lies in the band. -/
def settle (l u : ℚ) (i j n : ℤ) : ℤ :=
  if 5 * (n : ℚ) < l then (if 5 * (i : ℚ) ≤ u then i else n)
  else if u < 5 * (n : ℚ) then (if l ≤ 5 * (j : ℚ) then j else n)
  else n

section Cases

variable {l u : ℚ} {i j n : ℤ}

theorem settle_of_lt (h : 5 * (n : ℚ) < l) : settle l u i j n = if 5 * (i : ℚ) ≤ u then i else n :=
  if_pos h

theorem settle_of_mem (h : ¬5 * (n : ℚ) < l) (h' : ¬u < 5 * (n : ℚ)) : settle l u i j n = n := by
  rw [settle, if_neg h, if_neg h']

theorem settle_of_gt (h : ¬5 * (n : ℚ) < l) (h' : u < 5 * (n : ℚ)) :
    settle l u i j n = if l ≤ 5 * (j : ℚ) then j else n := by
  rw [settle, if_neg h, if_pos h']

end Cases

section Settle

variable {l u : ℚ} {i j : ℤ} (hi : ∀ m : ℤ, l ≤ 5 * m → i ≤ m)
  (hj : ∀ m : ℤ, 5 * (m : ℚ) ≤ u → m ≤ j)
include hi hj

/-- Settling keeps the order of counts: `i` lies below every count in the band and `j` above it,
and when the band holds no multiple of 5 a count below it stays below one above it. -/
theorem settle_mono {n n' : ℤ} (hn : n ≤ n') : settle l u i j n ≤ settle l u i j n' := by
  have hnq : (n : ℚ) ≤ n' := by exact_mod_cast hn
  by_cases h₁' : 5 * (n' : ℚ) < l
  case pos =>
    -- both below the band: the same move, or both kept
    rw [settle_of_lt (by linarith), settle_of_lt h₁']
    split_ifs
    · exact le_rfl
    · exact hn
  by_cases h₂' : u < 5 * (n' : ℚ)
  case neg =>
    -- `n'` in the band, so at least `i`
    rw [settle_of_mem h₁' h₂']
    by_cases h₁ : 5 * (n : ℚ) < l
    · rw [settle_of_lt h₁]
      split_ifs
      · exact hi n' (not_lt.1 h₁')
      · exact hn
    · rw [settle_of_mem h₁ (by linarith)]
      exact hn
  case pos =>
    rw [settle_of_gt h₁' h₂']
    by_cases hJ : l ≤ 5 * (j : ℚ)
    case pos =>
      -- `n'` moves down to `j`, which lies above every count up to `u`
      rw [if_pos hJ]
      by_cases h₁ : 5 * (n : ℚ) < l
      · rw [settle_of_lt h₁]
        split_ifs with hI
        · exact hj i hI
        · exact_mod_cast (by linarith : (n : ℚ) ≤ j)
      by_cases h₂ : u < 5 * (n : ℚ)
      · rw [settle_of_gt h₁ h₂, if_pos hJ]
      · rw [settle_of_mem h₁ h₂]
        exact hj n (not_lt.1 h₂)
    case neg =>
      -- no multiple of 5 from `l` to `j`: `n'` is kept, and a move up to `i` stays within `u`
      rw [if_neg hJ]
      by_cases h₁ : 5 * (n : ℚ) < l
      · rw [settle_of_lt h₁]
        split_ifs with hI
        · exact_mod_cast (by linarith : (i : ℚ) ≤ n')
        · exact hn
      by_cases h₂ : u < 5 * (n : ℚ)
      · rw [settle_of_gt h₁ h₂, if_neg hJ]
        exact hn
      · rw [settle_of_mem h₁ h₂]
        exact hn

end Settle

theorem representable_intCast {m : ℤ} (h : |(m : ℚ)| ≤ 2 ^ 53) : Representable m := by
  simpa using representable_of_abs_le (n := m) (k := 0) (by exact_mod_cast h) (by norm_num)

/-- The lower edge of a band of doubles, `⌈l/5⌉` with the quotient rounded to a double, lies at or
below every count of fives in the band: a count is an integer, and rounding cannot pass it. -/
theorem ceil_le_of_le {l : ℚ} (hl0 : 0 ≤ l) (hl : l ≤ 2 ^ 50) (m : ℤ) (hm : l ≤ 5 * m) :
    ⌈roundNearest (l / 5)⌉ ≤ m := by
  apply Int.ceil_le.2
  by_cases hbig : (m : ℚ) ≤ 2 ^ 53
  case pos =>
    have hrep := representable_intCast (m := m) (by rw [abs_of_nonneg (by linarith)]; exact hbig)
    exact roundNearest_le hrep (by linarith)
  case neg =>
    have h53 : Representable ((2 : ℚ) ^ (53 : ℤ)) := representable_two_zpow (by norm_num)
    have hle := roundNearest_le h53 (x := l / 5) (by norm_num; linarith)
    norm_num at hle
    linarith

/-- The upper edge, `⌊u/5⌋` with the quotient rounded to a double, lies at or above every count of
fives in the band. -/
theorem le_floor_of_le {u : ℚ} (hu0 : 0 ≤ u) (hu : u ≤ 2 ^ 50) (m : ℤ) (hm : 5 * (m : ℚ) ≤ u) :
    m ≤ ⌊roundNearest (u / 5)⌋ := by
  apply Int.le_floor.2
  by_cases hsmall : -(2 : ℚ) ^ 53 ≤ m
  case pos =>
    have hrep := representable_intCast (m := m) (abs_le.2 ⟨hsmall, by linarith⟩)
    exact le_roundNearest hrep (by linarith)
  case neg =>
    have h0 := roundNearest_nonneg (x := u / 5) (by positivity)
    linarith

/-! ## Rounding to a multiple of 5 -/

theorem ofFloat?_five : Extended.ofFloat? (5.0 : Float) = some (.finite 5) := by
  rw [ofFloat?_of_decode (by rfl : decode (5.0 : Float) = .finite false 5629499534213120 (-50))]
  norm_num

theorem five_beq_zero : ((5.0 : Float) == 0) = false := by decide

/-- A count of fives times the double 5 is the double of value `5n`, exactly. -/
theorem mul_five {n : ℤ} (hn : |(n : ℚ)| ≤ 2 ^ 50) :
    ∃ p, (Number.int n).mul (.float 5.0) = .ok (.float p) ∧
      Extended.ofFloat? p = some (.finite (5 * n)) := by
  obtain ⟨f, hf, hfv⟩ := Number.toFloat_of_extended? (Number.extended?_int n) (hn.trans (by norm_num))
  have hrep : Representable ((5 * n : ℤ) : ℚ) :=
    representable_intCast (by push_cast; rw [abs_mul]; norm_num; linarith)
  have hlt : |((5 * n : ℤ) : ℚ)| < 2 ^ 1024 := by
    push_cast
    rw [abs_mul]
    calc |(5 : ℚ)| * |(n : ℚ)| ≤ 2 ^ 53 := by norm_num; linarith
      _ < 2 ^ 1024 := pow_lt_pow_right₀ (by norm_num) (by norm_num)
  refine ⟨f * 5.0, Number.mul_float_of_toFloat hf _, ?_⟩
  rw [ofFloat?_mul hfv ofFloat?_five, mul_comm, ← Int.cast_ofNat, ← Int.cast_mul,
    roundNearest_of_representable hrep, packed_of_lt hlt]

/-- A value in `[0, 2^45]` rounds to `fives v` multiples of 5. -/
theorem roundToMultiple_five {c : Number} {v : ℚ} (hc : c.extended? = some (.finite v)) (hv0 : 0 ≤ v)
    (hv : v ≤ 2 ^ 45) :
    ∃ p, Number.roundToMultiple c (.float 5.0) = .ok (.float p) ∧
      Extended.ofFloat? p = some (.finite (5 * fives v)) := by
  obtain ⟨f, hf, hfv⟩ := Number.toFloat_of_extended? hc (by rw [abs_of_nonneg hv0]; linarith)
  have hq0 := fifth_bounds hv0 hv
  have hq := ofFloat?_of_round (ofFloat?_div hfv ofFloat?_five (by norm_num)) (e := 45) (by norm_num)
    (by norm_num) (by rw [abs_of_nonneg (by positivity)]; norm_num; linarith)
  have hs := ofFloat?_of_round (ofFloat?_add hq ofFloat?_half) (e := 46) (by norm_num) (by norm_num)
    (by rw [abs_of_nonneg (by linarith)]; norm_num; linarith)
  obtain ⟨hn0, hn⟩ := fives_bounds hv0 hv
  obtain ⟨p, hp, hpv⟩ := mul_five (n := fives v)
    (by rw [abs_of_nonneg (by exact_mod_cast hn0)]; exact_mod_cast hn.trans (by norm_num))
  refine ⟨p, ?_, hpv⟩
  simp only [Number.roundToMultiple, Number.div_float_of_toFloat hf five_beq_zero, Except.ok_bind,
    Number.add_float_of_toFloat (rfl : (Number.float (f / 5.0)).toFloat = .ok _),
    Number.floor_float_of_ofFloat? hs]
  exact hp

/-! ## Fitting a raw price into the band -/

/-- A raw price fitted into the band `[lower, upper]`: clamped, rounded to a multiple of 5, and
moved to the multiple of 5 just inside the band if the rounding left it. The second half of
`applyBounds`. -/
def fit (lower upper raw : Number) : Except Fault Float := do
  let unit := Number.float 5.0
  let price ← Number.roundToMultiple (Number.clamp raw lower upper) unit
  let price ←
    if price.lt lower then do
      let inside ← (Number.int (← (← lower.div unit).ceil)).mul unit
      pure (if inside.le upper then inside else price)
    else if upper.lt price then do
      let inside ← (Number.int (← (← upper.div unit).floor)).mul unit
      pure (if lower.le inside then inside else price)
    else pure price
  price.toFloat

theorem applyBounds_eq_fit (base raw minFactor maxFactor : Number) :
    applyBounds base raw minFactor maxFactor = (do
      let lower := Number.roundPlaces 6 (← base.mul minFactor)
      let upper := Number.roundPlaces 6 (← base.mul maxFactor)
      fit lower upper raw) := rfl

section Fit

variable {L U : Float} {l u : ℚ} (hL : Extended.ofFloat? L = some (.finite l))
  (hU : Extended.ofFloat? U = some (.finite u)) (hl0 : 0 ≤ l) (hlu : l ≤ u) (hu : u ≤ 2 ^ 44)
include hL hU hl0 hlu hu

/-- A raw price fits into the band at `5 · settle l u i j (fives v)`, where `v` is where the clamp
puts it, `5 · fives v` the multiple of 5 it rounds to, and `i`, `j` are the band's edge counts. -/
theorem fit_value {raw : Number} {x : Extended} (hraw : raw.extended? = some x) :
    ∃ v P y, (Extended.finite v).rank = (Extended.finite l).rank ⊔ ((Extended.finite u).rank ⊓ x.rank) ∧
      l ≤ v ∧ v ≤ u ∧ Number.roundToMultiple (Number.clamp raw (.float L) (.float U)) (.float 5.0) = .ok (.float P) ∧
      Extended.ofFloat? P = some (.finite (5 * fives v)) ∧ fit (.float L) (.float U) raw = .ok y ∧
      Extended.ofFloat? y =
        some (.finite (5 * settle l u ⌈roundNearest (l / 5)⌉ ⌊roundNearest (u / 5)⌋ (fives v))) := by
  have hlu' : (Extended.finite l).rank ≤ (Extended.finite u).rank := by simpa using hlu
  have hL' : (Number.float L).extended? = some (.finite l) := hL
  have hU' : (Number.float U).extended? = some (.finite u) := hU
  -- the clamp lands in the band, and rounds to `n` fives
  obtain ⟨c, hc, hcr⟩ := Number.rank_clamp hraw hL' hU' hlu'
  obtain ⟨v, rfl, hlv, hvu⟩ := Extended.finite_of_rank_between (hcr ▸ le_sup_left)
    (hcr ▸ sup_le hlu' inf_le_left)
  obtain ⟨P, hP, hPv⟩ := roundToMultiple_five hc (by linarith) (by linarith)
  set n := fives v
  -- the band's edge counts, and their multiples of 5
  set i := ⌈roundNearest (l / 5)⌉ with hi_def
  set j := ⌊roundNearest (u / 5)⌋ with hj_def
  have hl5 := fifth_bounds hl0 (by linarith)
  have hu5 := fifth_bounds (hl0.trans hlu) (by linarith)
  have hlq := ofFloat?_of_round (ofFloat?_div hL ofFloat?_five (by norm_num)) (e := 45) (by norm_num)
    (by norm_num) (by rw [abs_of_nonneg (by positivity)]; norm_num; linarith)
  have huq := ofFloat?_of_round (ofFloat?_div hU ofFloat?_five (by norm_num)) (e := 45) (by norm_num)
    (by norm_num) (by rw [abs_of_nonneg (by linarith)]; norm_num; linarith)
  have hi : |(i : ℚ)| ≤ 2 ^ 50 := by
    have h0 : 0 ≤ i := Int.ceil_nonneg hl5.1
    have h1 : (i : ℚ) ≤ 2 ^ 45 + 1 := by
      have := Int.ceil_lt_add_one (roundNearest (l / 5))
      linarith
    rw [abs_of_nonneg (by exact_mod_cast h0)]
    linarith
  have hj : |(j : ℚ)| ≤ 2 ^ 50 := by
    have h0 : 0 ≤ j := Int.floor_nonneg.2 hu5.1
    have h1 : (j : ℚ) ≤ 2 ^ 45 := (Int.floor_le _).trans hu5.2
    rw [abs_of_nonneg (by exact_mod_cast h0)]
    linarith
  obtain ⟨PI, hPI, hPIv⟩ := mul_five hi
  obtain ⟨PJ, hPJ, hPJv⟩ := mul_five hj
  have hPv' : (Number.float P).extended? = some (.finite (5 * n)) := hPv
  have hPIv' : (Number.float PI).extended? = some (.finite (5 * i)) := hPIv
  have hPJv' : (Number.float PJ).extended? = some (.finite (5 * j)) := hPJv
  refine ⟨v, P, if 5 * (n : ℚ) < l then (if 5 * (i : ℚ) ≤ u then PI else P)
    else if u < 5 * (n : ℚ) then (if l ≤ 5 * (j : ℚ) then PJ else P) else P, hcr, hlv, hvu, hP, hPv, ?_, ?_⟩
  · simp only [fit, hP, Except.ok_bind, Number.div_float_of_toFloat (rfl : (Number.float L).toFloat = .ok L)
      five_beq_zero, Number.div_float_of_toFloat (rfl : (Number.float U).toFloat = .ok U) five_beq_zero,
      Number.ceil_float_of_ofFloat? hlq, Number.floor_float_of_ofFloat? huq, ← hi_def, ← hj_def, hPI, hPJ,
      Number.lt_of_finite hPv' hL', Number.lt_of_finite hU' hPv', Number.le_of_finite hPIv' hU',
      Number.le_of_finite hL' hPJv', decide_eq_true_eq]
    split_ifs <;> rfl
  · unfold settle
    split_ifs <;> assumption

/-- Fitting into a band of doubles keeps the order of raw prices. -/
theorem fit_mono {raw raw' : Number} {x x' : Extended} (hraw : raw.extended? = some x)
    (hraw' : raw'.extended? = some x') (hx : x.rank ≤ x'.rank) :
    ∃ y y', fit (.float L) (.float U) raw = .ok y ∧ fit (.float L) (.float U) raw' = .ok y' ∧ y ≤ y' := by
  obtain ⟨v, -, y, hv, -, -, -, -, hy, hyv⟩ := fit_value hL hU hl0 hlu hu hraw
  obtain ⟨v', -, y', hv', -, -, -, -, hy', hyv'⟩ := fit_value hL hU hl0 hlu hu hraw'
  -- the clamp keeps the order, and so do the count of fives and the move into the band
  have hvv : v ≤ v' := by
    have h : (Extended.finite v).rank ≤ (Extended.finite v').rank := by
      rw [hv, hv']
      exact sup_le_sup_left (inf_le_inf_left _ hx) _
    simpa using h
  have hs := settle_mono (ceil_le_of_le hl0 (by linarith)) (le_floor_of_le (hl0.trans hlu) (by linarith))
    (fives_mono hvv)
  refine ⟨y, y', hy, hy', (le_iff_of_finite hyv hyv').2 ?_⟩
  have hs' : (settle l u ⌈roundNearest (l / 5)⌉ ⌊roundNearest (u / 5)⌋ (fives v) : ℚ) ≤
      settle l u ⌈roundNearest (l / 5)⌉ ⌊roundNearest (u / 5)⌋ (fives v') := by exact_mod_cast hs
  linarith

end Fit

/-! ## The band -/

/-- The value of a band edge whose exact product is `q`: rounded to six decimals, half to even,
and then to a double. -/
def sixPlaces (q : ℚ) : ℚ := roundNearest (nearestInt (q * 10 ^ 6) / 10 ^ 6)

theorem sixPlaces_mono : Monotone sixPlaces := by
  intro q q' h
  have hn : nearestInt (q * 10 ^ 6) ≤ nearestInt (q' * 10 ^ 6) :=
    nearestInt_mono (mul_le_mul_of_nonneg_right h (by norm_num))
  have hn' : (nearestInt (q * 10 ^ 6) : ℚ) / 10 ^ 6 ≤ nearestInt (q' * 10 ^ 6) / 10 ^ 6 :=
    div_le_div_of_nonneg_right (by exact_mod_cast hn) (by norm_num)
  exact roundNearest_mono hn'

/-- An edge from a product in `[0, 2^43]` lies in `[0, 2^44]`. -/
theorem sixPlaces_bounds {q : ℚ} (hq0 : 0 ≤ q) (hq : q ≤ 2 ^ 43) : 0 ≤ sixPlaces q ∧ sixPlaces q ≤ 2 ^ 44 := by
  have h0 : 0 ≤ nearestInt (q * 10 ^ 6) := by
    simpa using nearestInt_mono (mul_nonneg hq0 (by norm_num : (0 : ℚ) ≤ 10 ^ 6))
  have hnear : |q * 10 ^ 6 - nearestInt (q * 10 ^ 6)| ≤ 1 / 2 := by
    rcases nearestTo_nearestInt (q * 10 ^ 6) with h | ⟨h, -⟩ <;> linarith
  have h1 : (nearestInt (q * 10 ^ 6) : ℚ) / 10 ^ 6 ≤ 2 ^ 44 := by
    have hq' : q * 10 ^ 6 ≤ 2 ^ 43 * 10 ^ 6 := mul_le_mul_of_nonneg_right hq (by norm_num)
    have hn := (abs_le.1 hnear).1
    rw [div_le_iff₀ (by norm_num)]
    norm_num at hq' hn ⊢
    linarith
  have h0' : (0 : ℚ) ≤ nearestInt (q * 10 ^ 6) / 10 ^ 6 := by positivity
  unfold sixPlaces
  refine ⟨roundNearest_nonneg h0', ?_⟩
  have h := abs_roundNearest_le (k := 44) (by norm_num) (by rw [abs_of_nonneg h0']; exact_mod_cast h1)
  exact (le_abs_self _).trans (by simpa using h)

section Edges

variable {b : ℚ} (hb0 : 0 ≤ b) (hb1 : b ≤ 10 ^ 12)
include hb0 hb1

/-- A base in `[0, 10^12]` times a factor in `[0, 5]` lies in `[0, 2^43]`. -/
theorem product_bounds {f : ℚ} (hf0 : 0 ≤ f) (hf : f ≤ 5) : 0 ≤ b * f ∧ |b * f| ≤ 2 ^ (43 : ℤ) := by
  have h0 := mul_nonneg hb0 hf0
  refine ⟨h0, ?_⟩
  rw [abs_of_nonneg h0]
  have := mul_le_mul hb1 hf hf0 (by norm_num : (0 : ℚ) ≤ 10 ^ 12)
  norm_num
  linarith

/-- The edges of a band with factors `0 ≤ m ≤ x ≤ 5` are ordered, within `[0, 2^44]`. -/
theorem edges_ordered {m x : ℚ} (hm0 : 0 ≤ m) (hmx : m ≤ x) (hx5 : x ≤ 5) :
    0 ≤ sixPlaces (roundNearest (b * m)) ∧ sixPlaces (roundNearest (b * m)) ≤ sixPlaces (roundNearest (b * x)) ∧
      sixPlaces (roundNearest (b * x)) ≤ 2 ^ 44 := by
  -- both edges come from products in `[0, 2^43]`, and the lower one from the smaller
  have hprod : ∀ {f : ℚ}, 0 ≤ f → f ≤ 5 → 0 ≤ roundNearest (b * f) ∧ roundNearest (b * f) ≤ 2 ^ 43 := by
    intro f hf0 hf
    obtain ⟨h0, hbf⟩ := product_bounds hb0 hb1 hf0 hf
    exact ⟨roundNearest_nonneg h0, (le_abs_self _).trans (by simpa using abs_roundNearest_le (by norm_num) hbf)⟩
  have hl := sixPlaces_bounds (hprod hm0 (by linarith)).1 (hprod hm0 (by linarith)).2
  have hu := sixPlaces_bounds (hprod (by linarith) hx5).1 (hprod (by linarith) hx5).2
  exact ⟨hl.1, sixPlaces_mono (roundNearest_mono (mul_le_mul_of_nonneg_left hmx hb0)), hu.2⟩

/-- A band edge: a base in `[0, 10^12]` times a factor in `[0, 5]`, rounded to six decimals, is
a double of value `sixPlaces` of the rounded product. -/
theorem edge_float {base : Number} (hb : base.extended? = some (.finite b)) {F : Float} {f : ℚ}
    (hF : Extended.ofFloat? F = some (.finite f)) (hf0 : 0 ≤ f) (hf : f ≤ 5) :
    ∃ E, (base.mul (.float F)).map (Number.roundPlaces 6) = .ok (.float E) ∧
      Extended.ofFloat? E = some (.finite (sixPlaces (roundNearest (b * f)))) := by
  obtain ⟨B, hB, hBv⟩ := Number.toFloat_of_extended? hb (by rw [abs_of_nonneg hb0]; linarith)
  have hbf := (product_bounds hb0 hb1 hf0 hf).2
  have hP := ofFloat?_of_round (ofFloat?_mul hBv hF) (by norm_num) (by norm_num) hbf
  obtain ⟨E, hE, hEv⟩ := Number.roundPlaces_float hP 6 (e := 43) (by norm_num) (by norm_num)
    (abs_roundNearest_le (by norm_num) hbf)
  refine ⟨E, ?_, hEv⟩
  rw [Number.mul_float_of_toFloat hB F]
  exact congrArg Except.ok hE

/-- The band of `applyBounds`: its edges are doubles of values `sixPlaces` of the rounded
products, and the price is the raw price fitted between them. -/
theorem applyBounds_band {base : Number} (hb : base.extended? = some (.finite b)) {M X : Float} {m x : ℚ}
    (hM : Extended.ofFloat? M = some (.finite m)) (hX : Extended.ofFloat? X = some (.finite x)) (hm0 : 0 ≤ m)
    (hmx : m ≤ x) (hx5 : x ≤ 5) :
    ∃ L U, (base.mul (.float M)).map (Number.roundPlaces 6) = .ok (.float L) ∧
      (base.mul (.float X)).map (Number.roundPlaces 6) = .ok (.float U) ∧
      Extended.ofFloat? L = some (.finite (sixPlaces (roundNearest (b * m)))) ∧
      Extended.ofFloat? U = some (.finite (sixPlaces (roundNearest (b * x)))) ∧
      ∀ raw, applyBounds base raw (.float M) (.float X) = fit (.float L) (.float U) raw := by
  obtain ⟨L, hL, hLv⟩ := edge_float hb0 hb1 hb hM hm0 (by linarith)
  obtain ⟨U, hU, hUv⟩ := edge_float hb0 hb1 hb hX (by linarith) hx5
  refine ⟨L, U, hL, hU, hLv, hUv, fun raw => ?_⟩
  -- the edges are what the two products round to
  obtain ⟨PL, hPL, hEL⟩ : ∃ PL, base.mul (.float M) = .ok PL ∧ Number.roundPlaces 6 PL = .float L := by
    cases h : base.mul (.float M) <;> simp_all [Except.map]
  obtain ⟨PU, hPU, hEU⟩ : ∃ PU, base.mul (.float X) = .ok PU ∧ Number.roundPlaces 6 PU = .float U := by
    cases h : base.mul (.float X) <;> simp_all [Except.map]
  rw [applyBounds_eq_fit]
  simp only [hPL, hPU, Except.ok_bind, hEL, hEU]

/-- `applyBounds` keeps the order of raw prices, for a base in `[0, 10^12]` and band factors
`0 ≤ m ≤ x ≤ 5`, whether or not the band holds a multiple of 5. -/
theorem applyBounds_mono {base : Number} (hb : base.extended? = some (.finite b)) {M X : Float} {m x : ℚ}
    (hM : Extended.ofFloat? M = some (.finite m)) (hX : Extended.ofFloat? X = some (.finite x)) (hm0 : 0 ≤ m)
    (hmx : m ≤ x) (hx5 : x ≤ 5) {raw raw' : Number} {r r' : Extended} (hr : raw.extended? = some r)
    (hr' : raw'.extended? = some r') (hrr : r.rank ≤ r'.rank) :
    ∃ y y', applyBounds base raw (.float M) (.float X) = .ok y ∧
      applyBounds base raw' (.float M) (.float X) = .ok y' ∧ y ≤ y' := by
  obtain ⟨L, U, -, -, hLv, hUv, hfit⟩ := applyBounds_band hb0 hb1 hb hM hX hm0 hmx hx5
  obtain ⟨hl, hlu, hu⟩ := edges_ordered hb0 hb1 hm0 hmx hx5
  rw [hfit, hfit]
  exact fit_mono hLv hUv hl hlu hu hr hr' hrr

end Edges

end Pricing

end TransitRevenue
