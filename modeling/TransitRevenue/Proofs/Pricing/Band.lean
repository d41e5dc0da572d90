import Mathlib
import TransitRevenue.Proofs.Pricing.Monotone
/-!
Where the band puts a recommended price.

A price rounded to a multiple of 5 is kept when it lies in the band `[lo, hi]`. When the band
holds a multiple of 5, one below the band moves up to the least multiple of 5 in it and one above
moves down to the greatest. When the band holds none, the rounding is kept, even outside the band
(`BandLaw`). The program finds those multiples as `⌈lo/5⌉` and `⌊hi/5⌋`, computed on doubles. The
quotients are rounded, but an edge is zero or a double of at least `2^-20`. Such a double lies at
least its own unit away from every multiple of 5, while the rounding of its fifth errs by at most
an eighth of that unit (`abs_sub_roundNearest_div_five_lt`). So the ceiling and floor are exact
(`ceil_roundNearest_div_five`, `floor_roundNearest_div_five`).
-/

namespace TransitRevenue

open Binary64

namespace Binary64

/-- Rounding errs by at most half the unit of the value. -/
theorem abs_sub_roundNearest_le_half (x : ℚ) : |x - roundNearest x| ≤ 2 ^ unit x / 2 := by
  have hu : (0 : ℚ) < 2 ^ unit x := zpow_pos (by norm_num) _
  have hn : |x / 2 ^ unit x - nearestInt (x / 2 ^ unit x)| ≤ 1 / 2 := by
    rcases nearestTo_nearestInt (x / 2 ^ unit x) with h | ⟨h, -⟩ <;> linarith
  have hscale : |x - roundNearest x| = |x / 2 ^ unit x - nearestInt (x / 2 ^ unit x)| * 2 ^ unit x := by
    rw [roundNearest, ← abs_of_pos hu, ← abs_mul, abs_of_pos hu, sub_mul, div_mul_cancel₀ _ hu.ne']
  rw [hscale]
  linarith [mul_le_mul_of_nonneg_right hn hu.le]

/-- Below `2^(k+53)`, and above the subnormal range, the unit is at most `2^k`. -/
theorem unit_le_of_abs_lt {x : ℚ} {k : ℤ} (hx0 : x ≠ 0) (hk : -1074 ≤ k) (hx : |x| < 2 ^ (k + 53)) :
    unit x ≤ k := by
  have hlog : Int.log 2 |x| < k + 53 :=
    (Int.lt_zpow_iff_log_lt (by norm_num) (abs_pos.2 hx0)).1 (by exact_mod_cast hx)
  unfold unit
  omega

/-- A double `n·2^k` other than the integer `m` lies at least `2^min k 0` away from it: both are
multiples of that power. -/
theorem two_zpow_min_le_abs_sub {n k m : ℤ} (h : (n : ℚ) * 2 ^ k ≠ m) :
    (2 : ℚ) ^ min k 0 ≤ |(n : ℚ) * 2 ^ k - m| := by
  set t := min k 0 with ht
  have hpt : (0 : ℚ) < 2 ^ t := zpow_pos (by norm_num) t
  have hfac : (n : ℚ) * 2 ^ k - m = ((n * 2 ^ (k - t).toNat - m * 2 ^ (-t).toNat : ℤ) : ℚ) * 2 ^ t := by
    push_cast
    rw [← zpow_natCast, ← zpow_natCast, Int.toNat_of_nonneg (by omega), Int.toNat_of_nonneg (by omega),
      sub_mul, mul_assoc, mul_assoc, ← zpow_add₀ (by norm_num), ← zpow_add₀ (by norm_num)]
    simp
  set N := n * 2 ^ (k - t).toNat - m * 2 ^ (-t).toNat
  have hN : N ≠ 0 := by
    rintro hN0
    rw [hN0, Int.cast_zero, zero_mul, sub_eq_zero] at hfac
    exact h hfac
  have hN1 : (1 : ℚ) ≤ |(N : ℚ)| := by exact_mod_cast Int.one_le_abs hN
  rw [hfac, abs_mul, abs_of_pos hpt]
  nlinarith

/-- A fifth of a value below `2^(k+53)` and at most `2^50` is below `2^(min k 0 + 51)`. -/
theorem abs_div_five_lt {x : ℚ} {k : ℤ} (hx : |x| < 2 ^ (k + 53)) (hx1 : |x| ≤ 2 ^ 50) :
    |x / 5| < 2 ^ (min k 0 - 2 + 53) := by
  rw [abs_div, abs_of_pos (by norm_num : (0 : ℚ) < 5)]
  rcases min_cases k 0 with ⟨hmin, -⟩ | ⟨hmin, -⟩ <;> rw [hmin]
  · -- `|x| / 5 < 2^(k+53) / 4`
    have h4 : (2 : ℚ) ^ (k - 2 + 53) = 2 ^ (k + 53) / 4 := by
      rw [show k - 2 + 53 = k + 53 - 2 by ring, zpow_sub₀ (by norm_num)]
      norm_num
    have hp : (0 : ℚ) < 2 ^ (k + 53) := zpow_pos (by norm_num) _
    rw [h4]
    linarith
  · -- `|x| / 5 ≤ 2^50 / 5 < 2^51`
    calc |x| / 5 ≤ 2 ^ 50 / 5 := by linarith
      _ < 2 ^ (0 - 2 + 53 : ℤ) := by norm_num

/-- A double `l` with `2^-20 ≤ |l| ≤ 2^50`, divided by 5 and rounded, stays nearer to `l/5`
than any integer other than `l/5` itself: `l` lies at least `2^min k 0` from a multiple of 5,
while the unit of `l/5` is at most a quarter of that, and rounding errs by half a unit. -/
theorem abs_sub_roundNearest_div_five_lt {l : ℚ} (hl : Representable l) (hl0 : 2 ^ (-20 : ℤ) ≤ |l|)
    (hl1 : |l| ≤ 2 ^ 50) {m : ℤ} (hm : l ≠ 5 * m) : |l / 5 - roundNearest (l / 5)| < |l / 5 - m| := by
  obtain ⟨n, k, hn, hk, rfl⟩ := hl
  have hn' : |(n : ℚ)| < 2 ^ 53 := by exact_mod_cast hn
  have hpk : (0 : ℚ) < 2 ^ k := zpow_pos (by norm_num) k
  have hlk : |(n : ℚ) * 2 ^ k| < 2 ^ (k + 53) := by
    rw [abs_mul, abs_of_pos hpk, zpow_add₀ (by norm_num), mul_comm ((2 : ℚ) ^ k)]
    exact mul_lt_mul_of_pos_right (by exact_mod_cast hn') hpk
  -- `l` is at least `2^-20` and below `2^(k+53)`, so `k` lies far above the subnormal range
  have hk' : -73 < k := by
    by_contra hlt
    have : (2 : ℚ) ^ (k + 53) ≤ 2 ^ (-20 : ℤ) := zpow_le_zpow_right₀ (by norm_num) (by omega)
    linarith
  have hgap := two_zpow_min_le_abs_sub (n := n) (k := k) (m := 5 * m) (by push_cast; exact hm)
  have hfifth := abs_div_five_lt hlk hl1
  have hl0' : (n : ℚ) * 2 ^ k / 5 ≠ 0 := by
    intro h0
    have : |(n : ℚ) * 2 ^ k| = 0 := by rw [abs_eq_zero]; linarith [div_eq_zero_iff.1 h0]
    have : (0 : ℚ) < 2 ^ (-20 : ℤ) := zpow_pos (by norm_num) _
    linarith
  have hu := unit_le_of_abs_lt hl0' (by omega) hfifth
  have hgap' : (2 : ℚ) ^ min k 0 / 5 ≤ |(n : ℚ) * 2 ^ k / 5 - m| := by
    rw [show (n : ℚ) * 2 ^ k / 5 - m = ((n : ℚ) * 2 ^ k - ((5 * m : ℤ) : ℚ)) / 5 by push_cast; ring, abs_div,
      abs_of_pos (by norm_num : (0 : ℚ) < 5)]
    linarith
  have hhalf : (2 : ℚ) ^ unit ((n : ℚ) * 2 ^ k / 5) / 2 ≤ 2 ^ min k 0 / 8 := by
    have h := zpow_le_zpow_right₀ (by norm_num : (1 : ℚ) ≤ 2) hu
    rw [zpow_sub₀ (by norm_num)] at h
    norm_num at h
    linarith
  have hpt : (0 : ℚ) < 2 ^ min k 0 := zpow_pos (by norm_num) _
  calc |(n : ℚ) * 2 ^ k / 5 - roundNearest ((n : ℚ) * 2 ^ k / 5)|
      ≤ 2 ^ unit ((n : ℚ) * 2 ^ k / 5) / 2 := abs_sub_roundNearest_le_half _
    _ ≤ 2 ^ min k 0 / 8 := hhalf
    _ < 2 ^ min k 0 / 5 := by linarith
    _ ≤ |(n : ℚ) * 2 ^ k / 5 - m| := hgap'

section Fifth

variable {l : ℚ} (hl : Representable l) (hl0 : 0 ≤ l) (hedge : l = 0 ∨ 2 ^ (-20 : ℤ) ≤ l)
  (hl1 : l ≤ 2 ^ 50)
include hl hl0 hedge hl1

/-- The ceiling of a band edge's fifth, rounded to a double, is the exact ceiling. -/
theorem ceil_roundNearest_div_five : ⌈roundNearest (l / 5)⌉ = ⌈l / 5⌉ := by
  rcases hedge with rfl | hpos
  case inl => simp
  apply le_antisymm
  · exact Pricing.ceil_le_of_le hl0 hl1 _ (by linarith [Int.le_ceil (l / 5)])
  · -- were the ceiling of the rounding below `l/5`, the rounding would not exceed it
    apply Int.ceil_le.2
    by_contra hlt
    rw [not_le] at hlt
    have h := abs_sub_roundNearest_div_five_lt hl (by rwa [abs_of_nonneg hl0]) (by rwa [abs_of_nonneg hl0])
      (m := ⌈roundNearest (l / 5)⌉) (by linarith)
    rw [abs_of_pos (by linarith : 0 < l / 5 - ⌈roundNearest (l / 5)⌉)] at h
    linarith [(abs_lt.1 h).2, Int.le_ceil (roundNearest (l / 5))]

/-- The floor of a band edge's fifth, rounded to a double, is the exact floor. -/
theorem floor_roundNearest_div_five : ⌊roundNearest (l / 5)⌋ = ⌊l / 5⌋ := by
  rcases hedge with rfl | hpos
  case inl => simp
  apply le_antisymm
  · -- were the floor of the rounding above `l/5`, the rounding would not reach it
    apply Int.le_floor.2
    by_contra hlt
    rw [not_le] at hlt
    have h := abs_sub_roundNearest_div_five_lt hl (by rwa [abs_of_nonneg hl0]) (by rwa [abs_of_nonneg hl0])
      (m := ⌊roundNearest (l / 5)⌋) (by linarith)
    rw [abs_of_neg (by linarith : l / 5 - ⌊roundNearest (l / 5)⌋ < 0)] at h
    linarith [(abs_lt.1 h).1, Int.floor_le (roundNearest (l / 5))]
  · exact Pricing.le_floor_of_le hl0 hl1 _ (by linarith [Int.floor_le (l / 5)])

end Fifth

end Binary64

namespace Pricing

/-- A band edge is zero or at least `2^-20`: its six decimals are none, or at least `10^-6`. -/
theorem sixPlaces_edge {q : ℚ} (hq : 0 ≤ q) : sixPlaces q = 0 ∨ 2 ^ (-20 : ℤ) ≤ sixPlaces q := by
  have h0 : 0 ≤ nearestInt (q * 10 ^ 6) := by
    simpa using nearestInt_mono (mul_nonneg hq (by norm_num : (0 : ℚ) ≤ 10 ^ 6))
  unfold sixPlaces
  rcases h0.eq_or_lt with h | h
  · left
    rw [← h]
    simp
  · right
    have h1 : (1 : ℚ) ≤ nearestInt (q * 10 ^ 6) := by exact_mod_cast h
    have hsmall : (2 : ℚ) ^ (-20 : ℤ) * 10 ^ 6 ≤ 1 := by norm_num
    apply le_roundNearest (representable_two_zpow (by norm_num))
    rw [le_div_iff₀ (by norm_num)]
    linarith

/-! ## The law -/

/-- Where the band `[lo, hi]` puts a price `r` whose raw price, clamped into the band, rounds to
the multiple of 5 `p`. -/
structure BandLaw (lo hi p r : ℚ) : Prop where
  nonneg : 0 ≤ r
  multiple : ∃ k : ℤ, r = 5 * k
  kept : lo ≤ p → p ≤ hi → r = p
  raised : p < lo → (∃ k : ℤ, lo ≤ 5 * k ∧ 5 * k ≤ hi) → IsLeast {x | lo ≤ x ∧ ∃ k : ℤ, x = 5 * k} r
  lowered : hi < p → (∃ k : ℤ, lo ≤ 5 * k ∧ 5 * k ≤ hi) → IsGreatest {x | x ≤ hi ∧ ∃ k : ℤ, x = 5 * k} r
  unmoved : (¬∃ k : ℤ, lo ≤ 5 * k ∧ 5 * k ≤ hi) → r = p
  within_iff : lo ≤ r ∧ r ≤ hi ↔ ∃ k : ℤ, lo ≤ 5 * k ∧ 5 * k ≤ hi

section Law

variable {l u : ℚ} (hl0 : 0 ≤ l) (hlu : l ≤ u)
include hl0 hlu

/-- Settling a count of fives between the exact edge counts obeys the band law. -/
theorem bandLaw_settle {n : ℤ} (hn : 0 ≤ n) : BandLaw l u (5 * n) (5 * settle l u ⌈l / 5⌉ ⌊u / 5⌋ n) := by
  set i := ⌈l / 5⌉
  set j := ⌊u / 5⌋
  -- `5i` is the least multiple of 5 from `l`, `5j` the greatest up to `u`
  have hi : l ≤ 5 * (i : ℚ) := by linarith [Int.le_ceil (l / 5)]
  have hi' : ∀ k : ℤ, l ≤ 5 * k → i ≤ k := fun k hk => Int.ceil_le.2 (by linarith)
  have hj : 5 * (j : ℚ) ≤ u := by linarith [Int.floor_le (u / 5)]
  have hj' : ∀ k : ℤ, 5 * (k : ℚ) ≤ u → k ≤ j := fun k hk => Int.le_floor.2 (by linarith)
  have hcast : ∀ {a b : ℤ}, a ≤ b → 5 * (a : ℚ) ≤ 5 * b := by
    intro a b h
    have : (a : ℚ) ≤ b := by exact_mod_cast h
    linarith
  -- the band holds a multiple of 5 exactly when it holds `5i`, and exactly when it holds `5j`
  have hsome_i : (∃ k : ℤ, l ≤ 5 * k ∧ 5 * k ≤ u) ↔ 5 * (i : ℚ) ≤ u :=
    ⟨fun ⟨k, hk, hk'⟩ => (hcast (hi' k hk)).trans hk', fun h => ⟨i, hi, h⟩⟩
  have hsome_j : (∃ k : ℤ, l ≤ 5 * k ∧ 5 * k ≤ u) ↔ l ≤ 5 * (j : ℚ) :=
    ⟨fun ⟨k, hk, hk'⟩ => hk.trans (hcast (hj' k hk')), fun h => ⟨j, h, hj⟩⟩
  have hinside : l ≤ 5 * (n : ℚ) → 5 * (n : ℚ) ≤ u → settle l u i j n = n := fun h h' =>
    settle_of_mem (not_lt.2 h) (not_lt.2 h')
  have hbelow : 5 * (n : ℚ) < l → 5 * (i : ℚ) ≤ u → settle l u i j n = i := fun h h' => by
    rw [settle_of_lt h, if_pos h']
  have habove : u < 5 * (n : ℚ) → l ≤ 5 * (j : ℚ) → settle l u i j n = j := fun h h' => by
    rw [settle_of_gt (by linarith) h, if_pos h']
  have hnone : (¬∃ k : ℤ, l ≤ 5 * k ∧ 5 * k ≤ u) → settle l u i j n = n := fun h => by
    rw [hsome_i] at h
    have h' : ¬l ≤ 5 * (j : ℚ) := fun h' => h ((hsome_i.1 (hsome_j.2 h')))
    unfold settle
    split_ifs <;> rfl
  have hin : (∃ k : ℤ, l ≤ 5 * k ∧ 5 * k ≤ u) →
      l ≤ 5 * (settle l u i j n : ℚ) ∧ 5 * (settle l u i j n : ℚ) ≤ u := fun h => by
    by_cases h₁ : 5 * (n : ℚ) < l
    case pos => rw [hbelow h₁ (hsome_i.1 h)]; exact ⟨hi, hsome_i.1 h⟩
    by_cases h₂ : u < 5 * (n : ℚ)
    case pos => rw [habove h₂ (hsome_j.1 h)]; exact ⟨hsome_j.1 h, hj⟩
    rw [hinside (not_lt.1 h₁) (not_lt.1 h₂)]
    exact ⟨not_lt.1 h₁, not_lt.1 h₂⟩
  refine ⟨?nonneg, ⟨_, rfl⟩, fun h h' => by rw [hinside h h'], ?raised, ?lowered,
    fun h => by rw [hnone h], ⟨fun h => ⟨_, h⟩, hin⟩⟩
  case nonneg =>
    have hi0 : 0 ≤ i := Int.ceil_nonneg (by positivity)
    have hj0 : 0 ≤ j := Int.floor_nonneg.2 (by linarith)
    have hs : 0 ≤ settle l u i j n := by unfold settle; split_ifs <;> assumption
    have : (0 : ℚ) ≤ settle l u i j n := by exact_mod_cast hs
    linarith
  case raised =>
    intro h hsome
    rw [hbelow h (hsome_i.1 hsome)]
    refine ⟨⟨hi, i, rfl⟩, ?_⟩
    rintro x ⟨hx, k, rfl⟩
    exact hcast (hi' k hx)
  case lowered =>
    intro h hsome
    rw [habove h (hsome_j.1 hsome)]
    refine ⟨⟨hj, j, rfl⟩, ?_⟩
    rintro x ⟨hx, k, rfl⟩
    exact hcast (hj' k hx)

end Law

end Pricing

namespace Quote

/-- How the band shapes a recommended price `r` from a raw price: the edges the program computes
from the base and the band factors of `s`, the raw price clamped between them and rounded to a
multiple of 5, and the law their values obey. -/
def Banded (base : Number) (s : Settings) (raw r : Float) : Prop :=
  ∃ (L U P : Float) (lo hi p v : ℚ),
    (base.mul (.float s.minFactor)).map (Number.roundPlaces 6) = .ok (.float L) ∧
    (base.mul (.float s.maxFactor)).map (Number.roundPlaces 6) = .ok (.float U) ∧
    Number.roundToMultiple (Number.clamp (.float raw) (.float L) (.float U)) (.float 5.0) = .ok (.float P) ∧
    Extended.ofFloat? L = some (.finite lo) ∧ Extended.ofFloat? U = some (.finite hi) ∧
    Extended.ofFloat? P = some (.finite p) ∧ Extended.ofFloat? r = some (.finite v) ∧
    Pricing.BandLaw lo hi p v

/-- The recommended price for valid settings obeys the band law, its raw price being the base
times the demand, time and day factors the quote reports; for a finite base in `[0, 10^12]` and a
quotient of passengers by seats that is a finite double. -/
theorem recommended_price_banded {base : Number} {b : ℚ} (hb : base.extended? = some (.finite b))
    (hb0 : 0 ≤ b) (hb1 : b ≤ 10 ^ 12) {p c : ℤ} (hq : isFinite (ofRat (p / c)) = true) (departure : Moment)
    {s : Settings} (hs : s.check = .ok ()) :
    ∃ q, compute base (.int p) (.int c) departure s = .ok q ∧
      Banded base s (q.base * q.demand * q.time * q.day) q.recommended := by
  have hr := Settings.ranges_of_check hs
  obtain ⟨B, hB, hBv⟩ := Number.toFloat_of_extended? hb (by rw [abs_of_nonneg hb0]; linarith)
  -- the band
  obtain ⟨m, x, hM, hX, hm0, hm1, hx1, hx5⟩ := hr.band_values
  obtain ⟨L, U, hL, hU, hLv, hUv, hfit⟩ := Pricing.applyBounds_band hb0 hb1 hb hM hX hm0.le (by linarith) hx5
  obtain ⟨hl0, hlu, hu⟩ := Pricing.edges_ordered hb0 hb1 hm0.le (by linarith) hx5
  -- the factors, and the raw price they make, a finite double
  obtain ⟨O, -, -, -, hO, -, -, -, -⟩ := Pricing.occupancyRate_mono le_rfl hq hq
  obtain ⟨T, _, hT, -, hTT⟩ := Pricing.timeFactor_rises departure (Rises.refl (Settings.within_of_between hr.peak))
  obtain ⟨Y, _, hY, -, hYY⟩ := Pricing.dayFactor_rises departure (Settings.seasonMultiplier?_getD s _)
    (Settings.seasonMultiplier?_getD s _) (Rises.refl (Settings.within_of_between hr.weekend))
    (Rises.refl (Settings.seasonFactor_within hr _))
  have hBase : Rises 40 B B := Rises.refl ⟨b, hBv, by rw [abs_of_nonneg hb0]; linarith, fun _ => hb0⟩
  obtain ⟨ρ, _, hρ, -⟩ := ((hBase.mul (Rises.refl (Pricing.demandFactor_within _ _ _)) (by norm_num)
    (by norm_num)).mul hTT (by norm_num) (by norm_num)).mul hYY (by norm_num) (by norm_num)
  have hraw : (Number.float (B * Pricing.demandFactor (.float O) (.int s.lowDemand) (.int s.highDemand) * T * Y)).extended? =
      some (.finite ρ) := hρ
  -- the price fitted into the band
  obtain ⟨v, P, y, -, hlv, hvu, hP, hPv, hy, hyv⟩ := Pricing.fit_value hLv hUv hl0 hlu hu hraw
  have hwf : Pricing.withFactors base (.float (Pricing.demandFactor (.float O) (.int s.lowDemand) (.int s.highDemand)))
      (.float T) (.float Y) (.float s.minFactor) (.float s.maxFactor) = .ok y := by
    simp only [Pricing.withFactors, Number.mul_float_of_toFloat hB, Except.ok_bind, hfit]
    exact hy
  obtain ⟨q, hq, hqr, hqB, hqD, hqT, hqY⟩ := compute_of_recommended hb hB hBv hO hT hY hwf
  -- the edges' fifths round to their exact ceiling and floor
  have hi := ceil_roundNearest_div_five (l := Pricing.sixPlaces (roundNearest (b * m)))
    (representable_roundNearest _) hl0 (Pricing.sixPlaces_edge (roundNearest_nonneg (mul_nonneg hb0 hm0.le)))
    (by linarith)
  have hj := floor_roundNearest_div_five (l := Pricing.sixPlaces (roundNearest (b * x)))
    (representable_roundNearest _) (hl0.trans hlu)
    (Pricing.sixPlaces_edge (roundNearest_nonneg (mul_nonneg hb0 (by linarith)))) (by linarith)
  rw [hi, hj] at hyv
  refine ⟨q, hq, L, U, P, _, _, _, _, hL, hU, ?_, hLv, hUv, hPv, ?_,
    Pricing.bandLaw_settle hl0 hlu (Pricing.fives_bounds (v := v) (by linarith) (by linarith)).1⟩
  · rw [hqB, hqD, hqT, hqY]
    exact hP
  · rw [hqr]
    exact hyv

/-- An empty bus at a weekday noon, on a base of 102 between factors 0.99 and 1.01: a band,
`[100.98, 103.02]`, that holds no multiple of 5. -/
theorem recommended_price_banded_without_multiple :
    ∃ q, compute (.int 102) (.int 0) (.int 40) { date := ⟨2025, 6, 10⟩, hour := 12 }
        { minFactor := 0.99, maxFactor := 1.01 } = .ok q ∧
      Banded (.int 102) { minFactor := 0.99, maxFactor := 1.01 } (q.base * q.demand * q.time * q.day)
        q.recommended :=
  recommended_price_banded (b := 102) rfl (by norm_num) (by norm_num)
    (isFinite_of_ofFloat? (ofFloat?_of_round (ofFloat?_ofRat _) (e := 0) (by norm_num) (by norm_num) (by norm_num)))
    { date := ⟨2025, 6, 10⟩, hour := 12 } rfl

end Quote

end TransitRevenue
