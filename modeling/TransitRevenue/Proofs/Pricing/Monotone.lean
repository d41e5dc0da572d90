import Mathlib
import TransitRevenue.Proofs.Pricing.Bounds
/-!
A recommended price never falls when more seats are taken, or when valid settings raise the peak,
weekend or season multiplier.

Every factor of the raw price rises with what it reads: occupancy with the passengers (the
quotient and the scaling to percent are rounded monotonically), the demand factor with the
occupancy (a step function that only steps up, whatever the thresholds), and the time and day
factors with their multipliers. Valid settings keep every factor a finite double in a small
range, so each rounded product of non-negative factors rises too (`Rises.mul`), and
`applyBounds_mono` carries the order through the band.
-/

namespace TransitRevenue

open Binary64

namespace Binary64

theorem finite_of_isFinite {x : Float} (h : isFinite x = true) : ∃ a, Extended.ofFloat? x = some (.finite a) := by
  unfold isFinite at h
  unfold Extended.ofFloat?
  split at h
  case h_1 neg m e hd => exact ⟨_, by rw [hd]⟩
  case h_2 => cases h

/-- A quotient that rounds to a finite double has the rounded value. -/
theorem ofFloat?_ofRat_of_isFinite {q : ℚ} (h : isFinite (ofRat q) = true) :
    Extended.ofFloat? (ofRat q) = some (.finite (roundNearest q)) := by
  obtain ⟨a, ha⟩ := finite_of_isFinite h
  have hq := ofFloat?_ofRat q
  rw [ha, Option.some.injEq, packed] at hq
  split_ifs at hq
  rw [ha, hq]

theorem beq_zero_eq_false {x : Float} {a : ℚ} (hx : Extended.ofFloat? x = some (.finite a)) (ha : a ≠ 0) :
    (x == 0) = false := by
  cases h : x == 0
  case false => rfl
  case true =>
    rw [ofFloat?_of_beq_zero h] at hx
    cases hx
    exact absurd rfl ha

/-- A double above one finite double and at most another is finite, its value between theirs. -/
theorem finite_of_lt_of_le {lo hi x : Float} {l h : ℚ} (hl : Extended.ofFloat? lo = some (.finite l))
    (hh : Extended.ofFloat? hi = some (.finite h)) (h₁ : lo < x) (h₂ : x ≤ hi) :
    ∃ a, Extended.ofFloat? x = some (.finite a) ∧ l < a ∧ a ≤ h := by
  rw [lt_iff_extended] at h₁
  rw [le_iff_extended] at h₂
  obtain ⟨l', c, hl', hc, hlc⟩ := h₁
  obtain ⟨c', h', hc', hh', hch⟩ := h₂
  rw [hl] at hl'
  rw [hh] at hh'
  rw [hc] at hc'
  cases hl'
  cases hh'
  cases hc'
  have hlc' := (Extended.compare_eq_lt_iff _ _).1 hlc
  have hch' := (Extended.isLE_compare_iff _ _).1 hch
  cases c with
  | negInf => simp [Extended.rank] at hlc'
  | posInf => simp [Extended.rank] at hch'
  | finite a => exact ⟨a, hc, by simpa using hlc', by simpa using hch'⟩

theorem ofFloat?_three : Extended.ofFloat? (3.0 : Float) = some (.finite 3) := by
  rw [ofFloat?_of_decode (by rfl : decode (3.0 : Float) = .finite false 6755399441055744 (-51))]
  norm_num

theorem ofFloat?_one : Extended.ofFloat? (1.0 : Float) = some (.finite 1) := by
  rw [ofFloat?_of_decode (by rfl : decode (1.0 : Float) = .finite false 4503599627370496 (-52))]
  norm_num

theorem ofFloat?_hundred : Extended.ofFloat? (100 : Float) = some (.finite 100) := by
  rw [ofFloat?_of_decode (by rfl : decode (100 : Float) = .finite false 7036874417766400 (-46))]
  norm_num

/-! ## Factors that rise -/

/-- Two finite doubles whose values rise from the first to the second within `[0, 2^e]`: a
factor before and after a change. -/
def Rises (e : ℤ) (x x' : Float) : Prop :=
  ∃ a a', Extended.ofFloat? x = some (.finite a) ∧ Extended.ofFloat? x' = some (.finite a') ∧
    0 ≤ a ∧ a ≤ a' ∧ a' ≤ 2 ^ e

namespace Rises

variable {e e' : ℤ} {x x' y y' : Float}

theorem le (h : Rises e x x') : x ≤ x' := by
  obtain ⟨a, a', hx, hx', -, haa, -⟩ := h
  exact (le_iff_of_finite hx hx').2 haa

theorem of_within (h : Within true e x) (h' : Within true e x') (hle : x ≤ x') : Rises e x x' := by
  obtain ⟨a, hx, -, ha0⟩ := h
  obtain ⟨a', hx', ha', -⟩ := h'
  exact ⟨a, a', hx, hx', ha0 rfl, (le_iff_of_finite hx hx').1 hle, (le_abs_self a').trans ha'⟩

theorem refl (h : Within true e x) : Rises e x x := by
  obtain ⟨a, hx, ha, ha0⟩ := h
  exact ⟨a, a, hx, hx, ha0 rfl, le_rfl, (le_abs_self a).trans ha⟩

theorem mono (h : Rises e x x') (he : e ≤ e') : Rises e' x x' := by
  obtain ⟨a, a', hx, hx', ha0, haa, ha'⟩ := h
  exact ⟨a, a', hx, hx', ha0, haa, ha'.trans (zpow_le_zpow_right₀ (by norm_num) he)⟩

/-- Rounded products of rising non-negative factors rise. -/
theorem mul {e₁ e₂ : ℤ} (hx : Rises e₁ x x') (hy : Rises e₂ y y') (he : -1074 ≤ e₁ + e₂)
    (he' : e₁ + e₂ < 1024) : Rises (e₁ + e₂) (x * y) (x' * y') := by
  obtain ⟨a, a', hx, hx', ha0, haa, ha'⟩ := hx
  obtain ⟨b, b', hy, hy', hb0, hbb, hb'⟩ := hy
  have h0 : 0 ≤ a * b := mul_nonneg ha0 hb0
  have hab : a * b ≤ a' * b' := mul_le_mul haa hbb hb0 (ha0.trans haa)
  have hbound : a' * b' ≤ 2 ^ (e₁ + e₂) := by
    rw [zpow_add₀ (by norm_num)]
    exact mul_le_mul ha' hb' (hb0.trans hbb) (zpow_pos (by norm_num) _).le
  have habs : ∀ {c : ℚ}, 0 ≤ c → c ≤ 2 ^ (e₁ + e₂) → |c| ≤ 2 ^ (e₁ + e₂) := fun hc hc' => by
    rwa [abs_of_nonneg hc]
  refine ⟨_, _, ofFloat?_of_round (ofFloat?_mul hx hy) he he' (habs h0 (hab.trans hbound)),
    ofFloat?_of_round (ofFloat?_mul hx' hy') he he' (habs (h0.trans hab) hbound), roundNearest_nonneg h0,
    roundNearest_mono hab, roundNearest_le (representable_two_zpow he) hbound⟩

end Rises

end Binary64

namespace Number

theorem sub_of_toFloat {a : Number} {f : Float} (ha : a.toFloat = .ok f) (x : Float) :
    (Number.float x).sub a = .ok (.float (x - f)) := by
  simp only [sub, ha]
  rfl

theorem div_of_toFloat {a : Number} {f : Float} (ha : a.toFloat = .ok f) (hf : (f == 0) = false) (x : Float) :
    (Number.float x).div a = .ok (.float (x / f)) := by
  simp only [div, ha, Except.ok_bind, hf]
  rfl

/-- Below a number at or above `a`, `a` is below too. -/
theorem lt_of_rank_le {a a' : Number} {x x' : Extended} (ha : a.extended? = some x)
    (ha' : a'.extended? = some x') (h : x.rank ≤ x'.rank) {t : Number} (ht : a'.lt t = true) : a.lt t = true :=
  lt_of_le_of_lt (le_iff_rank.2 ⟨x, x', ha, ha', h⟩) ht

end Number

namespace Settings

/-- The season multiplier that settings apply on a date: the first one configured for the date's
season, 1.00 when none is. -/
def seasonFactor (s : Settings) (d : Date) : Float :=
  ((s.seasonal.find? (·.1 == (Season.ofDate d).key)).map (·.2)).getD 1.00

/-- The ranges that valid settings keep, of the fields that price a trip. -/
structure Ranges (s : Settings) : Prop where
  peak : between 0.5 3.0 s.peakFactor = true
  weekend : between 0.5 3.0 s.weekendFactor = true
  minFactor_pos : (0 : Float) < s.minFactor
  minFactor_le : s.minFactor ≤ 1.0
  maxFactor : between 1.0 5.0 s.maxFactor = true
  seasonal : ∀ e ∈ s.seasonal, between 0.5 3.0 e.2 = true

theorem ranges_of_check {s : Settings} (h : s.check = .ok ()) : s.Ranges := by
  have hv : s.violation? = none := by
    unfold check at h
    split at h
    · cases h
    · assumption
  unfold violation? at hv
  split_ifs at hv with h₁ h₂ h₃ h₄ h₅ h₆ h₇ h₈ h₉
  simp only [Bool.not_eq_false, Bool.and_eq_true, decide_eq_true_eq, Option.map_eq_none_iff,
    List.find?_eq_none, Bool.not_eq_eq_eq_not, Bool.not_true] at h₂ h₃ h₇ h₈ hv
  exact ⟨h₂, h₃, h₇.1, h₇.2, h₈, fun e he => by simpa using hv e he⟩

theorem within_of_between {x : Float} (h : between 0.5 3.0 x = true) : Within true 2 x := by
  simp only [between, Bool.and_eq_true, decide_eq_true_eq] at h
  obtain ⟨a, ha, h1, h3⟩ := finite_of_le_of_le ofFloat?_half ofFloat?_three h.1 h.2
  exact ⟨a, ha, by rw [abs_of_nonneg (by linarith)]; norm_num; linarith, fun _ => by linarith⟩

/-- Valid band factors: `0 < m ≤ 1 ≤ x ≤ 5`. -/
theorem Ranges.band_values {s : Settings} (hs : s.Ranges) :
    ∃ m x : ℚ, Extended.ofFloat? s.minFactor = some (.finite m) ∧ Extended.ofFloat? s.maxFactor = some (.finite x) ∧
      0 < m ∧ m ≤ 1 ∧ 1 ≤ x ∧ x ≤ 5 := by
  obtain ⟨m, hM, hm0, hm1⟩ := finite_of_lt_of_le (ofFloat?_of_beq_zero (by decide)) ofFloat?_one
    hs.minFactor_pos hs.minFactor_le
  have hmax := hs.maxFactor
  simp only [between, Bool.and_eq_true, decide_eq_true_eq] at hmax
  obtain ⟨x, hX, hx1, hx5⟩ := finite_of_le_of_le ofFloat?_one Pricing.ofFloat?_five hmax.1 hmax.2
  exact ⟨m, x, hM, hX, hm0, hm1, hx1, hx5⟩

theorem seasonFactor_within {s : Settings} (hs : s.Ranges) (d : Date) : Within true 2 (s.seasonFactor d) := by
  unfold seasonFactor
  rcases hf : s.seasonal.find? (·.1 == (Season.ofDate d).key) with _ | e <;> simp only [hf]
  case none => exact Within.of_decode (by rfl : decode (1.00 : Float) = .finite false 4503599627370496 (-52)) (by norm_num)
  case some => exact within_of_between (hs.seasonal e (List.mem_of_find?_eq_some hf))

/-- The season multiplier the day factor reads is `seasonFactor`. -/
theorem seasonMultiplier?_getD (s : Settings) (d : Date) :
    (Pricing.seasonMultiplier? (s.seasonal.map fun (k, c) => (k, Number.float c)) (Season.ofDate d)).getD
      (.float 1.00) = .float (s.seasonFactor d) := by
  simp only [Pricing.seasonMultiplier?, seasonFactor, List.find?_map, Function.comp_def]
  rcases hf : s.seasonal.find? (·.1 == (Season.ofDate d).key) with _ | e <;> simp [hf]

/-- Settings `s'` price a departure on `d` at least as high as `s`: the peak, weekend and season
multipliers rise, and the thresholds and band factors are the same. -/
structure Raises (d : Date) (s s' : Settings) : Prop where
  peak : s.peakFactor ≤ s'.peakFactor
  weekend : s.weekendFactor ≤ s'.weekendFactor
  season : s.seasonFactor d ≤ s'.seasonFactor d
  lowDemand : s'.lowDemand = s.lowDemand
  highDemand : s'.highDemand = s.highDemand
  minFactor : s'.minFactor = s.minFactor
  maxFactor : s'.maxFactor = s.maxFactor

end Settings

namespace Pricing

/-! ## Each factor rises -/

/-- More passengers on the same seats give at least the occupancy, while the quotients are
finite doubles. -/
theorem occupancyRate_mono {p p' c : ℤ} (hp : p ≤ p') (hq : isFinite (ofRat (p / c)) = true)
    (hq' : isFinite (ofRat (p' / c)) = true) :
    ∃ O O' x x', occupancyRate (.int p) (.int c) = .ok (.float O) ∧
      occupancyRate (.int p') (.int c) = .ok (.float O') ∧
      Extended.ofFloat? O = some x ∧ Extended.ofFloat? O' = some x' ∧ x.rank ≤ x'.rank := by
  have h0 : Extended.ofFloat? (0.0 : Float) = some (.finite 0) := ofFloat?_of_beq_zero (by decide)
  unfold occupancyRate
  rw [Number.le_of_finite (Number.extended?_int c) (Number.extended?_int 0)]
  by_cases hc : (c : ℚ) ≤ ((0 : ℤ) : ℚ)
  case pos =>
    -- no seats: 0% either way
    simp only [hc, decide_true, if_true]
    exact ⟨_, _, _, _, rfl, rfl, h0, h0, le_rfl⟩
  case neg =>
    have hc0 : (0 : ℚ) < c := by simpa using hc
    have hne : (c == 0) = false := by simpa using hc0.ne'
    have hx := ofFloat?_ofRat_of_isFinite hq
    have hx' := ofFloat?_ofRat_of_isFinite hq'
    simp only [hc, decide_false, Bool.false_eq_true, if_false, Number.div, hne, hq, hq']
    refine ⟨_, _, _, _, rfl, rfl, ofFloat?_mul hx ofFloat?_hundred, ofFloat?_mul hx' ofFloat?_hundred,
      rank_packed_le (roundNearest_mono (mul_le_mul_of_nonneg_right (roundNearest_mono ?_) (by norm_num)))⟩
    exact div_le_div_of_nonneg_right (by exact_mod_cast hp) hc0.le

/-- The demand factor only steps up with the occupancy: whatever the thresholds, a threshold the
higher occupancy is below, the lower one is below too. -/
theorem demandFactor_mono {o o' low high : Number} (h : ∀ t, o'.lt t = true → o.lt t = true) :
    demandFactor o low high ≤ demandFactor o' low high := by
  have hlow := h low
  have hsixty := h (.float 60.0)
  have hhigh := h high
  unfold demandFactor
  -- a step of the higher occupancy that the lower one does not reach is impossible; the rest
  -- compare two of the four factors
  split_ifs <;> simp_all <;> decide

theorem demandFactor_within (o low high : Number) : Within true 1 (demandFactor o low high) := by
  unfold demandFactor
  split_ifs
  · exact Within.of_decode (by rfl : decode (0.75 : Float) = .finite false 6755399441055744 (-53)) (by norm_num)
  · exact Within.of_decode (by rfl : decode (0.95 : Float) = .finite false 8556839292003942 (-53)) (by norm_num)
  · exact Within.of_decode (by rfl : decode (1.10 : Float) = .finite false 4953959590107546 (-52)) (by norm_num)
  · exact Within.of_decode (by rfl : decode (1.40 : Float) = .finite false 6305039478318694 (-52)) (by norm_num)

/-- A rising peak multiplier gives a rising time factor. -/
theorem timeFactor_rises (departure : Moment) {peak peak' : Float} (hp : Rises 2 peak peak') :
    ∃ T T', timeFactor departure (.float peak) = .float T ∧ timeFactor departure (.float peak') = .float T' ∧
      Rises 2 T T' := by
  unfold timeFactor
  split_ifs
  · exact ⟨_, _, rfl, rfl, hp⟩
  · exact ⟨_, _, rfl, rfl, Rises.refl
      (Within.of_decode (by rfl : decode (0.80 : Float) = .finite false 7205759403792794 (-53)) (by norm_num))⟩
  · exact ⟨_, _, rfl, rfl, Rises.refl
      (Within.of_decode (by rfl : decode (1.00 : Float) = .finite false 4503599627370496 (-52)) (by norm_num))⟩

/-- Rising weekend and season multipliers give a rising day factor. -/
theorem dayFactor_rises (departure : Moment) {w w' c c' : Float} {seasonal seasonal' : List (String × Number)}
    (hc : (seasonMultiplier? seasonal (Season.ofDate departure.date)).getD (.float 1.00) = .float c)
    (hc' : (seasonMultiplier? seasonal' (Season.ofDate departure.date)).getD (.float 1.00) = .float c')
    (hw : Rises 2 w w') (hcc : Rises 2 c c') :
    ∃ Y Y', dayFactor departure (.float w) seasonal = .ok (.float Y) ∧
      dayFactor departure (.float w') seasonal' = .ok (.float Y') ∧ Rises 4 Y Y' := by
  unfold dayFactor
  rw [hc, hc']
  split_ifs
  · exact ⟨_, _, rfl, rfl, hw.mul hcc (by norm_num) (by norm_num)⟩
  · have hone : Rises 2 (1.00 : Float) 1.00 := Rises.refl
      (Within.of_decode (by rfl : decode (1.00 : Float) = .finite false 4503599627370496 (-52)) (by norm_num))
    exact ⟨_, _, rfl, rfl, hone.mul hcc (by norm_num) (by norm_num)⟩

/-- The recommended price for explicit factors rises with every factor, for a base in
`[0, 10^12]` and band factors `0 ≤ m ≤ x ≤ 5`. -/
theorem withFactors_mono {base : Number} {b : ℚ} (hb : base.extended? = some (.finite b)) (hb0 : 0 ≤ b)
    (hb1 : b ≤ 10 ^ 12) {M X : Float} {m x : ℚ} (hM : Extended.ofFloat? M = some (.finite m))
    (hX : Extended.ofFloat? X = some (.finite x)) (hm0 : 0 ≤ m) (hmx : m ≤ x) (hx5 : x ≤ 5)
    {D D' T T' Y Y' : Float} (hD : Rises 1 D D') (hT : Rises 2 T T') (hY : Rises 4 Y Y') :
    ∃ r r', withFactors base (.float D) (.float T) (.float Y) (.float M) (.float X) = .ok r ∧
      withFactors base (.float D') (.float T') (.float Y') (.float M) (.float X) = .ok r' ∧ r ≤ r' := by
  obtain ⟨B, hB, hBv⟩ := Number.toFloat_of_extended? hb (by rw [abs_of_nonneg hb0]; linarith)
  have hBase : Rises 40 B B := Rises.refl ⟨b, hBv, by rw [abs_of_nonneg hb0]; linarith, fun _ => hb0⟩
  -- the raw price is a product of rising factors, at most `2^47`
  obtain ⟨ρ, ρ', hρ, hρ', -, hρρ, -⟩ := ((hBase.mul hD (by norm_num) (by norm_num)).mul hT (by norm_num)
    (by norm_num)).mul hY (by norm_num) (by norm_num)
  have hraw : (Number.float (B * D * T * Y)).extended? = some (.finite ρ) := hρ
  have hraw' : (Number.float (B * D' * T' * Y')).extended? = some (.finite ρ') := hρ'
  obtain ⟨y, y', hy, hy', hyy⟩ := applyBounds_mono hb0 hb1 hb hM hX hm0 hmx hx5 hraw hraw'
    (by simpa using hρρ)
  refine ⟨y, y', ?_, ?_, hyy⟩
  · simp only [withFactors, Number.mul_float_of_toFloat hB, Except.ok_bind]
    exact hy
  · simp only [withFactors, Number.mul_float_of_toFloat hB, Except.ok_bind]
    exact hy'

end Pricing

namespace Quote

/-- A quote is computed whenever its factors and its recommended price are: the change, the
percent and the conversions to doubles cannot fail for a finite base. -/
theorem compute_of_recommended {base passengers capacity : Number} {departure : Moment} {s : Settings}
    {b : ℚ} {B O T Y r : Float} (hb : base.extended? = some (.finite b)) (hB : base.toFloat = .ok B)
    (hBv : Extended.ofFloat? B = some (.finite b))
    (hO : Pricing.occupancyRate passengers capacity = .ok (.float O))
    (hT : Pricing.timeFactor departure (.float s.peakFactor) = .float T)
    (hY : Pricing.dayFactor departure (.float s.weekendFactor) (s.seasonal.map fun (k, c) => (k, .float c)) =
      .ok (.float Y))
    (hr : Pricing.withFactors base (.float (Pricing.demandFactor (.float O) (.int s.lowDemand) (.int s.highDemand)))
      (.float T) (.float Y) (.float s.minFactor) (.float s.maxFactor) = .ok r) :
    ∃ q, compute base passengers capacity departure s = .ok q ∧ q.recommended = r ∧ q.base = B ∧
      q.demand = Pricing.demandFactor (.float O) (.int s.lowDemand) (.int s.highDemand) ∧ q.time = T ∧
      q.day = Y := by
  have hlt : (Number.int 0).lt base = decide (0 < b) := by
    simpa using Number.lt_of_finite (Number.extended?_int 0) hb
  by_cases hb0 : 0 < b
  · -- a positive base is a non-zero double, so the change divides by it
    have hz := beq_zero_eq_false hBv hb0.ne'
    simp only [compute, hO, hT, hY, hr, Except.ok_bind, Number.sub_of_toFloat hB, hlt, hb0, decide_true,
      if_true, Number.div_of_toFloat hB hz, Number.mul_hundred, hB]
    exact ⟨_, rfl, rfl, rfl, rfl, rfl, rfl⟩
  · simp only [compute, hO, hT, hY, hr, Except.ok_bind, Number.sub_of_toFloat hB, hlt, hb0, decide_false,
      Bool.false_eq_true, if_false, hB]
    exact ⟨_, rfl, rfl, rfl, rfl, rfl, rfl⟩

/-- The recommended price rises with the passengers, and with the peak, weekend and season
multipliers of valid settings, for a finite base in `[0, 10^12]` and quotients of passengers by
seats that are finite doubles. -/
theorem recommended_price_monotone {base : Number} {b : ℚ} (hb : base.extended? = some (.finite b))
    (hb0 : 0 ≤ b) (hb1 : b ≤ 10 ^ 12) {p p' c : ℤ} (hp : p ≤ p') (hq : isFinite (ofRat (p / c)) = true)
    (hq' : isFinite (ofRat (p' / c)) = true) (departure : Moment) {s s' : Settings} (hs : s.check = .ok ())
    (hs' : s'.check = .ok ()) (hss : s.Raises departure.date s') :
    ∃ q q', compute base (.int p) (.int c) departure s = .ok q ∧
      compute base (.int p') (.int c) departure s' = .ok q' ∧ q.recommended ≤ q'.recommended := by
  have hr := Settings.ranges_of_check hs
  have hr' := Settings.ranges_of_check hs'
  obtain ⟨B, hB, hBv⟩ := Number.toFloat_of_extended? hb (by rw [abs_of_nonneg hb0]; linarith)
  obtain ⟨m, x, hM, hX, hm0, hm1, hx1, hx5⟩ := hr.band_values
  -- each factor rises
  obtain ⟨O, O', o, o', hO, hO', ho, ho', hoo⟩ := Pricing.occupancyRate_mono hp hq hq'
  have hD : Rises 1 (Pricing.demandFactor (.float O) (.int s.lowDemand) (.int s.highDemand))
      (Pricing.demandFactor (.float O') (.int s'.lowDemand) (.int s'.highDemand)) := by
    have ho₁ : (Number.float O).extended? = some o := ho
    have ho₂ : (Number.float O').extended? = some o' := ho'
    rw [hss.lowDemand, hss.highDemand]
    exact Rises.of_within (Pricing.demandFactor_within _ _ _) (Pricing.demandFactor_within _ _ _)
      (Pricing.demandFactor_mono fun t => Number.lt_of_rank_le ho₁ ho₂ hoo)
  obtain ⟨T, T', hT, hT', hTT⟩ := Pricing.timeFactor_rises departure
    (Rises.of_within (Settings.within_of_between hr.peak) (Settings.within_of_between hr'.peak) hss.peak)
  obtain ⟨Y, Y', hY, hY', hYY⟩ := Pricing.dayFactor_rises departure (Settings.seasonMultiplier?_getD s _)
    (Settings.seasonMultiplier?_getD s' _)
    (Rises.of_within (Settings.within_of_between hr.weekend) (Settings.within_of_between hr'.weekend) hss.weekend)
    (Rises.of_within (Settings.seasonFactor_within hr _) (Settings.seasonFactor_within hr' _) hss.season)
  obtain ⟨y, y', hy, hy', hyy⟩ := Pricing.withFactors_mono hb hb0 hb1 hM hX hm0.le (by linarith) hx5 hD hTT hYY
  obtain ⟨q, hq, hqr, -⟩ := compute_of_recommended hb hB hBv hO hT hY hy
  obtain ⟨q', hq', hqr', -⟩ := compute_of_recommended (s := s') hb hB hBv hO' hT' hY'
    (by rw [hss.minFactor, hss.maxFactor]; exact hy')
  exact ⟨q, q', hq, hq', by rw [hqr, hqr']; exact hyy⟩

/-- Thirty then sixty passengers of a hundred seats at a weekday peak hour, the second time with
the peak multiplier raised from the default 1.2 to 1.5. -/
theorem recommended_price_monotone_at_peak :
    ∃ q q', compute (.int 100) (.int 30) (.int 100) { date := ⟨2025, 6, 10⟩, hour := 8 } {} = .ok q ∧
      compute (.int 100) (.int 60) (.int 100) { date := ⟨2025, 6, 10⟩, hour := 8 } { peakFactor := 1.5 } =
        .ok q' ∧ q.recommended ≤ q'.recommended :=
  recommended_price_monotone (b := 100) rfl (by norm_num) (by norm_num) (by decide)
    (isFinite_of_ofFloat? (ofFloat?_of_round (ofFloat?_ofRat _) (e := 0) (by norm_num) (by norm_num) (by norm_num)))
    (isFinite_of_ofFloat? (ofFloat?_of_round (ofFloat?_ofRat _) (e := 0) (by norm_num) (by norm_num) (by norm_num)))
    { date := ⟨2025, 6, 10⟩, hour := 8 } rfl rfl ⟨by decide, by decide, by decide, rfl, rfl, rfl, rfl⟩

end Quote

end TransitRevenue
