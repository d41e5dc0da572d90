import Mathlib
import TransitRevenue.Demand.Forecast
import TransitRevenue.Proofs.Number
import TransitRevenue.Proofs.Binary64.Rational
import TransitRevenue.Proofs.Number.Sum
import TransitRevenue.Proofs.Binary64.Order
/-!
The band of a demand forecast.

A forecast of a history whose weekly totals fit in 64 signed bits always exists once the window
holds a week, and its band is ordered: `0 ≤ lower ≤ predicted ≤ upper` (`compute_band_ordered`).
A window below one week fails before anything else, naming the window.

Every double of the computation is finite, each factor bounded by a power of two (`Within`): the
average by `2^151`, the trend and the season factor by `2`, the deviation by `2^166`. The ordering
then comes from rounding alone. The prediction `p` is a double not below zero and the spread `d`
is not below zero, so `p - d` rounds to at most `p` and `p + d` to at least `p`; adding one half
and taking the floor are monotone (`floor_half_le`).

Whatever the history, a forecast that is computed has a prediction that some capacity advice
follows from (`recommend_predicted`): the prediction is the floor of a finite double not below
zero (`Number.roundHalfUp_posPart`), and its share of a positive capacity lies below that double,
so it rounds to a finite one (`Demand.recommend_ok`).
-/

namespace TransitRevenue

open Binary64

namespace Binary64

theorem Within.of_decode {x : Float} {m : ℕ} {k e : ℤ} (hd : decode x = .finite false m k)
    (hb : (m : ℚ) * 2 ^ k ≤ 2 ^ e) : Within true e x := by
  have hx := ofFloat?_of_decode hd
  rw [if_neg Bool.false_ne_true] at hx
  exact ⟨_, hx, by rwa [abs_of_nonneg (by positivity)], fun _ => by positivity⟩

/-- A double at most zero is kept, one above zero gives way to zero. -/
theorem Within.posPart {s : Bool} {e : ℤ} {x : Float} (hx : Within s e x) :
    Within true e (if (0.0 : Float) < x then x else 0.0) := by
  obtain ⟨a, ha, hab, -⟩ := hx
  split
  case isTrue h => exact ⟨a, ha, hab, fun _ => ((zero_lt_iff ha).1 h).le⟩
  case isFalse => exact zero_lit

theorem isFinite_of_ofFloat? {x : Float} {a : ℚ} (h : Extended.ofFloat? x = some (.finite a)) :
    isFinite x = true := by
  obtain ⟨neg, m, e, hd, -⟩ := decode_of_ofFloat? h
  simp [isFinite, hd]

theorem ofFloat?_half : Extended.ofFloat? (0.5 : Float) = some (.finite (1 / 2)) := by
  rw [ofFloat?_of_decode (by rfl : decode (0.5 : Float) = .finite false (2 ^ 52) (-53))]
  norm_num

/-- A count from one to `2^63` converts to a double of value at least one. -/
theorem ofFloat?_natToFloat_of_pos {n : ℕ} (h1 : 1 ≤ n) (h : n ≤ 2 ^ 63) :
    ∃ b, Extended.ofFloat? n.toFloat = some (.finite b) ∧ 1 ≤ b := by
  have hn : |(n : ℚ)| ≤ 2 ^ (63 : ℤ) := by
    rw [abs_of_nonneg (by positivity), zpow_ofNat]
    exact_mod_cast h
  have hone : Representable (1 : ℚ) := by simpa using representable_two_zpow (k := 0) (by norm_num)
  exact ⟨_, ofFloat?_of_round (ofFloat?_natToFloat n) (by norm_num) (by norm_num) hn,
    le_roundNearest hone (by exact_mod_cast h1)⟩

end Binary64

namespace Number

theorem intToFloat_within {n : ℤ} (h : n.natAbs < 2 ^ 63) : ∃ x, intToFloat n = .ok x ∧ Within false 63 x := by
  obtain ⟨hok, -⟩ := intToFloat_ok (k := 63) (by norm_num) h
  have hn : |(n : ℚ)| ≤ 2 ^ (63 : ℤ) := by
    rw [← Int.cast_abs, Int.abs_eq_natAbs, zpow_ofNat]
    exact_mod_cast h.le
  exact ⟨_, hok, Within.of_round (ofFloat?_ofRat n) (by norm_num) (by norm_num) hn nofun⟩

/-- A double within `2^e` rounds half up to the floor of its value plus one half, rounded. -/
theorem roundHalfUp_float {v : Float} {a : ℚ} {e : ℤ} (hv : Extended.ofFloat? v = some (.finite a))
    (ha : |a| ≤ 2 ^ e) (he : -1 ≤ e) (he' : e < 1023) :
    roundHalfUp (.float v) = .ok ⌊roundNearest (a + 1 / 2)⌋ := by
  have hhalf : |(1 / 2 : ℚ)| ≤ 2 ^ e :=
    calc |(1 / 2 : ℚ)| = 2 ^ (-1 : ℤ) := by norm_num
      _ ≤ 2 ^ e := zpow_le_zpow_right₀ (by norm_num) he
  have hsum : |a + 1 / 2| ≤ 2 ^ (e + 1) :=
    calc |a + 1 / 2| ≤ |a| + |1 / 2| := abs_add_le a _
      _ ≤ 2 ^ e + 2 ^ e := add_le_add ha hhalf
      _ = 2 ^ (e + 1) := by rw [zpow_add_one₀ (by norm_num)]; ring
  have hx := ofFloat?_of_round (ofFloat?_add hv ofFloat?_half) (by omega) (by omega) hsum
  show (Number.float (v + 0.5)).floor = _
  simp only [floor, hx]
  rfl

/-- Rounding half up a double not below zero, when it gives an integer, gives one not below zero
and at most a finite double: the infinity, which rounds to nothing, is the only other case. -/
theorem roundHalfUp_posPart {x : Float} {n : ℤ}
    (h : roundHalfUp (.float (if (0.0 : Float) < x then x else 0.0)) = .ok n) :
    0 ≤ n ∧ ∃ q, Representable q ∧ q < 2 ^ 1024 ∧ (n : ℚ) ≤ q := by
  have hp : Extended.ofFloat? (if (0.0 : Float) < x then x else 0.0) = some .posInf ∨
      ∃ a, Extended.ofFloat? (if (0.0 : Float) < x then x else 0.0) = some (.finite a) ∧ 0 ≤ a := by
    split
    case isTrue hx => exact (posInf_or_pos_of_zero_lt hx).imp_right fun ⟨a, ha, h0⟩ => ⟨a, ha, h0.le⟩
    case isFalse =>
      obtain ⟨a, ha, -, h0⟩ := (Within.zero_lit : Within true 0 (0.0 : Float))
      exact .inr ⟨a, ha, h0 rfl⟩
  generalize (if (0.0 : Float) < x then x else 0.0) = p at h hp
  change floor (.float (p + 0.5)) = .ok n at h
  rcases hp with hp | ⟨a, hp, ha⟩
  case inl => simp [floor, ofFloat?_add_posInf hp ofFloat?_half] at h
  case inr =>
    have hy := ofFloat?_add hp ofFloat?_half
    by_cases hlt : |roundNearest (a + 1 / 2)| < 2 ^ 1024
    case neg =>
      unfold packed at hy
      rw [if_neg hlt] at hy
      split_ifs at hy <;> simp [floor, hy] at h
    case pos =>
      rw [packed_of_lt hlt] at hy
      simp only [floor, hy, Except.ok.injEq] at h
      subst h
      have hq0 : 0 ≤ roundNearest (a + 1 / 2) := roundNearest_nonneg (by linarith)
      exact ⟨Int.floor_nonneg.2 hq0, _, representable_roundNearest _, (le_abs_self _).trans_lt hlt,
        Int.floor_le _⟩

end Number

namespace Demand

variable {series : List ℤ}

theorem fitsWord_of_natAbs_lt (h : ∀ n ∈ series, n.natAbs < 2 ^ 63) : fitsWord series = true := by
  simp only [fitsWord, List.all_eq_true, Bool.and_eq_true, decide_eq_true_eq]
  intro n hn
  have hn' := h n hn
  rw [show Int.pow 2 63 = 2 ^ 63 from rfl]
  omega

/-- A history held as signed 64-bit integers is averaged over doubles in pairwise order. -/
theorem historyMean_of_fitsWord (h : fitsWord series = true) :
    historyMean series = (do
      let xs ← series.mapM Number.intToFloat
      pure (pairwiseSum xs / series.length.toFloat)) := by
  rw [historyMean, if_pos (by simp [h])]

theorem mapM_intToFloat_within (h : ∀ n ∈ series, n.natAbs < 2 ^ 63) :
    ∃ xs, series.mapM Number.intToFloat = .ok xs ∧ xs.length = series.length ∧ ∀ x ∈ xs, Within false 63 x := by
  obtain ⟨xs, hxs, hR⟩ := Except.mapM_forall₂ (R := fun _ x => Within false 63 x)
    fun n hn => Number.intToFloat_within (h n hn)
  refine ⟨xs, hxs, hR.length_eq.symm, fun x hx => ?_⟩
  obtain ⟨n, -, hn⟩ := Except.forall₂_exists_right hR x hx
  exact hn

/-- The sum of a history's entries is at most its length times their bound. -/
theorem natAbs_foldr_add_le {B : ℕ} (h : ∀ n ∈ series, n.natAbs ≤ B) :
    (series.foldr (· + ·) 0).natAbs ≤ series.length * B := by
  induction series with
  | nil => simp
  | cons n ns ih =>
    have hn := h n List.mem_cons_self
    have hns := ih fun k hk => h k (List.mem_cons_of_mem n hk)
    have hadd := Int.natAbs_add_le n (ns.foldr (· + ·) 0)
    rw [List.foldr_cons, List.length_cons, add_one_mul]
    omega

theorem historyMean_within (hne : series ≠ []) (hfits : ∀ n ∈ series, n.natAbs < 2 ^ 63)
    (hlen : series.length ≤ 2 ^ 63) : ∃ m, historyMean series = .ok m ∧ Within false 151 m := by
  obtain ⟨xs, hxs, hlen', hw⟩ := mapM_intToFloat_within hfits
  have hdepth := sumDepth_le (n := xs.length) (by omega)
  have hsum := Within.pairwiseSum hw (by norm_num) (by omega)
  obtain ⟨b, hb, hb1⟩ := ofFloat?_natToFloat_of_pos (List.length_pos_iff.2 hne) hlen
  refine ⟨_, ?_, (hsum.div hb hb1 (by omega) (by omega)).mono (by omega)⟩
  rw [historyMean_of_fitsWord (fitsWord_of_natAbs_lt hfits), hxs]
  rfl

theorem movingAverage_of_lt_one (series : List ℤ) {window : ℤ} (hw : window < 1) :
    movingAverage series window = .error (.windowTooSmall (toString window)) := by
  rw [movingAverage, if_pos hw]
  rfl

theorem movingAverage_within {window : ℤ} (hw : 1 ≤ window) (hfits : ∀ n ∈ series, n.natAbs < 2 ^ 63)
    (hlen : series.length ≤ 2 ^ 63) : ∃ m, movingAverage series window = .ok m ∧ Within false 151 m := by
  rw [movingAverage, if_neg (not_lt.2 hw)]
  cases series with
  | nil =>
    refine ⟨30.0, rfl, ?_⟩
    exact (Within.of_decode (by rfl : decode (30.0 : Float) = .finite false 8444249301319680 (-48))
      (by norm_num)).forget
  | cons n ns =>
    have hne : (n :: ns).take window.toNat ≠ [] := by simp; omega
    obtain ⟨m, hm, hmw⟩ := historyMean_within hne (fun k hk => hfits k (List.mem_of_mem_take hk))
      (by simp only [List.length_take]; omega)
    exact ⟨m, hm, hmw⟩

theorem extended?_trendFloor : (Number.float 0.7).extended? = some (.finite (6305039478318694 / 2 ^ 53)) := by
  rw [Number.extended?_float,
    ofFloat?_of_decode (by rfl : decode (0.7 : Float) = .finite false 6305039478318694 (-53))]
  norm_num

theorem extended?_trendCeiling : (Number.float 1.5).extended? = some (.finite (3 / 2)) := by
  rw [Number.extended?_float,
    ofFloat?_of_decode (by rfl : decode (1.5 : Float) = .finite false 6755399441055744 (-52))]
  norm_num

theorem within_neutralTrend : Within true 1 (1.0 : Float) :=
  Within.of_decode (by rfl : decode (1.0 : Float) = .finite false 4503599627370496 (-52)) (by norm_num)

/-- A quotient of integers within `2^e`, for `e < 1024`, is the finite double nearest it. -/
theorem div_int_finite {a b : ℤ} {e : ℤ} (hb : b ≠ 0) (ha : |(a / b : ℚ)| ≤ 2 ^ e) (he : -1074 ≤ e)
    (he' : e < 1024) :
    (Number.int a).div (.int b) = .ok (.float (ofRat (a / b))) ∧
      Extended.ofFloat? (ofRat (a / b)) = some (.finite (roundNearest (a / b))) := by
  have hx := ofFloat?_of_round (ofFloat?_ofRat _) he he' ha
  refine ⟨?_, hx⟩
  simp [Number.div, hb, isFinite_of_ofFloat? hx]

/-- The four most recent weeks over a non-zero total of the four before lie within `2^65`: four
weeks of at most `2^63` each, over a total of at least one. -/
theorem abs_div_halves_le (hfits : ∀ n ∈ series, n.natAbs < 2 ^ 63)
    (hprev : ((series.drop 4).take 4).sum ≠ 0) :
    |((series.take 4).sum / ((series.drop 4).take 4).sum : ℚ)| ≤ 2 ^ (65 : ℤ) := by
  have hrecent : ((series.take 4).sum).natAbs ≤ 2 ^ 65 :=
    calc ((series.take 4).sum).natAbs ≤ (series.take 4).length * 2 ^ 63 :=
          natAbs_foldr_add_le fun n hn => (hfits n (List.mem_of_mem_take hn)).le
      _ ≤ 4 * 2 ^ 63 := Nat.mul_le_mul_right _ (by simp)
      _ = 2 ^ 65 := by norm_num
  have h1 : (1 : ℚ) ≤ |(((series.drop 4).take 4).sum : ℚ)| := by exact_mod_cast Int.one_le_abs hprev
  have h2 : |((series.take 4).sum : ℚ)| ≤ 2 ^ (65 : ℤ) := by
    rw [← Int.cast_abs, Int.abs_eq_natAbs, zpow_ofNat]
    exact_mod_cast hrecent
  rw [abs_div]
  exact (div_le_self (abs_nonneg _) h1).trans h2

/-- The trend is a finite factor between 0.7 and 1.5, or neutral. -/
theorem trendCoefficient_within (trendWindow : ℤ) (hfits : ∀ n ∈ series, n.natAbs < 2 ^ 63) :
    ∃ t, trendCoefficient series trendWindow = .ok t ∧ Within true 1 t := by
  unfold trendCoefficient
  split
  case isTrue => exact ⟨1.0, rfl, within_neutralTrend⟩
  dsimp only
  split
  case isTrue => exact ⟨1.0, rfl, within_neutralTrend⟩
  case isFalse hzero =>
  set recent := (series.take 4).foldr (· + ·) 0
  set previous := ((series.drop 4).take 4).foldr (· + ·) 0
  have hprev : previous ≠ 0 := by simpa using hzero
  have hratio : |(recent / previous : ℚ)| ≤ 2 ^ (65 : ℤ) := abs_div_halves_le hfits hprev
  obtain ⟨hdiv, hx⟩ := div_int_finite hprev hratio (by norm_num) (by norm_num)
  obtain ⟨c, hc, hlc, hch⟩ := Number.extended?_clamp extended?_trendFloor extended?_trendCeiling
    (by norm_num) (by rwa [Number.extended?_float])
  obtain ⟨y, hy⟩ := Number.clamp_float (ofRat (recent / previous)) 0.7 1.5
  rw [hy, Number.extended?_float] at hc
  have hc0 : 0 ≤ c := le_trans (by norm_num) hlc
  refine ⟨y, ?_, c, hc, ?_, fun _ => hc0⟩
  · simp only [hdiv, Except.ok_bind, hy]
    rfl
  · rw [abs_of_nonneg hc0]
    exact hch.trans (by norm_num)

/-- The deviation of up to four weeks around a mean within `2^151`: squares within `2^304`,
their pairwise sum within `2^329`, divided by a count of at least one, under a square root. -/
theorem stdDev_within {mean : Float} (hmean : Within false 151 mean) (hfits : ∀ n ∈ series, n.natAbs < 2 ^ 63) :
    ∃ d, stdDev series mean = .ok d ∧ Within true 166 d := by
  unfold stdDev
  split
  case isTrue =>
    exact ⟨5.0, rfl, Within.of_decode (by rfl : decode (5.0 : Float) = .finite false 5629499534213120 (-50))
      (by norm_num)⟩
  case isFalse hshort =>
  have hrecent : ∀ n ∈ series.take 4, n.natAbs < 2 ^ 63 := fun n hn => hfits n (List.mem_of_mem_take hn)
  obtain ⟨xs, hxs, hlen, hw⟩ := mapM_intToFloat_within hrecent
  have hcount : xs.length ≤ 4 ∧ 2 ≤ xs.length := by
    rw [hlen, List.length_take]
    omega
  have hsq : ∀ y ∈ xs.map (fun p => (p - mean) * (p - mean)), Within true (152 + 152) y := by
    intro y hy
    obtain ⟨p, hp, rfl⟩ := List.mem_map.1 hy
    have hdiff := ((hw p hp).mono (by norm_num)).sub hmean (by norm_num) (by norm_num)
    exact hdiff.mul_self (by norm_num) (by norm_num)
  have hdepth : sumDepth (xs.map (fun p => (p - mean) * (p - mean))).length = 25 := by
    rw [List.length_map]
    exact sumDepth_of_le (by omega)
  have hsum := Within.pairwiseSum hsq (by norm_num) (by rw [hdepth]; norm_num)
  rw [hdepth] at hsum
  obtain ⟨b, hb, hb1⟩ := ofFloat?_natToFloat_of_pos (n := xs.length) (by omega) (by omega)
  have hmeanSq := (hsum.div hb hb1 (by norm_num) (by norm_num)).mono (show (152 + 152 + 25 : ℤ) ≤ 165 + 165 by norm_num)
  refine ⟨_, ?_, hmeanSq.sqrt (by norm_num) (by norm_num)⟩
  rw [hxs]
  rfl

/-- Capacity advice on a load not below zero and at most a finite double always comes out. -/
theorem recommend_ok {n : ℤ} {q : ℚ} (hq : Representable q) (hlt : q < 2 ^ 1024) (h0 : 0 ≤ n)
    (hn : (n : ℚ) ≤ q) (capacity : ℤ) : ∃ a, recommend n capacity = .ok a := by
  -- the share of a positive capacity lies between zero and `q`, so it rounds to a finite double
  have hdiv : capacity > 0 → ∃ x, (Number.int n).div (.int capacity) = .ok x := fun hc => by
    have hc1 : (1 : ℚ) ≤ capacity := by exact_mod_cast hc
    have hr0 : (0 : ℚ) ≤ n / capacity := div_nonneg (by exact_mod_cast h0) (by linarith)
    have hrq : (n : ℚ) / capacity ≤ q := (div_le_self (by exact_mod_cast h0) hc1).trans hn
    have hfin : |roundNearest ((n : ℚ) / capacity)| < 2 ^ 1024 := by
      rw [abs_of_nonneg (roundNearest_nonneg hr0)]
      exact (roundNearest_le hq hrq).trans_lt hlt
    have hx := ofFloat?_ofRat ((n : ℚ) / capacity)
    rw [packed_of_lt hfin] at hx
    exact ⟨.float (ofRat ((n : ℚ) / capacity)), by simp [Number.div, hc.ne', isFinite_of_ofFloat? hx]⟩
  -- the advice is then a chain of comparisons, none of which fails
  unfold recommend
  split
  case isTrue hc =>
    obtain ⟨x, hx⟩ := hdiv hc
    rw [hx]
    dsimp only [bind, Except.bind]
    split_ifs <;> exact ⟨_, rfl⟩
  case isFalse =>
    dsimp only [bind, Except.bind, pure, Except.pure]
    split_ifs <;> exact ⟨_, rfl⟩

end Demand

/-- Each calendar window's demand factor is a double between one and two. -/
theorem Date.seasonFactor_within (d : Date) : Within true 1 d.seasonFactor := by
  unfold Date.seasonFactor
  split_ifs
  · exact Within.of_decode (by rfl : decode (1.30 : Float) = .finite false 5854679515581645 (-52)) (by norm_num)
  · exact Within.of_decode (by rfl : decode (1.25 : Float) = .finite false 5629499534213120 (-52)) (by norm_num)
  · exact Within.of_decode (by rfl : decode (1.15 : Float) = .finite false 5179139571476070 (-52)) (by norm_num)
  · exact Within.of_decode (by rfl : decode (1.10 : Float) = .finite false 4953959590107546 (-52)) (by norm_num)
  · exact Within.of_decode (by rfl : decode (1.00 : Float) = .finite false 4503599627370496 (-52)) (by norm_num)

namespace Forecast

/-- Rounding half up `p - d`, `p` and `p + d`, for a double `p` and `d ≥ 0`, keeps them in order:
the rounded difference is at most `p`, the rounded sum at least `p`, and rounding and the floor
are monotone. -/
theorem floor_half_le {p d : ℚ} (hp : Representable p) (hd : 0 ≤ d) :
    ⌊roundNearest (roundNearest (p - d) + 1 / 2)⌋ ≤ ⌊roundNearest (p + 1 / 2)⌋ ∧
      ⌊roundNearest (p + 1 / 2)⌋ ≤ ⌊roundNearest (roundNearest (p + d) + 1 / 2)⌋ := by
  have hlo : roundNearest (p - d) ≤ p := roundNearest_le hp (by linarith)
  have hhi : p ≤ roundNearest (p + d) := le_roundNearest hp (by linarith)
  exact ⟨Int.floor_mono (roundNearest_mono (by linarith)), Int.floor_mono (roundNearest_mono (by linarith))⟩

/-- The ends of the band: `p - d` and `p + d` rounded to doubles, then rounded half up. -/
theorem roundHalfUp_band {x y : Float} {p d : ℚ} {e : ℤ} (hx : Extended.ofFloat? x = some (.finite p))
    (hy : Extended.ofFloat? y = some (.finite d)) (hp : |p| ≤ 2 ^ e) (hd : |d| ≤ 2 ^ e) (he : -1 ≤ e)
    (he' : e < 1022) :
    Number.roundHalfUp (.float (x - y)) = .ok ⌊roundNearest (roundNearest (p - d) + 1 / 2)⌋ ∧
      Number.roundHalfUp (.float (x + y)) = .ok ⌊roundNearest (roundNearest (p + d) + 1 / 2)⌋ := by
  have hsub := abs_sub_le_zpow_succ hp hd
  have hadd := abs_add_le_zpow_succ hp hd
  have hlow := ofFloat?_of_round (ofFloat?_sub hx hy) (by omega) (by omega) hsub
  have hhigh := ofFloat?_of_round (ofFloat?_add hx hy) (by omega) (by omega) hadd
  exact ⟨Number.roundHalfUp_float hlow (abs_roundNearest_le (by omega) hsub) (by omega) (by omega),
    Number.roundHalfUp_float hhigh (abs_roundNearest_le (by omega) hadd) (by omega) (by omega)⟩

theorem compute_of_window_lt_one (routeId : ℤ) (date : Date) (series : List ℤ) {window : ℤ}
    (trendWindow : ℤ) (hw : window < 1) :
    compute routeId date series window trendWindow = .error (.windowTooSmall (toString window)) := by
  rw [compute, Demand.movingAverage_of_lt_one series hw]
  rfl

/-- A forecast from weekly totals of 64 bits fails exactly when the window holds no week, naming
it; otherwise its band lies around the prediction and above zero. -/
theorem compute_band_ordered (routeId : ℤ) (date : Date) (series : List ℤ) (window trendWindow : ℤ)
    (hfits : ∀ n ∈ series, n.natAbs < 2 ^ 63) (hlen : series.length < 2 ^ 63) :
    (window < 1 → compute routeId date series window trendWindow =
        .error (.windowTooSmall (toString window))) ∧
      (1 ≤ window → ∃ f, compute routeId date series window trendWindow = .ok f ∧
        0 ≤ f.lower ∧ f.lower ≤ f.predicted ∧ f.predicted ≤ f.upper) := by
  refine ⟨compute_of_window_lt_one routeId date series trendWindow, fun hw => ?_⟩
  obtain ⟨avg, havg, havgw⟩ := Demand.movingAverage_within hw hfits hlen.le
  obtain ⟨trend, htrend, htrendw⟩ := Demand.trendCoefficient_within trendWindow hfits
  obtain ⟨sd, hsd, hsdw⟩ := Demand.stdDev_within havgw hfits
  have hraw := (havgw.mul htrendw (by norm_num) (by norm_num)).mul date.seasonFactor_within
    (by norm_num) (by norm_num)
  have hz : Within true 1 (1.96 : Float) :=
    Within.of_decode (by rfl : decode (1.96 : Float) = .finite false 8827055269646172 (-52)) (by norm_num)
  obtain ⟨p, hp, hpb, hp0⟩ := hraw.posPart.mono (show (151 + 1 + 1 : ℤ) ≤ 1 + 166 by norm_num)
  obtain ⟨d, hd, hdb, hd0⟩ := hz.mul hsdw (by norm_num) (by norm_num)
  have hP := Number.roundHalfUp_float hp hpb (by norm_num) (by norm_num)
  obtain ⟨hL, hU⟩ := roundHalfUp_band hp hd hpb hdb (by norm_num) (by norm_num)
  have hpred : 0 ≤ ⌊roundNearest (p + 1 / 2)⌋ :=
    Int.floor_nonneg.2 (roundNearest_nonneg (by linarith [hp0 rfl]))
  obtain ⟨hlow, hhigh⟩ := floor_half_le (representable_of_denotes (denotes_unpack hp)) (hd0 rfl)
  refine ⟨?f, ?computed, ?ordered⟩
  case computed =>
    simp only [compute, havg, htrend, hsd, hP, hL, hU, Except.ok_bind]
    rfl
  case ordered => exact ⟨le_max_left _ _, max_le hpred hlow, hhigh⟩

/-- Nine weeks with a zero and a negative week, over four weeks, on New Year's Eve. -/
theorem compute_band_ordered_newYearsEve :
    (∀ n ∈ ([120, 95, -3, 110, 0, 90, 100, 98, 101] : List ℤ), n.natAbs < 2 ^ 63) ∧
      ([120, 95, -3, 110, 0, 90, 100, 98, 101] : List ℤ).length < 2 ^ 63 ∧
      ((4 : ℤ) < 1 → compute 7 ⟨2024, 12, 31⟩ [120, 95, -3, 110, 0, 90, 100, 98, 101] 4 8 =
          .error (.windowTooSmall (toString (4 : ℤ)))) ∧
      ((1 : ℤ) ≤ 4 → ∃ f, compute 7 ⟨2024, 12, 31⟩ [120, 95, -3, 110, 0, 90, 100, 98, 101] 4 8 = .ok f ∧
        0 ≤ f.lower ∧ f.lower ≤ f.predicted ∧ f.predicted ≤ f.upper) :=
  ⟨by decide, by decide, compute_band_ordered 7 ⟨2024, 12, 31⟩ _ 4 8 (by decide) (by decide)⟩

/-- Whatever the history, capacity advice follows from a computed forecast, for every capacity. -/
theorem recommend_predicted {routeId : ℤ} {date : Date} {series : List ℤ} {window trendWindow : ℤ}
    {f : Forecast} (h : compute routeId date series window trendWindow = .ok f) (capacity : ℤ) :
    ∃ a, Demand.recommend f.predicted capacity = .ok a := by
  simp only [compute, Except.bind_eq_ok] at h
  obtain ⟨avg, -, trend, -, sd, -, predicted, hpred, lower, -, upper, -, hf⟩ := h
  cases hf
  obtain ⟨h0, q, hq, hlt, hn⟩ := Number.roundHalfUp_posPart hpred
  exact Demand.recommend_ok hq hlt h0 hn capacity

end Forecast

end TransitRevenue
