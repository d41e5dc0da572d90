import Mathlib
import TransitRevenue.Proofs.Number.ExactSum
import TransitRevenue.Proofs.Demand.Band
/-!
The moving average of a demand history.

The most recent weeks of a history are converted to doubles and summed in pairwise order. When
their magnitudes add up to at most `2^53`, every integer on the way is a double, so the sum is
the exact total whatever the blocks of the summation, the same as a plain left-to-right sum; the
only rounding is the division by the count, itself a double (`movingAverage_of_weight`).
Up to `2^53` weeks the count converts exactly, and the average is the exact mean rounded once
to the nearest double (`movingAverage_exact_mean`).
-/

namespace TransitRevenue

namespace Binary64

/-- A rational of magnitude at least `2^k`, for `k` in the range of doubles, does not round to
zero. -/
theorem roundNearest_ne_zero {x : ℚ} {k : ℤ} (hk : -1074 ≤ k) (h : 2 ^ k ≤ |x|) : roundNearest x ≠ 0 := by
  have hpos : (0 : ℚ) < 2 ^ k := zpow_pos (by norm_num) k
  rcases le_abs'.1 h with hneg | hposx
  · -- at most `-2^k`, so is its rounding
    have := roundNearest_le (representable_two_zpow hk).neg hneg
    exact (lt_of_le_of_lt this (neg_neg_of_pos hpos)).ne
  · have := le_roundNearest (representable_two_zpow hk) hposx
    exact (lt_of_lt_of_le hpos this).ne'

/-- An integer at most `2^53` in magnitude over a count from one stays within `2^53`. -/
theorem abs_intCast_div_le {s : ℤ} {n : ℕ} (hs : s.natAbs ≤ 2 ^ 53) (h1 : 1 ≤ n) :
    |(s : ℚ) / n| ≤ 2 ^ (53 : ℤ) := by
  have hsle : |(s : ℚ)| ≤ 2 ^ 53 := by
    rw [← Int.cast_abs, Int.abs_eq_natAbs]
    exact_mod_cast hs
  rw [abs_div, abs_of_pos (by exact_mod_cast h1 : (0 : ℚ) < n), zpow_ofNat]
  exact (div_le_self (abs_nonneg _) (by exact_mod_cast h1)).trans hsle

/-- An integer other than zero over a count up to `2^53` is at least `2^-53` in magnitude. -/
theorem two_zpow_le_abs_intCast_div {s : ℤ} {n : ℕ} (hs0 : s ≠ 0) (h1 : 1 ≤ n) (hn : n ≤ 2 ^ 53) :
    2 ^ (-53 : ℤ) ≤ |(s : ℚ) / n| := by
  have hs1 : (1 : ℚ) ≤ |(s : ℚ)| := by
    rw [← Int.cast_abs]
    exact_mod_cast Int.one_le_abs hs0
  have hn' : (n : ℚ) ≤ 2 ^ 53 := by exact_mod_cast hn
  rw [abs_div, abs_of_pos (by exact_mod_cast h1 : (0 : ℚ) < n), le_div_iff₀ (by exact_mod_cast h1)]
  calc 2 ^ (-53 : ℤ) * (n : ℚ) ≤ 2 ^ (-53 : ℤ) * 2 ^ 53 := by gcongr
    _ = 1 := by norm_num
    _ ≤ |(s : ℚ)| := hs1

/-- An integer and a count from one to `2^53`, each converted to a double, divide to their exact
quotient rounded once. -/
theorem ofRat_div_natToFloat {s : ℤ} {n : ℕ} (hs : s.natAbs ≤ 2 ^ 53) (h1 : 1 ≤ n) (hn : n ≤ 2 ^ 53) :
    ofRat s / n.toFloat = ofRat ((s : ℚ) / n) := by
  have hnv : Extended.ofFloat? n.toFloat = some (.finite (n : ℤ)) := by
    rw [ofFloat?_natToFloat, ← Int.cast_natCast, packed_roundNearest_intCast (by simpa using hn)]
  have hnpos : (0 : ℚ) < ((n : ℤ) : ℚ) := by exact_mod_cast h1
  obtain ⟨hsum, esum⟩ := Tally.ofRat_intCast hs
  by_cases hs0 : s = 0
  case pos =>
    -- the positive zero over the count stays the positive zero
    subst hs0
    have hzero : ofRat (((0 : ℤ) : ℚ) / n) = 0 := by
      rw [Int.cast_zero, zero_div]
      decide
    rw [hsum.pos_zero esum, zero_div_of_pos hnv hnpos, hzero]
  case neg =>
    -- both sides are the quotient rounded, which is a finite double other than zero
    have hquot := abs_intCast_div_le hs h1
    have hval := ofFloat?_of_round (e := 53) (ofFloat?_div (esum ▸ hsum.value) hnv hnpos.ne') (by norm_num)
      (by norm_num) (by simpa using hquot)
    have hval' := ofFloat?_of_round (e := 53) (ofFloat?_ofRat ((s : ℚ) / n)) (by norm_num) (by norm_num) hquot
    rw [Int.cast_natCast] at hval
    exact eq_of_ofFloat?_eq hval hval' (roundNearest_ne_zero (by norm_num) (two_zpow_le_abs_intCast_div hs0 h1 hn))

end Binary64

namespace Demand

open Binary64

variable {series : List ℤ}

/-- Each entry of a history is at most its weight. -/
theorem natAbs_le_of_weight {W : ℕ} (hw : (series.map Int.natAbs).sum ≤ W) : ∀ n ∈ series, n.natAbs ≤ W :=
  fun _ hn => (List.le_sum_of_mem (List.mem_map_of_mem hn)).trans hw

/-- Entries up to `2^53` in magnitude convert to doubles that hold them. -/
theorem mapM_intToFloat_of_natAbs_le (h : ∀ n ∈ series, n.natAbs ≤ 2 ^ 53) :
    series.mapM Number.intToFloat = .ok (series.map fun n : ℤ => ofRat n) :=
  Except.mapM_eq_ok_of fun n hn => (Number.intToFloat_ok (k := 54) (by norm_num) (by have := h n hn; omega)).1

/-- A history's total never outweighs its entries. -/
theorem natAbs_sum_le (series : List ℤ) : series.sum.natAbs ≤ (series.map Int.natAbs).sum := by
  induction series with
  | nil => rfl
  | cons n ns ih =>
    rw [List.sum_cons, List.map_cons, List.sum_cons]
    exact (Int.natAbs_add_le _ _).trans (Nat.add_le_add_left ih _)

/-- Under a window of at least one week, a non-empty history keeps a recent week. -/
theorem take_ne_nil {window : ℤ} (hne : series ≠ []) (hwin : 1 ≤ window) : series.take window.toNat ≠ [] := by
  cases series with
  | nil => exact absurd rfl hne
  | cons n ns =>
    simp only [ne_eq, List.take_eq_nil_iff, reduceCtorEq, or_false]
    omega

theorem tally_map_ofRat (h : ∀ n ∈ series, n.natAbs ≤ 2 ^ 53) :
    ∀ x ∈ series.map (fun n : ℤ => ofRat n), Tally x (intPart x).natAbs := by
  intro x hx
  obtain ⟨n, hn, rfl⟩ := List.mem_map.1 hx
  exact (Tally.ofRat_intCast (h n hn)).1.tight

theorem intTotal_map_ofRat (h : ∀ n ∈ series, n.natAbs ≤ 2 ^ 53) :
    intTotal (series.map fun n : ℤ => ofRat n) = series.sum := by
  induction series with
  | nil => rfl
  | cons n ns ih =>
    rw [List.map_cons, intTotal_cons, List.sum_cons, (Tally.ofRat_intCast (h n List.mem_cons_self)).2,
      ih fun k hk => h k (List.mem_cons_of_mem n hk)]

theorem intWeight_map_ofRat (h : ∀ n ∈ series, n.natAbs ≤ 2 ^ 53) :
    intWeight (series.map fun n : ℤ => ofRat n) = (series.map Int.natAbs).sum := by
  induction series with
  | nil => rfl
  | cons n ns ih =>
    rw [List.map_cons, intWeight_cons, List.map_cons, List.sum_cons, (Tally.ofRat_intCast (h n List.mem_cons_self)).2,
      ih fun k hk => h k (List.mem_cons_of_mem n hk)]

/-- A non-empty history of weight at most `2^53` sums, in pairwise order, to its exact total. -/
theorem pairwiseSum_map_ofRat (hne : series ≠ []) (hw : (series.map Int.natAbs).sum ≤ 2 ^ 53) :
    pairwiseSum (series.map fun n : ℤ => ofRat n) = ofRat series.sum := by
  have hle := natAbs_le_of_weight hw
  have hweight : intWeight (series.map fun n : ℤ => ofRat n) ≤ 2 ^ 53 := by rwa [intWeight_map_ofRat hle]
  obtain ⟨hp, ep⟩ := Tally.pairwiseSum (tally_map_ofRat hle) (by simpa using hne) hweight
  obtain ⟨hs, es⟩ := Tally.ofRat_intCast ((natAbs_sum_le series).trans hw)
  exact hp.eq hs (by rw [ep, es, intTotal_map_ofRat hle])

/-- A non-empty history of weight at most `2^53` averages to its exact total over its count, both
as doubles. -/
theorem historyMean_of_weight (hne : series ≠ []) (hw : (series.map Int.natAbs).sum ≤ 2 ^ 53) :
    historyMean series = .ok (ofRat series.sum / series.length.toFloat) := by
  have hle := natAbs_le_of_weight hw
  have hfits : fitsWord series = true := fitsWord_of_natAbs_lt fun n hn => by have := hle n hn; omega
  rw [historyMean_of_fitsWord hfits, mapM_intToFloat_of_natAbs_le hle]
  show Except.ok (pairwiseSum (series.map fun n : ℤ => ofRat n) / series.length.toFloat) = _
  rw [pairwiseSum_map_ofRat hne hw]

/-- Under a window of at least one week, a non-empty history whose most recent weeks weigh at most
`2^53` averages them as their exact total over their count, both as doubles. -/
theorem movingAverage_of_weight {window : ℤ} (hne : series ≠ []) (hwin : 1 ≤ window)
    (hw : ((series.take window.toNat).map Int.natAbs).sum ≤ 2 ^ 53) :
    movingAverage series window =
      .ok (ofRat (series.take window.toNat).sum / (series.take window.toNat).length.toFloat) := by
  rw [movingAverage, if_neg (not_lt.2 hwin)]
  cases series with
  | nil => exact absurd rfl hne
  | cons n ns => exact historyMean_of_weight (take_ne_nil hne hwin) hw

/-- The moving average of a non-empty history, under a window of at least one week, whose most
recent weeks weigh less than `2^53`: their exact total over their count, both as doubles; so,
up to `2^53` weeks, their exact mean rounded once to the nearest double. Pairwise summation of
those weeks is the plain left-to-right sum. -/
theorem movingAverage_exact_mean (series : List ℤ) (window : ℤ) (hne : series ≠ []) (hwin : 1 ≤ window)
    (hw : ((series.take window.toNat).map Int.natAbs).sum < 2 ^ 53) :
    let recent := series.take window.toNat
    movingAverage series window = .ok (ofRat recent.sum / recent.length.toFloat) ∧
      (recent.length ≤ 2 ^ 53 → movingAverage series window = .ok (ofRat ((recent.sum : ℚ) / recent.length))) ∧
      pairwiseSum (recent.map fun n : ℤ => ofRat n) = sumFrom 0 (recent.map fun n : ℤ => ofRat n) := by
  intro recent
  have hrecent : recent ≠ [] := take_ne_nil hne hwin
  have hle := natAbs_le_of_weight hw.le
  have hsum := movingAverage_of_weight hne hwin hw.le
  refine ⟨hsum, fun hcount => ?_, ?_⟩
  · -- the count converts exactly
    rw [hsum, ofRat_div_natToFloat ((natAbs_sum_le recent).trans hw.le) (List.length_pos_iff.2 hrecent) hcount]
  · exact pairwiseSum_eq_sumFrom (tally_map_ofRat hle) (by simpa using hrecent)
      (by rw [intWeight_map_ofRat hle]; exact hw.le)

/-- Ten weeks under a twelve-week window: eight go into the lanes, two are added after them. -/
theorem movingAverage_exact_mean_of_ten_weeks :
    let series : List ℤ := [40, 38, -42, 35, 50, 47, 41, 39, 44, 36]
    series ≠ [] ∧ (1 : ℤ) ≤ 12 ∧ ((series.take (12 : ℤ).toNat).map Int.natAbs).sum < 2 ^ 53 ∧
      let recent := series.take (12 : ℤ).toNat
      movingAverage series 12 = .ok (ofRat recent.sum / recent.length.toFloat) ∧
        (recent.length ≤ 2 ^ 53 → movingAverage series 12 = .ok (ofRat ((recent.sum : ℚ) / recent.length))) ∧
        pairwiseSum (recent.map fun n : ℤ => ofRat n) = sumFrom 0 (recent.map fun n : ℤ => ofRat n) := by
  intro series
  have hne : series ≠ [] := by decide
  have hwin : (1 : ℤ) ≤ 12 := by decide
  have hw : ((series.take (12 : ℤ).toNat).map Int.natAbs).sum < 2 ^ 53 := by decide
  exact ⟨hne, hwin, hw, movingAverage_exact_mean series 12 hne hwin hw⟩

end Demand

end TransitRevenue
