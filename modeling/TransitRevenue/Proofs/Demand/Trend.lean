import Mathlib
import TransitRevenue.Proofs.Demand.Band
import TransitRevenue.Proofs.Number.Order
import TransitRevenue.Proofs.Pricing.Monotone
/-!
The trend factor of a demand forecast.

The trend compares the four most recent weeks of a history with the four before them. Both
totals are exact integer sums over the weeks there are, and their quotient is rounded once to the
nearest double and kept within `[0.7, 1.5]` (`trendBand`). The factor is neutral (`1.0`) while
the history is shorter than the trend window and when the earlier total is zero
(`trendCoefficient_law`). The window does not shorten the halves: under a window below eight
weeks the earlier half may be partial, and a negative earlier total makes the quotient negative,
which the lower bound then takes. Only the eight most recent weeks count, and the window only
through whether the history reaches it (`trendCoefficient_congr`).
-/

namespace TransitRevenue

namespace Demand

open Binary64

/-- The total of the four most recent weeks of a history. -/
def recentTotal (series : List Int) : Int := (series.take 4).sum

/-- The total of the (up to) four weeks before them. -/
def previousTotal (series : List Int) : Int := ((series.drop 4).take 4).sum

theorem foldr_recent (series : List Int) : (series.take 4).foldr (· + ·) 0 = recentTotal series := rfl

theorem foldr_previous (series : List Int) :
    ((series.drop 4).take 4).foldr (· + ·) 0 = previousTotal series := rfl

/-- A double kept within `[0.7, 1.5]`: the bound it reaches, else itself. -/
def trendBand (x : Float) : Float := if x ≤ 0.7 then 0.7 else if 1.5 ≤ x then 1.5 else x

/-- What the trend factor `t` of a history is under a window of `trendWindow` weeks. -/
structure TrendLaw (series : List Int) (trendWindow : Int) (t : Float) : Prop where
  within : (0.7 : Float) ≤ t ∧ t ≤ 1.5
  neutral : (series.length : Int) < trendWindow ∨ previousTotal series = 0 → t = 1.0
  ratio : trendWindow ≤ series.length → previousTotal series ≠ 0 →
    t = trendBand (ofRat (recentTotal series / previousTotal series))

/-! ## The band -/

theorem ofFloat?_trendFloor : Extended.ofFloat? (0.7 : Float) = some (.finite (6305039478318694 / 2 ^ 53)) :=
  extended?_trendFloor

theorem ofFloat?_trendCeiling : Extended.ofFloat? (1.5 : Float) = some (.finite (3 / 2)) :=
  extended?_trendCeiling

theorem trendFloor_lt_ceiling : (6305039478318694 / 2 ^ 53 : ℚ) < 3 / 2 := by norm_num

theorem neutral_within : (0.7 : Float) ≤ 1.0 ∧ (1.0 : Float) ≤ 1.5 := by
  rw [le_iff_of_finite ofFloat?_trendFloor ofFloat?_one, le_iff_of_finite ofFloat?_one ofFloat?_trendCeiling]
  norm_num

/-- A finite double kept within the band lies in it. -/
theorem trendBand_within {x : Float} {a : ℚ} (hx : Extended.ofFloat? x = some (.finite a)) :
    (0.7 : Float) ≤ trendBand x ∧ trendBand x ≤ 1.5 := by
  have hl := ofFloat?_trendFloor
  have hh := ofFloat?_trendCeiling
  have hlh := trendFloor_lt_ceiling
  unfold trendBand
  split_ifs with hlo hhi
  · exact ⟨(le_iff_of_finite hl hl).2 le_rfl, (le_iff_of_finite hl hh).2 hlh.le⟩
  · exact ⟨(le_iff_of_finite hl hh).2 hlh.le, (le_iff_of_finite hh hh).2 le_rfl⟩
  · -- neither bound reached: the value lies strictly between them
    rw [le_iff_of_finite hx hl] at hlo
    rw [le_iff_of_finite hh hx] at hhi
    exact ⟨(le_iff_of_finite hl hx).2 (not_le.1 hlo).le, (le_iff_of_finite hx hh).2 (not_le.1 hhi).le⟩

/-- Clamping a finite double to `[0.7, 1.5]` keeps it within the band. -/
theorem clamp_trendBand {x : Float} {a : ℚ} (hx : Extended.ofFloat? x = some (.finite a)) :
    Number.clamp (.float x) (.float 0.7) (.float 1.5) = .float (trendBand x) := by
  have hl := extended?_trendFloor
  have hh := extended?_trendCeiling
  unfold trendBand
  split_ifs with hlo hhi
  · exact Number.clamp_of_le_lower hl hh trendFloor_lt_ceiling (by simpa [Number.le_float] using hlo)
  · exact Number.clamp_of_le_upper hl hh trendFloor_lt_ceiling (by simpa [Number.le_float] using hhi)
  · -- neither bound reached: a finite double lies strictly between them
    rw [le_iff_of_finite hx ofFloat?_trendFloor, not_le] at hlo
    rw [le_iff_of_finite ofFloat?_trendCeiling hx, not_le] at hhi
    refine Number.clamp_of_between ?_ ?_
    · simpa [Number.lt_float] using (lt_iff_of_finite ofFloat?_trendFloor hx).2 hlo
    · simpa [Number.lt_float] using (lt_iff_of_finite hx ofFloat?_trendCeiling).2 hhi

/-! ## The three cases of the factor -/

variable {series : List Int} {trendWindow : Int}

theorem trendCoefficient_of_short (h : (series.length : Int) < trendWindow) :
    trendCoefficient series trendWindow = .ok 1.0 := by
  unfold trendCoefficient
  rw [if_pos h]
  rfl

theorem trendCoefficient_of_previous_zero (h : previousTotal series = 0) :
    trendCoefficient series trendWindow = .ok 1.0 := by
  unfold trendCoefficient
  simp only [foldr_previous, h]
  split <;> rfl

theorem trendCoefficient_of_ratio (hfits : ∀ n ∈ series, n.natAbs < 2 ^ 63)
    (hlen : trendWindow ≤ series.length) (hprev : previousTotal series ≠ 0) :
    trendCoefficient series trendWindow =
      .ok (trendBand (ofRat (recentTotal series / previousTotal series))) := by
  have hratio : |(recentTotal series / previousTotal series : ℚ)| ≤ 2 ^ (65 : ℤ) :=
    abs_div_halves_le hfits hprev
  obtain ⟨hdiv, hx⟩ := div_int_finite hprev hratio (by norm_num) (by norm_num)
  have hprev' : (previousTotal series == 0) = false := by simpa using hprev
  unfold trendCoefficient
  rw [if_neg (not_lt.2 hlen)]
  simp only [foldr_previous]
  simp only [foldr_recent, hprev', Bool.false_eq_true, if_false, hdiv, Except.ok_bind, clamp_trendBand hx]
  rfl

/-- The factor reads only the eight most recent weeks, and the window only through whether the
history reaches it. -/
theorem trendCoefficient_congr {series' : List Int} {trendWindow' : Int}
    (hrecent : series'.take 8 = series.take 8)
    (hgate : (series'.length : Int) < trendWindow' ↔ (series.length : Int) < trendWindow) :
    trendCoefficient series' trendWindow' = trendCoefficient series trendWindow := by
  have h4 : series'.take 4 = series.take 4 := by
    simpa [List.take_take] using congrArg (List.take 4) hrecent
  have h48 : (series'.drop 4).take 4 = (series.drop 4).take 4 := by
    simpa [List.drop_take] using congrArg (List.drop 4) hrecent
  unfold trendCoefficient
  simp only [hgate, h4, h48]

/-- The trend factor of a history whose weekly totals fit in 64 signed bits exists and follows
the law: within `[0.7, 1.5]`, neutral when the history is short of the window or the earlier
total is zero, and otherwise the banded quotient of the exact totals; and any history with the
same eight most recent weeks, under a window it reaches exactly when this one's is reached, has
the same factor. -/
theorem trendCoefficient_law (series : List Int) (trendWindow : Int)
    (hfits : ∀ n ∈ series, n.natAbs < 2 ^ 63) :
    ∃ t, trendCoefficient series trendWindow = .ok t ∧ TrendLaw series trendWindow t ∧
      ∀ series' trendWindow', series'.take 8 = series.take 8 →
        ((series'.length : Int) < trendWindow' ↔ (series.length : Int) < trendWindow) →
        trendCoefficient series' trendWindow' = .ok t := by
  obtain ⟨t, ht, hlaw⟩ : ∃ t, trendCoefficient series trendWindow = .ok t ∧ TrendLaw series trendWindow t := by
    by_cases hshort : (series.length : Int) < trendWindow
    case pos =>
      exact ⟨1.0, trendCoefficient_of_short hshort,
        ⟨neutral_within, fun _ => rfl, fun hlen => absurd hshort (not_lt.2 hlen)⟩⟩
    by_cases hzero : previousTotal series = 0
    case pos =>
      exact ⟨1.0, trendCoefficient_of_previous_zero hzero,
        ⟨neutral_within, fun _ => rfl, fun _ hne => absurd hzero hne⟩⟩
    case neg =>
      have hlen := not_lt.1 hshort
      obtain ⟨-, hx⟩ := div_int_finite hzero (abs_div_halves_le hfits hzero) (by norm_num) (by norm_num)
      refine ⟨_, trendCoefficient_of_ratio hfits hlen hzero, ⟨trendBand_within hx, ?_, fun _ _ => rfl⟩⟩
      rintro (h | h)
      · exact absurd h hshort
      · exact absurd h hzero
  exact ⟨t, ht, hlaw, fun series' trendWindow' h8 hgate => (trendCoefficient_congr h8 hgate).trans ht⟩

/-- Under a four-week window, five weeks of history compare the last four with the one before,
whose negative total sends the quotient below the band. -/
theorem trendCoefficient_law_of_partial_earlier_half :
    let series : List Int := [40, 38, 42, 35, -10]
    (∀ n ∈ series, n.natAbs < 2 ^ 63) ∧
      ∃ t, trendCoefficient series 4 = .ok t ∧ TrendLaw series 4 t ∧
        ∀ series' trendWindow', series'.take 8 = series.take 8 →
          ((series'.length : Int) < trendWindow' ↔ (series.length : Int) < 4) →
          trendCoefficient series' trendWindow' = .ok t := by
  intro series
  have hfits : ∀ n ∈ series, n.natAbs < 2 ^ 63 := by decide
  exact ⟨hfits, trendCoefficient_law series 4 hfits⟩

end Demand

end TransitRevenue
