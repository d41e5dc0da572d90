import Mathlib
/-!
Rounding a rational to a double: to the nearest, a tie going to the even significand.

A finite double stands for `n·2^k` with `|n| < 2^53` and `k ≥ -1074` (`Representable`); how large
`k` may grow is the packed format's concern, which overflows to infinity, not rounding's. A
rational `x` rounds at the unit `2^unit x` of its binade, `unit x = max (⌊log₂ |x|⌋ - 52) (-1074)`,
to the nearest multiple of that unit, a tie going to the even multiple (`roundNearest`). The
result is representable (`representable_roundNearest`), and no representable value lies nearer
to `x` (`roundNearest_nearest`). The rest follows from that alone: rounding keeps what it can
represent (`roundNearest_of_representable`), is monotone (`roundNearest_mono`), odd
(`roundNearest_neg`), and stays within any representable bounds of `x` (`roundNearest_le`,
`le_roundNearest`), powers of two among them (`abs_roundNearest_le`).
-/

namespace TransitRevenue

namespace Binary64

/-! ## Nearest points -/

/-- A function that sends every rational to a nearest point of a set is monotone: were `x ≤ y`
sent to points in the wrong order, both would lie at the midpoint of the two. -/
theorem monotone_of_nearest {S : ℚ → Prop} {f : ℚ → ℚ} (hS : ∀ x, S (f x))
    (hf : ∀ x z, S z → |x - f x| ≤ |x - z|) : Monotone f := by
  intro x y hxy
  by_contra hlt
  have hlt : f y < f x := not_le.1 hlt
  have h1 := hf x (f y) (hS y)
  have h2 := hf y (f x) (hS x)
  have hx : f x + f y ≤ 2 * x := by
    rcases abs_cases (x - f x) with ⟨ha, ha'⟩ | ⟨ha, ha'⟩ <;>
      rcases abs_cases (x - f y) with ⟨hb, hb'⟩ | ⟨hb, hb'⟩ <;> linarith
  have hy : 2 * y ≤ f x + f y := by
    rcases abs_cases (y - f y) with ⟨ha, ha'⟩ | ⟨ha, ha'⟩ <;>
      rcases abs_cases (y - f x) with ⟨hb, hb'⟩ | ⟨hb, hb'⟩ <;> linarith
  have hxy' : x = y := le_antisymm hxy (by linarith)
  subst hxy'
  exact lt_irrefl _ hlt

/-! ## The nearest integer -/

/-- The integer nearest a rational, a tie going to the even one. -/
def nearestInt (q : ℚ) : ℤ :=
  if q - ⌊q⌋ < 1 / 2 then ⌊q⌋
  else if 1 / 2 < q - ⌊q⌋ then ⌊q⌋ + 1
  else if ⌊q⌋ % 2 = 0 then ⌊q⌋ else ⌊q⌋ + 1

/-- Within half of `q`, and even when exactly half away. -/
def NearestTo (q : ℚ) (n : ℤ) : Prop := |q - n| < 1 / 2 ∨ (|q - n| = 1 / 2 ∧ n % 2 = 0)

theorem nearestTo_nearestInt (q : ℚ) : NearestTo q (nearestInt q) := by
  have hlo := Int.floor_le q
  have hhi := Int.lt_floor_add_one q
  unfold nearestInt NearestTo
  split_ifs with h1 h2 h3
  · exact .inl (by rw [abs_of_nonneg (by linarith)]; linarith)
  · left
    push_cast
    rw [abs_of_nonpos (by linarith)]
    linarith
  · have hq : q - ⌊q⌋ = 1 / 2 := by linarith
    exact .inr ⟨by rw [hq]; norm_num, h3⟩
  · have hq : q - ⌊q⌋ = 1 / 2 := by linarith
    refine .inr ⟨?_, by omega⟩
    push_cast
    rw [abs_of_nonpos (by linarith)]
    linarith

/-- Only one integer is within half of `q`, or exactly half away and even. -/
theorem eq_of_nearestTo {q : ℚ} {n n' : ℤ} (h : NearestTo q n) (h' : NearestTo q n') : n = n' := by
  have habs : |(n : ℚ) - n'| ≤ |q - n| + |q - n'| := by
    calc |(n : ℚ) - n'| = |(q - n') - (q - n)| := by ring_nf
      _ ≤ |q - n'| + |q - n| := abs_sub _ _
      _ = |q - n| + |q - n'| := add_comm _ _
  by_contra hne
  have hone : (1 : ℚ) ≤ |(n : ℚ) - n'| := by
    have : (1 : ℤ) ≤ |n - n'| := Int.one_le_abs (sub_ne_zero.2 hne)
    exact_mod_cast this
  rcases h with h | ⟨h, hev⟩ <;> rcases h' with h' | ⟨h', hev'⟩
  · linarith
  · linarith
  · linarith
  · -- two even integers at distance exactly one
    have hd : |n - n'| = 1 := by
      have : |(n : ℚ) - n'| = 1 := le_antisymm (by linarith) hone
      exact_mod_cast this
    rcases abs_eq (zero_le_one) |>.1 hd with hd | hd <;> omega

theorem nearestInt_eq {q : ℚ} {n : ℤ} (h : NearestTo q n) : nearestInt q = n :=
  eq_of_nearestTo (nearestTo_nearestInt q) h

/-- The nearest integer is no farther from `q` than any integer. -/
theorem abs_sub_nearestInt_le (q : ℚ) (k : ℤ) : |q - nearestInt q| ≤ |q - k| := by
  have hn := nearestTo_nearestInt q
  have hhalf : |q - nearestInt q| ≤ 1 / 2 := by
    rcases hn with h | ⟨h, -⟩ <;> linarith
  by_cases hk : k = nearestInt q
  · rw [hk]
  · -- another integer is a whole unit from the nearest one, so at least half from `q`
    have hone : (1 : ℚ) ≤ |(k : ℚ) - nearestInt q| := by
      have : (1 : ℤ) ≤ |k - nearestInt q| := Int.one_le_abs (sub_ne_zero.2 hk)
      exact_mod_cast this
    have htri : |(k : ℚ) - nearestInt q| ≤ |q - k| + |q - nearestInt q| := by
      calc |(k : ℚ) - nearestInt q| = |(q - nearestInt q) - (q - k)| := by ring_nf
        _ ≤ |q - nearestInt q| + |q - k| := abs_sub _ _
        _ = |q - k| + |q - nearestInt q| := add_comm _ _
    linarith

@[simp] theorem nearestInt_intCast (k : ℤ) : nearestInt k = k :=
  nearestInt_eq (.inl (by simp))

@[simp] theorem nearestInt_zero : nearestInt 0 = 0 := by
  simpa using nearestInt_intCast 0

theorem nearestInt_two_pow (n : ℕ) : nearestInt (2 ^ n) = 2 ^ n := by
  have h := nearestInt_intCast (2 ^ n)
  push_cast at h
  exact h

theorem nearestInt_neg (q : ℚ) : nearestInt (-q) = -nearestInt q := by
  apply nearestInt_eq
  have hn := nearestTo_nearestInt q
  have habs : |-q - ((-nearestInt q : ℤ) : ℚ)| = |q - nearestInt q| := by
    rw [← abs_neg]
    push_cast
    ring_nf
  unfold NearestTo at hn ⊢
  rw [habs]
  rcases hn with h | ⟨h, hev⟩
  · exact .inl h
  · exact .inr ⟨h, by omega⟩

theorem nearestInt_mono : Monotone nearestInt := by
  have hm : Monotone fun q => (nearestInt q : ℚ) :=
    monotone_of_nearest (S := fun z => ∃ k : ℤ, z = k) (fun q => ⟨_, rfl⟩)
      (fun q z ⟨k, hk⟩ => hk ▸ abs_sub_nearestInt_le q k)
  exact fun q q' h => Int.cast_le.1 (hm h)

/-! ## The grid of doubles -/

/-- The values of finite doubles, `n·2^k` with `|n| < 2^53` and `k ≥ -1074`, whatever the
exponent's upper limit. -/
def Representable (v : ℚ) : Prop :=
  ∃ n k : ℤ, |n| < 2 ^ 53 ∧ -1074 ≤ k ∧ v = n * 2 ^ k

theorem representable_of_abs_le {n k : ℤ} (hn : |n| ≤ 2 ^ 53) (hk : -1074 ≤ k) :
    Representable (n * 2 ^ k) := by
  rcases lt_or_eq_of_le hn with hlt | heq
  · exact ⟨n, k, hlt, hk, rfl⟩
  · -- `±2^53` is `±2^52` one exponent up
    refine ⟨n / 2, k + 1, ?_, by omega, ?_⟩
    · rcases abs_eq (by norm_num) |>.1 heq with h | h <;> rw [h] <;> norm_num
    · have h2 : n = 2 * (n / 2) := by
        rcases abs_eq (by norm_num) |>.1 heq with h | h <;> rw [h] <;> norm_num
      rw [zpow_add₀ (by norm_num), zpow_one]
      nth_rewrite 1 [h2]
      push_cast
      ring

theorem representable_zero : Representable 0 := ⟨0, 0, by norm_num, by norm_num, by simp⟩

theorem representable_two_zpow {k : ℤ} (hk : -1074 ≤ k) : Representable (2 ^ k) := by
  simpa using representable_of_abs_le (n := 1) (by norm_num) hk

theorem Representable.neg {v : ℚ} (h : Representable v) : Representable (-v) := by
  obtain ⟨n, k, hn, hk, rfl⟩ := h
  exact ⟨-n, k, by rwa [abs_neg], hk, by push_cast; ring⟩

/-- The exponent of the unit at which `x` rounds: 52 places below its leading bit, and never
below the subnormal unit `2^-1074`. -/
def unit (x : ℚ) : ℤ := max (Int.log 2 |x| - 52) (-1074)

theorem unit_neg (x : ℚ) : unit (-x) = unit x := by
  simp [unit]

theorem le_unit (x : ℚ) : -1074 ≤ unit x := le_max_right _ _

/-- Measured in its unit, a rational has fewer than 53 bits before the point. -/
theorem abs_div_unit_lt (x : ℚ) : |x / 2 ^ unit x| < 2 ^ 53 := by
  have hu : (0 : ℚ) < 2 ^ unit x := zpow_pos (by norm_num) _
  rw [abs_div, abs_of_pos hu, div_lt_iff₀ hu]
  have hlt : |x| < 2 ^ (Int.log 2 |x| + 1) := by
    exact_mod_cast Int.lt_zpow_succ_log_self (b := 2) (by norm_num) |x|
  calc |x| < 2 ^ (Int.log 2 |x| + 1) := hlt
    _ = 2 ^ (53 : ℤ) * 2 ^ (Int.log 2 |x| - 52) := by
      rw [← zpow_add₀ (by norm_num)]
      ring_nf
    _ ≤ 2 ^ (53 : ℤ) * 2 ^ unit x := by
      gcongr
      · norm_num
      · exact le_max_left _ _
    _ = 2 ^ 53 * 2 ^ unit x := by norm_num

/-- The unit of `x ≠ 0` above the subnormal one sits 52 places below its leading bit. -/
theorem two_zpow_le_of_unit {x : ℚ} (hx : x ≠ 0) (hu : -1074 < unit x) :
    2 ^ (unit x + 52) ≤ |x| := by
  have he : unit x = Int.log 2 |x| - 52 := by
    unfold unit at hu ⊢
    omega
  rw [he, sub_add_cancel]
  exact_mod_cast Int.zpow_log_le_self (b := 2) (by norm_num) (abs_pos.2 hx)

/-! ## Rounding -/

/-- A rational rounded to a double, to the nearest multiple of its unit, a tie going to the
even multiple; the exponent is not bounded above. -/
def roundNearest (x : ℚ) : ℚ := nearestInt (x / 2 ^ unit x) * 2 ^ unit x

theorem representable_roundNearest (x : ℚ) : Representable (roundNearest x) := by
  apply representable_of_abs_le _ (le_unit x)
  -- the nearest integer is within half of a value below `2^53`
  have hq := abs_div_unit_lt x
  have hn : |x / 2 ^ unit x - nearestInt (x / 2 ^ unit x)| ≤ 1 / 2 := by
    rcases nearestTo_nearestInt (x / 2 ^ unit x) with h | ⟨h, -⟩ <;> linarith
  have hle : |(nearestInt (x / 2 ^ unit x) : ℚ)| < 2 ^ 53 + 1 := by
    calc |(nearestInt (x / 2 ^ unit x) : ℚ)|
        = |x / 2 ^ unit x - (x / 2 ^ unit x - nearestInt (x / 2 ^ unit x))| := by ring_nf
      _ ≤ |x / 2 ^ unit x| + |x / 2 ^ unit x - nearestInt (x / 2 ^ unit x)| := abs_sub _ _
      _ < 2 ^ 53 + 1 := by linarith
  have : |nearestInt (x / 2 ^ unit x)| < 2 ^ 53 + 1 := by exact_mod_cast hle
  omega

/-- Among the multiples of the unit, the rounding is nearest. -/
theorem abs_sub_roundNearest_le_grid (x : ℚ) (j : ℤ) :
    |x - roundNearest x| ≤ |x - j * 2 ^ unit x| := by
  have hu : (0 : ℚ) < 2 ^ unit x := zpow_pos (by norm_num) _
  have hscale : ∀ k : ℤ, |x - k * 2 ^ unit x| = |x / 2 ^ unit x - k| * 2 ^ unit x := by
    intro k
    rw [← abs_of_pos hu, ← abs_mul, abs_of_pos hu, sub_mul, div_mul_cancel₀ _ hu.ne']
  rw [roundNearest, hscale, hscale]
  exact mul_le_mul_of_nonneg_right (abs_sub_nearestInt_le _ j) hu.le

/-- No double lies nearer to `x` than its rounding. A double on the grid of `x`'s unit is a
multiple of it; a double off that grid has a smaller exponent, so it lies below the binade of
`x`, and the binade's edge, on the grid, is nearer. -/
theorem roundNearest_nearest (x z : ℚ) (hz : Representable z) :
    |x - roundNearest x| ≤ |x - z| := by
  obtain ⟨n, k, hn, hk, rfl⟩ := hz
  by_cases hku : unit x ≤ k
  case pos =>
    -- on the grid: `n·2^k` is `(n·2^(k - unit x))·2^(unit x)`
    have hgrid : (n : ℚ) * 2 ^ k = ((n * 2 ^ (k - unit x).toNat : ℤ) : ℚ) * 2 ^ unit x := by
      push_cast
      rw [mul_assoc, ← zpow_natCast, ← zpow_add₀ (by norm_num), Int.toNat_of_nonneg (by omega)]
      ring_nf
    rw [hgrid]
    exact abs_sub_roundNearest_le_grid x _
  case neg =>
    by_cases hx : x = 0
    · subst hx
      have h0 : roundNearest 0 = 0 := by simp [roundNearest, nearestInt]
      rw [h0, sub_zero, abs_zero]
      exact abs_nonneg _
    have hunit : -1074 < unit x := by omega
    have hedge := two_zpow_le_of_unit hx hunit
    -- the double is below the binade's edge `2^(unit x + 52) ≤ |x|`
    have hzlt : |(n : ℚ) * 2 ^ k| < 2 ^ (unit x + 52) := by
      have hn' : |(n : ℚ)| < 2 ^ 53 := by exact_mod_cast hn
      rw [abs_mul, abs_of_pos (zpow_pos (by norm_num : (0 : ℚ) < 2) k)]
      calc |(n : ℚ)| * 2 ^ k < 2 ^ 53 * 2 ^ k :=
            mul_lt_mul_of_pos_right hn' (zpow_pos (by norm_num : (0 : ℚ) < 2) k)
        _ = 2 ^ (53 + k) := by
          rw [zpow_add₀ (by norm_num)]
          norm_num
        _ ≤ 2 ^ (unit x + 52) := zpow_le_zpow_right₀ (by norm_num) (by omega)
    -- the edge on `x`'s side is a multiple of the unit
    set g : ℚ := if 0 < x then 2 ^ (unit x + 52) else -2 ^ (unit x + 52) with hg
    have hgrid : g = ((if 0 < x then 2 ^ 52 else -2 ^ 52 : ℤ) : ℚ) * 2 ^ unit x := by
      rw [hg, zpow_add₀ (by norm_num)]
      split_ifs <;> push_cast <;> ring
    have hxg : |x - g| = |x| - 2 ^ (unit x + 52) := by
      rw [hg]
      split_ifs with hpos
      · rw [abs_of_pos hpos, abs_of_nonneg (by linarith [abs_of_pos hpos ▸ hedge])]
      · have hneg : x < 0 := lt_of_le_of_ne (not_lt.1 hpos) hx
        rw [abs_of_neg hneg, abs_of_nonpos (by linarith [abs_of_neg hneg ▸ hedge])]
        ring
    calc |x - roundNearest x| ≤ |x - g| := hgrid ▸ abs_sub_roundNearest_le_grid x _
      _ = |x| - 2 ^ (unit x + 52) := hxg
      _ ≤ |x| - |(n : ℚ) * 2 ^ k| := by linarith
      _ ≤ |x - n * 2 ^ k| := abs_sub_abs_le_abs_sub _ _

theorem roundNearest_of_representable {x : ℚ} (hx : Representable x) : roundNearest x = x := by
  have h := roundNearest_nearest x x hx
  rw [sub_self, abs_zero] at h
  linarith [abs_nonneg (x - roundNearest x), abs_eq_zero.1 (le_antisymm h (abs_nonneg _))]

@[simp] theorem roundNearest_zero : roundNearest 0 = 0 :=
  roundNearest_of_representable representable_zero

theorem roundNearest_mono : Monotone roundNearest :=
  monotone_of_nearest representable_roundNearest roundNearest_nearest

theorem roundNearest_neg (x : ℚ) : roundNearest (-x) = -roundNearest x := by
  rw [roundNearest, roundNearest, unit_neg, neg_div, nearestInt_neg]
  push_cast
  ring

section Bounds

variable {x z : ℚ}

/-- A double at least `x` is at least its rounding. -/
theorem roundNearest_le (hz : Representable z) (h : x ≤ z) : roundNearest x ≤ z :=
  roundNearest_of_representable hz ▸ roundNearest_mono h

/-- A double at most `x` is at most its rounding. -/
theorem le_roundNearest (hz : Representable z) (h : z ≤ x) : z ≤ roundNearest x :=
  roundNearest_of_representable hz ▸ roundNearest_mono h

theorem roundNearest_nonneg (h : 0 ≤ x) : 0 ≤ roundNearest x :=
  le_roundNearest representable_zero h

theorem roundNearest_nonpos (h : x ≤ 0) : roundNearest x ≤ 0 :=
  roundNearest_le representable_zero h

/-- Rounding stays within a power of two that bounds `x`. -/
theorem abs_roundNearest_le {k : ℤ} (hk : -1074 ≤ k) (h : |x| ≤ 2 ^ k) : |roundNearest x| ≤ 2 ^ k := by
  have hp := representable_two_zpow hk
  rw [abs_le] at h ⊢
  exact ⟨le_roundNearest hp.neg h.1, roundNearest_le hp h.2⟩

end Bounds

end Binary64

end TransitRevenue
