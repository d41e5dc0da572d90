import Mathlib
import TransitRevenue.Proofs.Binary64.Rounding
/-!
Lean's model of doubles rounds to the nearest, ties to even.

Each operation of the model computes a significand at some unit together with an accuracy that
says where the exact result lies past it (`Near`), and hands both to `roundWithAccuracy`.
Shifting such a significand right keeps what it says of the halved value (`stands_shiftRight`),
and its rounded significand is the nearest integer (`roundedMantissa_eq`). So when the unit is
no coarser than the one the result rounds at, the outcome is the rounding of the exact value,
as a zero or as a canonical significand and exponent (`roundWithAccuracy_denotes`). `round`
first widens a significand to that unit, so it rounds any significand (`round_denotes`), and
`normalize` any signed one (`normalize_denotes`).
-/

namespace TransitRevenue

namespace Binary64

open Float.Model UnpackedFloat

/-- A magnitude with a sign. -/
def signed (s : Sign) (q : ℚ) : ℚ :=
  match s with
  | .negative => -q
  | .positive => q

theorem roundNearest_signed (s : Sign) (q : ℚ) : roundNearest (signed s q) = signed s (roundNearest q) := by
  cases s
  · exact roundNearest_neg q
  · rfl

theorem signed_eq_zero {s : Sign} {q : ℚ} : signed s q = 0 ↔ q = 0 := by
  cases s <;> simp [signed]

/-- A significand and exponent as the packed format keeps them: a significand below `2^53`, an
exponent from `-1074` on, and a significand below `2^52` only at that least exponent. -/
structure Canonical (m : Nat) (e : Int) : Prop where
  lt : m < 2 ^ 53
  le : -1074 ≤ e
  subnormal : m < 2 ^ 52 → e = -1074

/-- The targets of the format, written out. -/
theorem targetExponent_binary64 (T : Int) :
    Format.binary64.targetExponent T = max (T - 53) (-1074) := rfl

theorem totalExponent_eq (m : Nat) (e : Int) : totalExponent m e = m.log2 + 1 + e := rfl

/-! ## Significands with their accuracy -/

/-- What a significand `m` with an accuracy says of a value `y` counted in units of its last
place: exactly `m`, or strictly between `m` and `m + 1`, on the side of `m + 1/2` it names. -/
def Near (y : ℚ) (m : Nat) : Accuracy → Prop
  | .exact => y = m
  | .inexact .lt => m < y ∧ y < m + 1 / 2
  | .inexact .eq => y = m + 1 / 2
  | .inexact .gt => m + 1 / 2 < y ∧ y < m + 1

/-- A significand with its round and sticky bits stands for `y`. -/
def Stands (y : ℚ) (em : ExtendedMantissa) : Prop := Near y em.mantissa em.accuracy

theorem near_bounds {y : ℚ} {m : Nat} {acc : Accuracy} (h : Near y m acc) : m ≤ y ∧ y < m + 1 := by
  rcases acc with _ | (_ | _ | _) <;> simp only [Near] at h
  · exact ⟨h.ge, by linarith⟩
  · exact ⟨h.1.le, by linarith⟩
  · exact ⟨by linarith, by linarith⟩
  · exact ⟨by linarith, h.2⟩

theorem stands_ofMantissaAndAccuracy {y : ℚ} {m : Nat} {acc : Accuracy} :
    Stands y (ExtendedMantissa.ofMantissaAndAccuracy m acc) ↔ Near y m acc := by
  rcases acc with _ | (_ | _ | _) <;> rfl

/-- Halving the value moves the significand's last bit into the round bit, and the round and
sticky bits into the sticky bit. -/
theorem stands_shiftRightOne {y : ℚ} {em : ExtendedMantissa} (h : Stands y em) :
    Stands (y / 2) em.shiftRightOne := by
  obtain ⟨m, r, s⟩ := em
  obtain ⟨q, rfl | rfl⟩ := Nat.even_or_odd' m
  case inl =>
    have hq : 2 * q / 2 = q := by omega
    have hr : (2 * q % 2 != 0) = false := by simp
    cases r <;> cases s <;>
      simp only [Stands, Near, ExtendedMantissa.accuracy, ExtendedMantissa.shiftRightOne, hq, hr,
        Bool.or_false, Bool.or_true] at h ⊢ <;> push_cast at h ⊢
    · linarith
    · constructor <;> linarith
    · constructor <;> linarith
    · constructor <;> linarith
  case inr =>
    have hq : (2 * q + 1) / 2 = q := by omega
    have hr : ((2 * q + 1) % 2 != 0) = true := by simp [Nat.add_mod]
    cases r <;> cases s <;>
      simp only [Stands, Near, ExtendedMantissa.accuracy, ExtendedMantissa.shiftRightOne, hq, hr,
        Bool.or_false, Bool.or_true] at h ⊢ <;> push_cast at h ⊢
    · linarith
    · constructor <;> linarith
    · constructor <;> linarith
    · constructor <;> linarith

theorem stands_shiftRight {y : ℚ} {em : ExtendedMantissa} (h : Stands y em) :
    ∀ n : Nat, Stands (y / 2 ^ n) (em >>> n)
  | 0 => by
    rw [pow_zero, div_one]
    exact h
  | n + 1 => by
    have hn := stands_shiftRightOne (stands_shiftRight h n)
    rw [pow_succ, ← div_div]
    exact hn

theorem mantissa_shiftRight (em : ExtendedMantissa) :
    ∀ n : Nat, (em >>> n).mantissa = em.mantissa / 2 ^ n
  | 0 => by simp; rfl
  | n + 1 => by
    change (em >>> n).mantissa / 2 = _
    rw [mantissa_shiftRight em n, Nat.div_div_eq_div_mul, Nat.pow_succ]

/-- The rounded significand is the nearest integer, a tie going to the even one. -/
theorem roundedMantissa_eq {y : ℚ} {em : ExtendedMantissa} (h : Stands y em) :
    (em.roundedMantissa : ℤ) = nearestInt y := by
  obtain ⟨m, r, s⟩ := em
  symm
  apply nearestInt_eq
  cases r <;> cases s <;>
    simp only [Stands, Near, ExtendedMantissa.accuracy, ExtendedMantissa.roundedMantissa,
      Accuracy.roundToNearestEven] at h ⊢
  case false.false =>
    left
    rw [h]
    simp
  case false.true =>
    left
    rw [abs_lt]
    push_cast
    constructor <;> linarith
  case true.false =>
    -- a tie: the significand is made even
    right
    rw [h]
    rcases Nat.mod_two_eq_zero_or_one m with hm | hm
    · refine ⟨?_, by omega⟩
      rw [hm]
      push_cast
      norm_num
    · refine ⟨?_, by omega⟩
      rw [hm]
      push_cast
      rw [abs_of_neg (by linarith)]
      ring
  case true.true =>
    left
    rw [abs_lt]
    push_cast
    constructor <;> linarith

theorem roundedMantissa_le (em : ExtendedMantissa) : em.roundedMantissa ≤ em.mantissa + 1 := by
  obtain ⟨m, r, s⟩ := em
  cases r <;> cases s <;>
    simp only [ExtendedMantissa.roundedMantissa, ExtendedMantissa.accuracy,
      Accuracy.roundToNearestEven] <;> omega

/-! ## Rounding a significand with its accuracy -/

/-- An unpacked double of value `a`: a zero, of either sign, for `a = 0`, else a canonical
significand and exponent whose signed value is `a`. -/
def Denotes (a : ℚ) : UnpackedFloat → Prop
  | .zero _ => a = 0
  | .finite s m e _ => signed s (m * 2 ^ e) = a ∧ Canonical m e
  | _ => False

section Target

variable {m : Nat} {e : Int} {acc : Accuracy}

/-- How far `roundWithAccuracy` first shifts a significand right: up to the target unit, and
not at all when that unit is finer. -/
def firstShift (m : Nat) (e : Int) : Nat := (Format.binary64.targetExponent (totalExponent m e) - e).toNat

theorem shiftToTargetExponent_eq (acc : Accuracy) :
    shiftToTargetExponent Format.binary64 m e acc =
      (ExtendedMantissa.ofMantissaAndAccuracy m acc >>> firstShift m e, e + firstShift m e) := rfl

/-- After the first shift the significand has at most 53 bits, and the exponent is at least
`-1074`. -/
theorem firstShift_bounds (m : Nat) (e : Int) :
    -1074 ≤ e + firstShift m e ∧ m / 2 ^ firstShift m e < 2 ^ 53 := by
  have hk : m.log2 ≤ 52 + firstShift m e ∧ -1074 ≤ e + firstShift m e := by
    simp only [firstShift, targetExponent_binary64, totalExponent_eq]
    omega
  refine ⟨hk.2, (Nat.div_lt_iff_lt_mul (Nat.two_pow_pos _)).2 ?_⟩
  rw [← Nat.pow_add]
  exact lt_of_lt_of_le Nat.lt_log2_self (Nat.pow_le_pow_right (by decide) (by omega))

/-- The second shift of `roundWithAccuracy` moves nothing when the rounded significand kept
to 53 bits, -/
theorem secondShift_of_lt {r : Nat} {e₁ : Int} (hr : r < 2 ^ 53) (he : -1074 ≤ e₁) :
    shiftToTargetExponent Format.binary64 r e₁ .exact = (⟨r, false, false⟩, e₁) := by
  have hlog : r.log2 ≤ 52 := by
    rcases Nat.eq_zero_or_pos r with h0 | h0
    · simp [h0]
    · have := (Nat.log2_lt (Nat.pos_iff_ne_zero.1 h0)).2 hr
      omega
  have hk : firstShift r e₁ = 0 := by
    simp only [firstShift, targetExponent_binary64, totalExponent_eq]
    omega
  rw [shiftToTargetExponent_eq, hk]
  exact Prod.ext rfl (by simp)

/-- and one place when rounding carried into bit 53. -/
theorem secondShift_of_carry {e₁ : Int} (he : -1074 ≤ e₁) :
    shiftToTargetExponent Format.binary64 (2 ^ 53) e₁ .exact = (⟨2 ^ 52, false, false⟩, e₁ + 1) := by
  have hk : firstShift (2 ^ 53) e₁ = 1 := by
    simp only [firstShift, targetExponent_binary64, totalExponent_eq, Nat.log2_two_pow]
    omega
  rw [shiftToTargetExponent_eq, hk]
  exact Prod.ext rfl (by simp)

/-- The shape of `roundWithAccuracy`'s result: the significand rounded after the first shift, at
that shift's exponent, zero when it is zero and carried into the next exponent at `2^53`. -/
theorem roundWithAccuracy_eq (s : Sign) (m : Nat) (e : Int) (acc : Accuracy) :
    roundWithAccuracy Format.binary64 s m e acc =
      if h : (ExtendedMantissa.ofMantissaAndAccuracy m acc >>> firstShift m e).roundedMantissa = 0
      then .zero s
      else if (ExtendedMantissa.ofMantissaAndAccuracy m acc >>> firstShift m e).roundedMantissa < 2 ^ 53
      then .finite s _ (e + firstShift m e) (Nat.pos_of_ne_zero h)
      else .finite s (2 ^ 52) (e + firstShift m e + 1) (by decide) := by
  obtain ⟨hlow, hbits⟩ := firstShift_bounds m e
  set em := ExtendedMantissa.ofMantissaAndAccuracy m acc >>> firstShift m e with hem
  have hr : em.roundedMantissa ≤ 2 ^ 53 := by
    have hmant : em.mantissa = m / 2 ^ firstShift m e := by
      rw [hem, mantissa_shiftRight]
      rcases acc with _ | (_ | _ | _) <;> rfl
    have := roundedMantissa_le em
    omega
  unfold roundWithAccuracy
  rw [shiftToTargetExponent_eq, ← hem]
  dsimp only
  by_cases hlt : em.roundedMantissa < 2 ^ 53
  · rw [secondShift_of_lt hlt hlow]
    by_cases h0 : em.roundedMantissa = 0
    · simp only [h0, dite_true]
    · simp only [h0, dite_false, hlt, if_true]
  · have h53 : em.roundedMantissa = 2 ^ 53 := by omega
    rw [h53, secondShift_of_carry hlow]
    simp only [show (2 : Nat) ^ 53 ≠ 0 by decide, dite_false, lt_irrefl, if_false]
    rfl

/-- With no more than enough bits, the first shift ends at the target exponent. -/
theorem first_exponent (he : e ≤ Format.binary64.targetExponent (totalExponent m e)) :
    e + firstShift m e = Format.binary64.targetExponent (totalExponent m e) := by
  simp only [firstShift]
  omega

/-- The target exponent of a significand that approximates `x > 0` with no more than enough bits
is the unit `x` rounds at. -/
theorem targetExponent_eq_unit {x : ℚ} (hx : Near (x / 2 ^ e) m acc) (hpos : 0 < x)
    (he : e ≤ Format.binary64.targetExponent (totalExponent m e)) :
    Format.binary64.targetExponent (totalExponent m e) = unit x := by
  have hu : (0 : ℚ) < 2 ^ e := zpow_pos (by norm_num) e
  obtain ⟨hlo, hhi⟩ := near_bounds hx
  rw [le_div_iff₀ hu] at hlo
  rw [div_lt_iff₀ hu] at hhi
  rw [targetExponent_binary64, totalExponent_eq] at he ⊢
  unfold unit
  rw [abs_of_pos hpos]
  rcases Nat.eq_zero_or_pos m with h0 | h0
  case inl =>
    -- no significant bit: `x` lies below `2^e`, and `e` below the normal range
    subst h0
    have hlog : Int.log 2 x < e := by
      rw [← Int.lt_zpow_iff_log_lt (b := 2) (by norm_num) hpos]
      simpa using hhi
    simp only [Nat.log2_zero, Nat.cast_zero] at he ⊢
    omega
  case inr =>
    -- the leading bit of `m` at unit `2^e` is the leading bit of `x`
    have hlog : Int.log 2 x = m.log2 + e := by
      have hm0 : m ≠ 0 := Nat.pos_iff_ne_zero.1 h0
      have h1 : (2 : ℚ) ^ ((m.log2 : Int) + e) ≤ x := by
        calc (2 : ℚ) ^ ((m.log2 : Int) + e) = (2 ^ m.log2 : Nat) * 2 ^ e := by
              rw [zpow_add₀ (by norm_num)]
              push_cast
              rfl
          _ ≤ m * 2 ^ e := by
              gcongr
              exact_mod_cast Nat.log2_self_le hm0
          _ ≤ x := hlo
      have h2 : x < (2 : ℚ) ^ ((m.log2 : Int) + e + 1) := by
        calc x < (m + 1) * 2 ^ e := hhi
          _ ≤ (2 ^ (m.log2 + 1) : Nat) * 2 ^ e := by
              gcongr
              exact_mod_cast Nat.lt_log2_self
          _ = (2 : ℚ) ^ ((m.log2 : Int) + e + 1) := by
              rw [add_right_comm, zpow_add₀ (by norm_num)]
              push_cast
              rfl
      have hle := (Int.zpow_le_iff_le_log (b := 2) (by norm_num) hpos).1 (by exact_mod_cast h1)
      have hlt := (Int.lt_zpow_iff_log_lt (b := 2) (by norm_num) hpos).1 (by exact_mod_cast h2)
      omega
    rw [hlog]
    omega

end Target

/-- `roundWithAccuracy`, given a significand at a unit no coarser than the one the result rounds
at, with its accuracy, rounds the value it approximates to the nearest double. -/
theorem roundWithAccuracy_denotes {s : Sign} {x : ℚ} {m : Nat} {e : Int} {acc : Accuracy}
    (hx : Near (x / 2 ^ e) m acc) (he : e ≤ Format.binary64.targetExponent (totalExponent m e)) :
    Denotes (roundNearest (signed s x)) (roundWithAccuracy Format.binary64 s m e acc) := by
  set t := Format.binary64.targetExponent (totalExponent m e) with ht
  have hu : (0 : ℚ) < 2 ^ e := zpow_pos (by norm_num) e
  have hx0 : 0 ≤ x := by
    have := (near_bounds hx).1
    rw [le_div_iff₀ hu] at this
    exact le_trans (by positivity) this
  -- the first shift stands for `x` at unit `2^t`, and its rounding is the nearest integer there
  have hfirst := first_exponent he
  have hstands : Stands (x / 2 ^ t) (ExtendedMantissa.ofMantissaAndAccuracy m acc >>> firstShift m e) := by
    have h := stands_shiftRight (stands_ofMantissaAndAccuracy.2 hx) (firstShift m e)
    rw [firstShift, ← ht] at h
    rw [div_div, ← zpow_natCast, ← zpow_add₀ (by norm_num), Int.toNat_of_nonneg (by omega),
      add_sub_cancel] at h
    exact h
  have hM := roundedMantissa_eq hstands
  rw [roundWithAccuracy_eq, hfirst, ← ht]
  set M := (ExtendedMantissa.ofMantissaAndAccuracy m acc >>> firstShift m e).roundedMantissa with hMdef
  rcases eq_or_lt_of_le hx0 with hx0 | hpos
  case inl =>
    -- `x = 0` rounds to the zero significand
    subst hx0
    have hM0 : M = 0 := by
      have : (M : ℤ) = 0 := by rw [hM]; simp
      exact_mod_cast this
    simp only [hM0, dite_true, Denotes, signed_eq_zero.2 rfl, roundNearest_zero]
  case inr =>
    have htu : t = unit x := targetExponent_eq_unit hx hpos he
    have hround : roundNearest x = (M : ℚ) * 2 ^ t := by
      rw [roundNearest, ← htu, ← hM]
      push_cast
      rfl
    have htlow : -1074 ≤ t := htu ▸ le_unit x
    have hq0 : 0 ≤ x / 2 ^ t := div_nonneg hpos.le (zpow_pos (by norm_num) t).le
    -- the nearest integer to a value below `2^53` is at most `2^53`
    have hlt53 : M ≤ 2 ^ 53 := by
      have hq := abs_div_unit_lt x
      rw [← htu, abs_of_nonneg hq0] at hq
      have hmono := nearestInt_mono hq.le
      rw [← hM] at hmono
      rw [nearestInt_two_pow] at hmono
      exact_mod_cast hmono
    by_cases h0 : M = 0
    · simp only [h0, dite_true, Denotes, roundNearest_signed, hround, Nat.cast_zero, zero_mul,
        signed_eq_zero]
    · simp only [h0, dite_false]
      by_cases hlt : M < 2 ^ 53
      · rw [if_pos hlt]
        refine ⟨by rw [roundNearest_signed, hround], ⟨hlt, htlow, fun hsub => ?_⟩⟩
        -- a significand below `2^52` only at the subnormal unit: above it, `x` has 53 bits
        by_contra hne
        have hunit : -1074 < unit x := by rw [← htu]; omega
        have hedge := two_zpow_le_of_unit hpos.ne' hunit
        rw [abs_of_pos hpos] at hedge
        have hq : (2 : ℚ) ^ 52 ≤ x / 2 ^ t := by
          rw [le_div_iff₀ (zpow_pos (by norm_num) t), htu]
          calc (2 : ℚ) ^ 52 * 2 ^ unit x = 2 ^ (unit x + 52) := by
                rw [zpow_add₀ (by norm_num), mul_comm]
                norm_num
            _ ≤ x := hedge
        have hmono := nearestInt_mono hq
        rw [← hM] at hmono
        rw [nearestInt_two_pow] at hmono
        have h52 : ((2 ^ 52 : Nat) : ℤ) ≤ M := by exact_mod_cast hmono
        omega
      · rw [if_neg hlt]
        have hM53 : M = 2 ^ 53 := by omega
        refine ⟨?_, ⟨by decide, by omega, fun h => absurd h (lt_irrefl _)⟩⟩
        rw [roundNearest_signed, hround, hM53, zpow_add_one₀ (by norm_num)]
        push_cast
        ring_nf

/-! ## Rounding an exact significand -/

theorem log2_mul_two_pow {m : Nat} (hm : m ≠ 0) (k : Nat) : (m * 2 ^ k).log2 = m.log2 + k := by
  rw [Nat.log2_eq_iff (by positivity)]
  constructor
  · rw [Nat.pow_add]
    exact Nat.mul_le_mul_right _ (Nat.log2_self_le hm)
  · rw [show m.log2 + k + 1 = (m.log2 + 1) + k by omega, Nat.pow_add]
    exact Nat.mul_lt_mul_of_pos_right Nat.lt_log2_self (Nat.two_pow_pos k)

/-- `round` widens a significand to its target unit and rounds it there: the rounding of its
exact value. -/
theorem round_denotes (s : Sign) {m : Nat} (hm : 0 < m) (e : Int) :
    Denotes (roundNearest (signed s (m * 2 ^ e))) (UnpackedFloat.round Format.binary64 s m e) := by
  unfold UnpackedFloat.round decreaseExponent
  set t := Format.binary64.targetExponent (totalExponent m e) with ht
  set k := (e - t).toNat with hk
  -- widening keeps the leading bit, so the target stays where it was
  have htotal : totalExponent (m <<< k) (e - k) = totalExponent m e := by
    rw [totalExponent_eq, totalExponent_eq, Nat.shiftLeft_eq, log2_mul_two_pow (by omega)]
    push_cast
    ring
  apply roundWithAccuracy_denotes
  · show m * 2 ^ e / 2 ^ (e - k) = ((m <<< k : Nat) : ℚ)
    rw [Nat.shiftLeft_eq, mul_div_assoc, ← zpow_sub₀ (by norm_num), sub_sub_cancel]
    push_cast
    rfl
  · rw [htotal, ← ht]
    omega

/-- `normalize` rounds a signed significand at any exponent. -/
theorem normalize_denotes (n : Int) (e : Int) (z : Sign) :
    Denotes (roundNearest (n * 2 ^ e)) (UnpackedFloat.normalize Format.binary64 n e z) := by
  unfold UnpackedFloat.normalize
  rcases lt_trichotomy n 0 with hn | hn | hn
  · rw [show compare n 0 = .lt from compare_lt_iff_lt.2 hn]
    have h := round_denotes .negative (m := (-n).toNat) (by omega) e
    have hval : signed .negative (((-n).toNat : Nat) * 2 ^ e) = (n : ℚ) * 2 ^ e := by
      simp only [signed]
      rw [show (((-n).toNat : Nat) : ℚ) = -(n : ℚ) by exact_mod_cast Int.toNat_of_nonneg (by omega)]
      ring
    rwa [hval] at h
  · subst hn
    rw [show compare (0 : Int) 0 = .eq from compare_eq_iff_eq.2 rfl]
    simp [Denotes]
  · rw [show compare n 0 = .gt from compare_gt_iff_gt.2 hn]
    have h := round_denotes .positive (m := n.toNat) (by omega) e
    have hval : signed .positive ((n.toNat : Nat) * 2 ^ e) = (n : ℚ) * 2 ^ e := by
      simp only [signed]
      rw [show ((n.toNat : Nat) : ℚ) = (n : ℚ) by exact_mod_cast Int.toNat_of_nonneg (by omega)]
    rwa [hval] at h

end Binary64

end TransitRevenue
