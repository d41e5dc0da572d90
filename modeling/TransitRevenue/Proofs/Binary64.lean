import Mathlib
import TransitRevenue.Number
/-!
Which doubles the library's conversions produce, read through Lean's own model of `Float`.

In that model a double is its word, unpacked into sign, exponent and significand for every
operation and packed back. A word whose exponent field is not all ones (no infinity, no NaN)
comes back unchanged (`pack_unpack`), so such a word read as a double is finite
(`isFinite_ofBits`). That is what `assemble` builds from a significand below `2^53` and an
exponent up to `971` (`isFinite_assemble`), and rounding an integer below `2^1023` in magnitude
builds nothing else (`isFinite_ofRat_intCast`), so such an integer converts to a double
(`Number.intToFloat_ok`) that has a floor (`Number.floor_float_ok`). The other way round, a double
that compares equal to zero is one of the two zeros, so it stands for the rational zero
(`ofFloat?_of_beq_zero`) and is at most the integer zero (`Number.le_zero_of_beq_zero`).
-/

namespace TransitRevenue

/-- Powers of integers, written out as `Int.pow` in the library, are the usual powers. -/
@[simp] theorem int_pow_eq (m : Int) (n : Nat) : Int.pow m n = m ^ n := rfl

/-- So are powers of rationals, written out as `Rat.zpow`. -/
@[simp] theorem rat_zpow_eq (q : ℚ) (e : Int) : Rat.zpow q e = q ^ e := rfl

/-- And natural powers of rationals, written out as `Rat.pow`. -/
@[simp] theorem rat_pow_eq (q : ℚ) (n : Nat) : Rat.pow q n = q ^ n := rfl

namespace Binary64

open Float.Model UnpackedFloat

/-! ## Words through the model -/

theorem toNat_unpackExponent (b : BitVec 64) :
    (@unpackExponent Format.binary64 b).toNat = b.toNat / 2 ^ 52 % 2 ^ 11 := by
  simp [unpackExponent, Nat.shiftRight_eq_div_pow]

theorem toNat_unpackMantissa (b : BitVec 64) :
    (@unpackMantissa Format.binary64 b).toNat = b.toNat % 2 ^ 52 := by
  simp [unpackMantissa]

theorem toNat_unpackSign (b : BitVec 64) :
    (@unpackSign Format.binary64 b).toNat = b.toNat / 2 ^ 63 % 2 := by
  simp [unpackSign, Nat.shiftRight_eq_div_pow]

/-- A sign bit survives being read as a sign and written back. -/
theorem toBitVec_ofBitVec (v : BitVec 1) : (Sign.ofBitVec v).toBitVec = v := by
  unfold Sign.ofBitVec
  split
  case isTrue h => exact h.symm
  case isFalse h =>
    apply BitVec.eq_of_toNat_eq
    have hv : v.toNat ≠ 0 := fun h0 => h (BitVec.eq_of_toNat_eq h0)
    have := v.isLt
    simp [Sign.toBitVec]
    omega

theorem toNat_packComponents (s : Sign) (e : BitVec 11) (m : BitVec 52) :
    (packComponents Format.binary64 s e m).toNat =
      s.toBitVec.toNat * 2 ^ 63 + e.toNat * 2 ^ 52 + m.toNat := by
  change (s.toBitVec ++ e ++ m).toNat = _
  simp only [BitVec.toNat_append]
  rw [← Nat.shiftLeft_add_eq_or_of_lt m.isLt, ← Nat.shiftLeft_add_eq_or_of_lt e.isLt]
  simp only [Nat.shiftLeft_eq]
  omega

/-- A word is its sign bit, exponent field and significand field side by side. -/
theorem word_split {B : Nat} (hB : B < 2 ^ 64) :
    B = B / 2 ^ 63 % 2 * 2 ^ 63 + B / 2 ^ 52 % 2 ^ 11 * 2 ^ 52 + B % 2 ^ 52 := by
  have h1 := Nat.div_add_mod B (2 ^ 52)
  have h2 := Nat.div_add_mod (B / 2 ^ 52) (2 ^ 11)
  have h3 : B / 2 ^ 52 / 2 ^ 11 = B / 2 ^ 63 := by
    rw [Nat.div_div_eq_div_mul, ← Nat.pow_add]
  have h4 : B / 2 ^ 63 % 2 = B / 2 ^ 63 := Nat.mod_eq_of_lt (by omega)
  rw [h3] at h2
  rw [h4]
  omega

/-- A word is its own sign, exponent and significand fields put back together. -/
theorem packComponents_unpack (b : BitVec 64) :
    packComponents Format.binary64 (Sign.ofBitVec (@unpackSign Format.binary64 b)) (unpackExponent b)
      (unpackMantissa b) = b := by
  apply BitVec.eq_of_toNat_eq
  rw [toNat_packComponents, toBitVec_ofBitVec, toNat_unpackSign, toNat_unpackExponent,
    toNat_unpackMantissa]
  exact (word_split b.isLt).symm

theorem packComponents_eq_self {b : BitVec 64} {e : BitVec 11} {m : BitVec 52}
    (he : @unpackExponent Format.binary64 b = e) (hm : @unpackMantissa Format.binary64 b = m) :
    packComponents Format.binary64 (Sign.ofBitVec (@unpackSign Format.binary64 b)) e m = b := by
  subst he hm
  exact packComponents_unpack b

theorem exponentBias_binary64 : Format.binary64.exponentBias = 1023 := rfl

theorem mantissaBits_binary64 : Format.binary64.mantissaBits = 53 := rfl

/-- A word that is no infinity and no NaN is packed back as it was unpacked: a zero, a
subnormal (exponent field zero) or a normal double, each with its own sign. -/
theorem pack_unpack (b : BitVec 64) (h : b.toNat / 2 ^ 52 % 2 ^ 11 ≠ 2047) :
    UnpackedFloat.pack Format.binary64 (UnpackedFloat.unpack Format.binary64 b) = b := by
  have hE := toNat_unpackExponent b
  have hM := toNat_unpackMantissa b
  have hElt : (@unpackExponent Format.binary64 b).toNat < 2 ^ 11 := BitVec.isLt _
  have hMlt : (@unpackMantissa Format.binary64 b).toNat < 2 ^ 52 := BitVec.isLt _
  have hinf : @unpackExponent Format.binary64 b ≠ -1#_ := fun h' => by
    have := congrArg BitVec.toNat h'
    simp only [BitVec.neg_one_eq_allOnes, BitVec.toNat_allOnes] at this
    exact h (by omega)
  rw [UnpackedFloat.unpack]
  simp only [hinf, if_false]
  split
  case isTrue hE0 =>
    split
    case isTrue hM0 =>
      -- a zero
      exact packComponents_eq_self hE0 hM0
    case isFalse hM0 =>
      -- a subnormal: its significand is below `2^52`, so it is packed with exponent field zero
      have hE0' : (@unpackExponent Format.binary64 b).toNat = 0 := by rw [hE0]; rfl
      have hpos : (@unpackMantissa Format.binary64 b).toNat ≠ 0 :=
        fun h0 => hM0 (BitVec.eq_of_toNat_eq h0)
      have hlog : ¬ (@unpackMantissa Format.binary64 b).toNat.log2 + 1 = 53 := by
        have := (Nat.log2_lt hpos).2 hMlt
        omega
      rw [UnpackedFloat.pack, if_neg (by simp only [hE0', exponentBias_binary64]; decide),
        mantissaBits_binary64, if_neg hlog]
      exact packComponents_eq_self hE0 (BitVec.eq_of_toNat_eq (by simp))
  case isFalse hE0 =>
    -- a normal double: the implicit bit makes its significand `2^52` and more
    have hE0' : (@unpackExponent Format.binary64 b).toNat ≠ 0 :=
      fun h0 => hE0 (BitVec.eq_of_toNat_eq h0)
    have hsig : (1#1 ++ @unpackMantissa Format.binary64 b).toNat =
        2 ^ 52 + (@unpackMantissa Format.binary64 b).toNat := by
      simp only [BitVec.toNat_append]
      rw [← Nat.shiftLeft_add_eq_or_of_lt hMlt]
      simp [Nat.shiftLeft_eq]
    have hlog : (1#1 ++ @unpackMantissa Format.binary64 b).toNat.log2 + 1 = 53 := by
      rw [hsig, (Nat.log2_eq_iff (k := 52) (by omega)).2 ⟨by omega, by omega⟩]
    rw [UnpackedFloat.pack,
      if_neg (by simp only [exponentBias_binary64]; omega),
      if_pos (hlog.trans mantissaBits_binary64.symm)]
    refine packComponents_eq_self (BitVec.eq_of_toNat_eq ?_) (BitVec.eq_of_toNat_eq ?_)
    · simp only [BitVec.toNat_ofNat, exponentBias_binary64]
      omega
    · rw [BitVec.toNat_ofNat, hsig]
      change _ = _ % 2 ^ 52
      omega

/-- Reading a word that is no infinity and no NaN as a double, and the double back as a word,
gives the word. -/
theorem toBits_ofBits (u : UInt64) (h : u.toNat / 2 ^ 52 % 2 ^ 11 ≠ 2047) :
    (Float.ofBits u).toBits = u := by
  apply UInt64.toBitVec_inj.1
  exact pack_unpack u.toBitVec h

/-- A double is finite exactly when its exponent field is not all ones. -/
theorem isFinite_iff (x : Float) : isFinite x = true ↔ x.toBits.toNat / 2 ^ 52 % 2 ^ 11 ≠ 2047 := by
  unfold isFinite decode
  simp only [Nat.pow_eq]
  by_cases h : x.toBits.toNat / 2 ^ 52 % 2 ^ 11 = 2047
  · simp only [h, beq_self_eq_true, if_true, ne_eq, not_true_eq_false, iff_false]
    by_cases hf : (x.toBits.toNat % 2 ^ 52 == 0) = true
    · rw [if_pos hf]
      simp
    · rw [if_neg hf]
      simp
  · simp only [h, ne_eq, not_false_eq_true, iff_true, beq_iff_eq, if_false]
    by_cases hz : x.toBits.toNat / 2 ^ 52 % 2 ^ 11 = 0
    · rw [if_pos hz]
    · rw [if_neg hz]

theorem isFinite_ofBits {u : UInt64} (h : u.toNat / 2 ^ 52 % 2 ^ 11 ≠ 2047) :
    isFinite (Float.ofBits u) = true := by
  rw [isFinite_iff, toBits_ofBits u h]
  exact h

/-- The double assembled from a significand below `2^53` and an exponent up to `971` is finite. -/
theorem isFinite_assemble (neg : Bool) {mant : Nat} {exp : Int} (he : exp ≤ 971) (hm : mant < 2 ^ 53) :
    isFinite (assemble neg mant exp) = true := by
  unfold assemble
  rw [if_neg (by omega)]
  have hsign : (if neg then 2 ^ 63 else 0) ≤ 2 ^ 63 := by split <;> omega
  split
  · apply isFinite_ofBits
    rw [UInt64.toNat_ofNat']
    cases neg <;> simp <;> omega
  · apply isFinite_ofBits
    rw [UInt64.toNat_ofNat']
    cases neg <;> simp <;> omega

/-! ## Integers as doubles -/

theorem roundHalfEven_le (n d : Nat) : roundHalfEven n d ≤ n / d + 1 := by
  unfold roundHalfEven
  dsimp only
  split <;> omega

/-- At the scale that puts the leading bit of `num` at `2^52`, the quotient lies in
`[2^52, 2^53)`. -/
theorem shiftFrac_bounds {num : Nat} (h0 : num ≠ 0) :
    let (n, d) := shiftFrac num 1 (52 - num.log2)
    2 ^ 52 * d ≤ n ∧ n < 2 ^ 53 * d ∧ 0 < d := by
  have hlo := Nat.log2_self_le h0
  have hhi := Nat.lt_log2_self (n := num)
  unfold shiftFrac
  simp only [Nat.pow_eq]
  by_cases hL : num.log2 ≤ 52
  case pos =>
    rw [if_pos (by omega)]
    have hk : (52 - (num.log2 : Int)).toNat = 52 - num.log2 := by omega
    have hl := Nat.mul_le_mul_right (2 ^ (52 - num.log2)) hlo
    have hr := Nat.mul_lt_mul_of_pos_right hhi (Nat.two_pow_pos (52 - num.log2))
    rw [← Nat.pow_add, Nat.add_sub_cancel' hL] at hl
    rw [← Nat.pow_add, show num.log2 + 1 + (52 - num.log2) = 53 by omega] at hr
    simp only [hk]
    omega
  case neg =>
    rw [if_neg (by omega)]
    have hk : (-(52 - (num.log2 : Int))).toNat = num.log2 - 52 := by omega
    have hsplit : 2 ^ num.log2 = 2 ^ 52 * 2 ^ (num.log2 - 52) := by
      rw [← Nat.pow_add, Nat.add_sub_cancel' (by omega)]
    have hsplit' : 2 ^ (num.log2 + 1) = 2 ^ 53 * 2 ^ (num.log2 - 52) := by
      rw [← Nat.pow_add]
      congr 1
      omega
    simp only [hk, Nat.one_mul]
    refine ⟨by omega, by omega, Nat.two_pow_pos _⟩

/-- An integer's scale is the one that puts its leading bit at `2^52`. -/
theorem scaleFor_natCast {num : Nat} (h0 : num ≠ 0) (h : num.log2 ≤ 1022) :
    scaleFor num 1 = 52 - num.log2 := by
  have hb := shiftFrac_bounds h0
  have hone : Nat.log2 1 = 0 := Nat.log2_two_pow (n := 0)
  unfold scaleFor
  simp only [hone, Int.natCast_zero, Int.add_zero, Nat.pow_eq]
  rcases hs : shiftFrac num 1 (52 - num.log2) with ⟨n, d⟩
  rw [hs] at hb
  obtain ⟨hlo, -, hd⟩ := hb
  have : ¬ n / d < 2 ^ 52 := by
    rw [Nat.not_lt, Nat.le_div_iff_mul_le hd]
    omega
  simp only [this, if_false]
  omega

theorem isFinite_ofFrac_natCast (neg : Bool) {num : Nat} (h : num.log2 ≤ 1022) :
    isFinite (ofFrac neg num 1) = true := by
  unfold ofFrac
  simp only [Nat.pow_eq]
  by_cases h0 : num = 0
  case pos =>
    simp only [h0, beq_self_eq_true, Bool.true_or, if_true]
    exact isFinite_assemble neg (by omega) (by omega)
  case neg =>
    have hb := shiftFrac_bounds h0
    simp only [show (num == 0) = false from beq_eq_false_iff_ne.2 h0, Bool.false_or,
      show ((1 : Nat) == 0) = false from rfl, Bool.false_eq_true, if_false, scaleFor_natCast h0 h]
    rcases hs : shiftFrac num 1 (52 - num.log2) with ⟨n, d⟩
    rw [hs] at hb
    obtain ⟨-, hhi, hd⟩ := hb
    -- the rounded significand is at most `2^53`, which is carried into the exponent
    have hq : n / d < 2 ^ 53 := (Nat.div_lt_iff_lt_mul hd).2 hhi
    have hm := roundHalfEven_le n d
    dsimp only
    split
    · exact isFinite_assemble neg (by omega) (by omega)
    · rename_i hne
      have hne' : roundHalfEven n d ≠ 2 ^ 53 := fun h' => hne (by rw [h']; rfl)
      exact isFinite_assemble neg (by omega) (by omega)

/-- An integer below `2^k` in magnitude, for `k` up to `1023`, rounds to a finite double. -/
theorem isFinite_ofRat_intCast (n : Int) {k : Nat} (hk : k ≤ 1023) (h : n.natAbs < 2 ^ k) :
    isFinite (ofRat n) = true := by
  unfold ofRat
  rw [Rat.num_intCast, Rat.den_intCast]
  apply isFinite_ofFrac_natCast
  by_cases h0 : n.natAbs = 0
  · simp [h0]
  · have := (Nat.log2_lt h0).2 h
    omega

/-! ## Equal to zero -/

theorem unpack_zero : (0 : Float).toModel.unpack = .zero .positive := by rfl

/-- Only a zero compares equal to a zero. -/
theorem eq_zero_of_beq_zero {u : UnpackedFloat} {s : Sign} (h : u.beq (.zero s) = true) :
    ∃ s', u = .zero s' := by
  cases u with
  | zero s' => exact ⟨s', rfl⟩
  | infinity s' => cases s' <;> simp [UnpackedFloat.beq, UnpackedFloat.compare] at h
  | notANumber => simp [UnpackedFloat.beq, UnpackedFloat.compare] at h
  | finite s' m e hm => cases s' <;> simp [UnpackedFloat.beq, UnpackedFloat.compare] at h

/-- The words that unpack as a zero have exponent field and significand zero. -/
theorem fields_of_unpack_zero {b : BitVec 64} {s : Sign}
    (h : UnpackedFloat.unpack Format.binary64 b = .zero s) :
    b.toNat / 2 ^ 52 % 2 ^ 11 = 0 ∧ b.toNat % 2 ^ 52 = 0 := by
  rw [← toNat_unpackExponent, ← toNat_unpackMantissa]
  unfold UnpackedFloat.unpack at h
  dsimp only at h
  split at h
  · split at h <;> cases h
  · split at h
    case isTrue hE =>
      split at h
      case isTrue hM => simp [hE, hM]
      case isFalse => cases h
    case isFalse => cases h

/-- A double equal to zero stands for the rational zero. -/
theorem ofFloat?_of_beq_zero {x : Float} (h : (x == 0) = true) :
    Extended.ofFloat? x = some (.finite 0) := by
  have hu : x.toModel.unpack.beq (.zero .positive) = true := by
    rw [← unpack_zero]
    exact h
  obtain ⟨s, hs⟩ := eq_zero_of_beq_zero hu
  obtain ⟨hE, hM⟩ := fields_of_unpack_zero hs
  have hE' : x.toBits.toNat / 2 ^ 52 % 2 ^ 11 = 0 := hE
  have hM' : x.toBits.toNat % 2 ^ 52 = 0 := hM
  unfold Extended.ofFloat? decode
  have hzero : ((0 : Nat) : Rat) = 0 := rfl
  simp only [Nat.pow_eq, hE', hM', beq_self_eq_true, if_true, Nat.reduceBEq, Bool.false_eq_true, if_false,
    hzero, Rat.zero_mul, Rat.neg_zero, ite_self]

/-! ## Doubles of equal value -/

theorem sign_term (B : Nat) :
    (if (B / 2 ^ 63 % 2 == 1) = true then 2 ^ 63 else 0) = B / 2 ^ 63 % 2 * 2 ^ 63 := by
  rcases Nat.mod_two_eq_zero_or_one (B / 2 ^ 63) with h | h <;> rw [h] <;> rfl

/-- A finite double's word, put back together from its decoded sign, significand and exponent. -/
theorem toNat_toBits_of_decode {x : Float} {neg : Bool} {m : Nat} {e : Int}
    (h : decode x = .finite neg m e) :
    x.toBits.toNat = (if neg then 2 ^ 63 else 0) +
      (if m < 2 ^ 52 then 0 else (e + 1075).toNat) * 2 ^ 52 + m % 2 ^ 52 := by
  have hw := word_split x.toBits.toNat_lt
  unfold decode at h
  simp only [Nat.pow_eq] at h
  generalize x.toBits.toNat = B at h hw ⊢
  have hM : B % 2 ^ 52 < 2 ^ 52 := Nat.mod_lt _ (by decide)
  split at h
  · split at h <;> cases h
  · split at h
    case isTrue hz =>
      -- a zero or a subnormal: exponent field zero, the significand is the fraction field
      simp only [Binary64.finite.injEq] at h
      obtain ⟨rfl, rfl, rfl⟩ := h
      simp only [beq_iff_eq] at hz
      rw [sign_term, if_pos hM, Nat.mod_mod, ← hz]
      exact hw
    case isFalse hz =>
      -- a normal double: the implicit bit is dropped again
      simp only [Binary64.finite.injEq] at h
      obtain ⟨rfl, rfl, rfl⟩ := h
      have hge : ¬ B % 2 ^ 52 + 2 ^ 52 < 2 ^ 52 := Nat.not_lt.2 (Nat.le_add_left _ _)
      have hfield : ((B / 2 ^ 52 % 2 ^ 11 : Nat) - 1075 + 1075 : Int).toNat = B / 2 ^ 52 % 2 ^ 11 := by
        rw [Int.sub_add_cancel, Int.toNat_natCast]
      rw [sign_term, if_neg hge, hfield, Nat.add_mod_right, Nat.mod_mod]
      exact hw

theorem eq_of_decode_eq {x y : Float} {neg : Bool} {m : Nat} {e : Int}
    (hx : decode x = .finite neg m e) (hy : decode y = .finite neg m e) : x = y := by
  apply Float.toBits_inj.1
  apply UInt64.toNat_inj.1
  rw [toNat_toBits_of_decode hx, toNat_toBits_of_decode hy]

/-- A decoded significand and exponent are in canonical form: the significand below `2^53`, the
exponent at least `-1074`, and exactly `-1074` for a significand below `2^52`. -/
theorem decode_canonical {x : Float} {neg : Bool} {m : Nat} {e : Int} (h : decode x = .finite neg m e) :
    m < 2 ^ 53 ∧ -1074 ≤ e ∧ (m < 2 ^ 52 → e = -1074) := by
  unfold decode at h
  simp only [Nat.pow_eq] at h
  have hM : x.toBits.toNat % 2 ^ 52 < 2 ^ 52 := Nat.mod_lt _ (by decide)
  split at h
  · split at h <;> cases h
  · split at h
    case isTrue hz =>
      simp only [Binary64.finite.injEq] at h
      obtain ⟨-, rfl, rfl⟩ := h
      omega
    case isFalse hz =>
      simp only [Binary64.finite.injEq] at h
      obtain ⟨-, rfl, rfl⟩ := h
      simp only [beq_iff_eq] at hz
      omega

/-- Two canonical significand–exponent pairs of the same positive value are the same pair. -/
theorem canonical_unique {m₁ m₂ : Nat} {e₁ e₂ : Int}
    (h₁ : m₁ < 2 ^ 53 ∧ -1074 ≤ e₁ ∧ (m₁ < 2 ^ 52 → e₁ = -1074))
    (h₂ : m₂ < 2 ^ 53 ∧ -1074 ≤ e₂ ∧ (m₂ < 2 ^ 52 → e₂ = -1074)) (hpos : 0 < m₁)
    (h : (m₁ : ℚ) * 2 ^ e₁ = m₂ * 2 ^ e₂) : m₁ = m₂ ∧ e₁ = e₂ := by
  -- the pair with the smaller exponent has the other's significand times a power of two,
  -- which only a significand below `2^52`, hence of exponent `-1074`, leaves room for
  have shift : ∀ {a b : Nat} {i j : Int}, i < j → (a : ℚ) * 2 ^ i = b * 2 ^ j →
      a = b * 2 ^ (j - i).toNat := by
    intro a b i j hij hab
    have h2 : (2 : ℚ) ^ j = 2 ^ ((j - i).toNat : Int) * 2 ^ i := by
      rw [← zpow_add₀ (by norm_num), Int.toNat_of_nonneg (by omega), Int.sub_add_cancel]
    rw [h2, zpow_natCast, ← mul_assoc] at hab
    exact_mod_cast mul_right_cancel₀ (zpow_ne_zero i (by norm_num)) hab
  rcases lt_trichotomy e₁ e₂ with hlt | heq | hgt
  · have hm := shift hlt h
    have hk : 2 ≤ 2 ^ (e₂ - e₁).toNat := Nat.le_self_pow (by omega) 2
    have : m₂ < 2 ^ 52 := by
      rcases Nat.eq_zero_or_pos m₂ with h0 | h0
      · omega
      · nlinarith
    omega
  · subst heq
    exact ⟨by exact_mod_cast mul_right_cancel₀ (zpow_ne_zero e₁ (by norm_num)) h, rfl⟩
  · have hm := shift hgt h.symm
    have hk : 2 ≤ 2 ^ (e₁ - e₂).toNat := Nat.le_self_pow (by omega) 2
    have : m₁ < 2 ^ 52 := by nlinarith
    omega

/-- A double of finite value decodes to a significand and exponent of that value. -/
theorem decode_of_ofFloat? {x : Float} {v : ℚ} (h : Extended.ofFloat? x = some (.finite v)) :
    ∃ neg m e, decode x = .finite neg m e ∧ v = if neg then -((m : ℚ) * 2 ^ e) else (m : ℚ) * 2 ^ e := by
  unfold Extended.ofFloat? at h
  split at h
  · cases h
  · split at h <;> cases h
  · rename_i neg m e hd
    simp only [Option.some.injEq, Extended.finite.injEq] at h
    exact ⟨neg, m, e, hd, h.symm⟩

/-- Two doubles of the same value other than zero are the same double. -/
theorem eq_of_ofFloat?_eq {x y : Float} {v : ℚ} (hx : Extended.ofFloat? x = some (.finite v))
    (hy : Extended.ofFloat? y = some (.finite v)) (hv : v ≠ 0) : x = y := by
  obtain ⟨nx, mx, ex, hdx, rfl⟩ := decode_of_ofFloat? hx
  obtain ⟨ny, my, ey, hdy, hval⟩ := decode_of_ofFloat? hy
  have hpx : (0 : ℚ) ≤ mx * 2 ^ ex := by positivity
  have hpy : (0 : ℚ) ≤ my * 2 ^ ey := by positivity
  have hmx : 0 < mx := by
    rcases Nat.eq_zero_or_pos mx with h0 | h0
    · subst h0; simp at hv
    · exact h0
  -- a value other than zero fixes the sign, and then the canonical pair
  have hsign : nx = ny := by
    cases nx <;> cases ny <;> simp only [Bool.false_eq_true, if_false, if_true] at hval hv ⊢ <;>
      first | rfl | (exfalso; apply hv; linarith)
  subst hsign
  have hmag : (mx : ℚ) * 2 ^ ex = my * 2 ^ ey := by
    cases nx <;> simp only [Bool.false_eq_true, if_false, if_true, neg_inj] at hval <;> exact hval
  obtain ⟨rfl, rfl⟩ := canonical_unique (decode_canonical hdx) (decode_canonical hdy) hmx hmag
  exact eq_of_decode_eq hdx hdy

end Binary64

namespace Number

/-- An integer below `2^k` in magnitude, for `k` up to `1023`, converts to the double nearest
it, which is finite. -/
theorem intToFloat_ok {n : Int} {k : Nat} (hk : k ≤ 1023) (h : n.natAbs < 2 ^ k) :
    intToFloat n = .ok (Binary64.ofRat n) ∧ Binary64.isFinite (Binary64.ofRat n) = true := by
  have hfin := Binary64.isFinite_ofRat_intCast n hk h
  exact ⟨by simp [intToFloat, hfin], hfin⟩

/-- A finite double has a floor. -/
theorem floor_float_ok {x : Float} (h : Binary64.isFinite x = true) : ∃ k, floor (.float x) = .ok k := by
  unfold Binary64.isFinite at h
  unfold floor Extended.ofFloat?
  split at h
  case h_1 neg m e hd =>
    dsimp only
    rw [hd]
    exact ⟨_, rfl⟩
  case h_2 => cases h

/-- A double equal to zero is at most the integer zero. -/
theorem le_zero_of_beq_zero {x : Float} (h : (x == 0) = true) : (Number.float x).le (.int 0) = true := by
  simp [le, compare?, extended?, Binary64.ofFloat?_of_beq_zero h, Extended.compare]

end Number

end TransitRevenue
