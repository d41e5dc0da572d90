import Mathlib
import TransitRevenue.Proofs.Binary64
import TransitRevenue.Proofs.Binary64.Unpacked
/-!
The arithmetic of doubles, read on their values.

A finite double unpacks to a canonical significand and exponent of its value (`denotes_unpack`),
and a canonical significand and exponent packs to a double of its value, or to the infinity of
its sign from `2^1024` on (`ofFloat?_pack`). In between, the model's sum, difference, product and
quotient are the roundings of the exact results (`add_denotes`, `sub_denotes`, `mul_denotes`,
`div_denotes`). Read through `Extended.ofFloat?`, `x + y` for finite `x` and `y` of values `a` and
`b` is therefore `packed (roundNearest (a + b))` (`ofFloat?_add`), and so on for `-`, `*` and `/`.
-/

namespace TransitRevenue

namespace Binary64

open Float.Model UnpackedFloat

/-- Where a rounded value lies once packed: at itself below `2^1024` in magnitude, else at the
infinity of its sign. -/
def packed (a : ℚ) : Extended :=
  if |a| < 2 ^ 1024 then .finite a else if 0 < a then .posInf else .negInf

theorem packed_of_lt {a : ℚ} (h : |a| < 2 ^ 1024) : packed a = .finite a := if_pos h

/-! ## Words and values -/

/-- The sign read from a word's top bit. -/
theorem ofBitVec_eq_negative {v : BitVec 1} : Sign.ofBitVec v = .negative ↔ v.toNat = 1 := by
  have hv := v.isLt
  unfold Sign.ofBitVec
  constructor
  · intro h
    split at h
    · cases h
    · rename_i hne
      have : v.toNat ≠ 0 := fun h0 => hne (BitVec.eq_of_toNat_eq h0)
      omega
  · intro h
    rw [if_neg (fun h0 => by rw [h0] at h; cases h)]

/-- A finite double unpacks to a canonical significand and exponent of its value. -/
theorem denotes_unpack {x : Float} {a : ℚ} (h : Extended.ofFloat? x = some (.finite a)) :
    Denotes a x.toModel.unpack := by
  obtain ⟨neg, m, e, hd, rfl⟩ := decode_of_ofFloat? h
  have hcan := decode_canonical hd
  set b := x.toModel.toBits.toBitVec with hb
  have hB : b.toNat = x.toBits.toNat := rfl
  have hE := toNat_unpackExponent b
  have hM := toNat_unpackMantissa b
  have hS := toNat_unpackSign b
  rw [hB] at hE hM hS
  -- the sign bit is `neg`
  have hsign : ∀ q : ℚ, signed (Sign.ofBitVec (@unpackSign Format.binary64 b)) q =
      if neg then -q else q := by
    intro q
    unfold decode at hd
    simp only [Nat.pow_eq] at hd
    have hneg : neg = (x.toBits.toNat / 2 ^ 63 % 2 == 1) := by
      split at hd
      · split at hd <;> cases hd
      · split at hd <;> (simp only [Binary64.finite.injEq] at hd; exact hd.1.symm)
    rw [hneg]
    cases hs : Sign.ofBitVec (@unpackSign Format.binary64 b)
    case negative =>
      have h1 : (x.toBits.toNat / 2 ^ 63 % 2 == 1) = true := by
        rw [← hS, ofBitVec_eq_negative.1 hs]; rfl
      rw [h1]; rfl
    case positive =>
      have h1 : (x.toBits.toNat / 2 ^ 63 % 2 == 1) = false := by
        rw [beq_eq_false_iff_ne]
        intro h1
        rw [ofBitVec_eq_negative.2 (hS.trans h1)] at hs
        cases hs
      rw [h1]; rfl
  unfold decode at hd
  simp only [Nat.pow_eq] at hd
  unfold Float.Model.unpack UnpackedFloat.unpack
  dsimp only
  rw [← hb]
  split at hd
  case isTrue h2047 => split at hd <;> cases hd
  case isFalse h2047 =>
    have hinf : @unpackExponent Format.binary64 b ≠ -1#_ := fun h' => by
      have := congrArg BitVec.toNat h'
      simp only [BitVec.neg_one_eq_allOnes, BitVec.toNat_allOnes] at this
      simp only [beq_iff_eq] at h2047
      exact h2047 (by omega)
    rw [if_neg hinf]
    split at hd
    case isTrue hz =>
      -- exponent field zero: a zero or a subnormal
      simp only [Binary64.finite.injEq] at hd
      obtain ⟨-, rfl, rfl⟩ := hd
      simp only [beq_iff_eq] at hz
      have hE0 : @unpackExponent Format.binary64 b = 0#_ := BitVec.eq_of_toNat_eq (by simp [hE, hz])
      rw [if_pos hE0]
      by_cases hM0 : @unpackMantissa Format.binary64 b = 0#52
      case pos =>
        have : x.toBits.toNat % 2 ^ 52 = 0 := by rw [← hM, hM0]; rfl
        rw [dif_pos hM0, this]
        simp only [Denotes, Nat.cast_zero, zero_mul, neg_zero, ite_self]
      case neg =>
        rw [dif_neg hM0]
        have hE' : (@unpackExponent Format.binary64 b).toNat = 0 := hE.trans hz
        refine ⟨?_, ?_⟩
        · rw [hsign, hM, hE', exponentBias_binary64]
          norm_num
        · rw [hM, hE', exponentBias_binary64]
          exact ⟨hcan.1, by norm_num, fun _ => by norm_num⟩
    case isFalse hz =>
      -- a normal double: the implicit bit on top of the fraction field
      simp only [Binary64.finite.injEq] at hd
      obtain ⟨-, rfl, rfl⟩ := hd
      simp only [beq_iff_eq] at hz
      have hE0 : @unpackExponent Format.binary64 b ≠ 0#_ := fun h' => hz (by
        have := congrArg BitVec.toNat h'
        rw [hE] at this
        simpa using this)
      rw [if_neg hE0]
      have hMlt : (@unpackMantissa Format.binary64 b).toNat < 2 ^ 52 := BitVec.isLt _
      have hsig : (1#1 ++ @unpackMantissa Format.binary64 b).toNat =
          2 ^ 52 + (@unpackMantissa Format.binary64 b).toNat := by
        simp only [BitVec.toNat_append]
        rw [← Nat.shiftLeft_add_eq_or_of_lt hMlt]
        simp [Nat.shiftLeft_eq]
      have hexp : ((@unpackExponent Format.binary64 b).toNat : Int) -
          ((Format.binary64.exponentBias : Int) + (52 : Nat)) = (x.toBits.toNat / 2 ^ 52 % 2 ^ 11 : Nat) - 1075 := by
        rw [hE, exponentBias_binary64]
        norm_num
      refine ⟨?_, ?_⟩
      · rw [hsign, hsig, hM, hexp, Nat.add_comm]
      · rw [hsig, hM, hexp, Nat.add_comm]
        exact ⟨hcan.1, hcan.2.1, hcan.2.2⟩

theorem signed_of_bit (s : Sign) (q : ℚ) :
    (if (s.toBitVec.toNat == 1) = true then -q else q) = signed s q := by
  cases s <;> rfl

theorem abs_signed (s : Sign) (q : ℚ) : |signed s q| = |q| := by
  cases s <;> simp [signed]

/-- A word read off its sign bit, exponent field and fraction field. -/
theorem decode_of_fields {y : Float} {b E M : Nat}
    (hw : y.toBits.toNat = b * 2 ^ 63 + E * 2 ^ 52 + M) (hb : b < 2) (hE : E < 2 ^ 11) (hM : M < 2 ^ 52) :
    decode y = if E = 2047 then (if M = 0 then .infinite (b == 1) else .nan)
      else if E = 0 then .finite (b == 1) M (-1074)
      else .finite (b == 1) (M + 2 ^ 52) (E - 1075) := by
  have h63 : y.toBits.toNat / 2 ^ 63 % 2 = b := by omega
  have h52 : y.toBits.toNat / 2 ^ 52 % 2 ^ 11 = E := by omega
  have hfrac : y.toBits.toNat % 2 ^ 52 = M := by omega
  simp only [decode, Nat.pow_eq, h63, h52, hfrac, beq_iff_eq]

theorem ofFloat?_of_decode {y : Float} {neg : Bool} {m : Nat} {e : Int} (h : decode y = .finite neg m e) :
    Extended.ofFloat? y = some (.finite (if neg then -((m : ℚ) * 2 ^ e) else m * 2 ^ e)) := by
  simp [Extended.ofFloat?, h]

theorem toNat_toBits_pack (u : UnpackedFloat) :
    (Float.ofModel (Float.Model.pack u)).toBits.toNat = (UnpackedFloat.pack Format.binary64 u).toNat := rfl

/-- The largest finite magnitudes: a significand below `2^53` at an exponent up to `971`. -/
theorem abs_lt_of_exponent_le {m : Nat} {e : Int} (hm : m < 2 ^ 53) (he : e ≤ 971) :
    (m : ℚ) * 2 ^ e < 2 ^ 1024 := by
  have hm' : (m : ℚ) < 2 ^ 53 := by exact_mod_cast hm
  calc (m : ℚ) * 2 ^ e < 2 ^ 53 * 2 ^ e := mul_lt_mul_of_pos_right hm' (zpow_pos (by norm_num) e)
    _ ≤ 2 ^ 53 * 2 ^ (971 : ℤ) :=
        mul_le_mul_of_nonneg_left (zpow_le_zpow_right₀ (by norm_num) he) (by norm_num)
    _ = 2 ^ 1024 := by rw [zpow_ofNat, ← pow_add]

/-- A canonical significand and exponent, or a zero, packs to the double of its value, or to the
infinity of its sign once the value reaches `2^1024` in magnitude. -/
theorem ofFloat?_pack {u : UnpackedFloat} {a : ℚ} (h : Denotes a u) :
    Extended.ofFloat? (Float.ofModel (Float.Model.pack u)) = some (packed a) := by
  cases u with
  | notANumber => exact h.elim
  | infinity s => exact h.elim
  | zero s =>
    have hd := decode_of_fields (y := Float.ofModel (Float.Model.pack (.zero s))) (E := 0) (M := 0)
      (by rw [toNat_toBits_pack]; exact toNat_packComponents _ _ _) s.toBitVec.isLt (by norm_num) (by norm_num)
    rw [ofFloat?_of_decode hd, h, packed_of_lt (by norm_num)]
    simp
  | finite s m e hm =>
    obtain ⟨hval, hcan⟩ := h
    have habs : |a| = (m : ℚ) * 2 ^ e := by rw [← hval, abs_signed, abs_of_nonneg (by positivity)]
    have hpack := toNat_toBits_pack (.finite s m e hm)
    unfold UnpackedFloat.pack at hpack
    dsimp only at hpack
    split at hpack
    case isTrue hover =>
      change 2 ^ 11 ≤ (e + 1023 + 52).toNat + 1 at hover
      -- the exponent field would reach all ones: an infinity
      have he : 972 ≤ e := by omega
      have hm52 : 2 ^ 52 ≤ m := Nat.not_lt.1 fun hlt => by have := hcan.subnormal hlt; omega
      have hw : (Float.ofModel (Float.Model.pack (.finite s m e hm))).toBits.toNat =
          s.toBitVec.toNat * 2 ^ 63 + 2047 * 2 ^ 52 + 0 := by
        rw [hpack, packedInfinity, toNat_packComponents]
        rfl
      have hd := decode_of_fields hw s.toBitVec.isLt (by norm_num) (by norm_num)
      rw [if_pos rfl, if_pos rfl] at hd
      have hbig : ¬ |a| < 2 ^ 1024 := by
        rw [habs, not_lt]
        calc (2 : ℚ) ^ 1024 = 2 ^ 52 * 2 ^ (972 : ℤ) := by rw [zpow_ofNat, ← pow_add]
          _ ≤ (m : ℚ) * 2 ^ e := by
            gcongr
            · exact_mod_cast hm52
            · norm_num
      have hpos : (0 : ℚ) < m * 2 ^ e := by positivity
      simp only [Extended.ofFloat?, hd, packed, if_neg hbig]
      cases s
      case positive =>
        have ha : 0 < a := by rw [← hval]; exact hpos
        rw [if_pos ha]
        rfl
      case negative =>
        have ha : ¬ 0 < a := by rw [← hval, signed, not_lt]; exact neg_nonpos.2 hpos.le
        rw [if_neg ha]
        rfl
    case isFalse hover =>
      change ¬ 2 ^ 11 ≤ (e + 1023 + 52).toNat + 1 at hover
      have he : e ≤ 971 := by omega
      rw [packed_of_lt (by rw [habs]; exact abs_lt_of_exponent_le hcan.lt he)]
      split at hpack
      case isTrue hnormal =>
        change m.log2 + 1 = 53 at hnormal
        change _ = (packComponents Format.binary64 s (BitVec.ofNat 11 (e + 1023 + 52).toNat)
          (BitVec.ofNat 52 m)).toNat at hpack
        -- a normal double: the exponent field holds `e + 1075`, the implicit bit is dropped
        have hm52 : 2 ^ 52 ≤ m := (Nat.le_log2 hm.ne').1 (by omega)
        rw [toNat_packComponents, BitVec.toNat_ofNat, BitVec.toNat_ofNat] at hpack
        have hd := decode_of_fields hpack s.toBitVec.isLt (Nat.mod_lt _ (by norm_num)) (Nat.mod_lt _ (by norm_num))
        have hE : (e + 1023 + 52).toNat % 2 ^ 11 ≠ 2047 := by omega
        have hE0 : (e + 1023 + 52).toNat % 2 ^ 11 ≠ 0 := by have := hcan.le; omega
        rw [if_neg hE, if_neg hE0] at hd
        have hM : m % 2 ^ 52 + 2 ^ 52 = m := by have := hcan.lt; omega
        have hexp : (((e + 1023 + 52).toNat % 2 ^ 11 : Nat) : Int) - 1075 = e := by
          have := hcan.le; omega
        rw [hM, hexp] at hd
        rw [ofFloat?_of_decode hd, signed_of_bit, hval]
      case isFalse hnormal =>
        change ¬ m.log2 + 1 = 53 at hnormal
        change _ = (packComponents Format.binary64 s 0#11 (BitVec.ofNat 52 m)).toNat at hpack
        -- a subnormal: exponent field zero, the significand below `2^52`
        have hm52 : m < 2 ^ 52 := by
          have hlt := (Nat.log2_lt hm.ne').2 hcan.lt
          by_contra hge
          have := (Nat.le_log2 hm.ne').2 (Nat.not_lt.1 hge)
          omega
        rw [toNat_packComponents, BitVec.toNat_ofNat, BitVec.toNat_ofNat, Nat.mod_eq_of_lt hm52] at hpack
        have hd := decode_of_fields (E := 0) hpack s.toBitVec.isLt (by norm_num) hm52
        rw [if_neg (by norm_num), if_pos rfl, ← hcan.subnormal hm52] at hd
        rw [ofFloat?_of_decode hd, signed_of_bit, hval]

/-! ## Values through the operations -/

theorem representable_of_denotes {a : ℚ} {u : UnpackedFloat} (h : Denotes a u) : Representable a := by
  cases u with
  | zero s => rw [h]; exact representable_zero
  | finite s m e hm =>
    obtain ⟨rfl, hcan⟩ := h
    have hrep : Representable ((m : ℤ) * 2 ^ e) :=
      representable_of_abs_le (by rw [abs_of_nonneg (by positivity)]; exact_mod_cast hcan.lt.le) hcan.le
    push_cast at hrep
    cases s
    case negative => exact hrep.neg
    case positive => exact hrep
  | infinity s => exact h.elim
  | notANumber => exact h.elim

theorem roundNearest_of_denotes {a : ℚ} {u : UnpackedFloat} (h : Denotes a u) : roundNearest a = a :=
  roundNearest_of_representable (representable_of_denotes h)

theorem signed_neg (s : Sign) (q : ℚ) : signed (-s) q = -signed s q := by
  cases s
  case negative => exact (neg_neg q).symm
  case positive => rfl

theorem signed_mul (s₁ s₂ : Sign) (q₁ q₂ : ℚ) : signed (s₁ * s₂) (q₁ * q₂) = signed s₁ q₁ * signed s₂ q₂ := by
  cases s₁ <;> cases s₂
  case negative.negative => show q₁ * q₂ = -q₁ * -q₂; ring
  case negative.positive => show -(q₁ * q₂) = -q₁ * q₂; ring
  case positive.negative => show -(q₁ * q₂) = q₁ * -q₂; ring
  case positive.positive => rfl

theorem apply_cast (s : Sign) (n : Nat) (q : ℚ) : ((s.apply n : ℤ) : ℚ) * q = signed s (n * q) := by
  cases s <;> simp [Sign.apply, signed]

/-- Widening a significand down to a smaller exponent keeps its value. -/
theorem value_decreaseExponent (s : Sign) (m : Nat) {e t : Int} (h : t ≤ e) :
    ((s.apply (decreaseExponent m e t).1 : ℤ) : ℚ) * 2 ^ t = signed s (m * 2 ^ e) := by
  rw [apply_cast]
  congr 1
  simp only [decreaseExponent, Nat.shiftLeft_eq]
  push_cast
  rw [mul_assoc, ← zpow_natCast, ← zpow_add₀ (by norm_num), Int.toNat_of_nonneg (by omega),
    sub_add_cancel]

/-- The model's sum is the rounding of the exact sum. -/
theorem add_denotes {a b : ℚ} {u v : UnpackedFloat} (hu : Denotes a u) (hv : Denotes b v) :
    Denotes (roundNearest (a + b)) (UnpackedFloat.add Format.binary64 u v) := by
  cases u with
  | notANumber => exact hu.elim
  | infinity s₁ => exact hu.elim
  | zero s₁ =>
    rw [show a = 0 from hu, zero_add, roundNearest_of_denotes hv]
    cases v with
    | zero s₂ =>
      rw [show b = 0 from hv]
      show Denotes 0 (if s₁ == s₂ then .zero s₁ else .zero .positive)
      split <;> rfl
    | finite s₂ m₂ e₂ h₂ => exact hv
    | infinity s₂ => exact hv.elim
    | notANumber => exact hv.elim
  | finite s₁ m₁ e₁ h₁ =>
    cases v with
    | zero s₂ =>
      rw [show b = 0 from hv, add_zero, roundNearest_of_denotes hu]
      exact hu
    | finite s₂ m₂ e₂ h₂ =>
      -- both significands are widened to the smaller exponent, added as integers and rounded
      have hval : (((s₁.apply (decreaseExponent m₁ e₁ (min e₁ e₂)).1 +
          s₂.apply (decreaseExponent m₂ e₂ (min e₁ e₂)).1 : ℤ) : ℚ)) * 2 ^ min e₁ e₂ = a + b := by
        rw [Int.cast_add, add_mul, value_decreaseExponent s₁ m₁ (min_le_left _ _),
          value_decreaseExponent s₂ m₂ (min_le_right _ _), hu.1, hv.1]
      rw [← hval]
      exact normalize_denotes _ _ _
    | infinity s₂ => exact hv.elim
    | notANumber => exact hv.elim

/-- The model's difference is the rounding of the exact difference. -/
theorem sub_denotes {a b : ℚ} {u v : UnpackedFloat} (hu : Denotes a u) (hv : Denotes b v) :
    Denotes (roundNearest (a - b)) (UnpackedFloat.sub Format.binary64 u v) := by
  cases u with
  | notANumber => exact hu.elim
  | infinity s₁ => exact hu.elim
  | zero s₁ =>
    rw [show a = 0 from hu, zero_sub, roundNearest_neg, roundNearest_of_denotes hv]
    cases v with
    | zero s₂ =>
      rw [show b = 0 from hv, neg_zero]
      show Denotes 0 (if s₁ == -s₂ then .zero s₁ else .zero .positive)
      split <;> rfl
    | finite s₂ m₂ e₂ h₂ =>
      -- the subtrahend comes back with its sign turned
      obtain ⟨hb, hcan⟩ := hv
      exact ⟨by rw [signed_neg, hb], hcan⟩
    | infinity s₂ => exact hv.elim
    | notANumber => exact hv.elim
  | finite s₁ m₁ e₁ h₁ =>
    cases v with
    | zero s₂ =>
      rw [show b = 0 from hv, sub_zero, roundNearest_of_denotes hu]
      exact hu
    | finite s₂ m₂ e₂ h₂ =>
      have hval : (((s₁.apply (decreaseExponent m₁ e₁ (min e₁ e₂)).1 -
          s₂.apply (decreaseExponent m₂ e₂ (min e₁ e₂)).1 : ℤ) : ℚ)) * 2 ^ min e₁ e₂ = a - b := by
        rw [Int.cast_sub, sub_mul, value_decreaseExponent s₁ m₁ (min_le_left _ _),
          value_decreaseExponent s₂ m₂ (min_le_right _ _), hu.1, hv.1]
      rw [← hval]
      exact normalize_denotes _ _ _
    | infinity s₂ => exact hv.elim
    | notANumber => exact hv.elim

/-- A product of canonical significands is wide enough to round at its own exponent: it has 53
bits, or both factors are subnormal and the exponent is far below the least one. -/
theorem mul_exponent_le {m₁ m₂ : Nat} {e₁ e₂ : Int} (h₁ : Canonical m₁ e₁) (h₂ : Canonical m₂ e₂)
    (hm₁ : 0 < m₁) (hm₂ : 0 < m₂) :
    e₁ + e₂ ≤ Format.binary64.targetExponent (totalExponent (m₁ * m₂) (e₁ + e₂)) := by
  rw [targetExponent_binary64, totalExponent_eq]
  by_cases hbig : 2 ^ 52 ≤ m₁ * m₂
  case pos =>
    have := (Nat.le_log2 (Nat.mul_ne_zero hm₁.ne' hm₂.ne')).2 hbig
    omega
  case neg =>
    have hs₁ : m₁ < 2 ^ 52 := by
      by_contra h
      exact hbig (le_trans (Nat.not_lt.1 h) (Nat.le_mul_of_pos_right _ hm₂))
    have hs₂ : m₂ < 2 ^ 52 := by
      by_contra h
      exact hbig (le_trans (Nat.not_lt.1 h) (Nat.le_mul_of_pos_left _ hm₁))
    have := h₁.subnormal hs₁
    have := h₂.subnormal hs₂
    omega

/-- The model's product is the rounding of the exact product. -/
theorem mul_denotes {a b : ℚ} {u v : UnpackedFloat} (hu : Denotes a u) (hv : Denotes b v) :
    Denotes (roundNearest (a * b)) (UnpackedFloat.mul Format.binary64 u v) := by
  cases u with
  | notANumber => exact hu.elim
  | infinity s₁ => exact hu.elim
  | zero s₁ =>
    rw [show a = 0 from hu, zero_mul, roundNearest_zero]
    cases v with
    | zero s₂ => rfl
    | finite s₂ m₂ e₂ h₂ => rfl
    | infinity s₂ => exact hv.elim
    | notANumber => exact hv.elim
  | finite s₁ m₁ e₁ h₁ =>
    cases v with
    | zero s₂ =>
      rw [show b = 0 from hv, mul_zero, roundNearest_zero]
      rfl
    | finite s₂ m₂ e₂ h₂ =>
      obtain ⟨ha, hcan₁⟩ := hu
      obtain ⟨hb, hcan₂⟩ := hv
      have hval : signed (s₁ * s₂) ((m₁ * m₂ : Nat) * 2 ^ (e₁ + e₂) : ℚ) = a * b := by
        rw [← ha, ← hb, ← signed_mul, zpow_add₀ (by norm_num)]
        push_cast
        ring_nf
      rw [← hval]
      apply roundWithAccuracy_denotes _ (mul_exponent_le hcan₁ hcan₂ h₁ h₂)
      show _ = _
      rw [mul_div_assoc, div_self (zpow_ne_zero _ (by norm_num)), mul_one]
    | infinity s₂ => exact hv.elim
    | notANumber => exact hv.elim

theorem signed_div (s₁ s₂ : Sign) (q₁ q₂ : ℚ) : signed (s₁ / s₂) (q₁ / q₂) = signed s₁ q₁ / signed s₂ q₂ := by
  cases s₁ <;> cases s₂
  case negative.negative => show q₁ / q₂ = -q₁ / -q₂; rw [neg_div_neg_eq]
  case negative.positive => show -(q₁ / q₂) = -q₁ / q₂; rw [neg_div]
  case positive.negative => show -(q₁ / q₂) = q₁ / -q₂; rw [div_neg]
  case positive.positive => rfl

/-- An exact quotient of naturals is the integer quotient plus the remainder's fraction. -/
theorem natCast_div_eq (n : Nat) {d : Nat} (hd : 0 < d) :
    (n : ℚ) / d = (n / d : Nat) + ((n % d : Nat) : ℚ) / d := by
  have hd' : (0 : ℚ) < d := by exact_mod_cast hd
  have h : ((d * (n / d) + n % d : Nat) : ℚ) = n := by exact_mod_cast Nat.div_add_mod n d
  push_cast at h
  rw [div_eq_iff hd'.ne', add_mul, div_mul_cancel₀ _ hd'.ne']
  linarith

/-- A quotient of naturals with the accuracy of its remainder says where the exact quotient is. -/
theorem near_div (n : Nat) {d : Nat} (hd : 0 < d) :
    Near ((n : ℚ) / d) (n / d) (accuracyOfFraction (n % d) d) := by
  have hd' : (0 : ℚ) < d := by exact_mod_cast hd
  have hsplit := natCast_div_eq n hd
  have hlt : ((n % d : Nat) : ℚ) / d < 1 := by
    rw [div_lt_one hd']
    exact_mod_cast Nat.mod_lt n hd
  unfold accuracyOfFraction
  split
  case isTrue h0 => simp [Near, hsplit, h0]
  case isFalse h0 =>
    have hpos : 0 < ((n % d : Nat) : ℚ) / d := div_pos (by exact_mod_cast Nat.pos_of_ne_zero h0) hd'
    have hhalf : ∀ c : Ordering, compare (2 * (n % d)) d = c →
        (c = .lt → ((n % d : Nat) : ℚ) / d < 1 / 2) ∧ (c = .eq → ((n % d : Nat) : ℚ) / d = 1 / 2) ∧
          (c = .gt → 1 / 2 < ((n % d : Nat) : ℚ) / d) := by
      intro c hc
      refine ⟨fun h => ?_, fun h => ?_, fun h => ?_⟩
      · rw [h, Nat.compare_eq_lt] at hc
        rw [div_lt_iff₀ hd']
        have : ((2 * (n % d) : Nat) : ℚ) < d := by exact_mod_cast hc
        push_cast at this
        linarith
      · rw [h, Nat.compare_eq_eq] at hc
        rw [div_eq_iff hd'.ne']
        have : ((2 * (n % d) : Nat) : ℚ) = d := by exact_mod_cast hc
        push_cast at this
        linarith
      · rw [h, Nat.compare_eq_gt] at hc
        rw [lt_div_iff₀ hd']
        have : (d : ℚ) < ((2 * (n % d) : Nat) : ℚ) := by exact_mod_cast hc
        push_cast at this
        linarith
    obtain ⟨hl, he, hg⟩ := hhalf _ rfl
    rw [hsplit]
    cases hc : compare (2 * (n % d)) d
    case lt => exact ⟨by linarith, by linarith [hl hc]⟩
    case eq => rw [he hc]; rfl
    case gt => exact ⟨by linarith [hg hc], by linarith⟩

/-- The exponent `divCore` divides at: never above the exponent of the exact quotient's
significands, and low enough that the quotient has 53 bits unless it is the least exponent. -/
def divExponent (m₁ : Nat) (e₁ : Int) (m₂ : Nat) (e₂ : Int) : Int :=
  min (e₁ - e₂) (Format.binary64.targetExponent (totalExponent m₁ e₁ - totalExponent m₂ e₂))

/-- The widened dividend over the divisor is wide enough to round at the exponent it is at. -/
theorem divExponent_le {m₁ m₂ : Nat} (e₁ e₂ : Int) (hm₁ : 0 < m₁) (hm₂ : 0 < m₂) :
    divExponent m₁ e₁ m₂ e₂ ≤ Format.binary64.targetExponent
      (totalExponent ((m₁ <<< (e₁ - e₂ - divExponent m₁ e₁ m₂ e₂).toNat) / m₂) (divExponent m₁ e₁ m₂ e₂)) := by
  set t := divExponent m₁ e₁ m₂ e₂ with ht
  set k := (e₁ - e₂ - t).toNat with hk
  rw [targetExponent_binary64, totalExponent_eq]
  by_cases hlow : t ≤ -1074
  case pos => omega
  case neg =>
    -- above the least exponent the shift leaves at least `2^52` times the divisor
    have htX : t ≤ (m₁.log2 : Int) - m₂.log2 + e₁ - e₂ - 53 := by
      simp only [ht, divExponent, targetExponent_binary64, totalExponent_eq] at hlow ⊢
      omega
    have hkge : m₂.log2 + 53 ≤ m₁.log2 + k := by omega
    have hM : 2 ^ 52 * m₂ ≤ m₁ <<< k := by
      rw [Nat.shiftLeft_eq]
      calc 2 ^ 52 * m₂ ≤ 2 ^ 52 * 2 ^ (m₂.log2 + 1) := Nat.mul_le_mul_left _ Nat.lt_log2_self.le
        _ = 2 ^ (m₂.log2 + 53) := by rw [← Nat.pow_add]; ring_nf
        _ ≤ 2 ^ (m₁.log2 + k) := Nat.pow_le_pow_right (by norm_num) hkge
        _ = 2 ^ m₁.log2 * 2 ^ k := Nat.pow_add _ _ _
        _ ≤ m₁ * 2 ^ k := Nat.mul_le_mul_right _ (Nat.log2_self_le hm₁.ne')
    have hq : 2 ^ 52 ≤ (m₁ <<< k) / m₂ := (Nat.le_div_iff_mul_le hm₂).2 hM
    have := (Nat.le_log2 (by omega)).2 hq
    omega

/-- The model's quotient by a value other than zero is the rounding of the exact quotient. -/
theorem div_denotes {a b : ℚ} {u v : UnpackedFloat} (hu : Denotes a u) (hv : Denotes b v) (hb : b ≠ 0) :
    Denotes (roundNearest (a / b)) (UnpackedFloat.div Format.binary64 u v) := by
  cases u with
  | notANumber => exact hu.elim
  | infinity s₁ => exact hu.elim
  | zero s₁ =>
    rw [show a = 0 from hu, zero_div, roundNearest_zero]
    cases v with
    | zero s₂ => exact absurd hv hb
    | finite s₂ m₂ e₂ h₂ => rfl
    | infinity s₂ => exact hv.elim
    | notANumber => exact hv.elim
  | finite s₁ m₁ e₁ h₁ =>
    cases v with
    | zero s₂ => exact absurd hv hb
    | finite s₂ m₂ e₂ h₂ =>
      obtain ⟨ha, -⟩ := hu
      obtain ⟨hb', -⟩ := hv
      set t := divExponent m₁ e₁ m₂ e₂ with ht
      set k := (e₁ - e₂ - t).toNat with hk
      have htle : t ≤ e₁ - e₂ := min_le_left _ _
      show Denotes _ (roundWithAccuracy Format.binary64 (s₁ / s₂) ((m₁ <<< k) / m₂) t
        (accuracyOfFraction ((m₁ <<< k) % m₂) m₂))
      rw [← ha, ← hb', ← signed_div]
      apply roundWithAccuracy_denotes _ (divExponent_le e₁ e₂ h₁ h₂)
      -- at the unit `2^t` the exact quotient is the widened dividend over the divisor
      have hscale : (m₁ : ℚ) * 2 ^ e₁ / (m₂ * 2 ^ e₂) / 2 ^ t = ((m₁ <<< k : Nat) : ℚ) / m₂ := by
        rw [Nat.shiftLeft_eq]
        push_cast
        rw [← zpow_natCast, hk, Int.toNat_of_nonneg (by omega)]
        rw [zpow_sub₀ (by norm_num), zpow_sub₀ (by norm_num)]
        field_simp
      rw [hscale]
      exact near_div _ h₂
    | infinity s₂ => exact hv.elim
    | notANumber => exact hv.elim

/-! ## Square roots

A square root is rarely rational, so its rounding is read off a rational with the same accuracy
at the same unit: the significand itself, or a quarter or three quarters of a unit past it. -/

/-- A point strictly inside the stretch of a unit that an accuracy names. -/
def offset : Accuracy → ℚ
  | .exact => 0
  | .inexact .lt => 1 / 4
  | .inexact .eq => 1 / 2
  | .inexact .gt => 3 / 4

theorem near_offset (m : Nat) (acc : Accuracy) : Near (m + offset acc) m acc := by
  rcases acc with _ | (_ | _ | _)
  case exact => exact add_zero _
  case inexact.lt => exact ⟨by simp only [offset]; linarith, by simp only [offset]; linarith⟩
  case inexact.eq => rfl
  case inexact.gt => exact ⟨by simp only [offset]; linarith, by simp only [offset]; linarith⟩

theorem offset_lt_one (acc : Accuracy) : offset acc < 1 := by
  rcases acc with _ | (_ | _ | _) <;> simp only [offset] <;> norm_num

theorem offset_nonneg (acc : Accuracy) : 0 ≤ offset acc := by
  rcases acc with _ | (_ | _ | _) <;> simp only [offset] <;> norm_num

/-- The exponent `sqrtCore` takes the root at: at most half the exponent of the significand, and
low enough that the root has 53 bits unless it is the least exponent. -/
def sqrtExponent (m : Nat) (e : Int) : Int :=
  min (e.ediv 2) (Format.binary64.targetExponent ((totalExponent m e + 1).ediv 2))

/-- The root of the widened significand is wide enough to round at the exponent it is at. -/
theorem sqrtExponent_le {m : Nat} (e : Int) (hm : 0 < m) :
    sqrtExponent m e ≤ Format.binary64.targetExponent
      (totalExponent (Nat.sqrt (m <<< (e - 2 * sqrtExponent m e).toNat)) (sqrtExponent m e)) := by
  set t := sqrtExponent m e with ht
  set k := (e - 2 * t).toNat with hk
  rw [targetExponent_binary64, totalExponent_eq]
  by_cases hlow : t ≤ -1074
  case pos => omega
  case neg =>
    -- above the least exponent the widened significand has at least 105 bits
    have hdiv : ∀ z : Int, z.ediv 2 = z / 2 := fun _ => rfl
    have htX : 2 * t ≤ (m.log2 : Int) + e - 104 ∧ 2 * t ≤ e := by
      simp only [ht, sqrtExponent, targetExponent_binary64, totalExponent_eq, hdiv] at hlow ⊢
      omega
    have hkge : 104 ≤ m.log2 + k := by omega
    have hM : 2 ^ 52 * 2 ^ 52 ≤ m <<< k := by
      rw [Nat.shiftLeft_eq, ← Nat.pow_add]
      calc 2 ^ (52 + 52) ≤ 2 ^ (m.log2 + k) := Nat.pow_le_pow_right (by norm_num) hkge
        _ = 2 ^ m.log2 * 2 ^ k := Nat.pow_add _ _ _
        _ ≤ m * 2 ^ k := Nat.mul_le_mul_right _ (Nat.log2_self_le hm.ne')
    have hroot : 2 ^ 52 ≤ Nat.sqrt (m <<< k) := Nat.le_sqrt.2 hM
    have := (Nat.le_log2 (by omega)).2 hroot
    omega

theorem sqrt_positive_eq (m : Nat) (e : Int) (hm : 0 < m) :
    UnpackedFloat.sqrt Format.binary64 (.finite .positive m e hm) =
      let M := m <<< (e - 2 * sqrtExponent m e).toNat
      let r := Nat.sqrt M
      roundWithAccuracy Format.binary64 .positive r (sqrtExponent m e)
        (if M - r * r = 0 then .exact else .inexact (if M - r * r ≤ r then .lt else .gt)) := rfl

/-- The model's square root of a value `x ≥ 0` is the rounding of a rational `y ≥ 0` at most
twice the exact root. -/
theorem sqrt_denotes {x : ℚ} {u : UnpackedFloat} (hu : Denotes x u) (hx : 0 ≤ x) :
    ∃ y, 0 ≤ y ∧ y * y ≤ 4 * x ∧ Denotes (roundNearest y) (UnpackedFloat.sqrt Format.binary64 u) := by
  cases u with
  | notANumber => exact hu.elim
  | infinity s => exact hu.elim
  | zero s => exact ⟨0, le_rfl, by rw [hu]; norm_num, by rw [roundNearest_zero]; rfl⟩
  | finite s m e hm =>
    obtain ⟨hxv, -⟩ := hu
    cases s
    case negative =>
      exfalso
      rw [← hxv] at hx
      have : (0 : ℚ) < m * 2 ^ e := by positivity
      simp only [signed] at hx
      linarith
    case positive =>
      rw [sqrt_positive_eq]
      dsimp only
      set t := sqrtExponent m e with ht
      set k := (e - 2 * t).toNat with hk
      set M := m <<< k with hM
      set r := Nat.sqrt M with hr
      set acc : Accuracy := if M - r * r = 0 then .exact else .inexact (if M - r * r ≤ r then .lt else .gt)
      have h2t : 2 * t ≤ e := by
        have : t ≤ e.ediv 2 := min_le_left _ _
        have hdiv : e.ediv 2 = e / 2 := rfl
        omega
      -- the significand is the widened one at twice the root's exponent
      have hxM : x = M * 2 ^ (2 * t) := by
        rw [← hxv, hM, Nat.shiftLeft_eq]
        push_cast
        rw [← zpow_natCast, hk, Int.toNat_of_nonneg (by omega), mul_assoc, ← zpow_add₀ (by norm_num),
          sub_add_cancel]
        rfl
      have hu2 : (0 : ℚ) < 2 ^ t := zpow_pos (by norm_num) t
      have hr1 : 1 ≤ r := Nat.le_sqrt.2 (by rw [hM, Nat.shiftLeft_eq]; exact Nat.one_le_iff_ne_zero.2 (by positivity))
      refine ⟨(r + offset acc) * 2 ^ t, by have := offset_nonneg acc; positivity, ?_, ?_⟩
      · -- below `2r` units, whose square is at most four times `x`
        have hlt : (r : ℚ) + offset acc ≤ 2 * r := by
          have := offset_lt_one acc
          have : (1 : ℚ) ≤ r := by exact_mod_cast hr1
          linarith
        have hsq : ((r * r : Nat) : ℚ) ≤ M := by exact_mod_cast Nat.sqrt_le M
        have h0 : (0 : ℚ) ≤ r + offset acc := by have := offset_nonneg acc; positivity
        calc (r + offset acc) * 2 ^ t * ((r + offset acc) * 2 ^ t)
            = (r + offset acc) * (r + offset acc) * 2 ^ (2 * t) := by rw [two_mul, zpow_add₀ (by norm_num)]; ring
          _ ≤ (2 * r) * (2 * r) * 2 ^ (2 * t) := by gcongr
          _ = 4 * ((r * r : Nat) : ℚ) * 2 ^ (2 * t) := by push_cast; ring
          _ ≤ 4 * M * 2 ^ (2 * t) := by gcongr
          _ = 4 * x := by rw [hxM]; ring
      · have hnear : Near ((r + offset acc) * 2 ^ t / 2 ^ t) r acc := by
          rw [mul_div_assoc, div_self hu2.ne', mul_one]
          exact near_offset r acc
        exact roundWithAccuracy_denotes (s := .positive) hnear (sqrtExponent_le e hm)

/-! ## Doubles -/

section Doubles

variable {x y : Float} {a b : ℚ}

theorem ofFloat?_add (hx : Extended.ofFloat? x = some (.finite a)) (hy : Extended.ofFloat? y = some (.finite b)) :
    Extended.ofFloat? (x + y) = some (packed (roundNearest (a + b))) :=
  ofFloat?_pack (add_denotes (denotes_unpack hx) (denotes_unpack hy))

theorem ofFloat?_sub (hx : Extended.ofFloat? x = some (.finite a)) (hy : Extended.ofFloat? y = some (.finite b)) :
    Extended.ofFloat? (x - y) = some (packed (roundNearest (a - b))) :=
  ofFloat?_pack (sub_denotes (denotes_unpack hx) (denotes_unpack hy))

theorem ofFloat?_mul (hx : Extended.ofFloat? x = some (.finite a)) (hy : Extended.ofFloat? y = some (.finite b)) :
    Extended.ofFloat? (x * y) = some (packed (roundNearest (a * b))) :=
  ofFloat?_pack (mul_denotes (denotes_unpack hx) (denotes_unpack hy))

theorem ofFloat?_div (hx : Extended.ofFloat? x = some (.finite a)) (hy : Extended.ofFloat? y = some (.finite b))
    (hb : b ≠ 0) : Extended.ofFloat? (x / y) = some (packed (roundNearest (a / b))) :=
  ofFloat?_pack (div_denotes (denotes_unpack hx) (denotes_unpack hy) hb)

/-- The square root of a double of value `a ≥ 0` is the rounding of a rational `y ≥ 0` with
`y² ≤ 4a`. -/
theorem ofFloat?_sqrt (hx : Extended.ofFloat? x = some (.finite a)) (ha : 0 ≤ a) :
    ∃ y, 0 ≤ y ∧ y * y ≤ 4 * a ∧ Extended.ofFloat? x.sqrt = some (packed (roundNearest y)) := by
  obtain ⟨y, hy, hya, hd⟩ := sqrt_denotes (denotes_unpack hx) ha
  exact ⟨y, hy, hya, ofFloat?_pack hd⟩

/-- A double is above zero exactly when its value is. -/
theorem zero_lt_iff (hx : Extended.ofFloat? x = some (.finite a)) : (0 : Float) < x ↔ 0 < a := by
  have hu := denotes_unpack hx
  show decide ((0 : Float).toModel < x.toModel) = true ↔ _
  rw [decide_eq_true_iff]
  show (UnpackedFloat.compare (0 : Float).toModel.unpack x.toModel.unpack == some .lt) = true ↔ _
  rw [unpack_zero]
  cases hxu : x.toModel.unpack with
  | zero s =>
    rw [hxu] at hu
    rw [show a = 0 from hu]
    simp [UnpackedFloat.compare]
  | finite s m e hm =>
    rw [hxu] at hu
    obtain ⟨ha, -⟩ := hu
    have hpos : (0 : ℚ) < m * 2 ^ e := by positivity
    cases s
    case positive =>
      simp only [UnpackedFloat.compare, beq_self_eq_true, true_iff]
      rw [← ha]
      exact hpos
    case negative =>
      simp only [UnpackedFloat.compare, reduceCtorEq, beq_iff_eq, Option.some.injEq, false_iff, not_lt]
      rw [← ha]
      exact (neg_neg_of_pos hpos).le
  | infinity s => rw [hxu] at hu; exact hu.elim
  | notANumber => rw [hxu] at hu; exact hu.elim

theorem mul_finite {s₁ s₂ : Sign} {m₁ m₂ : Nat} {e₁ e₂ : Int} (h₁ : 0 < m₁) (h₂ : 0 < m₂) :
    UnpackedFloat.mul Format.binary64 (.finite s₁ m₁ e₁ h₁) (.finite s₂ m₂ e₂ h₂) =
      roundWithAccuracy Format.binary64 (s₁ * s₂) (m₁ * m₂) (e₁ + e₂) .exact := rfl

/-- A natural number converts to the double nearest it. -/
theorem ofFloat?_natToFloat (n : Nat) : Extended.ofFloat? n.toFloat = some (packed (roundNearest n)) := by
  show Extended.ofFloat? (Float.ofScientific n false 0) = _
  unfold Float.ofScientific
  split
  case isTrue h =>
    -- below `2^53`: the integer itself, times the double one
    have hrep : Representable (n : ℚ) := by
      have hle : |(n : ℤ)| ≤ 2 ^ 53 := by rw [abs_of_nonneg (by positivity)]; exact_mod_cast h.1.le
      simpa using representable_of_abs_le hle (by norm_num : (-1074 : ℤ) ≤ 0)
    have hn : Extended.ofFloat? n.toUInt64.toFloat = some (.finite n) := by
      have hd := normalize_denotes (n.toUInt64.toNat : Int) 0 .positive
      have hval : ((n.toUInt64.toNat : Int) : ℚ) * 2 ^ (0 : Int) = n := by
        rw [UInt64.toNat_ofNat', Nat.mod_eq_of_lt (by omega)]
        simp
      rw [hval, roundNearest_of_representable hrep] at hd
      have hlt : |(n : ℚ)| < 2 ^ 1024 := by
        rw [abs_of_nonneg (by positivity)]
        calc (n : ℚ) < 2 ^ 53 := by exact_mod_cast h.1
          _ ≤ 2 ^ 1024 := pow_le_pow_right₀ (by norm_num) (by norm_num)
      rw [← packed_of_lt hlt]
      exact ofFloat?_pack hd
    have hone : Extended.ofFloat? Float.exactlyRepresentablePowersOfTen[0] = some (.finite 1) := by
      rw [ofFloat?_of_decode (by rfl : decode Float.exactlyRepresentablePowersOfTen[0] = .finite false (2 ^ 52) (-52))]
      norm_num
    dsimp only
    rw [if_neg Bool.false_ne_true, ofFloat?_mul hn hone, mul_one]
  case isFalse h =>
    -- from `2^53` on: the model's scientific conversion multiplies by `10^0` exactly
    have hn0 : n ≠ 0 := fun h0 => h ⟨by omega, by norm_num⟩
    dsimp only
    apply ofFloat?_pack
    show Denotes _ (UnpackedFloat.ofScientific Format.binary64 n 0)
    unfold UnpackedFloat.ofScientific
    have hbits : Format.binary64.exponentBits = 11 := rfl
    have hsign : Sign.positive * Sign.positive = Sign.positive := rfl
    rw [dif_neg hn0, if_neg (by decide), if_neg (by rw [hbits]; omega), if_pos le_rfl, mul_finite,
      mantissaBits_binary64, hsign]
    simp only [Int.toNat_zero, pow_zero, mul_one, Int.add_zero]
    have hnear : Near ((n : ℚ) / 2 ^ (-((53 : Nat) : ℤ))) (n <<< 53) .exact := by
      show (n : ℚ) / 2 ^ (-((53 : Nat) : ℤ)) = ((n <<< 53 : Nat) : ℚ)
      rw [Nat.shiftLeft_eq, zpow_neg, div_inv_eq_mul]
      push_cast
      rfl
    have hexp : -((53 : Nat) : ℤ) ≤ Format.binary64.targetExponent (totalExponent (n <<< 53) (-((53 : Nat) : ℤ))) := by
      have hge : 2 ^ 53 ≤ n <<< 53 := by
        rw [Nat.shiftLeft_eq]
        exact Nat.le_mul_of_pos_left _ (by omega)
      have := (Nat.le_log2 (by omega)).2 hge
      rw [targetExponent_binary64, totalExponent_eq]
      omega
    -- the widened significand is kept abstract, so that nothing evaluates the shift
    generalize n <<< 53 = N at hnear hexp ⊢
    exact roundWithAccuracy_denotes (s := .positive) hnear hexp

end Doubles

end Binary64

end TransitRevenue
