import Mathlib
import TransitRevenue.Proofs.Binary64.Arithmetic
/-!
Rationals converted to doubles.

`ofRat` rounds a rational by hand: `scaleFor` finds the unit of its binade (`scaleFor_eq`), the
quotient at that unit is rounded to the nearest integer, a tie to the even one
(`roundHalfEven_eq`), and `assemble` writes sign, significand and exponent into a word
(`ofFloat?_assemble`). So the double it builds is the one Lean's own rounding would give:
`ofRat q` has the value `roundNearest q`, or is the infinity of its sign from `2^1024` on
(`ofFloat?_ofRat`).
-/

namespace TransitRevenue

namespace Binary64

open Float.Model UnpackedFloat

/-! ## Assembled words -/

/-- An infinity's word reads back as itself. -/
theorem pack_unpack_infinite (b : BitVec 64) (hE : b.toNat / 2 ^ 52 % 2 ^ 11 = 2047)
    (hM : b.toNat % 2 ^ 52 = 0) : UnpackedFloat.pack Format.binary64 (UnpackedFloat.unpack Format.binary64 b) = b := by
  have hinf : @unpackExponent Format.binary64 b = -1#_ := by
    apply BitVec.eq_of_toNat_eq
    rw [toNat_unpackExponent, hE]
    rfl
  have hzero : @unpackMantissa Format.binary64 b = 0#_ := by
    apply BitVec.eq_of_toNat_eq
    rw [toNat_unpackMantissa, hM]
    rfl
  rw [UnpackedFloat.unpack]
  simp only [hinf, hzero, if_true]
  exact packComponents_eq_self hinf hzero

/-- The word of a sign bit, an exponent field and a fraction field, read as a double. -/
theorem decode_ofBits {neg : Bool} {E M : Nat} (hE : E < 2 ^ 11) (hM : M < 2 ^ 52)
    (hfin : E = 2047 → M = 0) :
    decode (Float.ofBits (UInt64.ofNat ((if neg then 2 ^ 63 else 0) + E * 2 ^ 52 + M))) =
      if E = 2047 then .infinite neg
      else if E = 0 then .finite neg M (-1074)
      else .finite neg (M + 2 ^ 52) (E - 1075) := by
  set w := (if neg then 2 ^ 63 else 0) + E * 2 ^ 52 + M with hw
  have hsign : (if neg then 2 ^ 63 else 0) = (if neg then 1 else 0) * 2 ^ 63 := by split <;> rfl
  have hb : (if neg then 1 else 0) < 2 := by split <;> omega
  have hlt : w < 2 ^ 64 := by rw [hw, hsign]; omega
  have hnat : (UInt64.ofNat w).toNat = w := by rw [UInt64.toNat_ofNat', Nat.mod_eq_of_lt hlt]
  have hfields : w = (if neg then 1 else 0) * 2 ^ 63 + E * 2 ^ 52 + M := by rw [hw, hsign]
  have hE' : w / 2 ^ 52 % 2 ^ 11 = E := by omega
  have hM' : w % 2 ^ 52 = M := by omega
  -- the word comes back from the model unchanged, an infinity's included
  have hbits : (Float.ofBits (UInt64.ofNat w)).toBits = UInt64.ofNat w := by
    by_cases h2047 : E = 2047
    case pos =>
      apply UInt64.toBitVec_inj.1
      exact pack_unpack_infinite _ (by rw [UInt64.toNat_toBitVec, hnat, hE', h2047])
        (by rw [UInt64.toNat_toBitVec, hnat, hM', hfin h2047])
    case neg => exact toBits_ofBits _ (by rw [hnat, hE']; exact h2047)
  have hbit : ((if neg then 1 else 0) == 1) = neg := by cases neg <;> rfl
  rw [decode_of_fields (by rw [hbits, hnat]; exact hfields) hb hE hM, hbit]
  by_cases h2047 : E = 2047
  · rw [if_pos h2047, if_pos h2047, if_pos (hfin h2047)]
  · rw [if_neg h2047, if_neg h2047]

theorem ofFloat?_of_decode_infinite {y : Float} {neg : Bool} (h : decode y = .infinite neg) :
    Extended.ofFloat? y = some (if neg then .negInf else .posInf) := by
  simp only [Extended.ofFloat?, h]

/-- A double assembled from a significand and an exponent in canonical form has their value,
or is the infinity of its sign once that reaches `2^1024` in magnitude. -/
theorem ofFloat?_assemble (neg : Bool) {mant : Nat} {exp : Int} (hm : mant < 2 ^ 53) (hlow : -1074 ≤ exp)
    (hc : 2 ^ 52 ≤ mant ∨ exp = -1074) :
    Extended.ofFloat? (assemble neg mant exp) =
      some (packed (if neg then -((mant : ℚ) * 2 ^ exp) else mant * 2 ^ exp)) := by
  have hval : ∀ q : ℚ, |(if neg then -q else q)| = |q| := fun q => by split <;> simp
  unfold assemble
  simp only [Nat.pow_eq]
  split
  case isTrue hbig =>
    -- beyond the largest exponent: an infinity
    have hm52 : 2 ^ 52 ≤ mant := hc.resolve_right (by omega)
    have hd := @decode_ofBits neg 2047 0 (by norm_num) (by norm_num) (fun _ => rfl)
    rw [if_pos rfl, Nat.add_zero] at hd
    have hpos : (0 : ℚ) < mant * 2 ^ exp := by
      have : (0 : ℚ) < mant := by exact_mod_cast (show 0 < mant by omega)
      positivity
    have habs : ¬ |(if neg then -((mant : ℚ) * 2 ^ exp) else mant * 2 ^ exp)| < 2 ^ 1024 := by
      rw [hval, abs_of_pos hpos, not_lt]
      calc (2 : ℚ) ^ 1024 = 2 ^ 52 * 2 ^ (972 : ℤ) := by rw [zpow_ofNat, ← pow_add]
        _ ≤ (mant : ℚ) * 2 ^ exp := by
          gcongr
          · exact_mod_cast hm52
          · norm_num
          · omega
    rw [ofFloat?_of_decode_infinite hd, packed, if_neg habs]
    cases neg
    case false =>
      have h0 : (0 : ℚ) < (if false = true then -((mant : ℚ) * 2 ^ exp) else mant * 2 ^ exp) := hpos
      rw [if_pos h0]
      rfl
    case true =>
      have h0 : ¬ (0 : ℚ) < (if true = true then -((mant : ℚ) * 2 ^ exp) else mant * 2 ^ exp) := by
        rw [if_pos rfl]
        exact not_lt.2 (neg_nonpos.2 hpos.le)
      rw [if_neg h0]
      rfl
  case isFalse hfit =>
    have hlt : |(if neg then -((mant : ℚ) * 2 ^ exp) else mant * 2 ^ exp)| < 2 ^ 1024 := by
      rw [hval, abs_of_nonneg (by positivity)]
      exact abs_lt_of_exponent_le hm (by omega)
    rw [packed_of_lt hlt]
    split
    case isTrue hsub =>
      -- a subnormal: exponent field zero
      have hexp : exp = -1074 := hc.resolve_left (by omega)
      have hd : decode (Float.ofBits (UInt64.ofNat ((if neg then 2 ^ 63 else 0) + mant))) =
          .finite neg mant (-1074) := by
        have h := @decode_ofBits neg 0 mant (by norm_num) hsub (by omega)
        rwa [Nat.zero_mul, Nat.add_zero, if_neg (show (0 : Nat) ≠ 2047 by norm_num), if_pos rfl] at h
      rw [ofFloat?_of_decode hd, hexp]
    case isFalse hnorm =>
      -- a normal double: the exponent field holds `exp + 1075`, the implicit bit is dropped
      have hm52 : 2 ^ 52 ≤ mant := by omega
      have hd := @decode_ofBits neg (exp + 1075).toNat (mant - 2 ^ 52)
        (by omega) (by omega) (by omega)
      rw [if_neg (show (exp + 1075).toNat ≠ 2047 by omega), if_neg (show (exp + 1075).toNat ≠ 0 by omega),
        Nat.sub_add_cancel hm52, Int.toNat_of_nonneg (by omega), add_sub_cancel_right] at hd
      rw [ofFloat?_of_decode hd]

/-! ## Rounding a fraction -/

/-- Rounding half to even keeps the integer quotient below half a divisor of remainder, and at
exactly half when the quotient is even; otherwise it goes one up. -/
theorem roundHalfEven_cases (n d : Nat) :
    (roundHalfEven n d = n / d ∧ (2 * (n % d) < d ∨ (2 * (n % d) = d ∧ n / d % 2 = 0))) ∨
      (roundHalfEven n d = n / d + 1 ∧ (d < 2 * (n % d) ∨ (2 * (n % d) = d ∧ n / d % 2 = 1))) := by
  unfold roundHalfEven
  dsimp only
  split
  case isTrue h =>
    simp only [Bool.or_eq_true, decide_eq_true_eq, Bool.and_eq_true, beq_iff_eq] at h
    exact .inr ⟨rfl, by omega⟩
  case isFalse h =>
    simp only [Bool.or_eq_true, decide_eq_true_eq, Bool.and_eq_true, beq_iff_eq, not_or, not_and] at h
    exact .inl ⟨rfl, by omega⟩

/-- Rounding a quotient of naturals half to even gives the nearest integer to it. -/
theorem roundHalfEven_eq (n : Nat) {d : Nat} (hd : 0 < d) :
    (roundHalfEven n d : ℤ) = nearestInt ((n : ℚ) / d) := by
  have hd' : (0 : ℚ) < d := by exact_mod_cast hd
  set f : ℚ := ((n % d : Nat) : ℚ) / d with hf
  have hf0 : 0 ≤ f := by positivity
  -- the fraction past the integer quotient, against one half
  have hcast : ∀ {a b : Nat}, a < b → (a : ℚ) < b := fun h => by exact_mod_cast h
  have hhalf : f = ((2 * (n % d) : Nat) : ℚ) / d / 2 := by rw [hf]; push_cast; ring
  have hlt : 2 * (n % d) < d → f < 1 / 2 := fun h => by
    rw [hhalf, div_lt_iff₀ (by norm_num), div_lt_iff₀ hd']
    linarith [hcast h]
  have heq : 2 * (n % d) = d → f = 1 / 2 := fun h => by
    rw [hhalf, h, div_self hd'.ne']
  have hgt : d < 2 * (n % d) → 1 / 2 < f := fun h => by
    rw [hhalf, lt_div_iff₀ (by norm_num), lt_div_iff₀ hd']
    linarith [hcast h]
  apply (nearestInt_eq _).symm
  rw [natCast_div_eq n hd, ← hf]
  rcases roundHalfEven_cases n d with ⟨hk, h | ⟨h, hq⟩⟩ | ⟨hk, h | ⟨h, hq⟩⟩
  case inl.inl =>
    rw [hk]
    simp only [NearestTo, Int.cast_natCast, add_sub_cancel_left, abs_of_nonneg hf0]
    exact .inl (hlt h)
  case inl.inr =>
    rw [hk]
    simp only [NearestTo, Int.cast_natCast, add_sub_cancel_left, heq h]
    exact .inr ⟨abs_of_pos (by norm_num), by omega⟩
  case inr.inl =>
    have hgt' := hgt h
    have hf1 : f < 1 := by rw [hf, div_lt_one hd']; exact hcast (Nat.mod_lt n hd)
    rw [hk]
    simp only [NearestTo, Nat.cast_add, Nat.cast_one, Int.cast_add, Int.cast_natCast, Int.cast_one]
    rw [show ((n / d : Nat) : ℚ) + f - ((n / d : Nat) + 1) = -(1 - f) by ring, abs_neg,
      abs_of_pos (by linarith)]
    exact .inl (by linarith)
  case inr.inr =>
    rw [hk]
    simp only [NearestTo, Nat.cast_add, Nat.cast_one, Int.cast_add, Int.cast_natCast, Int.cast_one, heq h]
    rw [show ((n / d : Nat) : ℚ) + 1 / 2 - ((n / d : Nat) + 1) = -(1 / 2) by ring, abs_neg]
    exact .inr ⟨abs_of_pos (by norm_num), by omega⟩

/-! ## The unit of a fraction -/

/-- Scaling a fraction by `2^s` as a fraction of naturals keeps its value times `2^s`. -/
theorem shiftFrac_spec (num : Nat) {den : Nat} (s : Int) (hd : 0 < den) :
    0 < (shiftFrac num den s).2 ∧
      ((shiftFrac num den s).1 : ℚ) / (shiftFrac num den s).2 = num / den * 2 ^ s := by
  unfold shiftFrac
  simp only [Nat.pow_eq]
  split
  case isTrue h =>
    refine ⟨hd, ?_⟩
    push_cast
    rw [← zpow_natCast, Int.toNat_of_nonneg h]
    ring
  case isFalse h =>
    refine ⟨by positivity, ?_⟩
    push_cast
    rw [← zpow_natCast, Int.toNat_of_nonneg (by omega), zpow_neg, div_mul_eq_div_div, div_inv_eq_mul]

/-- The unit of a positive value is the `u` that puts it in `[2^52, 2^53)` units, or the least
unit for a value below `2^-1021`. -/
theorem unit_eq_of_bounds {x : ℚ} {u : ℤ} (hx : 0 < x) (hu : -1074 ≤ u) (hhi : x < 2 ^ (u + 53))
    (hlo : u = -1074 ∨ 2 ^ (u + 52) ≤ x) : unit x = u := by
  have hlog : Int.log 2 x < u + 53 :=
    (Int.lt_zpow_iff_log_lt (b := 2) (by norm_num) hx).1 (by exact_mod_cast hhi)
  unfold unit
  rw [abs_of_pos hx]
  rcases hlo with rfl | hlo
  · exact max_eq_right (by omega)
  · have hge : u + 52 ≤ Int.log 2 x := (Int.zpow_le_iff_le_log (b := 2) (by norm_num) hx).1 (by exact_mod_cast hlo)
    omega

/-- `scaleFor` puts a positive fraction in `[2^52, 2^53)` units, or at the least unit when it is
smaller. -/
theorem scaleFor_bounds {num den : Nat} (hn : 0 < num) (hd : 0 < den) :
    (num : ℚ) / den * 2 ^ scaleFor num den < 2 ^ 53 ∧
      (scaleFor num den < 1074 → 2 ^ 52 ≤ (num : ℚ) / den * 2 ^ scaleFor num den) ∧
      scaleFor num den ≤ 1074 := by
  set a := num.log2
  set b := den.log2
  set s₀ : ℤ := 52 - a + b with hs₀
  -- a first guess from the leading bits alone lands in `(2^51, 2^53)`
  have hguess : 2 ^ 51 < (num : ℚ) / den * 2 ^ s₀ ∧ (num : ℚ) / den * 2 ^ s₀ < 2 ^ 53 := by
    have hna : (2 : ℚ) ^ a ≤ num := by exact_mod_cast Nat.log2_self_le hn.ne'
    have hna' : (num : ℚ) < 2 ^ (a + 1) := by exact_mod_cast Nat.lt_log2_self
    have hdb : (2 : ℚ) ^ b ≤ den := by exact_mod_cast Nat.log2_self_le hd.ne'
    have hdb' : (den : ℚ) < 2 ^ (b + 1) := by exact_mod_cast Nat.lt_log2_self
    have hden : (0 : ℚ) < den := by exact_mod_cast hd
    have hsplit : (num : ℚ) / den * 2 ^ s₀ = num * 2 ^ b * 2 ^ 52 / (den * 2 ^ a) := by
      rw [hs₀, zpow_add₀ (by norm_num), zpow_sub₀ (by norm_num)]
      simp only [zpow_natCast]
      field_simp
    rw [hsplit, lt_div_iff₀ (by positivity), div_lt_iff₀ (by positivity)]
    constructor
    · calc (2 : ℚ) ^ 51 * (den * 2 ^ a) < 2 ^ 51 * (2 ^ (b + 1) * 2 ^ a) := by gcongr
        _ = 2 ^ a * 2 ^ b * 2 ^ 52 := by ring
        _ ≤ num * 2 ^ b * 2 ^ 52 := by gcongr
    · calc (num : ℚ) * 2 ^ b * 2 ^ 52 < 2 ^ (a + 1) * 2 ^ b * 2 ^ 52 := by gcongr
        _ = 2 ^ 53 * (2 ^ b * 2 ^ a) := by ring
        _ ≤ 2 ^ 53 * (den * 2 ^ a) := by gcongr
  obtain ⟨hd₀, hval₀⟩ := shiftFrac_spec num s₀ hd
  -- the guess is one too small exactly when the integer quotient is below `2^52`
  have hfloor : (shiftFrac num den s₀).1 / (shiftFrac num den s₀).2 < 2 ^ 52 ↔
      (num : ℚ) / den * 2 ^ s₀ < 2 ^ 52 := by
    rw [Nat.div_lt_iff_lt_mul hd₀, ← hval₀, div_lt_iff₀ (by exact_mod_cast hd₀)]
    exact_mod_cast Iff.rfl
  unfold scaleFor
  simp only [Nat.pow_eq]
  rw [← hs₀]
  rcases hs : shiftFrac num den s₀ with ⟨n, d⟩
  rw [hs] at hfloor
  dsimp only
  set s₁ := if n / d < 2 ^ 52 then s₀ + 1 else s₀ with hs₁
  have hbounds : 2 ^ 52 ≤ (num : ℚ) / den * 2 ^ s₁ ∧ (num : ℚ) / den * 2 ^ s₁ < 2 ^ 53 := by
    rw [hs₁]
    split
    case isTrue h =>
      have hlt := hfloor.1 h
      rw [zpow_add_one₀ (by norm_num), ← mul_assoc]
      constructor <;> linarith [hguess.1]
    case isFalse h =>
      exact ⟨not_lt.1 (mt hfloor.2 h), hguess.2⟩
  have hpos : (0 : ℚ) < num / den := by positivity
  refine ⟨?_, fun hlt => ?_, min_le_right _ _⟩
  · have hmono : (2 : ℚ) ^ min s₁ 1074 ≤ 2 ^ s₁ := zpow_le_zpow_right₀ (by norm_num) (min_le_left _ _)
    calc (num : ℚ) / den * 2 ^ min s₁ 1074 ≤ num / den * 2 ^ s₁ := mul_le_mul_of_nonneg_left hmono hpos.le
      _ < 2 ^ 53 := hbounds.2
  · rw [min_eq_left (by rw [min_lt_iff] at hlt; omega)]
    exact hbounds.1

theorem unit_div_eq_scaleFor {num den : Nat} (hn : 0 < num) (hd : 0 < den) :
    unit ((num : ℚ) / den) = -scaleFor num den := by
  obtain ⟨hhi, hlo, hle⟩ := scaleFor_bounds hn hd
  set x : ℚ := num / den
  set t := scaleFor num den
  have hpos : 0 < x := by positivity
  -- moving the power of two across
  have hx : x = x * 2 ^ t * 2 ^ (-t) := by
    rw [mul_assoc, ← zpow_add₀ (by norm_num), add_neg_cancel, zpow_zero, mul_one]
  have hpow : ∀ k : ℕ, (2 : ℚ) ^ k * 2 ^ (-t) = 2 ^ (-t + k) := fun k => by
    rw [zpow_add₀ (by norm_num), zpow_natCast, mul_comm]
  apply unit_eq_of_bounds hpos (by omega)
  · calc x = x * 2 ^ t * 2 ^ (-t) := hx
      _ < 2 ^ 53 * 2 ^ (-t) := mul_lt_mul_of_pos_right hhi (zpow_pos (by norm_num) _)
      _ = 2 ^ (-t + 53) := hpow 53
  · by_cases hs : t < 1074
    case pos =>
      right
      calc (2 : ℚ) ^ (-t + 52) = 2 ^ 52 * 2 ^ (-t) := (hpow 52).symm
        _ ≤ x * 2 ^ t * 2 ^ (-t) := mul_le_mul_of_nonneg_right (hlo hs) (zpow_pos (by norm_num) _).le
        _ = x := hx.symm
    case neg =>
      left
      omega

/-! ## Fractions and rationals -/

/-- The nearest integer to a value below `2^53` in magnitude is at most `2^53`. -/
theorem nearestInt_le_two_pow {y : ℚ} (h : y < 2 ^ 53) : nearestInt y ≤ 2 ^ 53 := by
  have hmono := nearestInt_mono h.le
  rwa [nearestInt_two_pow] at hmono

/-- The double built from a fraction is the rounding of its value, with the sign it is given. -/
theorem ofFloat?_ofFrac (neg : Bool) (num : Nat) {den : Nat} (hd : 0 < den) :
    Extended.ofFloat? (ofFrac neg num den) =
      some (packed (if neg then -roundNearest ((num : ℚ) / den) else roundNearest ((num : ℚ) / den))) := by
  unfold ofFrac
  simp only [Nat.pow_eq]
  by_cases h0 : num = 0
  case pos =>
    subst h0
    rw [if_pos (by simp), ofFloat?_assemble neg (by norm_num) le_rfl (.inr rfl)]
    simp
  case neg =>
    rw [if_neg (by simp [h0, hd.ne'])]
    have hn : 0 < num := Nat.pos_of_ne_zero h0
    obtain ⟨-, hlo, hle⟩ := scaleFor_bounds hn hd
    have hunit := unit_div_eq_scaleFor hn hd
    set t := scaleFor num den
    obtain ⟨hd₀, hval⟩ := shiftFrac_spec num t hd
    rcases hs : shiftFrac num den t with ⟨n, d⟩
    rw [hs] at hd₀ hval
    dsimp only at hd₀ hval ⊢
    -- the rounded significand is the nearest integer to the fraction at its unit
    have hq : (n : ℚ) / d = (num : ℚ) / den / 2 ^ unit ((num : ℚ) / den) := by
      rw [hval, hunit, zpow_neg, div_inv_eq_mul]
    have hm : (roundHalfEven n d : ℤ) = nearestInt ((num : ℚ) / den / 2 ^ unit ((num : ℚ) / den)) := by
      rw [roundHalfEven_eq n hd₀, hq]
    have hround : roundNearest ((num : ℚ) / den) = (roundHalfEven n d : ℚ) * 2 ^ (-t) := by
      rw [roundNearest, ← hm, hunit]
      rfl
    have hm53 : roundHalfEven n d ≤ 2 ^ 53 := by
      have h := nearestInt_le_two_pow (lt_of_abs_lt (abs_div_unit_lt ((num : ℚ) / den)))
      rw [← hm] at h
      exact_mod_cast h
    have hm52 : t < 1074 → 2 ^ 52 ≤ roundHalfEven n d := fun ht => by
      have hge : (2 : ℚ) ^ 52 ≤ (n : ℚ) / d := by rw [hval]; exact hlo ht
      have h := nearestInt_mono hge
      rw [nearestInt_two_pow, ← roundHalfEven_eq n hd₀] at h
      exact_mod_cast h
    split
    case isTrue h53 =>
      -- a carry into the next binade
      have h53' : roundHalfEven n d = 2 ^ 53 := by simpa using h53
      rw [ofFloat?_assemble neg (by norm_num) (by omega) (.inl le_rfl), hround, h53']
      have hval' : ((2 ^ 52 : Nat) : ℚ) * 2 ^ (-t + 1) = ((2 ^ 53 : Nat) : ℚ) * 2 ^ (-t) := by
        rw [zpow_add_one₀ (by norm_num)]
        push_cast
        ring
      rw [hval']
    case isFalse h53 =>
      have h53' : roundHalfEven n d < 2 ^ 53 := lt_of_le_of_ne hm53 (by simpa using h53)
      have hc : 2 ^ 52 ≤ roundHalfEven n d ∨ -t = -1074 := by
        by_cases ht : t < 1074
        · exact .inl (hm52 ht)
        · exact .inr (by omega)
      rw [ofFloat?_assemble neg h53' (by omega) hc, hround]

/-- A rational converts to the double nearest it, or to the infinity of its sign from `2^1024`
on in magnitude. -/
theorem ofFloat?_ofRat (q : ℚ) : Extended.ofFloat? (ofRat q) = some (packed (roundNearest q)) := by
  unfold ofRat
  rw [ofFloat?_ofFrac _ _ q.den_pos]
  have habs : ((q.num.natAbs : Nat) : ℚ) / q.den = |q| := by
    rw [Nat.cast_natAbs, Int.cast_abs, ← abs_of_pos (show (0 : ℚ) < q.den by exact_mod_cast q.den_pos),
      ← abs_div, Rat.num_div_den]
  rw [habs]
  by_cases hq : q < 0
  case pos => rw [decide_eq_true hq, if_pos rfl, abs_of_neg hq, roundNearest_neg, neg_neg]
  case neg => rw [decide_eq_false hq, if_neg Bool.false_ne_true, abs_of_nonneg (not_lt.1 hq)]

end Binary64

end TransitRevenue
