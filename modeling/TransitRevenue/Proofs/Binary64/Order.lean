import Mathlib
import TransitRevenue.Proofs.Binary64.Arithmetic
/-!
The order of doubles, read on their places on the extended line.

A double unpacks to the kind of its place: a finite double to a canonical significand and
exponent of its value (`denotes_unpack`), an infinity to the infinity of its sign, and NaN to NaN
(`unpacks`). The model compares unpacked doubles by sign, then exponent, then significand; on
canonical forms that is the order of their values (`compare_canonical`), so two doubles compare as
their places do, and not at all when one is NaN (`compare_unpack`). Hence `x < y` and `x ≤ y` are
the comparisons of the places (`lt_iff_extended`, `le_iff_extended`), of the values for finite
doubles (`lt_iff_of_finite`, `le_iff_of_finite`), and a double between two finite ones is finite
(`finite_of_le_of_le`). A double above zero is positive or the positive infinity, which absorbs
any finite double added to it (`posInf_or_pos_of_zero_lt`, `ofFloat?_add_posInf`).
-/

namespace TransitRevenue

namespace Binary64

open Float.Model UnpackedFloat

/-! ## Infinities and NaN unpacked -/

section Top

variable {x : Float}

/-- A word whose exponent field is all ones unpacks to the infinity of its sign bit, or to NaN
when its fraction is not zero. -/
theorem unpack_of_exponent_top (h : x.toBits.toNat / 2 ^ 52 % 2 ^ 11 = 2047) :
    x.toModel.unpack = if x.toBits.toNat % 2 ^ 52 = 0 then
      .infinity (if x.toBits.toNat / 2 ^ 63 % 2 = 1 then .negative else .positive) else .notANumber := by
  set b := x.toModel.toBits.toBitVec with hb
  have hB : b.toNat = x.toBits.toNat := rfl
  have hE := toNat_unpackExponent b
  have hM := toNat_unpackMantissa b
  have hS := toNat_unpackSign b
  rw [hB] at hE hM hS
  unfold Float.Model.unpack UnpackedFloat.unpack
  dsimp only
  rw [← hb]
  have htop : @unpackExponent Format.binary64 b = -1#_ := BitVec.eq_of_toNat_eq (by rw [hE, h]; rfl)
  rw [if_pos htop]
  by_cases hM0 : x.toBits.toNat % 2 ^ 52 = 0
  case pos =>
    have hzero : @unpackMantissa Format.binary64 b = 0#_ := BitVec.eq_of_toNat_eq (by rw [hM, hM0]; rfl)
    rw [if_pos hzero, if_pos hM0]
    congr 1
    split_ifs with hs
    · exact ofBitVec_eq_negative.2 (hS.trans hs)
    · cases hsign : Sign.ofBitVec (@unpackSign Format.binary64 b)
      case negative => exact absurd (hS.symm.trans (ofBitVec_eq_negative.1 hsign)) hs
      case positive => rfl
  case neg =>
    have hne : @unpackMantissa Format.binary64 b ≠ 0#_ := fun h' => hM0 (by rw [← hM, h']; rfl)
    rw [if_neg hne, if_neg hM0]

theorem unpack_of_decode_infinite {neg : Bool} (hd : decode x = .infinite neg) :
    x.toModel.unpack = .infinity (if neg then .negative else .positive) := by
  unfold decode at hd
  simp only [Nat.pow_eq] at hd
  split at hd
  case isFalse => split at hd <;> cases hd
  case isTrue htop =>
    split at hd
    case isFalse => cases hd
    case isTrue hzero =>
      simp only [Binary64.infinite.injEq] at hd
      rw [unpack_of_exponent_top (by simpa using htop), if_pos (by simpa using hzero), ← hd]
      simp

theorem unpack_of_decode_nan (hd : decode x = .nan) : x.toModel.unpack = .notANumber := by
  unfold decode at hd
  simp only [Nat.pow_eq] at hd
  split at hd
  case isFalse => split at hd <;> cases hd
  case isTrue htop =>
    split at hd
    case isTrue => cases hd
    case isFalse hfrac => rw [unpack_of_exponent_top (by simpa using htop), if_neg (by simpa using hfrac)]

end Top

/-- Where an unpacked double lies on the extended line: a finite one at its value, an infinity at
the infinity of its sign, NaN nowhere. -/
def Unpacks : Option Extended → UnpackedFloat → Prop
  | some (.finite a), u => Denotes a u
  | some .posInf, u => u = .infinity .positive
  | some .negInf, u => u = .infinity .negative
  | none, u => u = .notANumber

theorem unpacks (x : Float) : Unpacks (Extended.ofFloat? x) x.toModel.unpack := by
  rcases hd : decode x with ⟨neg, m, e⟩ | neg | _
  case finite =>
    have h := ofFloat?_of_decode hd
    rw [h]
    exact denotes_unpack h
  case infinite =>
    have h : Extended.ofFloat? x = some (if neg then .negInf else .posInf) := by
      simp [Extended.ofFloat?, hd]
    rw [h, unpack_of_decode_infinite hd]
    cases neg <;> rfl
  case nan =>
    have h : Extended.ofFloat? x = none := by simp [Extended.ofFloat?, hd]
    rw [h, unpack_of_decode_nan hd]
    rfl

/-! ## Comparing unpacked doubles -/

/-- Of two canonical forms, the one with the larger exponent is normal and has the larger value. -/
theorem value_lt_of_exponent_lt {m₁ m₂ : Nat} {e₁ e₂ : Int} (h₁ : Canonical m₁ e₁) (h₂ : Canonical m₂ e₂)
    (he : e₁ < e₂) : (m₁ : ℚ) * 2 ^ e₁ < m₂ * 2 ^ e₂ := by
  have hnormal : 2 ^ 52 ≤ m₂ := by
    by_contra hlt
    have := h₂.subnormal (by omega)
    have := h₁.le
    omega
  calc (m₁ : ℚ) * 2 ^ e₁ < 2 ^ 53 * 2 ^ e₁ :=
        mul_lt_mul_of_pos_right (by exact_mod_cast h₁.lt) (zpow_pos (by norm_num) _)
    _ = 2 ^ 52 * 2 ^ (e₁ + 1) := by rw [zpow_add_one₀ (by norm_num)]; ring
    _ ≤ m₂ * 2 ^ e₂ := mul_le_mul (by exact_mod_cast hnormal) (zpow_le_zpow_right₀ (by norm_num) (by omega))
        (by positivity) (by positivity)

/-- The ordering of two rationals, as the extended line orders them. -/
theorem compare_finite (a b : ℚ) :
    Extended.compare (.finite a) (.finite b) = if a < b then .lt else if b < a then .gt else .eq := rfl

/-- Canonical forms are ordered as their values: by exponent first, then by significand. -/
theorem compare_canonical {m₁ m₂ : Nat} {e₁ e₂ : Int} (h₁ : Canonical m₁ e₁) (h₂ : Canonical m₂ e₂) :
    (compare e₁ e₂).then (compare m₁ m₂) =
      Extended.compare (.finite ((m₁ : ℚ) * 2 ^ e₁)) (.finite ((m₂ : ℚ) * 2 ^ e₂)) := by
  rw [compare_finite]
  rcases lt_trichotomy e₁ e₂ with he | rfl | he
  case inl =>
    rw [compare_lt_iff_lt.2 he, if_pos (value_lt_of_exponent_lt h₁ h₂ he)]
    rfl
  case inr.inr =>
    have hlt := value_lt_of_exponent_lt h₂ h₁ he
    rw [compare_gt_iff_gt.2 he, if_neg (not_lt.2 hlt.le), if_pos hlt]
    rfl
  case inr.inl =>
    have hpow : (0 : ℚ) < 2 ^ e₁ := zpow_pos (by norm_num) _
    rw [compare_eq_iff_eq.2 rfl]
    rcases lt_trichotomy m₁ m₂ with hm | rfl | hm
    · rw [compare_lt_iff_lt.2 hm, if_pos (mul_lt_mul_of_pos_right (by exact_mod_cast hm) hpow)]
      rfl
    · rw [compare_eq_iff_eq.2 rfl, if_neg (lt_irrefl _), if_neg (lt_irrefl _)]
      rfl
    · rw [compare_gt_iff_gt.2 hm, if_neg (not_lt.2 (mul_lt_mul_of_pos_right (by exact_mod_cast hm) hpow).le),
        if_pos (mul_lt_mul_of_pos_right (by exact_mod_cast hm) hpow)]
      rfl

theorem compare_nan_right (u : UnpackedFloat) : u.compare .notANumber = none := by
  cases u <;> rfl

section Denotes

variable {a b : ℚ} {u v : UnpackedFloat}

/-- A finite double's unpacked form is a zero or a finite significand, never an infinity or NaN. -/
theorem denotes_cases (hu : Denotes a u) :
    (∃ s, u = .zero s ∧ a = 0) ∨ ∃ s m e hm, u = .finite s m e hm ∧ signed s (m * 2 ^ e) = a ∧ Canonical m e := by
  cases u with
  | zero s => exact .inl ⟨s, rfl, hu⟩
  | finite s m e hm => exact .inr ⟨s, m, e, hm, rfl, hu⟩
  | infinity _ => exact hu.elim
  | notANumber => exact hu.elim

theorem compare_of_denotes (hu : Denotes a u) (hv : Denotes b v) :
    u.compare v = some (Extended.compare (.finite a) (.finite b)) := by
  rw [compare_finite]
  rcases denotes_cases hu with ⟨s₁, rfl, rfl⟩ | ⟨s₁, m₁, e₁, hm₁, rfl, rfl, hc₁⟩ <;>
    rcases denotes_cases hv with ⟨s₂, rfl, rfl⟩ | ⟨s₂, m₂, e₂, hm₂, rfl, rfl, hc₂⟩
  case inl.inl => simp [UnpackedFloat.compare]
  case inl.inr =>
    have hpos : (0 : ℚ) < m₂ * 2 ^ e₂ := by positivity
    cases s₂ <;> simp [UnpackedFloat.compare, signed, hpos, not_lt.2 hpos.le]
  case inr.inl =>
    have hpos : (0 : ℚ) < m₁ * 2 ^ e₁ := by positivity
    cases s₁ <;> simp [UnpackedFloat.compare, signed, hpos, not_lt.2 hpos.le]
  case inr.inr =>
    have hpos₁ : (0 : ℚ) < m₁ * 2 ^ e₁ := by positivity
    have hpos₂ : (0 : ℚ) < m₂ * 2 ^ e₂ := by positivity
    have hcan := compare_canonical hc₁ hc₂
    rw [compare_finite] at hcan
    cases s₁ <;> cases s₂
    case positive.positive =>
      simp only [UnpackedFloat.compare, signed, hcan]
      rfl
    case negative.negative =>
      simp only [UnpackedFloat.compare, signed, hcan, neg_lt_neg_iff]
      rcases lt_trichotomy ((m₁ : ℚ) * 2 ^ e₁) (m₂ * 2 ^ e₂) with h | h | h
      · simp [h, not_lt.2 h.le]
      · simp [h]
      · simp [h, not_lt.2 h.le]
    case positive.negative =>
      have h1 : ¬ (m₁ : ℚ) * 2 ^ e₁ < -(m₂ * 2 ^ e₂) := by linarith
      have h2 : -((m₂ : ℚ) * 2 ^ e₂) < m₁ * 2 ^ e₁ := by linarith
      simp [UnpackedFloat.compare, signed, h1, h2]
    case negative.positive =>
      have h1 : -((m₁ : ℚ) * 2 ^ e₁) < m₂ * 2 ^ e₂ := by linarith
      simp [UnpackedFloat.compare, signed, h1]

end Denotes

theorem compare_of_unpacks {a b : Extended} {u v : UnpackedFloat} (hu : Unpacks (some a) u)
    (hv : Unpacks (some b) v) : u.compare v = some (a.compare b) := by
  cases a <;> cases b <;> simp only [Unpacks] at hu hv
  case finite.finite a b => exact compare_of_denotes hu hv
  all_goals
    first
    | (subst hu hv; rfl)
    | (subst hu; rcases denotes_cases hv with ⟨_, rfl, -⟩ | ⟨_, _, _, _, rfl, -⟩ <;> rfl)
    | (subst hv; rcases denotes_cases hu with ⟨_, rfl, -⟩ | ⟨_, _, _, _, rfl, -⟩ <;> rfl)

/-! ## Comparing doubles -/

/-- Two doubles compare as their places on the extended line, and not at all when one is NaN. -/
theorem compare_unpack (x y : Float) :
    x.toModel.unpack.compare y.toModel.unpack =
      (Extended.ofFloat? x).bind fun a => (Extended.ofFloat? y).map a.compare := by
  have hu := unpacks x
  have hv := unpacks y
  rcases hx : Extended.ofFloat? x with _ | a <;> rcases hy : Extended.ofFloat? y with _ | b <;>
    rw [hx] at hu <;> rw [hy] at hv
  case none.none => rw [show x.toModel.unpack = .notANumber from hu]; rfl
  case none.some => rw [show x.toModel.unpack = .notANumber from hu]; rfl
  case some.none => rw [show y.toModel.unpack = .notANumber from hv, compare_nan_right]; rfl
  case some.some => rw [compare_of_unpacks hu hv]; rfl

theorem lt_iff_extended {x y : Float} :
    x < y ↔ ∃ a b, Extended.ofFloat? x = some a ∧ Extended.ofFloat? y = some b ∧ a.compare b = .lt := by
  show decide (x.toModel < y.toModel) = true ↔ _
  rw [decide_eq_true_iff]
  show (UnpackedFloat.compare x.toModel.unpack y.toModel.unpack == some .lt) = true ↔ _
  rw [compare_unpack]
  rcases Extended.ofFloat? x with _ | a <;> rcases Extended.ofFloat? y with _ | b <;> simp

theorem le_iff_extended {x y : Float} :
    x ≤ y ↔ ∃ a b, Extended.ofFloat? x = some a ∧ Extended.ofFloat? y = some b ∧ (a.compare b).isLE = true := by
  show decide (x.toModel ≤ y.toModel) = true ↔ _
  rw [decide_eq_true_iff]
  show (UnpackedFloat.compare x.toModel.unpack y.toModel.unpack).any (·.isLE) = true ↔ _
  rw [compare_unpack]
  rcases Extended.ofFloat? x with _ | a <;> rcases Extended.ofFloat? y with _ | b <;> simp

/-- A double above zero is the positive infinity or has a positive value. -/
theorem posInf_or_pos_of_zero_lt {x : Float} (h : (0.0 : Float) < x) :
    Extended.ofFloat? x = some .posInf ∨ ∃ a, Extended.ofFloat? x = some (.finite a) ∧ 0 < a := by
  obtain ⟨z, b, hz, hb, hc⟩ := lt_iff_extended.1 h
  rw [ofFloat?_of_decode (by rfl : decode (0.0 : Float) = .finite false 0 (-1074))] at hz
  cases hz
  cases b with
  | negInf => simp [Extended.compare] at hc
  | posInf => exact .inl hb
  | finite a =>
    refine .inr ⟨a, hb, ?_⟩
    rw [compare_finite] at hc
    split_ifs at hc with h1 <;> simp_all

/-- The positive infinity plus a finite double is the positive infinity. -/
theorem ofFloat?_add_posInf {x y : Float} {b : ℚ} (hx : Extended.ofFloat? x = some .posInf)
    (hy : Extended.ofFloat? y = some (.finite b)) : Extended.ofFloat? (x + y) = some .posInf := by
  have hu : x.toModel.unpack = .infinity .positive := by
    have h := unpacks x
    rwa [hx] at h
  have hv := denotes_unpack hy
  show Extended.ofFloat? (Float.ofModel (Float.Model.pack
    (UnpackedFloat.add Format.binary64 x.toModel.unpack y.toModel.unpack))) = _
  rw [hu]
  cases h : y.toModel.unpack with
  | zero s => cases s <;> rfl
  | finite s m e hm => simp only [UnpackedFloat.add]; rfl
  | infinity s => rw [h] at hv; exact hv.elim
  | notANumber => rw [h] at hv; exact hv.elim

section Finite

variable {x y : Float} {a b : ℚ}

theorem lt_iff_of_finite (hx : Extended.ofFloat? x = some (.finite a)) (hy : Extended.ofFloat? y = some (.finite b)) :
    x < y ↔ a < b := by
  rw [lt_iff_extended, hx, hy]
  simp only [Option.some.injEq, exists_and_left, exists_eq_left', compare_finite]
  split_ifs with h h' <;> simp [h]

theorem le_iff_of_finite (hx : Extended.ofFloat? x = some (.finite a)) (hy : Extended.ofFloat? y = some (.finite b)) :
    x ≤ y ↔ a ≤ b := by
  rw [le_iff_extended, hx, hy]
  simp only [Option.some.injEq, exists_and_left, exists_eq_left', compare_finite]
  split_ifs with h h'
  · simp [h.le]
  · simp [not_le.2 h']
  · simp [le_of_not_gt h']

/-- A double at least one finite double and at most another is finite, its value between
theirs. -/
theorem finite_of_le_of_le {lo hi : Float} {l h : ℚ} (hl : Extended.ofFloat? lo = some (.finite l))
    (hh : Extended.ofFloat? hi = some (.finite h)) (h₁ : lo ≤ x) (h₂ : x ≤ hi) :
    ∃ a, Extended.ofFloat? x = some (.finite a) ∧ l ≤ a ∧ a ≤ h := by
  rw [le_iff_extended] at h₁ h₂
  obtain ⟨l', c, hl', hc, hlc⟩ := h₁
  obtain ⟨c', h', hc', hh', hch⟩ := h₂
  rw [hl] at hl'
  rw [hh] at hh'
  rw [hc] at hc'
  cases hl'
  cases hh'
  cases hc'
  cases c with
  | negInf => simp [Extended.compare] at hlc
  | posInf => simp [Extended.compare] at hch
  | finite a =>
    refine ⟨a, hc, ?_, ?_⟩
    · rw [compare_finite] at hlc
      split_ifs at hlc with h1 h2 <;> simp at hlc <;> linarith
    · rw [compare_finite] at hch
      split_ifs at hch with h1 h2 <;> simp at hch <;> linarith

end Finite

end Binary64

end TransitRevenue
