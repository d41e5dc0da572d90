import Mathlib
import TransitRevenue.Proofs.Number
import TransitRevenue.Proofs.Binary64.Order
/-!
The order of numbers as a linear order.

Numbers compare by their places on the extended line (`Extended.compare`), NaN having none.
Sending a place into `WithBot (WithTop ℚ)` (`Extended.rank`: negative infinity to `⊥`, a value to
itself, positive infinity to `⊤`) turns that comparison into the order there
(`compare_eq_lt_iff`, `isLE_compare_iff`), so comparisons of numbers chain (`Number.le_trans`,
`Number.lt_of_le_of_lt`), a clamp lands at `lo ⊔ (hi ⊓ p)` (`Number.rank_clamp`) and packing a
rounded value keeps its order (`rank_packed_le`). Between two doubles the exact comparisons are
those of IEEE 754 (`Number.lt_float`, `Number.le_float`), and a double is at or above zero, below
it, or NaN (`Binary64.sign_cases`).
-/

namespace TransitRevenue

namespace Extended

/-- A place on the extended line as an element of `WithBot (WithTop ℚ)`. -/
def rank : Extended → WithBot (WithTop ℚ)
  | .negInf => ⊥
  | .finite q => ((q : WithTop ℚ) : WithBot (WithTop ℚ))
  | .posInf => ((⊤ : WithTop ℚ) : WithBot (WithTop ℚ))

@[simp] theorem rank_finite (q : ℚ) : (finite q).rank = ((q : WithTop ℚ) : WithBot (WithTop ℚ)) := rfl

theorem compare_eq_lt_iff (a b : Extended) : a.compare b = .lt ↔ a.rank < b.rank := by
  cases a <;> cases b <;> simp [compare, rank]
  case finite.posInf q => exact WithBot.coe_lt_coe.2 (WithTop.coe_lt_top q)

theorem isLE_compare_iff (a b : Extended) : (a.compare b).isLE = true ↔ a.rank ≤ b.rank := by
  cases a <;> cases b <;> simp [compare, rank]
  case finite.finite p q =>
    split_ifs with h h'
    · simp [h.le]
    · simp [not_le.2 h']
    · simp [not_lt.1 h']

theorem rank_injective : Function.Injective rank := by
  intro a b h
  cases a <;> cases b <;> simp_all [rank]

/-- A place ranked between two values is a value between them. -/
theorem finite_of_rank_between {a : Extended} {l u : ℚ} (hl : (finite l).rank ≤ a.rank)
    (hu : a.rank ≤ (finite u).rank) : ∃ q, a = .finite q ∧ l ≤ q ∧ q ≤ u := by
  cases a <;> simp_all [rank]

end Extended

namespace Binary64

/-- Beyond the range of doubles a value lies at least `2^1024` away from zero, on its side. -/
theorem bounds_of_not_abs_lt {x : ℚ} (hx : ¬|x| < 2 ^ 1024) :
    (0 < x → 2 ^ 1024 ≤ x) ∧ (¬0 < x → x ≤ -2 ^ 1024) := by
  rw [not_lt] at hx
  constructor
  · intro h0
    rwa [abs_of_pos h0] at hx
  · intro h0
    rw [abs_of_nonpos (not_lt.1 h0)] at hx
    linarith

/-- Packing a rounded value keeps the order of values. -/
theorem rank_packed_le {a b : ℚ} (h : a ≤ b) : (packed a).rank ≤ (packed b).rank := by
  by_cases ha : |a| < 2 ^ 1024
  · by_cases hb : |b| < 2 ^ 1024
    · simpa [packed, ha, hb, Extended.rank] using h
    · -- `b` lies beyond the range and above `a`, so on the positive side
      have hb0 : 0 < b := by
        by_contra hb0
        linarith [(abs_lt.1 ha).1, (bounds_of_not_abs_lt hb).2 hb0]
      simp [packed, ha, hb, hb0, Extended.rank]
  · by_cases ha0 : 0 < a
    · have hb : ¬|b| < 2 ^ 1024 := fun hb => by
        linarith [(bounds_of_not_abs_lt ha).1 ha0, (abs_lt.1 hb).2]
      simp [packed, ha, ha0, hb, ha0.trans_le h, Extended.rank]
    · simp [packed, ha, ha0, Extended.rank]

end Binary64

namespace Number

variable {a b c : Number}

theorem lt_iff_rank : a.lt b = true ↔
    ∃ x y, a.extended? = some x ∧ b.extended? = some y ∧ x.rank < y.rank := by
  rcases ha : a.extended? with _ | x <;> rcases hb : b.extended? with _ | y <;>
    simp [lt, compare?, ha, hb, Extended.compare_eq_lt_iff]

theorem le_iff_rank : a.le b = true ↔
    ∃ x y, a.extended? = some x ∧ b.extended? = some y ∧ x.rank ≤ y.rank := by
  simp only [← Extended.isLE_compare_iff]
  rcases ha : a.extended? with _ | x <;> rcases hb : b.extended? with _ | y <;>
    simp [le, compare?, ha, hb]
  rcases x.compare y <;> simp

theorem le_trans (hab : a.le b = true) (hbc : b.le c = true) : a.le c = true := by
  obtain ⟨x, y, hx, hy, hxy⟩ := le_iff_rank.1 hab
  obtain ⟨y', z, hy', hz, hyz⟩ := le_iff_rank.1 hbc
  rw [hy] at hy'
  cases hy'
  exact le_iff_rank.2 ⟨x, z, hx, hz, hxy.trans hyz⟩

theorem lt_of_le_of_lt (hab : a.le b = true) (hbc : b.lt c = true) : a.lt c = true := by
  obtain ⟨x, y, hx, hy, hxy⟩ := le_iff_rank.1 hab
  obtain ⟨y', z, hy', hz, hyz⟩ := lt_iff_rank.1 hbc
  rw [hy] at hy'
  cases hy'
  exact lt_iff_rank.2 ⟨x, z, hx, hz, hxy.trans_lt hyz⟩

theorem le_refl_of {x : Extended} (ha : a.extended? = some x) : a.le a = true :=
  le_iff_rank.2 ⟨x, x, ha, ha, le_rfl⟩

/-- On doubles, `lt` is the comparison of IEEE 754. -/
theorem lt_float (x y : Float) : (Number.float x).lt (.float y) = decide (x < y) := by
  rw [Bool.eq_iff_iff, decide_eq_true_iff, Binary64.lt_iff_extended]
  simp only [lt, compare?, extended?_float, beq_iff_eq]
  rcases Extended.ofFloat? x with _ | a <;> rcases Extended.ofFloat? y with _ | b <;> simp

/-- On doubles, `le` is the comparison of IEEE 754. -/
theorem le_float (x y : Float) : (Number.float x).le (.float y) = decide (x ≤ y) := by
  rw [Bool.eq_iff_iff, decide_eq_true_iff, Binary64.le_iff_extended]
  simp only [le, compare?, extended?_float]
  rcases Extended.ofFloat? x with _ | a <;> rcases Extended.ofFloat? y with _ | b <;> simp
  rcases Extended.compare a b <;> simp

/-- A clamp between ordered bounds lands at `lo ⊔ (hi ⊓ p)`. -/
theorem rank_clamp {p lo hi : Number} {x l h : Extended} (hp : p.extended? = some x)
    (hl : lo.extended? = some l) (hh : hi.extended? = some h) (hlh : l.rank ≤ h.rank) :
    ∃ y, (clamp p lo hi).extended? = some y ∧ y.rank = l.rank ⊔ (h.rank ⊓ x.rank) := by
  have hlt : ∀ {a b : Number} {u v : Extended}, a.extended? = some u → b.extended? = some v →
      (a.lt b = true ↔ u.rank < v.rank) := by
    intro a b u v ha hb
    rw [lt_iff_rank, ha, hb]
    simp
  unfold clamp max min
  by_cases h₁ : p.lt hi = true
  · have hxh := (hlt hp hh).1 h₁
    rw [if_pos h₁]
    by_cases h₂ : lo.lt p = true
    · rw [if_pos h₂]
      exact ⟨x, hp, by rw [inf_eq_right.2 hxh.le, sup_eq_right.2 ((hlt hl hp).1 h₂).le]⟩
    · rw [if_neg h₂]
      have hxl : x.rank ≤ l.rank := not_lt.1 fun h' => h₂ ((hlt hl hp).2 h')
      exact ⟨l, hl, by rw [inf_eq_right.2 hxh.le, sup_eq_left.2 hxl]⟩
  · rw [if_neg h₁]
    have hhx : h.rank ≤ x.rank := not_lt.1 fun h' => h₁ ((hlt hp hh).2 h')
    by_cases h₂ : lo.lt hi = true
    · rw [if_pos h₂]
      exact ⟨h, hh, by rw [inf_eq_left.2 hhx, sup_eq_right.2 hlh]⟩
    · rw [if_neg h₂]
      have hhl : h.rank ≤ l.rank := not_lt.1 fun h' => h₂ ((hlt hl hh).2 h')
      exact ⟨l, hl, by rw [inf_eq_left.2 hhx, sup_eq_left.2 hhl]⟩

end Number

namespace Binary64

theorem isNaN_iff_ofFloat? {x : Float} : isNaN x = true ↔ Extended.ofFloat? x = none := by
  rw [← Number.extended?_eq_none_iff, Number.extended?_float]

theorem isNaN_of_ofFloat? {x : Float} {a : Extended} (h : Extended.ofFloat? x = some a) :
    isNaN x = false := by
  cases hn : isNaN x
  case false => rfl
  case true => rw [isNaN_iff_ofFloat?.1 hn] at h; cases h

/-- A double lies at or above zero, below it, or is NaN, and only one of these. -/
theorem sign_cases (p : Float) :
    (0.0 ≤ p ∧ ¬p < 0.0 ∧ isNaN p = false) ∨ (¬0.0 ≤ p ∧ p < 0.0 ∧ isNaN p = false) ∨
      (¬0.0 ≤ p ∧ ¬p < 0.0 ∧ isNaN p = true) := by
  have h0 : Extended.ofFloat? 0.0 = some (.finite 0) := ofFloat?_of_beq_zero (by decide)
  rcases hp : Extended.ofFloat? p with _ | a
  case none =>
    right; right
    simp [lt_iff_extended, le_iff_extended, hp, isNaN_iff_ofFloat?]
  have hn := isNaN_of_ofFloat? hp
  cases a with
  | negInf =>
    right; left
    simp [lt_iff_extended, le_iff_extended, hp, h0, hn, Extended.compare]
  | posInf =>
    left
    simp [lt_iff_extended, le_iff_extended, hp, h0, hn, Extended.compare]
  | finite a =>
    rcases lt_or_ge a 0 with ha | ha
    · right; left
      simp [lt_iff_extended, le_iff_extended, hp, h0, hn, compare_finite, ha, not_lt.2 ha.le]
    · left
      simp [lt_iff_extended, le_iff_extended, hp, h0, hn, compare_finite, not_lt.2 ha]
      split_ifs <;> rfl

end Binary64

end TransitRevenue
