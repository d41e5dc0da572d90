import Mathlib
import TransitRevenue.Proofs.Number.Sum
import TransitRevenue.Proofs.Binary64.Rational
/-!
Sums of small integers in doubles are exact.

A double `x` is a `Tally` of weight `w` when it holds the integer `intPart x` exactly, that integer
is at most `w` in magnitude, and a zero is the positive zero. Adding two tallies whose weights
are at most `2^53` together rounds nothing, and a sum that is exactly zero is the positive zero
(`Tally.add`): the weights add up. Every order of summation adds up disjoint parts of the terms,
so the weight of all terms, the sum of their magnitudes, bounds each addition: left to right
(`Tally.sumFrom`), in eight lanes (`Tally.laneSum`), and in pairwise order (`Tally.pairwiseSum`).
A non-empty column of integers of weight at most `2^53` therefore sums to its exact total, and
pairwise summation agrees with the plain left-to-right sum (`pairwiseSum_eq_sumFrom`).
-/

namespace TransitRevenue

namespace Binary64

open Float.Model UnpackedFloat

/-! ## Zeros -/

theorem ofFloat?_negZero : Extended.ofFloat? (-0.0 : Float) = some (.finite 0) := by
  rw [ofFloat?_of_decode (by rfl : decode (-0.0 : Float) = .finite true 0 (-1074))]
  simp

/-- Two doubles of opposite values other than zero add to the positive zero: their significands
cancel exactly, and an exact zero sum takes the positive sign. -/
theorem add_eq_zero_of_neg {x y : Float} {a : ℚ} (hx : Extended.ofFloat? x = some (.finite a))
    (hy : Extended.ofFloat? y = some (.finite (-a))) (ha : a ≠ 0) : x + y = 0 := by
  have hu := denotes_unpack hx
  have hv := denotes_unpack hy
  change Float.ofModel (Float.Model.pack (UnpackedFloat.add Format.binary64 x.toModel.unpack y.toModel.unpack)) = 0
  cases hxu : x.toModel.unpack with
  | zero s => rw [hxu] at hu; exact absurd hu ha
  | infinity s => rw [hxu] at hu; exact hu.elim
  | notANumber => rw [hxu] at hu; exact hu.elim
  | finite s₁ m₁ e₁ h₁ =>
    cases hyu : y.toModel.unpack with
    | zero s => rw [hyu] at hv; exact absurd (neg_eq_zero.1 hv) ha
    | infinity s => rw [hyu] at hv; exact hv.elim
    | notANumber => rw [hyu] at hv; exact hv.elim
    | finite s₂ m₂ e₂ h₂ =>
      rw [hxu] at hu
      rw [hyu] at hv
      -- widened to the smaller exponent, the significands cancel
      have hval : (((s₁.apply (decreaseExponent m₁ e₁ (min e₁ e₂)).1 +
          s₂.apply (decreaseExponent m₂ e₂ (min e₁ e₂)).1 : ℤ) : ℚ)) * 2 ^ min e₁ e₂ = 0 := by
        rw [Int.cast_add, add_mul, value_decreaseExponent s₁ m₁ (min_le_left _ _),
          value_decreaseExponent s₂ m₂ (min_le_right _ _), hu.1, hv.1, add_neg_cancel]
      have hn : s₁.apply (decreaseExponent m₁ e₁ (min e₁ e₂)).1 +
          s₂.apply (decreaseExponent m₂ e₂ (min e₁ e₂)).1 = 0 := by
        exact_mod_cast (mul_eq_zero.1 hval).resolve_right (zpow_ne_zero _ (by norm_num))
      change Float.ofModel (Float.Model.pack (normalize Format.binary64
        (s₁.apply (decreaseExponent m₁ e₁ (min e₁ e₂)).1 +
          s₂.apply (decreaseExponent m₂ e₂ (min e₁ e₂)).1) (min e₁ e₂) .positive)) = 0
      rw [hn]
      rfl

/-- The positive zero over a double of positive value is the positive zero. -/
theorem zero_div_of_pos {y : Float} {b : ℚ} (hy : Extended.ofFloat? y = some (.finite b)) (hb : 0 < b) :
    0 / y = 0 := by
  have hv := denotes_unpack hy
  change Float.ofModel (Float.Model.pack
    (UnpackedFloat.div Format.binary64 (0 : Float).toModel.unpack y.toModel.unpack)) = 0
  rw [unpack_zero]
  cases hyu : y.toModel.unpack with
  | zero s => rw [hyu] at hv; exact absurd hv hb.ne'
  | infinity s => rw [hyu] at hv; exact hv.elim
  | notANumber => rw [hyu] at hv; exact hv.elim
  | finite s m e h =>
    rw [hyu] at hv
    cases s with
    | positive => rfl
    | negative =>
      -- a negative significand has a value below zero
      have hneg : signed .negative ((m : ℚ) * 2 ^ e) = b := hv.1
      have : (0 : ℚ) ≤ m * 2 ^ e := by positivity
      rw [signed] at hneg
      linarith

/-- A value at most `2^53` in magnitude packs to itself. -/
theorem packed_of_abs_le {a : ℚ} (h : |a| ≤ 2 ^ 53) : packed a = .finite a :=
  packed_of_lt (h.trans_lt (pow_lt_pow_right₀ (by norm_num) (by norm_num)))

/-- An integer at most `2^53` in magnitude is a double: it rounds, and packs, to itself. -/
theorem packed_roundNearest_intCast {n : ℤ} (h : n.natAbs ≤ 2 ^ 53) : packed (roundNearest n) = .finite n := by
  have habs : |(n : ℚ)| ≤ 2 ^ 53 := by
    rw [← Int.cast_abs, Int.abs_eq_natAbs]
    exact_mod_cast h
  have hrep : Representable (n : ℚ) := by
    simpa using representable_of_abs_le (n := n) (by exact_mod_cast habs) (k := 0) (by norm_num)
  rw [roundNearest_of_representable hrep, packed_of_abs_le habs]

/-! ## Doubles holding integers -/

/-- The integer a double holds: the floor of its value, and zero for an infinity or NaN. -/
def intPart (x : Float) : ℤ :=
  match Extended.ofFloat? x with
  | some (.finite a) => ⌊a⌋
  | _ => 0

theorem intPart_of_ofFloat? {x : Float} {n : ℤ} (h : Extended.ofFloat? x = some (.finite n)) : intPart x = n := by
  simp [intPart, h]

/-- A double holding an integer exactly, of magnitude at most the weight `w`, and the positive
zero when that integer is zero. -/
structure Tally (x : Float) (w : ℕ) : Prop where
  value : Extended.ofFloat? x = some (.finite (intPart x))
  natAbs_le : (intPart x).natAbs ≤ w
  pos_zero : intPart x = 0 → x = 0

/-- The exact total of the integers that a list of doubles holds. -/
def intTotal (xs : List Float) : ℤ := (xs.map intPart).sum

/-- The weight of a list of doubles: the sum of the magnitudes of the integers they hold. -/
def intWeight (xs : List Float) : ℕ := (xs.map fun x => (intPart x).natAbs).sum

@[simp] theorem intTotal_nil : intTotal [] = 0 := rfl

@[simp] theorem intTotal_cons (x : Float) (xs : List Float) : intTotal (x :: xs) = intPart x + intTotal xs := by
  simp [intTotal]

@[simp] theorem intTotal_append (xs ys : List Float) : intTotal (xs ++ ys) = intTotal xs + intTotal ys := by
  simp [intTotal]

@[simp] theorem intWeight_nil : intWeight [] = 0 := rfl

@[simp] theorem intWeight_cons (x : Float) (xs : List Float) :
    intWeight (x :: xs) = (intPart x).natAbs + intWeight xs := by
  simp [intWeight]

@[simp] theorem intWeight_append (xs ys : List Float) : intWeight (xs ++ ys) = intWeight xs + intWeight ys := by
  simp [intWeight]

theorem intTotal_flatten (bs : List (List Float)) : intTotal bs.flatten = (bs.map intTotal).sum := by
  induction bs with
  | nil => rfl
  | cons b bs ih => simp [ih]

theorem intWeight_flatten (bs : List (List Float)) : intWeight bs.flatten = (bs.map intWeight).sum := by
  induction bs with
  | nil => rfl
  | cons b bs ih => simp [ih]

namespace Tally

variable {x y : Float} {w A B : ℕ}

theorem of_value {n : ℤ} (h : Extended.ofFloat? x = some (.finite n)) (hn : n.natAbs ≤ w)
    (hz : n = 0 → x = 0) : Tally x w ∧ intPart x = n := by
  have hp := intPart_of_ofFloat? h
  subst hp
  exact ⟨⟨h, hn, hz⟩, rfl⟩

theorem mono (h : Tally x A) (hAB : A ≤ B) : Tally x B := ⟨h.value, h.natAbs_le.trans hAB, h.pos_zero⟩

/-- A tally is one of its own magnitude. -/
theorem tight (h : Tally x w) : Tally x (intPart x).natAbs := ⟨h.value, le_rfl, h.pos_zero⟩

theorem zero : Tally 0 0 ∧ intPart 0 = 0 := of_value (ofFloat?_of_beq_zero (by decide)) le_rfl fun _ => rfl

/-- An integer at most `2^53` in magnitude converts to a double that holds it. -/
theorem ofRat_intCast {n : ℤ} (h : n.natAbs ≤ 2 ^ 53) : Tally (ofRat n) n.natAbs ∧ intPart (ofRat n) = n := by
  refine of_value (by rw [ofFloat?_ofRat, packed_roundNearest_intCast h]) le_rfl fun h0 => ?_
  subst h0
  decide

/-- Adding two tallies whose weights are at most `2^53` together is exact, and a sum of zero is the
positive zero. -/
theorem add (hx : Tally x A) (hy : Tally y B) (h : A + B ≤ 2 ^ 53) :
    Tally (x + y) (A + B) ∧ intPart (x + y) = intPart x + intPart y := by
  have hle : (intPart x + intPart y).natAbs ≤ A + B :=
    (Int.natAbs_add_le _ _).trans (Nat.add_le_add hx.natAbs_le hy.natAbs_le)
  have hv : Extended.ofFloat? (x + y) = some (.finite ((intPart x + intPart y : ℤ) : ℚ)) := by
    rw [ofFloat?_add hx.value hy.value, ← Int.cast_add, packed_roundNearest_intCast (hle.trans h)]
  refine of_value hv hle fun h0 => ?_
  by_cases hx0 : intPart x = 0
  case pos =>
    -- both terms are the positive zero
    rw [hx.pos_zero hx0, hy.pos_zero (by omega)]
    decide
  case neg =>
    -- opposite values cancel
    have hyv : Extended.ofFloat? y = some (.finite (-(intPart x : ℚ))) := by
      rw [hy.value, show intPart y = -intPart x by omega, Int.cast_neg]
    exact add_eq_zero_of_neg hx.value hyv (by exact_mod_cast hx0)

/-- The negative zero that a short sum starts from gives way to its first term. -/
theorem negZero_add (hx : Tally x w) (h : w ≤ 2 ^ 53) : -0.0 + x = x := by
  by_cases hx0 : intPart x = 0
  case pos =>
    rw [hx.pos_zero hx0]
    decide
  case neg =>
    have hv : Extended.ofFloat? (-0.0 + x) = some (.finite (intPart x)) := by
      rw [ofFloat?_add ofFloat?_negZero hx.value, zero_add, packed_roundNearest_intCast (hx.natAbs_le.trans h)]
    exact eq_of_ofFloat?_eq hv hx.value (by exact_mod_cast hx0)

/-- Two tallies holding the same integer are the same double. -/
theorem eq (hx : Tally x A) (hy : Tally y B) (h : intPart x = intPart y) : x = y := by
  by_cases h0 : intPart x = 0
  case pos => rw [hx.pos_zero h0, hy.pos_zero (h ▸ h0)]
  case neg =>
    have hy' : Extended.ofFloat? y = some (.finite (intPart x)) := by rw [h]; exact hy.value
    exact eq_of_ofFloat?_eq hx.value hy' (by exact_mod_cast h0)

/-! ## Sums in their orders -/

variable {xs : List Float}

/-- Left to right, each term's magnitude adds to the running weight. -/
theorem sumFrom {start : Float} (h : Tally start w) (hxs : ∀ x ∈ xs, Tally x (intPart x).natAbs)
    (hw : w + intWeight xs ≤ 2 ^ 53) :
    Tally (TransitRevenue.sumFrom start xs) (w + intWeight xs) ∧
      intPart (TransitRevenue.sumFrom start xs) = intPart start + intTotal xs := by
  induction xs generalizing start w with
  | nil => exact ⟨h, by simp [TransitRevenue.sumFrom]⟩
  | cons x xs ih =>
    rw [intWeight_cons] at hw ⊢
    obtain ⟨hs, hsv⟩ := h.add (hxs x List.mem_cons_self) (by omega)
    obtain ⟨hr, hrv⟩ := ih hs (fun y hy => hxs y (List.mem_cons_of_mem x hy)) (by omega)
    have hfold : TransitRevenue.sumFrom start (x :: xs) = TransitRevenue.sumFrom (start + x) xs := rfl
    rw [hfold, ← Nat.add_assoc]
    refine ⟨hr, ?_⟩
    rw [hrv, hsv, intTotal_cons, add_assoc]

/-- Adding a block into the lanes adds it lane by lane; no lane outweighs its two parts. -/
theorem addLanes {r b : List Float} (hr : ∀ z ∈ r, Tally z (intPart z).natAbs)
    (hb : ∀ x ∈ b, Tally x (intPart x).natAbs) (hlen : r.length = b.length)
    (hw : intWeight r + intWeight b ≤ 2 ^ 53) :
    (∀ z ∈ TransitRevenue.addLanes r b, Tally z (intPart z).natAbs) ∧
      intTotal (TransitRevenue.addLanes r b) = intTotal r + intTotal b ∧
      intWeight (TransitRevenue.addLanes r b) ≤ intWeight r + intWeight b := by
  induction r generalizing b with
  | nil =>
    cases b with
    | nil => simp [TransitRevenue.addLanes]
    | cons => simp at hlen
  | cons z r ih =>
    cases b with
    | nil => simp at hlen
    | cons x b =>
      simp only [intWeight_cons] at hw
      have hsum := (hr z List.mem_cons_self).add (hb x List.mem_cons_self) (by omega)
      obtain ⟨hl, ht, hwr⟩ := ih (fun y hy => hr y (List.mem_cons_of_mem z hy))
        (fun y hy => hb y (List.mem_cons_of_mem x hy)) (by simpa using hlen) (by omega)
      have hcons : TransitRevenue.addLanes (z :: r) (x :: b) = (z + x) :: TransitRevenue.addLanes r b := rfl
      rw [hcons]
      refine ⟨?_, ?_, ?_⟩
      · intro y hy
        rcases List.mem_cons.1 hy with rfl | hy
        · exact hsum.1.tight
        · exact hl y hy
      · rw [intTotal_cons, ht, hsum.2, intTotal_cons, intTotal_cons]
        ring
      · rw [intWeight_cons, intWeight_cons, intWeight_cons]
        have := hsum.1.natAbs_le
        omega

/-- Folding blocks of the lanes' length into the lanes adds their totals and at most their weights. -/
theorem foldl_addLanes {r : List Float} {bs : List (List Float)} (hr : ∀ z ∈ r, Tally z (intPart z).natAbs)
    (hbs : ∀ b ∈ bs, b.length = r.length ∧ ∀ x ∈ b, Tally x (intPart x).natAbs)
    (hw : intWeight r + (bs.map intWeight).sum ≤ 2 ^ 53) :
    (∀ z ∈ bs.foldl TransitRevenue.addLanes r, Tally z (intPart z).natAbs) ∧
      (bs.foldl TransitRevenue.addLanes r).length = r.length ∧
      intTotal (bs.foldl TransitRevenue.addLanes r) = intTotal r + (bs.map intTotal).sum ∧
      intWeight (bs.foldl TransitRevenue.addLanes r) ≤ intWeight r + (bs.map intWeight).sum := by
  induction bs generalizing r with
  | nil => simpa using hr
  | cons b bs ih =>
    simp only [List.map_cons, List.sum_cons] at hw
    obtain ⟨hlen, hb⟩ := hbs b List.mem_cons_self
    obtain ⟨hl, ht, hwl⟩ := addLanes hr hb hlen.symm (by omega)
    have hlen' : (TransitRevenue.addLanes r b).length = r.length := by
      simp [TransitRevenue.addLanes, hlen]
    obtain ⟨hl', hlen'', ht', hw'⟩ := ih hl (fun c hc => ⟨(hbs c (List.mem_cons_of_mem b hc)).1.trans hlen'.symm,
      (hbs c (List.mem_cons_of_mem b hc)).2⟩) (by omega)
    refine ⟨hl', hlen''.trans hlen', ?_, ?_⟩
    · rw [List.foldl_cons, ht', ht, List.map_cons, List.sum_cons]
      ring
    · rw [List.foldl_cons, List.map_cons, List.sum_cons]
      omega

end Tally

theorem flatten_blocks8 (xs : List Float) : (blocks8 xs).flatten = xs := by
  fun_induction blocks8 xs with
  | case1 xs hnil => simpa using hnil
  | case2 => simp
  | case3 xs _ _ ih => rw [List.flatten_cons, ih, List.take_append_drop]

/-- A list of a length divisible by eight splits into blocks of eight. -/
theorem length_of_mem_blocks8 {xs b : List Float} (h8 : 8 ∣ xs.length) (hb : b ∈ blocks8 xs) : b.length = 8 := by
  fun_induction blocks8 xs with
  | case1 => simp at hb
  | case2 xs hne hshort =>
    rw [List.mem_singleton] at hb
    rw [hb]
    have : xs.length ≠ 0 := by simpa using hne
    omega
  | case3 xs _ hlong ih =>
    rcases List.mem_cons.1 hb with rfl | hb
    · simp only [List.length_take]
      omega
    · exact ih (by simp only [List.length_drop]; omega) hb

namespace Tally

variable {xs : List Float}

/-- The balanced tree over eight lanes, each addition within the weight of its lanes. -/
theorem tree {z₀ z₁ z₂ z₃ z₄ z₅ z₆ z₇ : Float} {w₀ w₁ w₂ w₃ w₄ w₅ w₆ w₇ : ℕ} (h₀ : Tally z₀ w₀)
    (h₁ : Tally z₁ w₁) (h₂ : Tally z₂ w₂) (h₃ : Tally z₃ w₃) (h₄ : Tally z₄ w₄) (h₅ : Tally z₅ w₅)
    (h₆ : Tally z₆ w₆) (h₇ : Tally z₇ w₇) (hw : w₀ + w₁ + w₂ + w₃ + w₄ + w₅ + w₆ + w₇ ≤ 2 ^ 53) :
    Tally (((z₀ + z₁) + (z₂ + z₃)) + ((z₄ + z₅) + (z₆ + z₇))) (w₀ + w₁ + w₂ + w₃ + w₄ + w₅ + w₆ + w₇) ∧
      intPart (((z₀ + z₁) + (z₂ + z₃)) + ((z₄ + z₅) + (z₆ + z₇))) =
        intTotal [z₀, z₁, z₂, z₃, z₄, z₅, z₆, z₇] := by
  obtain ⟨h₀₁, e₀₁⟩ := h₀.add h₁ (by omega)
  obtain ⟨h₂₃, e₂₃⟩ := h₂.add h₃ (by omega)
  obtain ⟨h₄₅, e₄₅⟩ := h₄.add h₅ (by omega)
  obtain ⟨h₆₇, e₆₇⟩ := h₆.add h₇ (by omega)
  obtain ⟨h₀₃, e₀₃⟩ := h₀₁.add h₂₃ (by omega)
  obtain ⟨h₄₇, e₄₇⟩ := h₄₅.add h₆₇ (by omega)
  obtain ⟨h₀₇, e₀₇⟩ := h₀₃.add h₄₇ (by omega)
  refine ⟨h₀₇.mono (by omega), ?_⟩
  rw [e₀₇, e₀₃, e₄₇, e₀₁, e₂₃, e₄₅, e₆₇]
  simp only [intTotal_cons, intTotal_nil]
  ring

/-- The tree over eight lanes read by position, as the lane sum reads them. -/
theorem tree_getD {lanes : List Float} (hlen : lanes.length = 8)
    (hl : ∀ z ∈ lanes, Tally z (intPart z).natAbs) (hw : intWeight lanes ≤ 2 ^ 53) :
    Tally (((lanes.getD 0 0.0 + lanes.getD 1 0.0) + (lanes.getD 2 0.0 + lanes.getD 3 0.0)) +
        ((lanes.getD 4 0.0 + lanes.getD 5 0.0) + (lanes.getD 6 0.0 + lanes.getD 7 0.0))) (intWeight lanes) ∧
      intPart (((lanes.getD 0 0.0 + lanes.getD 1 0.0) + (lanes.getD 2 0.0 + lanes.getD 3 0.0)) +
        ((lanes.getD 4 0.0 + lanes.getD 5 0.0) + (lanes.getD 6 0.0 + lanes.getD 7 0.0))) = intTotal lanes := by
  obtain ⟨z₀, z₁, z₂, z₃, z₄, z₅, z₆, z₇, rfl⟩ :
      ∃ z₀ z₁ z₂ z₃ z₄ z₅ z₆ z₇, lanes = [z₀, z₁, z₂, z₃, z₄, z₅, z₆, z₇] := by
    rcases lanes with _ | ⟨z₀, _ | ⟨z₁, _ | ⟨z₂, _ | ⟨z₃, _ | ⟨z₄, _ | ⟨z₅, _ | ⟨z₆, _ | ⟨z₇, _ | ⟨z₈, lanes⟩⟩⟩⟩⟩⟩⟩⟩⟩ <;>
      simp at hlen
    exact ⟨z₀, z₁, z₂, z₃, z₄, z₅, z₆, z₇, rfl⟩
  simp only [List.mem_cons, List.not_mem_nil, or_false, forall_eq_or_imp, forall_eq] at hl
  obtain ⟨h₀, h₁, h₂, h₃, h₄, h₅, h₆, h₇⟩ := hl
  simp only [intWeight_cons, intWeight_nil] at hw ⊢
  simp only [List.getD_cons_zero, List.getD_cons_succ]
  obtain ⟨ht, et⟩ := tree h₀ h₁ h₂ h₃ h₄ h₅ h₆ h₇ (by omega)
  exact ⟨ht.mono (by omega), et⟩

/-- Eight to 128 terms: whole blocks of eight go into eight lanes, which the tree adds up, and the
last partial block is added left to right. -/
theorem laneSum (hxs : ∀ x ∈ xs, Tally x (intPart x).natAbs) (h8 : 8 ≤ xs.length)
    (hw : intWeight xs ≤ 2 ^ 53) :
    Tally (TransitRevenue.laneSum xs) (intWeight xs) ∧ intPart (TransitRevenue.laneSum xs) = intTotal xs := by
  unfold TransitRevenue.laneSum
  dsimp only
  set full := xs.length - xs.length % 8 with hfull
  set bs := blocks8 ((xs.take full).drop 8) with hbs
  -- the terms are the first block, the further whole blocks and the rest
  have hflat : bs.flatten = (xs.take full).drop 8 := flatten_blocks8 _
  have hsplit : xs = xs.take 8 ++ bs.flatten ++ xs.drop full :=
    calc xs = xs.take full ++ xs.drop full := (List.take_append_drop _ _).symm
      _ = (xs.take full).take 8 ++ (xs.take full).drop 8 ++ xs.drop full := by
        rw [List.take_append_drop 8 (xs.take full)]
      _ = xs.take 8 ++ bs.flatten ++ xs.drop full := by rw [List.take_take, min_eq_left (by omega), hflat]
  have hwsplit : intWeight (xs.take 8) + (bs.map intWeight).sum + intWeight (xs.drop full) = intWeight xs := by
    conv_rhs => rw [hsplit]
    rw [intWeight_append, intWeight_append, intWeight_flatten]
  have htsplit : intTotal (xs.take 8) + (bs.map intTotal).sum + intTotal (xs.drop full) = intTotal xs := by
    conv_rhs => rw [hsplit]
    rw [intTotal_append, intTotal_append, intTotal_flatten]
  have hblocks : ∀ b ∈ bs, b.length = (xs.take 8).length ∧ ∀ x ∈ b, Tally x (intPart x).natAbs := by
    intro b hb
    refine ⟨?_, fun x hx => hxs x ?_⟩
    · rw [length_of_mem_blocks8 (by simp only [List.length_drop, List.length_take]; omega) hb]
      simp only [List.length_take]
      omega
    · have hmem : x ∈ (xs.take full).drop 8 := hflat ▸ List.mem_flatten.2 ⟨b, hb, hx⟩
      exact List.mem_of_mem_take (List.mem_of_mem_drop hmem)
  obtain ⟨hl, hlen, htot, hwl⟩ :=
    foldl_addLanes (fun z hz => hxs z (List.mem_of_mem_take hz)) hblocks (by omega)
  obtain ⟨htree, etree⟩ := tree_getD (by rw [hlen, List.length_take]; omega) hl (by omega)
  -- then the last partial block, left to right
  obtain ⟨hsum, esum⟩ := htree.sumFrom (fun x (hx : x ∈ xs.drop full) => hxs x (List.mem_of_mem_drop hx))
    (by omega)
  refine ⟨hsum.mono (by omega), ?_⟩
  rw [esum, etree, htot, ← htsplit]

/-- Pairwise summation of a non-empty list is exact within a weight of `2^53`. -/
theorem pairwiseSum (hxs : ∀ x ∈ xs, Tally x (intPart x).natAbs) (hne : xs ≠ [])
    (hw : intWeight xs ≤ 2 ^ 53) :
    Tally (TransitRevenue.pairwiseSum xs) (intWeight xs) ∧
      intPart (TransitRevenue.pairwiseSum xs) = intTotal xs := by
  fun_induction TransitRevenue.pairwiseSum xs with
  | case1 xs _ =>
    -- the first term takes the place of the negative zero
    obtain ⟨x, xs, rfl⟩ := List.exists_cons_of_ne_nil hne
    have hx := hxs x List.mem_cons_self
    rw [intWeight_cons] at hw ⊢
    have hstart : TransitRevenue.sumFrom (-0.0) (x :: xs) = TransitRevenue.sumFrom x xs := by
      show TransitRevenue.sumFrom (-0.0 + x) xs = _
      rw [hx.negZero_add (by omega)]
    rw [hstart, intTotal_cons]
    exact hx.sumFrom (fun y hy => hxs y (List.mem_cons_of_mem x hy)) hw
  | case2 xs hlong hmid => exact laneSum hxs (by omega) hw
  | case3 xs hlong hlong' half m ih₁ ih₂ =>
    -- two halves, each non-empty, of weights that add up
    have hm : 0 < m ∧ m < xs.length := by
      have hhalf : half = xs.length / 2 := rfl
      have hm' : m = half - half % 8 := rfl
      omega
    have hsplit := List.take_append_drop m xs
    have hwsplit : intWeight (xs.take m) + intWeight (xs.drop m) = intWeight xs := by
      rw [← intWeight_append, hsplit]
    have htsplit : intTotal (xs.take m) + intTotal (xs.drop m) = intTotal xs := by
      rw [← intTotal_append, hsplit]
    have hlen₁ : 0 < (xs.take m).length := by rw [List.length_take]; omega
    have hlen₂ : 0 < (xs.drop m).length := by rw [List.length_drop]; omega
    obtain ⟨h₁, e₁⟩ := ih₁ (fun x hx => hxs x (List.mem_of_mem_take hx)) (List.ne_nil_of_length_pos hlen₁)
      (by omega)
    obtain ⟨h₂, e₂⟩ := ih₂ (fun x hx => hxs x (List.mem_of_mem_drop hx)) (List.ne_nil_of_length_pos hlen₂)
      (by omega)
    obtain ⟨h, e⟩ := h₁.add h₂ (by omega)
    rw [← hwsplit]
    exact ⟨h, by rw [e, e₁, e₂, htsplit]⟩

end Tally

/-- Pairwise summation of a non-empty list of doubles holding integers of weight at most `2^53`
is the plain left-to-right sum: whatever its blocks, both are the exact total. -/
theorem pairwiseSum_eq_sumFrom {xs : List Float} (hxs : ∀ x ∈ xs, Tally x (intPart x).natAbs)
    (hne : xs ≠ []) (hw : intWeight xs ≤ 2 ^ 53) : pairwiseSum xs = sumFrom 0 xs := by
  obtain ⟨hp, ep⟩ := Tally.pairwiseSum hxs hne hw
  obtain ⟨hs, es⟩ := Tally.zero.1.sumFrom hxs (by omega)
  exact hp.eq hs (by rw [ep, es, Tally.zero.2, zero_add])

end Binary64

end TransitRevenue
