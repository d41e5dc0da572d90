import Mathlib
import TransitRevenue.Number.Sum
import TransitRevenue.Proofs.Binary64.Arithmetic
/-!
How far sums of doubles can reach.

`Within nonneg e x` says that `x` is a finite double of magnitude at most `2^e`, and not below zero
when `nonneg` holds. A rounded sum of two such doubles stays finite at twice the bound
(`Within.add`), so a sum is bounded by the depth of its order of additions: left to right, one
power of two per term (`Within.sumFrom`); `laneSum`, at most 25 (`Within.laneSum`); and
`pairwiseSum`, whose halves are less than half as long past the first sixteen terms, 25 plus the
logarithm of that length (`Within.pairwiseSum`). Sums of values of one sign keep it.
-/

namespace TransitRevenue

namespace Binary64

/-- A finite double of magnitude at most `2^e`, and not below zero when `nonneg` holds. -/
def Within (nonneg : Bool) (e : ℤ) (x : Float) : Prop :=
  ∃ a, Extended.ofFloat? x = some (.finite a) ∧ |a| ≤ 2 ^ e ∧ (nonneg = true → 0 ≤ a)

theorem abs_add_le_zpow_succ {a b : ℚ} {e : ℤ} (ha : |a| ≤ 2 ^ e) (hb : |b| ≤ 2 ^ e) : |a + b| ≤ 2 ^ (e + 1) :=
  calc |a + b| ≤ |a| + |b| := abs_add_le a b
    _ ≤ 2 ^ e + 2 ^ e := add_le_add ha hb
    _ = 2 ^ (e + 1) := by rw [zpow_add_one₀ (by norm_num)]; ring

theorem abs_sub_le_zpow_succ {a b : ℚ} {e : ℤ} (ha : |a| ≤ 2 ^ e) (hb : |b| ≤ 2 ^ e) : |a - b| ≤ 2 ^ (e + 1) := by
  rw [sub_eq_add_neg]
  exact abs_add_le_zpow_succ ha (by rwa [abs_neg])

/-- A value at most `2^e` with `e < 1024` rounds to a finite double, which packing keeps. -/
theorem ofFloat?_of_round {x : Float} {a : ℚ} {e : ℤ} (hx : Extended.ofFloat? x = some (packed (roundNearest a)))
    (he : -1074 ≤ e) (he' : e < 1024) (ha : |a| ≤ 2 ^ e) :
    Extended.ofFloat? x = some (.finite (roundNearest a)) := by
  have hlt : |roundNearest a| < 2 ^ 1024 :=
    calc |roundNearest a| ≤ 2 ^ e := abs_roundNearest_le he ha
      _ < 2 ^ (1024 : ℤ) := zpow_lt_zpow_right₀ (by norm_num) he'
      _ = 2 ^ 1024 := zpow_ofNat 2 1024
  rwa [packed_of_lt hlt] at hx

namespace Within

variable {s : Bool} {e e' : ℤ} {x y : Float}

theorem mono (h : Within s e x) (he : e ≤ e') : Within s e' x := by
  obtain ⟨a, hx, ha, hs⟩ := h
  exact ⟨a, hx, ha.trans (zpow_le_zpow_right₀ (by norm_num) he), hs⟩

theorem forget (h : Within s e x) : Within false e x := by
  obtain ⟨a, hx, ha, -⟩ := h
  exact ⟨a, hx, ha, nofun⟩

/-- A value at most `2^e` with `-1074 ≤ e < 1024` rounds and packs to a double within `2^e`. -/
theorem of_round {a : ℚ} (hx : Extended.ofFloat? x = some (packed (roundNearest a))) (he : -1074 ≤ e)
    (he' : e < 1024) (ha : |a| ≤ 2 ^ e) (hs : s = true → 0 ≤ a) : Within s e x :=
  ⟨_, ofFloat?_of_round hx he he' ha, abs_roundNearest_le he ha, fun h => roundNearest_nonneg (hs h)⟩

theorem add (hx : Within s e x) (hy : Within s e y) (he : -1074 ≤ e) (he' : e < 1023) :
    Within s (e + 1) (x + y) := by
  obtain ⟨a, hxa, ha, hsa⟩ := hx
  obtain ⟨b, hyb, hb, hsb⟩ := hy
  exact of_round (ofFloat?_add hxa hyb) (by omega) (by omega) (abs_add_le_zpow_succ ha hb)
    (fun h => add_nonneg (hsa h) (hsb h))

theorem sub (hx : Within s e x) (hy : Within s e y) (he : -1074 ≤ e) (he' : e < 1023) :
    Within false (e + 1) (x - y) := by
  obtain ⟨a, hxa, ha, -⟩ := hx
  obtain ⟨b, hyb, hb, -⟩ := hy
  exact of_round (ofFloat?_sub hxa hyb) (by omega) (by omega) (abs_sub_le_zpow_succ ha hb) nofun

theorem mul {s₁ s₂ : Bool} {e₁ e₂ : ℤ} (hx : Within s₁ e₁ x) (hy : Within s₂ e₂ y)
    (he : -1074 ≤ e₁ + e₂) (he' : e₁ + e₂ < 1024) : Within (s₁ && s₂) (e₁ + e₂) (x * y) := by
  obtain ⟨a, hxa, ha, hsa⟩ := hx
  obtain ⟨b, hyb, hb, hsb⟩ := hy
  refine of_round (ofFloat?_mul hxa hyb) he he' ?_ (fun h => ?_)
  · rw [abs_mul, zpow_add₀ (by norm_num)]
    exact mul_le_mul ha hb (abs_nonneg b) (zpow_pos (by norm_num) _).le
  · rw [Bool.and_eq_true] at h
    exact mul_nonneg (hsa h.1) (hsb h.2)

/-- A square is not below zero. -/
theorem mul_self (hx : Within s e x) (he : -1074 ≤ e + e) (he' : e + e < 1024) :
    Within true (e + e) (x * x) := by
  obtain ⟨a, hxa, ha, -⟩ := hx
  refine of_round (ofFloat?_mul hxa hxa) he he' ?_ (fun _ => mul_self_nonneg a)
  rw [abs_mul, zpow_add₀ (by norm_num)]
  exact mul_le_mul ha ha (abs_nonneg a) (zpow_pos (by norm_num) _).le

/-- Dividing by a double of value at least one keeps the bound and the sign. -/
theorem div {b : ℚ} (hx : Within s e x) (hy : Extended.ofFloat? y = some (.finite b)) (hb : 1 ≤ b)
    (he : -1074 ≤ e) (he' : e < 1024) : Within s e (x / y) := by
  obtain ⟨a, hxa, ha, hsa⟩ := hx
  have hb0 : 0 < b := by linarith
  refine of_round (ofFloat?_div hxa hy hb0.ne') he he' ?_ (fun h => div_nonneg (hsa h) hb0.le)
  rw [abs_div, abs_of_pos hb0]
  calc |a| / b ≤ |a| := div_le_self (abs_nonneg a) hb
    _ ≤ 2 ^ e := ha

/-- The square root of a double within `2^(2k)` is within `2^(k+1)`. -/
theorem sqrt {k : ℤ} (hx : Within true (k + k) x) (hk : -1074 ≤ k + 1) (hk' : k + 1 < 1024) :
    Within true (k + 1) x.sqrt := by
  obtain ⟨a, hxa, ha, hsa⟩ := hx
  obtain ⟨y, hy, hya, hsq⟩ := ofFloat?_sqrt hxa (hsa rfl)
  refine of_round hsq hk hk' ?_ (fun _ => hy)
  rw [abs_of_nonneg hy]
  -- `y² ≤ 4a ≤ 2^(2k+2)`, so `y ≤ 2^(k+1)`
  have hpow : (0 : ℚ) ≤ 2 ^ (k + 1) := (zpow_pos (by norm_num) _).le
  have hsq' : y * y ≤ 2 ^ (k + 1) * 2 ^ (k + 1) := by
    calc y * y ≤ 4 * a := hya
      _ ≤ 4 * 2 ^ (k + k) := by rw [abs_of_nonneg (hsa rfl)] at ha; linarith
      _ = 2 ^ (k + 1) * 2 ^ (k + 1) := by
        rw [zpow_add_one₀ (by norm_num), zpow_add₀ (by norm_num)]
        ring
  exact (mul_self_le_mul_self_iff hy hpow).2 hsq'

theorem zero_lit : Within s e (0.0 : Float) := by
  refine ⟨0, ?_, by rw [abs_zero]; exact (zpow_pos (by norm_num) _).le, fun _ => le_rfl⟩
  rw [ofFloat?_of_decode (by rfl : decode (0.0 : Float) = .finite false 0 (-1074))]
  simp

theorem negZero_lit : Within s e (-0.0 : Float) := by
  refine ⟨0, ?_, by rw [abs_zero]; exact (zpow_pos (by norm_num) _).le, fun _ => le_rfl⟩
  rw [ofFloat?_of_decode (by rfl : decode (-0.0 : Float) = .finite true 0 (-1074))]
  simp

end Within

/-! ## Sums in their orders -/

section Sums

variable {s : Bool} {e : ℤ}

namespace Within

/-- Left to right, each term adds one power of two to the bound. -/
theorem sumFrom {start : Float} {xs : List Float} (h₀ : Within s e start) (hxs : ∀ x ∈ xs, Within s e x)
    (he : -1074 ≤ e) (hlen : e + xs.length < 1024) : Within s (e + xs.length) (TransitRevenue.sumFrom start xs) := by
  induction xs generalizing start e with
  | nil => simpa [TransitRevenue.sumFrom] using h₀
  | cons x xs ih =>
    simp only [List.length_cons, Nat.cast_add, Nat.cast_one] at hlen ⊢
    have hstep := h₀.add (hxs x List.mem_cons_self) he (by omega)
    have hrest := ih hstep (fun y hy => (hxs y (List.mem_cons_of_mem x hy)).mono (by omega)) (by omega) (by omega)
    rw [show e + 1 + (xs.length : ℤ) = e + (xs.length + 1) by ring] at hrest
    exact hrest

/-- Adding two rows of lanes adds one power of two to the bound. -/
theorem addLanes {r xs : List Float} (hr : ∀ x ∈ r, Within s e x) (hxs : ∀ x ∈ xs, Within s e x)
    (he : -1074 ≤ e) (he' : e < 1023) : ∀ z ∈ TransitRevenue.addLanes r xs, Within s (e + 1) z := by
  induction r generalizing xs with
  | nil => simp [TransitRevenue.addLanes]
  | cons a r ih =>
    cases xs with
    | nil => simp [TransitRevenue.addLanes]
    | cons b xs =>
      intro z hz
      simp only [TransitRevenue.addLanes, List.zipWith_cons_cons, List.mem_cons] at hz
      rcases hz with rfl | hz
      · exact (hr a List.mem_cons_self).add (hxs b List.mem_cons_self) he he'
      · exact ih (fun x hx => hr x (List.mem_cons_of_mem a hx)) (fun x hx => hxs x (List.mem_cons_of_mem b hx)) z hz

/-- Folding blocks into the lanes adds one power of two per block. -/
theorem foldl_addLanes {acc : List Float} {bs : List (List Float)} {f : ℤ} (hacc : ∀ x ∈ acc, Within s f x)
    (hbs : ∀ b ∈ bs, ∀ x ∈ b, Within s e x) (hef : e ≤ f) (he : -1074 ≤ e) (hlen : f + bs.length < 1024) :
    ∀ x ∈ bs.foldl TransitRevenue.addLanes acc, Within s (f + bs.length) x := by
  induction bs generalizing acc f with
  | nil => simpa using hacc
  | cons b bs ih =>
    simp only [List.foldl_cons, List.length_cons, Nat.cast_add, Nat.cast_one] at hlen ⊢
    have hstep := addLanes hacc (fun x hx => (hbs b List.mem_cons_self x hx).mono hef) (by omega) (by omega)
    have h := ih hstep (fun c hc => hbs c (List.mem_cons_of_mem b hc)) (by omega) (by omega)
    rw [show f + 1 + (bs.length : ℤ) = f + (bs.length + 1) by ring] at h
    exact h

end Within

theorem mem_blocks8 {xs : List Float} {b : List Float} (hb : b ∈ blocks8 xs) {x : Float} (hx : x ∈ b) : x ∈ xs := by
  fun_induction blocks8 xs with
  | case1 => simp at hb
  | case2 xs _ _ =>
    simp only [List.mem_singleton] at hb
    exact hb ▸ hx
  | case3 xs _ _ ih =>
    simp only [List.mem_cons] at hb
    rcases hb with rfl | hb
    · exact List.mem_of_mem_take hx
    · exact List.mem_of_mem_drop (ih hb)

theorem length_blocks8 (xs : List Float) : (blocks8 xs).length * 8 ≤ xs.length + 7 := by
  fun_induction blocks8 xs with
  | case1 => simp
  | case2 xs hne _ => simp only [List.length_singleton]; simp at hne; have := List.length_pos_iff.2 hne; omega
  | case3 xs _ hlong ih => simp only [List.length_cons, List.length_drop] at ih ⊢; omega

namespace Within

/-- Up to 128 terms in eight lanes: at most fifteen blocks into the lanes, three levels of the
tree, and at most seven terms left over. -/
theorem laneSum {xs : List Float} (hxs : ∀ x ∈ xs, Within s e x) (hlen : xs.length ≤ 128)
    (he : -1074 ≤ e) (he' : e + 25 < 1024) : Within s (e + 25) (TransitRevenue.laneSum xs) := by
  unfold TransitRevenue.laneSum
  set full := xs.length - xs.length % 8 with hfull
  set bs := blocks8 ((xs.take full).drop 8) with hbs
  have hcount : bs.length ≤ 15 := by
    have h := length_blocks8 ((xs.take full).drop 8)
    rw [← hbs] at h
    simp only [List.length_drop, List.length_take] at h
    omega
  have hlanes : ∀ x ∈ bs.foldl TransitRevenue.addLanes (xs.take 8), Within s (e + 15) x := by
    have hfirst : ∀ x ∈ xs.take 8, Within s e x := fun x hx => hxs x (List.mem_of_mem_take hx)
    have hblocks : ∀ b ∈ bs, ∀ x ∈ b, Within s e x :=
      fun b hb x hx => hxs x (List.mem_of_mem_take (List.mem_of_mem_drop (mem_blocks8 hb hx)))
    have h := foldl_addLanes (f := e) hfirst hblocks le_rfl he (by omega)
    exact fun x hx => (h x hx).mono (by omega)
  set lanes := bs.foldl TransitRevenue.addLanes (xs.take 8)
  have hr : ∀ i, Within s (e + 15) (lanes.getD i 0.0) := by
    intro i
    rw [List.getD_eq_getElem?_getD]
    cases h : lanes[i]? with
    | none => exact zero_lit
    | some x => exact hlanes x (List.mem_of_getElem? h)
  -- the balanced tree over the eight lanes
  have hpair : ∀ i j, Within s (e + 15 + 1) (lanes.getD i 0.0 + lanes.getD j 0.0) :=
    fun i j => (hr i).add (hr j) (by omega) (by omega)
  have hquad : ∀ i j k l, Within s (e + 15 + 1 + 1)
      ((lanes.getD i 0.0 + lanes.getD j 0.0) + (lanes.getD k 0.0 + lanes.getD l 0.0)) :=
    fun i j k l => (hpair i j).add (hpair k l) (by omega) (by omega)
  have htree := (hquad 0 1 2 3).add (hquad 4 5 6 7) (by omega) (by omega)
  -- then the last partial block, left to right
  have hrest : (xs.drop full).length ≤ 7 := by
    simp only [List.length_drop]
    omega
  have hdrop : ∀ x ∈ xs.drop full, Within s (e + 15 + 1 + 1 + 1) x :=
    fun x hx => (hxs x (List.mem_of_mem_drop hx)).mono (by omega)
  have h := sumFrom htree hdrop (by omega) (by omega)
  exact h.mono (by omega)

end Within

/-- The power of two by which `pairwiseSum` can exceed its terms' bound: 25, and one more for each
halving of the length past sixteen. -/
def sumDepth (n : Nat) : Nat := 25 + Nat.log 2 (n - 16)

/-- Each half of a long sum is at most half as long past sixteen terms, so one level shallower. -/
theorem sumDepth_part {n k : Nat} (hn : 128 < n) (hk : 2 * k ≤ n + 15) : sumDepth k + 1 ≤ sumDepth n := by
  unfold sumDepth
  by_cases hk16 : k ≤ 16
  case pos =>
    rw [show k - 16 = 0 by omega, Nat.log_zero_right]
    have := Nat.log_pos (b := 2) (by norm_num) (show 2 ≤ n - 16 by omega)
    omega
  case neg =>
    have hmul : Nat.log 2 ((k - 16) * 2) = Nat.log 2 (k - 16) + 1 := Nat.log_mul_base (by norm_num) (by omega)
    have hmono : Nat.log 2 ((k - 16) * 2) ≤ Nat.log 2 (n - 16) := Nat.log_mono_right (by omega)
    omega

/-- Up to sixteen terms, `pairwiseSum` is one lane sum deep. -/
theorem sumDepth_of_le {n : Nat} (h : n ≤ 16) : sumDepth n = 25 := by
  rw [sumDepth, Nat.sub_eq_zero_of_le h, Nat.log_zero_right]

theorem sumDepth_le {n : Nat} (h : n ≤ 2 ^ 63) : sumDepth n ≤ 88 := by
  have hlog : Nat.log 2 (n - 16) ≤ 63 :=
    calc Nat.log 2 (n - 16) ≤ Nat.log 2 (2 ^ 63) := Nat.log_mono_right (by omega)
      _ = 63 := Nat.log_pow (by norm_num) 63
  unfold sumDepth
  omega

namespace Within

/-- Pairwise summation stays within `2^sumDepth` of its terms' bound. -/
theorem pairwiseSum {xs : List Float} (hxs : ∀ x ∈ xs, Within s e x) (he : -1074 ≤ e)
    (hlen : e + sumDepth xs.length < 1024) : Within s (e + sumDepth xs.length) (TransitRevenue.pairwiseSum xs) := by
  have h25 : ∀ n, 25 ≤ sumDepth n := fun n => Nat.le_add_right _ _
  fun_induction TransitRevenue.pairwiseSum xs with
  | case1 xs hshort =>
    have h := sumFrom negZero_lit hxs he (by have := h25 xs.length; omega)
    exact h.mono (by have := h25 xs.length; omega)
  | case2 xs _ hmid =>
    have h := laneSum hxs hmid he (by have := h25 xs.length; omega)
    exact h.mono (by have := h25 xs.length; omega)
  | case3 xs hlong hlong' half m ih₁ ih₂ =>
    have hn : 128 < xs.length := by omega
    have hm : m ≤ xs.length := by omega
    have hd₁ := sumDepth_part hn (k := (xs.take m).length) (by simp only [List.length_take]; omega)
    have hd₂ := sumDepth_part hn (k := (xs.drop m).length) (by simp only [List.length_drop]; omega)
    have h₁ := ih₁ (fun x hx => hxs x (List.mem_of_mem_take hx)) (by omega)
    have h₂ := ih₂ (fun x hx => hxs x (List.mem_of_mem_drop hx)) (by omega)
    have h₁' : Within s (e + sumDepth xs.length - 1) _ := h₁.mono (by omega)
    have h := h₁'.add (h₂.mono (by omega)) (by omega) (by omega)
    rwa [sub_add_cancel] at h

end Within

end Sums

end Binary64

end TransitRevenue
