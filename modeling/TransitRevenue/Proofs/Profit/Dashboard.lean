import Mathlib
import TransitRevenue.Profit.Rollup
import TransitRevenue.Proofs.Number.Order
/-!
The dashboard's counts agree with its categories.

The dashboard files each trip under a category by comparing its percentage with 0, 20 and 50
exactly, and counts the profitable and unprofitable trips with the comparisons of IEEE 754. The
two agree: a percentage is filed as unprofitable exactly when it is below zero
(`Category.ofPercent_eq_unprofitable_iff`), so the count of that category is the unprofitable count.
A NaN percentage is below no bound and so filed as highly profitable (`Category.ofPercent_of_nan`),
while it is neither at or above zero nor below it (`Binary64.sign_cases`): it is counted under a
category but neither as profitable nor as unprofitable. The categories listed are those that occur,
each with its count (`tally`), so the counts are positive and add up to the number of trips
(`dashboard_counts_agree`).
-/

namespace TransitRevenue

namespace Rollup

namespace Category

/-- A percentage is filed as unprofitable exactly when it is below zero as doubles compare. -/
theorem ofPercent_eq_unprofitable_iff (p : Float) : ofPercent (.float p) = .unprofitable ↔ p < 0.0 := by
  unfold ofPercent
  rw [Number.lt_float]
  split_ifs <;> simp_all

/-- NaN is below no bound, so a NaN percentage is filed as highly profitable. -/
theorem ofPercent_of_nan {p : Float} (h : Binary64.isNaN p = true) : ofPercent (.float p) = .highProfit := by
  have hp := Number.extended?_eq_none_iff.2 h
  simp [ofPercent, Number.lt_of_nan_left hp]

@[simp] theorem beq_eq (a b : Category) : (a == b) = decide (a = b) := by
  cases a <;> cases b <;> rfl

instance : LawfulBEq Category where
  eq_of_beq {a b} h := by cases a <;> cases b <;> first | rfl | cases h
  rfl {a} := by cases a <;> rfl

theorem key_injective : Function.Injective key := by
  intro a b h
  cases a <;> cases b <;> first | rfl | exact absurd h (by decide)

/-- Every category is counted, so the counts add up to the number of entries. -/
theorem sum_counts (cats : List Category) :
    (all.map fun c => (cats.filter (· == c)).length).sum = cats.length := by
  induction cats with
  | nil => rfl
  | cons c cats ih =>
    simp only [all, List.map_cons, List.map_nil, List.sum_cons, List.sum_nil] at ih ⊢
    cases c <;> simp at ih ⊢ <;> omega

end Category

/-- Erasing repeats leaves no repeats. -/
theorem nodup_eraseDups {α : Type} [BEq α] [LawfulBEq α] : ∀ l : List α, l.eraseDups.Nodup
  | [] => by simp [List.eraseDups, List.eraseDupsBy, List.eraseDupsBy.loop]
  | a :: as => by
    rw [List.eraseDups_cons]
    refine List.nodup_cons.2 ⟨fun h => ?_, nodup_eraseDups _⟩
    simp [List.mem_eraseDups] at h
termination_by l => l.length
decreasing_by exact Nat.lt_succ_of_le (List.length_filter_le _ _)

section Tally

variable (cnt : Category → ℕ)

/-- The categories of `cs` that occur, each with its count. -/
def tally (cs : List Category) : List (String × ℤ) :=
  cs.filterMap fun c => if cnt c == 0 then none else some (c.key, (cnt c : ℤ))

theorem tally_cons (c : Category) (cs : List Category) :
    tally cnt (c :: cs) = if cnt c = 0 then tally cnt cs else (c.key, (cnt c : ℤ)) :: tally cnt cs := by
  by_cases h : cnt c = 0 <;> simp [tally, h]

theorem tally_pos {cs : List Category} {e : String × ℤ} (he : e ∈ tally cnt cs) : 1 ≤ e.2 := by
  simp only [tally, List.mem_filterMap] at he
  obtain ⟨c, -, hc⟩ := he
  split at hc
  case isTrue => cases hc
  case isFalse h =>
    cases hc
    simp only [beq_iff_eq] at h
    omega

theorem sum_tally (cs : List Category) : ((tally cnt cs).map (·.2)).sum = ((cs.map cnt).sum : ℤ) := by
  induction cs with
  | nil => rfl
  | cons c cs ih =>
    rw [tally_cons]
    by_cases h : cnt c = 0 <;> simp [h, ih]

theorem lookup_tally_of_not_mem {cs : List Category} {c : Category} (hc : c ∉ cs) :
    (tally cnt cs).lookup c.key = none := by
  induction cs with
  | nil => rfl
  | cons d cs ih =>
    simp only [List.mem_cons, not_or] at hc
    have hkey : (c.key == d.key) = false := by
      simpa using fun h => hc.1 (Category.key_injective h)
    rw [tally_cons]
    by_cases h : cnt d = 0 <;> simp [h, List.lookup, hkey, ih hc.2]

theorem lookup_tally {cs : List Category} (hnd : cs.Nodup) {c : Category} (hc : c ∈ cs) :
    ((tally cnt cs).lookup c.key).getD 0 = cnt c := by
  induction cs with
  | nil => cases hc
  | cons d cs ih =>
    rw [List.nodup_cons] at hnd
    rw [tally_cons]
    rcases List.mem_cons.1 hc with rfl | hc
    · by_cases h : cnt c = 0
      · simp [h, lookup_tally_of_not_mem cnt hnd.1]
      · simp [h]
    · have hkey : (c.key == d.key) = false := by
        simpa using fun h => hnd.1 (by rwa [← Category.key_injective h])
      by_cases h : cnt d = 0 <;> simp [h, List.lookup, hkey, ih hnd.2 hc]

/-- The keys of a tally are those of its categories, in order. -/
theorem keys_tally_sublist (cs : List Category) :
    ((tally cnt cs).map Prod.fst).Sublist (cs.map Category.key) := by
  induction cs with
  | nil => exact .slnil
  | cons c cs ih =>
    rw [tally_cons]
    by_cases h : cnt c = 0
    · simpa [h] using ih.cons _
    · simpa [h] using ih.cons_cons c.key

theorem keys_tally_all_nodup : ((tally cnt Category.all).map Prod.fst).Nodup :=
  (keys_tally_sublist cnt Category.all).nodup (by decide)

theorem mem_tally_all {e : String × ℤ} :
    e ∈ tally cnt Category.all ↔ ∃ c, cnt c ≠ 0 ∧ e = (c.key, (cnt c : ℤ)) := by
  simp only [tally, List.mem_filterMap, beq_iff_eq]
  constructor
  · rintro ⟨c, -, hc⟩
    split at hc
    case isTrue => cases hc
    case isFalse h => exact ⟨c, h, (Option.some.inj hc).symm⟩
  · rintro ⟨c, hc, rfl⟩
    exact ⟨c, by cases c <;> simp [Category.all], by simp [hc]⟩

/-- The categories met in `cs`, in order of first appearance, each with its count. -/
def countsMet (cs : List Category) : List (String × ℤ) :=
  cs.eraseDups.map fun c => (c.key, (cnt c : ℤ))

/-- The counts of the categories met are those of the tally, in another order. -/
theorem countsMet_perm_tally {cs : List Category} (hcnt : ∀ c, cnt c ≠ 0 ↔ c ∈ cs) :
    (countsMet cnt cs).Perm (tally cnt Category.all) := by
  have hinj : Function.Injective fun c : Category => (c.key, (cnt c : ℤ)) :=
    fun a b h => Category.key_injective (Prod.mk.inj h).1
  refine (List.perm_ext_iff_of_nodup ((nodup_eraseDups cs).map hinj)
    (List.Nodup.of_map Prod.fst (keys_tally_all_nodup cnt))).2 fun e => ?_
  simp only [List.mem_map, mem_tally_all]
  simp only [List.mem_eraseDups, ← hcnt]
  constructor
  · rintro ⟨c, hc, rfl⟩
    exact ⟨c, hc, rfl⟩
  · rintro ⟨c, hc, rfl⟩
    exact ⟨c, hc, rfl⟩

end Tally

/-- Looking a key up finds the same in two orders of a table whose keys are distinct. -/
theorem lookup_eq_of_perm {l₁ l₂ : List (String × ℤ)} (h : l₁.Perm l₂) (hnd : (l₁.map Prod.fst).Nodup)
    (k : String) : l₁.lookup k = l₂.lookup k := by
  induction h with
  | nil => rfl
  | cons x _ ih =>
    simp only [List.map_cons, List.nodup_cons] at hnd
    simp only [List.lookup, ih hnd.2]
  | swap x y l =>
    simp only [List.map_cons, List.nodup_cons, List.mem_cons, not_or] at hnd
    have hxy : y.1 ≠ x.1 := hnd.1.1
    simp only [List.lookup]
    cases hkx : k == x.1 <;> cases hky : k == y.1
    · rfl
    · rfl
    · rfl
    · simp only [beq_iff_eq] at hkx hky
      exact absurd (hky.symm.trans hkx) hxy
  | trans h₁ _ ih₁ ih₂ => exact (ih₁ hnd).trans (ih₂ ((h₁.map Prod.fst).nodup_iff.1 hnd))

/-- Every double of a list is at or above zero, below it, or NaN. -/
theorem length_filter_sign (xs : List Float) :
    (xs.filter (0.0 ≤ ·)).length + (xs.filter (· < 0.0)).length + (xs.filter Binary64.isNaN).length =
      xs.length := by
  induction xs with
  | nil => rfl
  | cons p xs ih =>
    rcases Binary64.sign_cases p with ⟨h₁, h₂, h₃⟩ | ⟨h₁, h₂, h₃⟩ | ⟨h₁, h₂, h₃⟩ <;>
      simp [h₁, h₂, h₃] <;> omega

/-- The category each trip is filed under. -/
def filed (results : List TripResult) : List Category :=
  results.map fun t => Category.ofPercent (.float t.percent)

theorem length_filter_filed (results : List TripResult) (c : Category) :
    ((filed results).filter (· == c)).length =
      (results.filter fun t => Category.ofPercent (.float t.percent) = c).length := by
  simp [filed, List.filter_map, Function.comp_def]

/-- What the dashboard says of the trips it is given. -/
structure DashboardLaw (results : List TripResult) (active : Int) (d : Dashboard) : Prop where
  active : d.activeTrips = active
  counts_pos : ∀ e ∈ d.byCategory, 1 ≤ e.2
  counts_sum : (d.byCategory.map (·.2)).sum = results.length
  counts_filed : ∀ c : Category, (d.byCategory.lookup c.key).getD 0 =
    (results.filter fun t => Category.ofPercent (.float t.percent) = c).length
  unprofitable_counted : (d.byCategory.lookup "unprofitable").getD 0 = d.unprofitable
  unprofitable : d.unprofitable = ((results.map (·.percent)).filter (· < 0.0)).length
  profitable : d.profitable = ((results.map (·.percent)).filter (0.0 ≤ ·)).length
  nan_uncounted : d.profitable + d.unprofitable =
    results.length - ((results.map (·.percent)).filter Binary64.isNaN).length
  nan_filed_high : ∀ t ∈ results, Binary64.isNaN t.percent = true →
    Category.ofPercent (.float t.percent) = .highProfit
  mean : d.percent = if results = [] then 0.0 else columnMean (results.map (·.percent))

section Dashboard

variable (results : List TripResult) (active : Int)

theorem percents_rows : (results.map Row.ofResult).map (·.percent) = results.map (·.percent) := by
  simp [Function.comp_def, Row.ofResult]

theorem dashboard_activeTrips : (dashboard results active).activeTrips = active := by
  unfold dashboard
  split <;> rfl

/-- A category is met among the trips exactly when some trip is filed under it. -/
theorem count_filed_ne_zero_iff (c : Category) :
    ((filed results).filter (· == c)).length ≠ 0 ↔ c ∈ filed results := by
  simp [List.filter_eq_nil_iff]

/-- The dashboard lists each category met among the trips with its count, as the tally over all
categories does, in the order of the counts. -/
theorem dashboard_byCategory_perm :
    (dashboard results active).byCategory.Perm
      (tally (fun c => ((filed results).filter (· == c)).length) Category.all) := by
  unfold dashboard
  split
  case isTrue h =>
    rw [List.isEmpty_iff.1 h]
    exact .nil
  case isFalse =>
    dsimp only
    rw [percents_rows, List.map_map]
    exact (List.mergeSort_perm _ _).trans
      (countsMet_perm_tally _ (count_filed_ne_zero_iff results))

theorem dashboard_keys_nodup : ((dashboard results active).byCategory.map Prod.fst).Nodup :=
  ((dashboard_byCategory_perm results active).map Prod.fst).nodup_iff.2 (keys_tally_all_nodup _)

theorem dashboard_unprofitable :
    (dashboard results active).unprofitable = ((results.map (·.percent)).filter (· < 0.0)).length := by
  unfold dashboard
  split
  case isTrue h => simp [List.isEmpty_iff.1 h]
  case isFalse =>
    dsimp only
    rw [percents_rows]

theorem dashboard_profitable :
    (dashboard results active).profitable = ((results.map (·.percent)).filter (0.0 ≤ ·)).length := by
  unfold dashboard
  split
  case isTrue h => simp [List.isEmpty_iff.1 h]
  case isFalse =>
    dsimp only
    rw [percents_rows]

theorem dashboard_percent :
    (dashboard results active).percent = if results = [] then 0.0 else columnMean (results.map (·.percent)) := by
  unfold dashboard
  split
  case isTrue h => simp [List.isEmpty_iff.1 h]
  case isFalse h =>
    dsimp only
    rw [percents_rows, if_neg (List.isEmpty_iff.not.1 h)]

theorem dashboard_counts_filed (c : Category) :
    (((dashboard results active).byCategory.lookup c.key).getD 0 : ℤ) =
      (results.filter fun t => Category.ofPercent (.float t.percent) = c).length := by
  rw [lookup_eq_of_perm (dashboard_byCategory_perm results active) (dashboard_keys_nodup results active),
    lookup_tally _ (by decide) (by cases c <;> simp [Category.all]), length_filter_filed]

/-- The dashboard's counts agree with its categories: each category that occurs is listed with
the number of trips filed under it, the unprofitable ones being exactly those below zero; a NaN
percentage is filed as highly profitable but counted neither as profitable nor as unprofitable;
the average profitability is the plain mean of the percentages that are not NaN. -/
theorem dashboard_counts_agree : DashboardLaw results active (dashboard results active) where
  active := dashboard_activeTrips results active
  counts_pos e he := tally_pos _ ((dashboard_byCategory_perm results active).mem_iff.1 he)
  counts_sum := by
    rw [((dashboard_byCategory_perm results active).map (·.2)).sum_eq, sum_tally, Category.sum_counts,
      filed, List.length_map]
  counts_filed := dashboard_counts_filed results active
  unprofitable_counted := by
    rw [show "unprofitable" = Category.unprofitable.key from rfl, dashboard_counts_filed,
      dashboard_unprofitable, List.filter_map, List.length_map]
    simp only [Function.comp_def, Category.ofPercent_eq_unprofitable_iff]
  unprofitable := dashboard_unprofitable results active
  profitable := dashboard_profitable results active
  nan_uncounted := by
    have h := length_filter_sign (results.map (·.percent))
    rw [List.length_map] at h
    rw [dashboard_profitable, dashboard_unprofitable]
    omega
  nan_filed_high _ _ h := Category.ofPercent_of_nan h
  mean := dashboard_percent results active

end Dashboard

end Rollup

end TransitRevenue
