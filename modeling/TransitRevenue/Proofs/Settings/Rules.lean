import Mathlib
import TransitRevenue.Proofs.Pricing.Monotone
/-!
The settings check, read as a list of rules over exact values.

Valid settings keep the rules that `Settings.rules` lists, in the order they are checked: the
fuel price, the peak and weekend multipliers and the two ends of the price band lie in ranges of
the rationals, the high demand threshold lies above the low one, each threshold lies between 0
and 100, the lower end of the band lies below the upper one, and the multiplier of every season,
in the order the seasons are given, lies in `[0.5, 3]`. A double lies in a range of rationals only
when it stands for a rational there, so NaN and the infinities break every range rule.

The main statement, `check_reports_first_broken_rule`, says that `Settings.check` accepts exactly
the settings that keep every rule, and otherwise reports the constraint of the first rule broken.
Its proof walks the chain of tests in `Settings.violation?` with `ReportedBy.cons`: each test fails
exactly when its rule is broken, once the rules before it hold (the test of the band's order
compares two doubles that the rules before it have made finite).
-/

namespace TransitRevenue

namespace Settings

open Binary64

/-- A double standing for a rational in `[lo, hi]`. -/
def InRange (lo hi : ℚ) (x : Float) : Prop :=
  ∃ q, Extended.ofFloat? x = some (.finite q) ∧ lo ≤ q ∧ q ≤ hi

/-- A rule of valid settings: what must hold, and the constraint reported when it is the first
rule broken. -/
structure Rule where
  holds : Prop
  constraint : String

/-- `r` is the first rule of `rs` that is broken: every rule before it holds. -/
def FirstBroken (rs : List Rule) (r : Rule) : Prop :=
  ∃ pre post, rs = pre ++ r :: post ∧ (∀ p ∈ pre, p.holds) ∧ ¬r.holds

/-- The rule on the multiplier of one season. -/
def seasonRule (e : String × Float) : Rule :=
  ⟨InRange (1 / 2) 3 e.2, "seasonal coefficient for " ++ e.1 ++ " must be between 0.5 and 3.0"⟩

/-- The rules of valid settings, in the order they are checked. -/
def rules (s : Settings) : List Rule :=
  [⟨InRange 10 200 s.fuelPrice, "fuel price must be between 10 and 200"⟩,
   ⟨InRange (1 / 2) 3 s.peakFactor, "peak hours coefficient must be between 0.5 and 3.0"⟩,
   ⟨InRange (1 / 2) 3 s.weekendFactor, "weekend coefficient must be between 0.5 and 3.0"⟩,
   ⟨s.lowDemand < s.highDemand, "high demand threshold must be greater than low demand threshold"⟩,
   ⟨0 ≤ s.lowDemand ∧ s.lowDemand ≤ 100, "low demand threshold must be between 0 and 100"⟩,
   ⟨0 ≤ s.highDemand ∧ s.highDemand ≤ 100, "high demand threshold must be between 0 and 100"⟩,
   ⟨∃ m, Extended.ofFloat? s.minFactor = some (.finite m) ∧ 0 < m ∧ m ≤ 1,
     "price min coefficient must be greater than 0 and at most 1.0"⟩,
   ⟨InRange 1 5 s.maxFactor, "price max coefficient must be between 1.0 and 5.0"⟩,
   ⟨∃ m x, Extended.ofFloat? s.minFactor = some (.finite m) ∧
       Extended.ofFloat? s.maxFactor = some (.finite x) ∧ m < x,
     "price min coefficient must be less than price max coefficient"⟩] ++
  s.seasonal.map seasonRule

/-! ## The first broken rule -/

theorem firstBroken_cons {r r' : Rule} {rs : List Rule} :
    FirstBroken (r :: rs) r' ↔ (¬r.holds ∧ r' = r) ∨ (r.holds ∧ FirstBroken rs r') := by
  constructor
  · rintro ⟨pre, post, hrs, hpre, hr'⟩
    cases pre with
    | nil =>
      obtain ⟨rfl, -⟩ := List.cons.inj hrs
      exact .inl ⟨hr', rfl⟩
    | cons p pre =>
      obtain ⟨rfl, rfl⟩ := List.cons.inj hrs
      exact .inr ⟨hpre _ List.mem_cons_self, pre, post, rfl,
        fun q hq => hpre q (List.mem_cons_of_mem _ hq), hr'⟩
  · rintro (⟨hr, rfl⟩ | ⟨hr, pre, post, rfl, hpre, hr'⟩)
    · exact ⟨[], rs, rfl, by simp, hr⟩
    · refine ⟨r :: pre, post, rfl, ?_, hr'⟩
      rintro p (_ | ⟨_, hp⟩)
      exacts [hr, hpre p hp]

/-- The rules `rs` are reported by `answer`: it is nothing when every rule holds, and otherwise
the constraint of the first rule broken. -/
def ReportedBy (rs : List Rule) (answer : Option String) : Prop :=
  (answer = none ↔ ∀ r ∈ rs, r.holds) ∧ ∀ m, answer = some m ↔ ∃ r, FirstBroken rs r ∧ m = r.constraint

theorem ReportedBy.nil : ReportedBy [] none :=
  ⟨by simp, fun m => by simp [FirstBroken]⟩

/-- A test that fails exactly when a rule is broken, followed by an answer that reports the
rules after it whenever that rule holds, reports them all. -/
theorem ReportedBy.cons {c : Prop} [Decidable c] {r : Rule} {rs : List Rule} {rest : Option String}
    (hc : c ↔ ¬r.holds) (hrest : r.holds → ReportedBy rs rest) :
    ReportedBy (r :: rs) (if c then some r.constraint else rest) := by
  by_cases hr : r.holds
  case pos =>
    obtain ⟨hnone, hsome⟩ := hrest hr
    rw [if_neg (fun h => hc.1 h hr)]
    refine ⟨by simp [hnone, hr], fun m => ?_⟩
    simp only [hsome, firstBroken_cons, hr, not_true_eq_false, false_and, true_and, false_or]
  case neg =>
    rw [if_pos (hc.2 hr)]
    refine ⟨by simp [hr], fun m => ?_⟩
    simp only [Option.some.injEq, firstBroken_cons, hr, not_false_eq_true, true_and, false_and,
      or_false, exists_eq_left]
    exact eq_comm

/-! ## Each test against its rule -/

/-- A test written as the negation of a passing condition fails exactly when the condition's
rule is broken. -/
theorem not_test_iff {b : Bool} {P : Prop} (h : b = true ↔ P) : (!b) = true ↔ ¬P := by
  rw [Bool.not_eq_true', Bool.eq_false_iff, ne_eq, h]

theorem between_iff_inRange {lo hi x : Float} {l h : ℚ} (hl : Extended.ofFloat? lo = some (.finite l))
    (hh : Extended.ofFloat? hi = some (.finite h)) : between lo hi x = true ↔ InRange l h x := by
  simp only [between, Bool.and_eq_true, decide_eq_true_eq]
  constructor
  · rintro ⟨h₁, h₂⟩
    exact finite_of_le_of_le hl hh h₁ h₂
  · rintro ⟨q, hq, hlq, hqh⟩
    exact ⟨(le_iff_of_finite hl hq).2 hlq, (le_iff_of_finite hq hh).2 hqh⟩

theorem ofFloat?_ten : Extended.ofFloat? (10 : Float) = some (.finite 10) := by
  rw [ofFloat?_of_decode (by rfl : decode (10 : Float) = .finite false 5629499534213120 (-49))]
  norm_num

theorem ofFloat?_two_hundred : Extended.ofFloat? (200 : Float) = some (.finite 200) := by
  rw [ofFloat?_of_decode (by rfl : decode (200 : Float) = .finite false 7036874417766400 (-45))]
  norm_num

theorem ofFloat?_zero : Extended.ofFloat? (0 : Float) = some (.finite 0) :=
  ofFloat?_of_beq_zero (by decide)

/-- The lower end of the band passes its test exactly when it stands for a rational in `(0, 1]`. -/
theorem minFactor_test_iff (x : Float) :
    ((0 : Float) < x && x ≤ 1.0) = true ↔ ∃ m, Extended.ofFloat? x = some (.finite m) ∧ 0 < m ∧ m ≤ 1 := by
  simp only [Bool.and_eq_true, decide_eq_true_eq]
  constructor
  · rintro ⟨h₀, h₁⟩
    exact finite_of_lt_of_le ofFloat?_zero ofFloat?_one h₀ h₁
  · rintro ⟨m, hm, hm0, hm1⟩
    exact ⟨(lt_iff_of_finite ofFloat?_zero hm).2 hm0, (le_iff_of_finite hm ofFloat?_one).2 hm1⟩

/-- Two finite ends of the band fail the order test exactly when the lower is not below the
upper. -/
theorem band_order_test_iff {lo hi : Float} (hlo : ∃ m, Extended.ofFloat? lo = some (.finite m))
    (hhi : ∃ x, Extended.ofFloat? hi = some (.finite x)) :
    hi ≤ lo ↔ ¬∃ m x, Extended.ofFloat? lo = some (.finite m) ∧
      Extended.ofFloat? hi = some (.finite x) ∧ m < x := by
  obtain ⟨m, hm⟩ := hlo
  obtain ⟨x, hx⟩ := hhi
  rw [le_iff_of_finite hx hm]
  simp [hm, hx]

/-- The seasons' tests report the seasons' rules: the first season whose multiplier is out of
range is named. -/
theorem reports_seasons (l : List (String × Float)) :
    ReportedBy (l.map seasonRule) ((l.find? fun (_, c) => !between 0.5 3.0 c).map fun (name, _) =>
      "seasonal coefficient for " ++ name ++ " must be between 0.5 and 3.0") := by
  induction l with
  | nil => exact ReportedBy.nil
  | cons e l ih =>
    have hstep : ((e :: l).find? fun (_, c) => !between 0.5 3.0 c).map (fun (name, _) =>
          "seasonal coefficient for " ++ name ++ " must be between 0.5 and 3.0") =
        if (!between 0.5 3.0 e.2) = true then some (seasonRule e).constraint
        else (l.find? fun (_, c) => !between 0.5 3.0 c).map fun (name, _) =>
          "seasonal coefficient for " ++ name ++ " must be between 0.5 and 3.0" := by
      cases hb : between 0.5 3.0 e.2 <;> simp [hb, seasonRule]
    rw [List.map_cons, hstep]
    exact ReportedBy.cons (not_test_iff (between_iff_inRange ofFloat?_half ofFloat?_three)) fun _ => ih

/-- The chain of tests reports the rules of the settings. -/
theorem rules_reportedBy_violation? (s : Settings) : ReportedBy s.rules s.violation? := by
  unfold violation?
  simp only [rules, List.cons_append]
  -- one test per rule, in order; the band's order is tested once both ends are known finite
  refine ReportedBy.cons (not_test_iff (between_iff_inRange ofFloat?_ten ofFloat?_two_hundred)) fun _ => ?_
  refine ReportedBy.cons (not_test_iff (between_iff_inRange ofFloat?_half ofFloat?_three)) fun _ => ?_
  refine ReportedBy.cons (not_test_iff (between_iff_inRange ofFloat?_half ofFloat?_three)) fun _ => ?_
  refine ReportedBy.cons not_lt.symm fun _ => ?_
  refine ReportedBy.cons (not_test_iff (by simp)) fun _ => ?_
  refine ReportedBy.cons (not_test_iff (by simp)) fun _ => ?_
  refine ReportedBy.cons (not_test_iff (minFactor_test_iff s.minFactor)) fun hmin => ?_
  refine ReportedBy.cons (not_test_iff (between_iff_inRange ofFloat?_one Pricing.ofFloat?_five)) fun hmax => ?_
  obtain ⟨m, hm, -⟩ := hmin
  obtain ⟨x, hx, -⟩ := hmax
  refine ReportedBy.cons (band_order_test_iff ⟨m, hm⟩ ⟨x, hx⟩) fun _ => ?_
  exact reports_seasons s.seasonal

/-! ## The check -/

theorem check_eq_ok_iff (s : Settings) : s.check = .ok () ↔ ∀ r ∈ s.rules, r.holds := by
  rw [← (rules_reportedBy_violation? s).1]
  unfold check
  split <;> simp_all

theorem check_eq_error_iff (s : Settings) (f : Fault) :
    s.check = .error f ↔ ∃ r, FirstBroken s.rules r ∧ f = .invalidSettings r.constraint := by
  obtain ⟨hnone, hsome⟩ := rules_reportedBy_violation? s
  unfold check
  split
  case h_1 text hv =>
    obtain ⟨r, hr, rfl⟩ := (hsome text).1 hv
    constructor
    · intro h
      cases h
      exact ⟨r, hr, rfl⟩
    · -- the first broken rule is unique, so it is the one the answer names
      rintro ⟨r', hr', rfl⟩
      have hv' := (hsome r'.constraint).2 ⟨r', hr', rfl⟩
      rw [hv] at hv'
      rw [Option.some.inj hv']
  case h_2 hv =>
    simp only [reduceCtorEq, false_iff, not_exists, not_and]
    rintro r ⟨pre, post, hrs, -, hr⟩ -
    exact hr (hnone.1 hv r (by simp [hrs]))

/-- The settings check accepts exactly the settings that keep every rule, and otherwise fails
with the constraint of the first rule broken: a season's multiplier is checked only once every
other rule holds, and the first season out of range is the one named. -/
theorem check_reports_first_broken_rule (s : Settings) :
    (s.check = .ok () ↔ ∀ r ∈ s.rules, r.holds) ∧
      ∀ f, s.check = .error f ↔ ∃ r, FirstBroken s.rules r ∧ f = .invalidSettings r.constraint :=
  ⟨check_eq_ok_iff s, check_eq_error_iff s⟩

example : ({ seasonal := [("regular", 1.0), ("summer", 3.5), ("winter", 0.1)] } : Settings).check =
    .error (.invalidSettings "seasonal coefficient for summer must be between 0.5 and 3.0") := by
  rfl

/-- Settings that pass the check hold only finite doubles: NaN and the infinities are in no
range. -/
theorem isFinite_of_check {s : Settings} (h : s.check = .ok ()) :
    ∀ x ∈ [s.fuelPrice, s.peakFactor, s.weekendFactor, s.minFactor, s.maxFactor] ++ s.seasonal.map (·.2),
      isFinite x = true := by
  have hr := (check_eq_ok_iff s).1 h
  simp only [rules, List.cons_append, List.mem_cons, forall_eq_or_imp] at hr
  obtain ⟨⟨q₁, h₁, -⟩, ⟨q₂, h₂, -⟩, ⟨q₃, h₃, -⟩, -, -, -, ⟨q₄, h₄, -⟩, ⟨q₅, h₅, -⟩, -, hseason⟩ := hr
  simp only [List.cons_append, List.mem_cons, forall_eq_or_imp]
  refine ⟨isFinite_of_ofFloat? h₁, isFinite_of_ofFloat? h₂, isFinite_of_ofFloat? h₃,
    isFinite_of_ofFloat? h₄, isFinite_of_ofFloat? h₅, ?_⟩
  intro x hx
  obtain ⟨e, he, rfl⟩ := List.mem_map.1 hx
  obtain ⟨q, hq, -⟩ := hseason (seasonRule e) (List.mem_map_of_mem he)
  exact isFinite_of_ofFloat? hq

end Settings

end TransitRevenue
