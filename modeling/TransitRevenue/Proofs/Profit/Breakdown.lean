import Mathlib
import TransitRevenue.Proofs.Profit.Saturation
import TransitRevenue.Proofs.Store.Collections
/-!
The further costs of a trip, and the totals its record keeps.

The categories of further cost are filed by name (`Value.setEntry`): a new name is appended, and
a name already filed has its amount replaced where it stands. So the breakdown holds each name
once, with the amount of the last category of that name (`Value.lookup_foldl_setEntry`), and the
further costs are the breakdown's amounts summed in its order from `0.0`. When the names are
distinct the breakdown is the categories in order with their amounts, and the further costs are
all amounts summed in list order (`Value.foldl_setEntry_of_nodup`); a name given twice loses the
earlier amount from both (`compute_drops_earlier_cost_of_same_name`). Whatever the names, the
record is consistent bit for bit: its profit is its revenue less its total costs as recomputed
from its fields, and its profitability is that of these two (`compute_records_costs`).
-/

namespace TransitRevenue

/-! ## Tables filed by name -/

namespace Value

variable {α : Type}

theorem setEntry_of_not_mem {entries : List (String × α)} {key : String} (v : α)
    (h : key ∉ entries.map (·.1)) : setEntry entries key v = entries ++ [(key, v)] := by
  have hany : entries.any (·.1 == key) = false := by
    simpa [List.any_eq_false] using fun e he hek => h (List.mem_map.2 ⟨e, he, hek⟩)
  simp [setEntry, hany]

/-- Setting an entry keeps the names filed, adding its own at the end when it is new. -/
theorem keys_setEntry (entries : List (String × α)) (key : String) (v : α) :
    (setEntry entries key v).map (·.1) =
      if key ∈ entries.map (·.1) then entries.map (·.1) else entries.map (·.1) ++ [key] := by
  by_cases h : key ∈ entries.map (·.1)
  case neg => simp [setEntry_of_not_mem v h, h]
  -- a replaced entry keeps its name, which is `key`
  have hany : entries.any (·.1 == key) = true := by
    obtain ⟨e, he, rfl⟩ := List.mem_map.1 h
    exact List.any_eq_true.2 ⟨e, he, by simp⟩
  simp only [setEntry, hany, if_true, List.map_map, h]
  refine List.map_congr_left fun e _ => ?_
  by_cases he : e.1 = key <;> simp [he]

/-- Filing entries one by one names each name once. -/
theorem nodup_keys_foldl_setEntry (ps : List (String × α)) :
    ((ps.foldl (fun acc (k, a) => setEntry acc k a) []).map (·.1)).Nodup := by
  induction ps using List.reverseRecOn with
  | nil => simp
  | append_singleton ps p ih =>
    rw [List.foldl_append, List.foldl_cons, List.foldl_nil, keys_setEntry]
    split
    case isTrue => exact ih
    case isFalse h =>
      refine List.nodup_append.2 ⟨ih, List.nodup_singleton _, fun a ha b hb => ?_⟩
      rw [List.mem_singleton] at hb
      subst hb
      exact fun hab => h (hab ▸ ha)

/-- Filing entries one by one answers for each name with the last entry of that name. -/
theorem lookup_foldl_setEntry (ps : List (String × α)) (n : String) :
    ((ps.foldl (fun acc (k, a) => setEntry acc k a) []).find? (·.1 == n)).map (·.2) =
      ((ps.filter (·.1 == n)).getLast?).map (·.2) := by
  induction ps using List.reverseRecOn with
  | nil => rfl
  | append_singleton ps p ih =>
    rw [List.foldl_append, List.foldl_cons, List.foldl_nil, List.filter_append]
    by_cases hp : p.1 = n
    case pos =>
      subst hp
      simp [find?_setEntry_self]
    case neg =>
      rw [find?_setEntry_of_ne _ _ (Ne.symm hp), ih]
      simp [hp]

/-- Entries of names new to the table and distinct among themselves are appended in order. -/
theorem foldl_setEntry_of_nodup :
    ∀ (ps acc : List (String × α)), (acc.map (·.1) ++ ps.map (·.1)).Nodup →
      ps.foldl (fun acc (k, a) => setEntry acc k a) acc = acc ++ ps
  | [], acc, _ => by simp
  | (k, a) :: ps, acc, h => by
    have hk : k ∉ acc.map (·.1) := fun hk =>
      (List.nodup_append.1 h).2.2 k hk k (by simp) rfl
    simp only [List.foldl_cons]
    rw [setEntry_of_not_mem a hk, foldl_setEntry_of_nodup ps _ (by simpa [List.append_assoc] using h)]
    simp

end Value

namespace TripResult

/-! ## The breakdown of further costs -/

variable {i : CostInputs} {cs : List Contributor} {amounts : List Float}

/-- Each category named with its amount, in order. -/
theorem mapM_named_amounts (h : List.Forall₂ (fun c x => c.amount i = .ok x) cs amounts) :
    cs.mapM (fun c => do return (c.name, ← c.amount i)) = .ok ((cs.map (·.name)).zip amounts) := by
  induction h with
  | nil => rfl
  | cons hcx _ ih =>
    rw [List.mapM_cons, ih]
    simp [hcx]

/-- The breakdown files the named amounts by name, and the further costs sum it in its order. -/
theorem breakdownOf_eq (h : List.Forall₂ (fun c x => c.amount i = .ok x) cs amounts) :
    breakdownOf i cs =
      .ok (((cs.map (·.name)).zip amounts).foldl (fun acc (k, a) => Value.setEntry acc k a) [],
        ((((cs.map (·.name)).zip amounts).foldl (fun acc (k, a) => Value.setEntry acc k a) []).map
          (·.2)).foldl (· + ·) 0.0) := by
  simp only [breakdownOf, mapM_named_amounts h, Except.ok_bind, List.foldl_map]
  rfl

/-- Costing a trip whose breakdown is known keeps that breakdown, and its profit and
profitability are computed from the very total its fields add up to. -/
theorem compute_of_breakdownOf {table : List (String × Float)} {other : Float} (now : Moment)
    (hb : breakdownOf i cs = .ok (table, other))
    (hocc : 0 < i.capacity → Binary64.isFinite (Binary64.ofRat (i.maxPassengers / i.capacity)) = true) :
    ∃ r, compute i cs now = .ok r ∧ r.breakdown = table ∧ r.otherCosts = other ∧
      r.profit = r.revenue - r.totalCosts ∧
      (Profit.percent (.float r.profit) (.float r.totalCosts)).bind Number.toFloat = .ok r.percent := by
  obtain ⟨pct, hpct, -⟩ := Profit.percent_law (i.revenue - (i.fuelCost + i.driverCost + other))
    (i.fuelCost + i.driverCost + other)
  obtain ⟨occ, hocc', -⟩ := Profit.occupancy_law i.maxPassengers i.capacity hocc
  refine ⟨{ tripId := i.tripId, totalPassengers := i.totalPassengers,
              maxPassengers := i.maxPassengers, occupancy := occ, revenue := i.revenue,
              fuelCost := i.fuelCost, driverCost := i.driverCost, otherCosts := other,
              breakdown := table, profit := i.revenue - (i.fuelCost + i.driverCost + other),
              percent := pct, calculatedAt := some now }, ?_, rfl, rfl, rfl, hpct⟩
  simp only [compute, hb, Except.ok_bind, hpct, hocc']
  rfl

/-- What costing a trip records about its further costs and its totals: each name once, with the
amount of its last category; further costs summing the breakdown in its order; with distinct
names, every category in order and the sum of all amounts in list order; and a profit and
profitability computed from the total the record's fields add up to. -/
structure CostRecord (cs : List Contributor) (amounts : List Float) (r : TripResult) : Prop where
  names_nodup : (r.breakdown.map (·.1)).Nodup
  lookup : ∀ n, (r.breakdown.find? (·.1 == n)).map (·.2) =
    ((((cs.map (·.name)).zip amounts).filter (·.1 == n)).getLast?).map (·.2)
  other : r.otherCosts = (r.breakdown.map (·.2)).foldl (· + ·) 0.0
  distinct : (cs.map (·.name)).Nodup →
    r.breakdown = (cs.map (·.name)).zip amounts ∧ r.otherCosts = amounts.foldl (· + ·) 0.0
  profit : r.profit = r.revenue - r.totalCosts
  percent : (Profit.percent (.float r.profit) (.float r.totalCosts)).bind Number.toFloat = .ok r.percent

/-- Costing a trip whose further cost categories have the amounts `amounts` (and whose occupancy
has a double) succeeds with a record of those costs: by name, last amount winning, and summed
over the breakdown; over all categories in list order when their names are distinct; and
consistent with its own total. -/
theorem compute_records_costs (i : CostInputs) (cs : List Contributor) (now : Moment) (amounts : List Float)
    (hamounts : List.Forall₂ (fun c x => c.amount i = .ok x) cs amounts)
    (hocc : 0 < i.capacity → Binary64.isFinite (Binary64.ofRat (i.maxPassengers / i.capacity)) = true) :
    ∃ r, compute i cs now = .ok r ∧ CostRecord cs amounts r := by
  obtain ⟨r, hr, htable, hother, hprofit, hpercent⟩ := compute_of_breakdownOf now (breakdownOf_eq hamounts) hocc
  have hlen : ((cs.map (·.name)).zip amounts).length = cs.length := by
    simp [hamounts.length_eq]
  refine ⟨r, hr, ⟨?_, fun n => ?_, ?_, fun hnames => ?_, hprofit, hpercent⟩⟩
  · rw [htable]
    exact Value.nodup_keys_foldl_setEntry _
  · rw [htable, Value.lookup_foldl_setEntry]
  · rw [hother, htable]
  · -- distinct names file every category in turn
    have hzip : ((cs.map (·.name)).zip amounts).foldl (fun acc (k, a) => Value.setEntry acc k a) [] =
        (cs.map (·.name)).zip amounts := by
      refine Value.foldl_setEntry_of_nodup _ [] ?_
      rwa [List.map_fst_zip (by simp [hamounts.length_eq])]
    refine ⟨htable.trans hzip, ?_⟩
    rw [hother, hzip, List.map_snd_zip (by simp [hamounts.length_eq])]

/-- A 480 km trip on a 50-seat bus with insurance and tolls per kilometre, two distinct names, is
costed with both categories filed in turn. -/
theorem compute_records_costs_with_insurance_and_tolls :
    let trip : CostInputs :=
      { tripId := 17, capacity := 50, consumption := 25.0, distance := 480.1, fuelCostPerKm := 10.0,
        driverCost := 800.0, totalPassengers := 52, maxPassengers := 45, revenue := 3550.0 }
    let extras := [Contributor.fixed "insurance" (.float 150.0), .perUnit "tolls" "distance_km" (.float 0.1)]
    List.Forall₂ (fun c x => c.amount trip = .ok x) extras [150.0, 480.1 * 0.1] ∧
      (0 < trip.capacity → Binary64.isFinite (Binary64.ofRat (trip.maxPassengers / trip.capacity)) = true) ∧
      ∃ r, compute trip extras { date := ⟨2025, 12, 15⟩, hour := 20, offset := some 0 } = .ok r ∧
        CostRecord extras [150.0, 480.1 * 0.1] r := by
  intro trip extras
  have hamounts : List.Forall₂ (fun c x => c.amount trip = .ok x) extras [150.0, 480.1 * 0.1] :=
    .cons rfl (.cons rfl .nil)
  have hocc : 0 < trip.capacity → Binary64.isFinite (Binary64.ofRat (trip.maxPassengers / trip.capacity)) = true :=
    fun _ => by decide +kernel
  exact ⟨hamounts, hocc, compute_records_costs trip extras _ _ hamounts hocc⟩

/-- A 100 km trip with two categories both named `insurance`, of 100 and 50: the breakdown keeps
only the later, and the further costs are 50, not the 150 of both. -/
theorem compute_drops_earlier_cost_of_same_name :
    let trip : CostInputs :=
      { tripId := 1, capacity := 50, consumption := 30.0, distance := 100.0, fuelCostPerKm := 2.0,
        driverCost := 500.0, totalPassengers := 40, maxPassengers := 30, revenue := 2000.0 }
    ∃ r, compute trip [.fixed "insurance" (.float 100.0), .fixed "insurance" (.float 50.0)]
        { date := ⟨2025, 10, 14⟩, hour := 12, offset := some 0 } = .ok r ∧
      r.breakdown = [("insurance", 50.0)] ∧ r.otherCosts ≠ (0.0 + 100.0) + 50.0 := by
  intro trip
  have hamounts : List.Forall₂ (fun c x => c.amount trip = .ok x)
      [Contributor.fixed "insurance" (.float 100.0), .fixed "insurance" (.float 50.0)] [100.0, 50.0] :=
    .cons rfl (.cons rfl .nil)
  have hocc : 0 < trip.capacity → Binary64.isFinite (Binary64.ofRat (trip.maxPassengers / trip.capacity)) = true :=
    fun _ => by decide +kernel
  obtain ⟨r, hr, htable, hother, -⟩ := compute_of_breakdownOf _ (breakdownOf_eq hamounts) hocc
  have hbreak : r.breakdown = [("insurance", 50.0)] := by
    rw [htable]
    rfl
  refine ⟨r, hr, hbreak, ?_⟩
  rw [hother, ← htable, hbreak]
  intro h
  have hbits := congrArg Float.toBits h
  revert hbits
  decide

end TripResult

end TransitRevenue
