import Mathlib
import TransitRevenue.Proofs.Profit.Rollup
/-!
The profitability report splits the trips a lookup resolves among their routes.

A lookup may answer for a trip with a route, with none, or by finding no record of it; the report
treats the last two alike (`routeOf_of_answers`), so the trips it groups are those the lookup
resolves (`resolvedRows`). Over trips the lookup answers for, the report exists and `Partitions`
them: the summary counts every trip and totals their passengers as the column stores them, and
the breakdown has one group per resolved route id, ascending, each the totals (`TotalsOf`) of
exactly the trips resolved to that route. The groups' counts add up to the resolved trips
(`Partitions.sum_trips`).

Passenger totals are not exact sums. A column of 64-bit counts wraps around (`wholeTotal`), and a
route's total is read out through a double: two trips of 2^62 passengers each total -2^63, in the
summary and in their route's group (`report_wraps_passengers`).
-/

namespace TransitRevenue

namespace Rollup

/-! ## Resolving routes -/

/-- Whether a lookup answers for a trip: with a route, with none, or by finding no record. -/
def Answers (lookup : Int → Except Fault (Option RouteRef)) (tripId : Int) : Prop :=
  (∃ r, lookup tripId = .ok r) ∨ ∃ entity id, lookup tripId = .error (.missing entity id)

/-- The route a lookup gives a trip, none when it gives none or fails. -/
def resolvedRoute (lookup : Int → Except Fault (Option RouteRef)) (tripId : Int) : Option RouteRef :=
  match lookup tripId with
  | .ok r => r
  | .error _ => none

/-- The rows of the trips a lookup resolves, each with its route, in the trips' order. -/
def resolvedRows (lookup : Int → Except Fault (Option RouteRef)) (results : List TripResult) :
    List (Row × RouteRef) :=
  (results.map Row.ofResult).filterMap fun row => (resolvedRoute lookup row.tripId).map (row, ·)

section Lookup

variable {lookup : Int → Except Fault (Option RouteRef)}

theorem routeOf_of_answers {tripId : Int} (h : Answers lookup tripId) :
    routeOf lookup tripId = .ok (resolvedRoute lookup tripId) := by
  rcases h with ⟨r, hr⟩ | ⟨entity, id, he⟩
  · simp [routeOf, resolvedRoute, hr]
  · simp [routeOf, resolvedRoute, he]

/-- A resolved row is a trip's row under the route the lookup gives it. -/
theorem mem_resolvedRows {results : List TripResult} {p : Row × RouteRef} :
    p ∈ resolvedRows lookup results ↔
      ∃ t ∈ results, resolvedRoute lookup t.tripId = some p.2 ∧ p.1 = Row.ofResult t := by
  obtain ⟨row, r⟩ := p
  simp only [resolvedRows, List.mem_filterMap, List.mem_map, Option.map_eq_some_iff, Prod.mk.injEq]
  constructor
  · rintro ⟨_, ⟨t, ht, rfl⟩, r', hr', rfl, rfl⟩
    exact ⟨t, ht, hr', rfl⟩
  · rintro ⟨t, ht, hr, rfl⟩
    exact ⟨_, ⟨t, ht, rfl⟩, r, hr, rfl, rfl⟩

/-- The route ids of the resolved rows are those the lookup gives some trip. -/
theorem exists_resolvedRows_iff {results : List TripResult} {k : Int} :
    (∃ p ∈ resolvedRows lookup results, p.2.routeId = k) ↔
      ∃ t ∈ results, ∃ r, resolvedRoute lookup t.tripId = some r ∧ r.routeId = k := by
  constructor
  · rintro ⟨p, hp, rfl⟩
    obtain ⟨t, ht, hr, -⟩ := mem_resolvedRows.1 hp
    exact ⟨t, ht, p.2, hr, rfl⟩
  · rintro ⟨t, ht, r, hr, rfl⟩
    exact ⟨(Row.ofResult t, r), mem_resolvedRows.2 ⟨t, ht, hr, rfl⟩, rfl⟩

end Lookup

/-! ## The report's partition -/

theorem summarize_passengers {rows : List Row} {s : Summary} (h : summarize rows = .ok s) :
    s.passengers = wholeTotal (rows.map (·.passengers)) := by
  obtain ⟨pct, hpct⟩ := percent_ok (columnSum (rows.map (·.profit))) (columnSum (rows.map (·.costs)))
  simp only [summarize, hpct, Except.ok_bind] at h
  rw [← Except.ok.inj h]

/-- What the report over some trips says of them: the summary counts them all and totals their
passengers as the column stores them; the breakdown has one group per route id the lookup gives
some trip, ascending, each the totals of the trips resolved to that route. -/
structure Partitions (results : List TripResult) (lookup : Int → Except Fault (Option RouteRef))
    (rep : Report) : Prop where
  trips : rep.summary.trips = results.length
  passengers : rep.summary.passengers = wholeTotal (results.map (·.totalPassengers))
  sorted : (rep.byRoute.map (·.route.routeId)).Pairwise (· < ·)
  routes : ∀ k, k ∈ rep.byRoute.map (·.route.routeId) ↔
    ∃ t ∈ results, ∃ r, resolvedRoute lookup t.tripId = some r ∧ r.routeId = k
  totals : ∀ g ∈ rep.byRoute, TotalsOf (Storage.of (results.map (·.totalPassengers)))
    (ascending ((resolvedRows lookup results).map (·.2.routeId)))
    (onRoute (resolvedRows lookup results) g.route.routeId) g

/-- The report over some trips, each of which the lookup answers for, exists and partitions the
trips the lookup resolves among their routes. -/
theorem report_partitions {results : List TripResult} {lookup : Int → Except Fault (Option RouteRef)}
    (hne : results ≠ []) (hlook : ∀ t ∈ results, Answers lookup t.tripId) :
    ∃ rep, report results lookup = .ok rep ∧ Partitions results lookup rep := by
  have hstore : Storage.of ((results.map Row.ofResult).map (·.passengers)) =
      Storage.of (results.map (·.totalPassengers)) := by
    rw [List.map_map]
    rfl
  obtain ⟨s, hs, hstrips⟩ := summarize_ok (results.map Row.ofResult)
  obtain ⟨groups, hg, hsorted, hmem, htot⟩ :=
    byRoute_spec (Storage.of (results.map (·.totalPassengers))) (resolvedRows lookup results)
  -- the routes looked up are the resolved ones, the trips without a route being dropped
  have hrouted : (results.map Row.ofResult).filterMapM (fun row => do
      return (← routeOf lookup row.tripId).map (row, ·)) = .ok (resolvedRows lookup results) := by
    refine Except.filterMapM_eq_ok_filterMap fun row hrow => ?_
    obtain ⟨t, ht, rfl⟩ := List.mem_map.1 hrow
    have hid : (Row.ofResult t).tripId = t.tripId := rfl
    rw [hid, routeOf_of_answers (hlook t ht)]
    rfl
  have hempty : results.isEmpty = false := by simpa using hne
  refine ⟨{ summary := s, byRoute := groups }, ?run, ⟨?trips, ?passengers, hsorted, ?routes, htot⟩⟩
  case run =>
    simp only [report, hempty, Bool.false_eq_true, if_false, hs, Except.ok_bind, hrouted, hstore, hg]
    rfl
  case trips => rw [hstrips, List.length_map]
  case passengers =>
    rw [summarize_passengers hs, List.map_map]
    rfl
  case routes => exact fun k => (hmem k).trans exists_resolvedRows_iff

theorem report_partitions_of_two_routes :
    let trip := fun (id passengers : Int) =>
      ({ tripId := id, totalPassengers := passengers, maxPassengers := 40, occupancy := 50.0,
         revenue := 100.0, fuelCost := 10.0, driverCost := 20.0, profit := 70.0,
         percent := 233.33333333333334 } : TripResult)
    let lookup := fun (id : Int) => if id = 3 then .error (.missing "route" "3")
      else .ok (some (⟨id % 2, "Line " ++ toString (id % 2)⟩ : RouteRef))
    ([trip 1 12, trip 2 30, trip 3 7] ≠ [] ∧ ∀ t ∈ [trip 1 12, trip 2 30, trip 3 7], Answers lookup t.tripId) ∧
      ∃ rep, report [trip 1 12, trip 2 30, trip 3 7] lookup = .ok rep ∧
        Partitions [trip 1 12, trip 2 30, trip 3 7] lookup rep := by
  intro trip lookup
  have hlook : ∀ t ∈ [trip 1 12, trip 2 30, trip 3 7], Answers lookup t.tripId := by
    intro t ht
    simp only [List.mem_cons, List.not_mem_nil, or_false] at ht
    rcases ht with rfl | rfl | rfl
    · exact .inl ⟨_, rfl⟩
    · exact .inl ⟨_, rfl⟩
    · exact .inr ⟨"route", "3", rfl⟩
  exact ⟨⟨by simp, hlook⟩, report_partitions (by simp) hlook⟩

/-- The groups of a partition count every resolved trip once. -/
theorem Partitions.sum_trips {results : List TripResult} {lookup : Int → Except Fault (Option RouteRef)}
    {rep : Report} (h : Partitions results lookup rep) :
    (rep.byRoute.map (·.trips)).sum = (resolvedRows lookup results).length := by
  set rows := resolvedRows lookup results
  have hcount : rep.byRoute.map (·.trips) =
      (rep.byRoute.map (·.route.routeId)).map fun k => ((rows.filter (·.2.routeId == k)).length : Int) := by
    rw [List.map_map]
    exact List.map_congr_left fun g hg => (h.totals g hg).trips
  have hkeys : ∀ k, k ∈ rep.byRoute.map (·.route.routeId) ↔ ∃ p ∈ rows, p.2.routeId = k :=
    fun k => (h.routes k).trans exists_resolvedRows_iff.symm
  rw [hcount, ← sum_length_filter rows (·.2.routeId) (h.sorted.imp Int.ne_of_lt) hkeys,
    Nat.cast_list_sum]
  simp only [List.map_map]
  rfl

/-! ## Wrapped passenger totals -/

/-- Two trips of 2^62 passengers each, on one route: their passenger total wraps around to -2^63,
in the summary and in the route's group. -/
theorem report_wraps_passengers :
    let trip := fun (id : Int) =>
      ({ tripId := id, totalPassengers := 2 ^ 62, maxPassengers := 10, occupancy := 50.0,
         revenue := 100.0, fuelCost := 10.0, driverCost := 20.0, profit := 70.0,
         percent := 233.33333333333334 } : TripResult)
    ∃ rep, report [trip 1, trip 2] (fun _ => .ok (some ⟨1, "North"⟩)) = .ok rep ∧
      rep.summary.passengers = -2 ^ 63 ∧ rep.byRoute.map (·.passengers) = [-2 ^ 63] := by
  intro trip
  obtain ⟨rep, hrep, -, -⟩ := @report_ok [trip 1, trip 2] (fun _ => .ok (some ⟨1, "North"⟩))
    (by simp) (fun _ => ⟨1, "North"⟩) (fun _ _ => rfl)
  have h : ((report [trip 1, trip 2] (fun _ => .ok (some ⟨1, "North"⟩))).map
      (fun rep => (rep.summary.passengers, rep.byRoute.map (·.passengers)))).toOption =
      some (-2 ^ 63, [-2 ^ 63]) := by
    decide +kernel
  rw [hrep] at h
  simp only [Except.map_ok, Except.toOption, Option.some.injEq, Prod.mk.injEq] at h
  exact ⟨rep, hrep, h⟩

end Rollup

end TransitRevenue
