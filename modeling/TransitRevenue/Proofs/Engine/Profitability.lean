import TransitRevenue.Engine.Service
import TransitRevenue.Proofs.Store.TripWindow
import TransitRevenue.Proofs.Store.Listing
import TransitRevenue.Proofs.Profit.Rollup
/-!
The profitability report over the fleet's records.

`profitability_reports_window`: when every trip has an integer id, no two the same, an integer
route and a departure that is no list, and every analytics document of a trip of the window reads
as a trip result, the report over the days from `start` to `finish` is given, named by the two
days, and `ReportsWindow` holds of it: its summary is that of one result for each trip whose
departure is a moment of the window and that has analytics, read from the last of its documents;
each such trip is filed under the route its document names, with the name of the route's
document or the name of an unknown route; so the routes' counts add up to the summary's, and a
report for one route has that route alone.

Without the provisos the report is no account of the window (`profitability_report_not_exact`):
an analytics document that does not read fails it, and a departure written as a list is taken
when some moment of it is at or after the start and some, maybe another, at or before the end.
-/

namespace TransitRevenue

namespace FleetRecords

/-- What a profitability report tells of the fleet's records over a window. -/
structure ReportsWindow (r : FleetRecords) (lo hi : Moment) (routeId : Option Int) (rep : Report) :
    Prop where
  /-- The summary is that of one result for each trip of the window that has analytics. -/
  summary : ∃ results, r.WindowResults lo hi routeId results ∧
    (results ≠ [] → Rollup.summarize (results.map Rollup.Row.ofResult) = .ok rep.summary)
  /-- The trips of the window that have analytics are those whose departure is a moment of the
  window, on the route asked for; no two share an id. -/
  covers : ∀ j, j ∈ r.coveredIds lo hi routeId ↔ ∃ trip ∈ r.db.docs "trips", trip.get? "_id" = some (.int j) ∧
    (∃ t, trip.get? "scheduled_departure" = some (.time t) ∧ lo.notAfter t = true ∧ t.notAfter hi = true) ∧
    onRoute routeId trip = true ∧ r.analyticsOf j ≠ []
  once : (r.coveredIds lo hi routeId).Nodup
  /-- It counts each such trip once. -/
  trips : rep.summary.trips = (r.coveredIds lo hi routeId).length
  /-- The routes' counts add up to the summary's. -/
  sum_trips : (rep.byRoute.map (·.trips)).sum = rep.summary.trips
  /-- Each route is filed under its id, with the name of its document or that of an unknown route,
  and counts the covered trips that name it. -/
  routes : ∀ g ∈ rep.byRoute, g.route = r.routeRef g.route.routeId ∧
    g.trips = ((r.coveredIds lo hi routeId).filter (r.tripRoute? · == some g.route.routeId)).length
  /-- Every trip departing at a moment of the window, on the route asked for, that has analytics
  is filed under the route its document names. -/
  filed : ∀ trip ∈ r.db.docs "trips", ∀ id k t, trip.get? "_id" = some (.int id) →
    trip.get? "route_id" = some (.int k) → trip.get? "scheduled_departure" = some (.time t) →
    lo.notAfter t = true → t.notAfter hi = true → onRoute routeId trip = true → r.analyticsOf id ≠ [] →
      ∃ g ∈ rep.byRoute, g.route = r.routeRef k
  /-- Routes come in ascending order of id. -/
  ascending : rep.byRoute.Pairwise (·.route.routeId < ·.route.routeId)
  /-- A report for one route has that route's entry at most. -/
  one_route : ∀ k, routeId = some k → rep.byRoute = [] ∨ ∃ g, rep.byRoute = [g] ∧ g.route.routeId = k

section Report

variable {r : FleetRecords} {lo hi : Moment} {routeId : Option Int}

/-- A trip departing at a moment of the window, on the route asked for, is a trip of the window. -/
theorem mem_tripsIn_of_moment (hlist : r.ListingKeyed) {trip : Value} (htrip : trip ∈ r.db.docs "trips")
    {t : Moment} (hdep : trip.get? "scheduled_departure" = some (.time t)) (hlo : lo.notAfter t = true)
    (hhi : t.notAfter hi = true) (hon : onRoute routeId trip = true) : trip ∈ r.tripsIn lo hi routeId :=
  List.mem_filter.2 ⟨htrip, by simp [(departsIn_iff (hlist.flat trip htrip)).2 ⟨t, hdep, hlo, hhi⟩, hon]⟩

/-- With no trip of the window covered, the empty report tells it. -/
theorem reportsWindow_empty (hlist : r.ListingKeyed) (hwin : r.WindowResults lo hi routeId [])
    (p q : Option String) : r.ReportsWindow lo hi routeId { periodFrom := p, periodTo := q } := by
  have hnone : r.coveredIds lo hi routeId = [] := List.eq_nil_of_length_eq_zero hwin.length_eq.symm
  refine ⟨⟨[], hwin, fun h => absurd rfl h⟩, fun j => mem_coveredIds_iff hlist, (nodup_windowIds hlist).filter _,
    by simp [hnone], rfl, by simp, ?_, .nil, fun _ _ => .inl rfl⟩
  intro trip htrip id k t hid _ hdep hlo hhi hon hne
  have := mem_coveredIds (mem_tripsIn_of_moment hlist htrip hdep hlo hhi hon) hid hne
  simp [hnone] at this

/-- The report of a window's results, each filed under the route its trip's document names,
tells the window. -/
theorem reportsWindow_of_report (hkeys : r.TripsKeyed) (hlist : r.ListingKeyed) {results : List TripResult}
    (hwin : r.WindowResults lo hi routeId results) {rep : Report}
    (hsum : Rollup.summarize (results.map Rollup.Row.ofResult) = .ok rep.summary)
    (hby : Rollup.byRoute (Rollup.Storage.of ((results.map Rollup.Row.ofResult).map (·.passengers)))
      ((results.map Rollup.Row.ofResult).map fun row =>
        (row, r.routeRef ((r.tripRoute? row.tripId).getD 0))) = .ok rep.byRoute) :
    r.ReportsWindow lo hi routeId rep := by
  set routed := (results.map Rollup.Row.ofResult).map fun row =>
    (row, r.routeRef ((r.tripRoute? row.tripId).getD 0)) with hrouted_def
  -- each routed row is a result's, under the route its trip names
  have hrouted : ∀ p ∈ routed, ∃ t ∈ results, ∃ k, r.tripRoute? t.tripId = some k ∧
      p = (Rollup.Row.ofResult t, r.routeRef k) ∧ ∀ k', routeId = some k' → k = k' := by
    intro p hp
    obtain ⟨t, ht, rfl⟩ := List.mem_map.1 (by simpa only [routed, List.map_map] using hp)
    obtain ⟨k, hk, hon⟩ := hwin.route hkeys ht
    refine ⟨t, ht, k, hk, ?_, hon⟩
    show (_, r.routeRef ((r.tripRoute? t.tripId).getD 0)) = _
    rw [hk]
    rfl
  obtain ⟨keys, groups, hgroups, hsorted, hmem, hrel⟩ := Rollup.byRoute_groups _ routed
  have hbg : rep.byRoute = groups := Except.ok.inj (hby.symm.trans hgroups)
  -- a group's route is the route of its key
  have hgroute : ∀ (k : Int) (g : RouteTotals), (g.trips = ((routed.filter (·.2.routeId == k)).length : Int) ∧
      ∃ p ∈ routed, p.2.routeId = k ∧ g.route = p.2) → g.route = r.routeRef k := by
    rintro k g ⟨-, p, hp, hpk, hg⟩
    obtain ⟨t, -, k', -, rfl, -⟩ := hrouted p hp
    subst hpk
    exact hg
  -- the rows of a route are the covered trips that name it
  have hcount : ∀ k, (routed.filter (·.2.routeId == k)).length =
      ((r.coveredIds lo hi routeId).filter (r.tripRoute? · == some k)).length := by
    intro k
    have hrows : (routed.filter (·.2.routeId == k)).length =
        (results.filter fun t => (r.tripRoute? t.tripId).getD 0 == k).length := by
      simp only [routed, List.map_map, List.filter_map, List.length_map]
      rfl
    rw [hrows, hwin.length_filter fun id => (r.tripRoute? id).getD 0 == k]
    congr 1
    apply List.filter_congr
    intro id hid
    obtain ⟨k', hk', -⟩ := route_of_mem_windowIds hkeys (List.mem_filter.1 hid).1
    simp [hk']
  obtain ⟨s, hs, hstrips⟩ := Rollup.summarize_ok (results.map Rollup.Row.ofResult)
  have hss : s = rep.summary := Except.ok.inj (hs.symm.trans hsum)
  subst hss
  have htrips : rep.summary.trips = (r.coveredIds lo hi routeId).length := by
    rw [hstrips, List.length_map, hwin.length_eq]
  refine ⟨⟨results, hwin, fun _ => hsum⟩, fun j => mem_coveredIds_iff hlist, (nodup_windowIds hlist).filter _,
    htrips, ?_, ?_, ?_, ?_, ?_⟩ <;> rw [hbg]
  case refine_1 =>
    rw [Rollup.sum_trips_byRoute hsorted hmem hrel, htrips]
    simp [routed, hwin.length_eq]
  case refine_2 =>
    intro g hg
    obtain ⟨k, -, hkg⟩ := Except.forall₂_exists_right hrel g hg
    have hroute := hgroute k g hkg
    have hid : g.route.routeId = k := by rw [hroute]; rfl
    refine ⟨by rw [hid, hroute], ?_⟩
    rw [hkg.1, hcount, hid]
  case refine_3 =>
    intro trip htrip id k d hid hk hdep hlo hhi hon hne
    have hin := mem_tripsIn_of_moment hlist htrip hdep hlo hhi hon
    obtain ⟨t, ht, rfl⟩ := hwin.exists_of_mem_coveredIds (mem_coveredIds hin hid hne)
    have htr : r.tripRoute? t.tripId = some k := by
      rw [tripRoute?_eq hkeys htrip hid, intAt?_eq hk]
    have hk_mem : k ∈ keys := (hmem k).2 ⟨_, List.mem_map_of_mem (List.mem_map_of_mem ht), by
      show (r.tripRoute? t.tripId).getD 0 = k
      rw [htr]
      rfl⟩
    obtain ⟨g, hg, hkg⟩ := Except.forall₂_exists_left hrel k hk_mem
    exact ⟨g, hg, hgroute k g hkg⟩
  case refine_4 =>
    refine Except.forall₂_pairwise (fun a a' b b' hab hab' hlt => ?_) hrel hsorted
    rw [hgroute a b hab, hgroute a' b' hab']
    exact hlt
  case refine_5 =>
    intro k0 hk0
    -- every key is the route asked for, and the keys ascend, so there is one at most
    have hall : ∀ k ∈ keys, k = k0 := by
      intro k hk
      obtain ⟨p, hp, hpk⟩ := (hmem k).1 hk
      obtain ⟨t, -, k', -, rfl, hon⟩ := hrouted p hp
      rw [← hpk]
      exact hon k0 hk0
    cases hrel with
    | nil => exact .inl rfl
    | @cons k g ks gs hkg hrest =>
      have hks : ks = [] := by
        cases ks with
        | nil => rfl
        | cons k' ks' =>
          have hlt := List.rel_of_pairwise_cons hsorted (List.mem_cons_self)
          rw [hall k List.mem_cons_self, hall k' (by simp)] at hlt
          exact absurd hlt (lt_irrefl k0)
      subst hks
      cases hrest
      exact .inr ⟨g, rfl, by rw [hgroute k g hkg]; exact hall k List.mem_cons_self⟩

end Report

end FleetRecords

/-- Looking a trip up among pairs made from some results finds the pair of one of its results. -/
theorem find?_reverse_map {results : List TripResult} {f : Int → Option RouteRef} {t : TripResult}
    (ht : t ∈ results) :
    (((results.map fun t => (t.tripId, f t.tripId)).reverse.find? (·.1 == t.tripId)).bind (·.2)) =
      f t.tripId := by
  cases hf : (results.map fun t => (t.tripId, f t.tripId)).reverse.find? (·.1 == t.tripId) with
  | none =>
    have := List.find?_eq_none.1 hf (t.tripId, f t.tripId) (List.mem_reverse.2 (List.mem_map_of_mem ht))
    simp at this
  | some p =>
    obtain ⟨t', -, rfl⟩ := List.mem_map.1 (List.mem_reverse.1 (List.mem_of_find?_eq_some hf))
    have h := List.find?_some hf
    simp only [beq_iff_eq] at h
    simp [h]

namespace Engine

variable {α : Type}

/-- The profitability report over the fleet's records: when the trips are keyed by integers,
no departure is a list and every analytics document of a trip of the window reads, the report is
given, named by its two days, and tells the window. -/
theorem profitability_reports_window (e : Engine FleetRecords α) (start finish : Date)
    (routeId : Option Int) (hkeys : e.store.TripsKeyed)
    (hflat : ∀ trip ∈ e.store.db.docs "trips", ∀ xs, trip.get? "scheduled_departure" ≠ some (.list xs))
    (hread : e.store.ResultsReadable (Moment.startOfDay start) (endOfDay finish) routeId) :
    ∃ rep, e.profitability start finish routeId = .ok rep ∧ rep.periodFrom = some start.iso ∧
      rep.periodTo = some finish.iso ∧
      e.store.ReportsWindow (Moment.startOfDay start) (endOfDay finish) routeId rep := by
  have hlist : e.store.ListingKeyed := ⟨hkeys.id, hkeys.unique, hflat⟩
  obtain ⟨results, hres, hwin⟩ := e.store.tripResults_spec _ _ routeId hkeys hread
  -- every trip is resolved to the route its document names
  have hroutes : results.mapM (fun t => do return (t.tripId, ← Store.routeForTrip e.store t.tripId)) =
      .ok (results.map fun t => (t.tripId, (e.store.tripRoute? t.tripId).map e.store.routeRef)) :=
    Except.mapM_eq_ok_of fun t _ => by
      rw [show Store.routeForTrip e.store t.tripId = e.store.routeForTrip t.tripId from rfl,
        FleetRecords.routeForTrip_eq _ hkeys.route]
      rfl
  unfold profitability
  rw [show Store.tripResults e.store _ _ routeId = e.store.tripResults _ _ routeId from rfl, hres,
    Except.ok_bind, hroutes, Except.ok_bind]
  by_cases hne : results = []
  case pos =>
    subst hne
    exact ⟨_, rfl, rfl, rfl, FleetRecords.reportsWindow_empty hlist hwin _ _⟩
  case neg =>
    set lookup : Int → Except Fault (Option RouteRef) := fun tripId => .ok
      (((results.map fun t => (t.tripId, (e.store.tripRoute? t.tripId).map e.store.routeRef)).reverse.find?
        (·.1 == tripId)).bind (·.2)) with hlookup
    have hlook : ∀ t ∈ results,
        lookup t.tripId = .ok (some (e.store.routeRef ((e.store.tripRoute? t.tripId).getD 0))) := by
      intro t ht
      obtain ⟨k, hk, -⟩ := hwin.route hkeys ht
      have hfind := find?_reverse_map (f := fun id => (e.store.tripRoute? id).map e.store.routeRef) ht
      simp only [hlookup, hfind, hk]
      rfl
    obtain ⟨rep, hrep, hsum, hby⟩ := Rollup.report_ok hne
      (fun id => e.store.routeRef ((e.store.tripRoute? id).getD 0)) hlook
    dsimp only
    rw [hrep]
    exact ⟨_, rfl, rfl, rfl, FleetRecords.reportsWindow_of_report hkeys hlist hwin hsum hby⟩

/-- A trip of a route departing at a moment. -/
def tripDoc (id routeId : Int) (departure : Value) : Value :=
  .obj [("_id", .int id), ("route_id", .int routeId), ("scheduled_departure", departure)]

/-- A moment of early 2025, UTC. -/
def jan2025 (day hour : Nat) : Value := .time { date := ⟨2025, 1, day⟩, hour, offset := some 0 }

/-- Five trips on two routes, of which only route 1 has a document: trips 1 and 2 of route 1 on
the first and second of January, trip 3 of route 2 on the first, with analytics; trip 4 of
route 2 on the third, with analytics; and trip 5 of route 1 on the second, without. -/
def twoRouteFleet : FleetRecords :=
  { db := { collections := [
      ("routes", [.obj [("_id", .int 1), ("name", .str "Berlin - Hamburg")]]),
      ("trips", [tripDoc 1 1 (jan2025 1 8), tripDoc 2 1 (jan2025 2 18), tripDoc 3 2 (jan2025 1 12),
        tripDoc 4 2 (jan2025 3 9), tripDoc 5 1 (jan2025 2 7)]),
      ("trip_analytics", [FleetRecords.analyticsDoc 1 100.0 .null, FleetRecords.analyticsDoc 3 80.0 .null, FleetRecords.analyticsDoc 2 120.0 .null,
        FleetRecords.analyticsDoc 4 60.0 .null])] } }

theorem twoRouteFleet_keyed : twoRouteFleet.TripsKeyed ∧
    ∀ trip ∈ twoRouteFleet.db.docs "trips", ∀ xs, trip.get? "scheduled_departure" ≠ some (.list xs) := by
  -- every trip is written by `tripDoc` with a moment
  have hshape : ∀ trip ∈ twoRouteFleet.db.docs "trips", ∃ id k d h, trip = tripDoc id k (jan2025 d h) := by
    intro trip htrip
    simp [twoRouteFleet, Database.docs] at htrip
    rcases htrip with rfl | rfl | rfl | rfl | rfl <;> exact ⟨_, _, _, _, rfl⟩
  refine ⟨⟨fun trip htrip => ?_, fun trip htrip => ?_, fun n _ => ?_⟩, fun trip htrip xs => ?_⟩
  · obtain ⟨id, k, d, h, rfl⟩ := hshape trip htrip
    exact ⟨id, rfl⟩
  · obtain ⟨id, k, d, h, rfl⟩ := hshape trip htrip
    exact ⟨k, rfl⟩
  · simp [twoRouteFleet, tripDoc, Database.docs, List.countP_cons, Value.fieldIs, Value.get?, Value.field?,
      Value.int_looseEq_int]
    split_ifs <;> omega
  · obtain ⟨id, k, d, h, rfl⟩ := hshape trip htrip
    simp [tripDoc, jan2025, Value.get?, Value.field?]

theorem twoRouteFleet_readable (lo hi : Moment) (routeId : Option Int) :
    twoRouteFleet.ResultsReadable lo hi routeId := by
  intro id _ a ha
  have hdoc := (List.mem_filter.1 ha).1
  simp [twoRouteFleet, Database.docs] at hdoc
  rcases hdoc with rfl | rfl | rfl | rfl <;> exact Except.exists_eq_ok_of_isOk (by decide +kernel)

/-- The report of the first two days of 2025 over five trips on two routes, one of them without
a route document. -/
theorem profitability_reports_two_routes :
    let e : Engine FleetRecords Unit :=
      { store := twoRouteFleet, audit := none, clock := Moment.startOfDay ⟨2025, 1, 5⟩ }
    e.store.TripsKeyed ∧
      (∀ trip ∈ e.store.db.docs "trips", ∀ xs, trip.get? "scheduled_departure" ≠ some (.list xs)) ∧
      e.store.ResultsReadable (Moment.startOfDay ⟨2025, 1, 1⟩) (endOfDay ⟨2025, 1, 2⟩) none ∧
      ∃ rep, e.profitability ⟨2025, 1, 1⟩ ⟨2025, 1, 2⟩ none = .ok rep ∧
        rep.periodFrom = some (Date.iso ⟨2025, 1, 1⟩) ∧ rep.periodTo = some (Date.iso ⟨2025, 1, 2⟩) ∧
        e.store.ReportsWindow (Moment.startOfDay ⟨2025, 1, 1⟩) (endOfDay ⟨2025, 1, 2⟩) none rep := by
  intro e
  exact ⟨twoRouteFleet_keyed.1, twoRouteFleet_keyed.2, twoRouteFleet_readable _ _ none,
    profitability_reports_window e _ _ none twoRouteFleet_keyed.1 twoRouteFleet_keyed.2
      (twoRouteFleet_readable _ _ none)⟩

/-- An engine over one trip of route 1 with the given departure and one analytics document whose
`calculated_at` is the given value. -/
def oneTripEngine (departure calculatedAt : Value) : Engine FleetRecords Unit :=
  { store := { db := { collections := [("trips", [tripDoc 1 1 departure]),
      ("trip_analytics", [FleetRecords.analyticsDoc 1 100.0 calculatedAt])] } },
    audit := none, clock := Moment.startOfDay ⟨2025, 1, 1⟩ }

/-- Without its provisos the report is no account of the window. One analytics document whose
`calculated_at` is no moment fails the whole report, though the trip has an integer id and
route; and a departure written as a list is taken when some moment of it is at or after the
start and some, maybe another, at or before the end, so a trip listed as departing on the first
and the third of January is reported for the second. -/
theorem profitability_report_not_exact :
    ((oneTripEngine (jan2025 1 10) (.str "yesterday")).profitability ⟨2025, 1, 1⟩ ⟨2025, 1, 1⟩ none).isOk =
        false ∧
      ((oneTripEngine (.list [jan2025 1 8, jan2025 3 8]) .null).profitability ⟨2025, 1, 2⟩ ⟨2025, 1, 2⟩
        none).toOption.map (·.summary.trips) = some 1 := by
  constructor <;> decide +kernel

end Engine

end TransitRevenue
