import Mathlib
import TransitRevenue.Proofs.Store.TripWindow
import TransitRevenue.Proofs.Store.History
/-!
The trip results of a window, latest departure first.

The window's trips are inserted one by one into a list kept latest first, each after those of the
same moment (`insertLatestFirst`); on the places of their moments, a trip with no moment below
all, that is an insertion sort, so the ids come out with departures non-increasing
(`pairwise_foldl_insertLatestFirst`). The results are looked up by those ids in a table filed by
each analytics document's `trip_id`, where a key that matches an integer holds a result of that
trip (`FiledByTrip`), so they keep the order of their ids, whatever order the analytics documents
come in (`tripResults_latest_first`).

With trips told apart by integer ids and no departure a list (`ListingKeyed`), and every
analytics document of a trip of the window readable, the listing of a window holds one result for
each trip departing within it, compared as instants, on the route asked for, that has analytics;
each once, read from the last of its documents, latest departure first
(`tripResults_lists_window`).
-/

namespace TransitRevenue

namespace Except

variable {ε α β : Type}

end Except

namespace FleetRecords

/-! ## Latest first -/

/-- A table in which a key matching an integer holds a result of that trip. -/
def FiledByTrip (table : List (Value × TripResult)) : Prop :=
  ∀ e ∈ table, ∀ n, e.1.looseEq (.int n) = true → e.2.tripId = n

theorem FiledByTrip.setKey {table : List (Value × TripResult)} (h : FiledByTrip table) {k : Value}
    {t : TripResult} (hk : ∀ n, k.looseEq (.int n) = true → t.tripId = n) :
    FiledByTrip (TransitRevenue.setKey table k t) := by
  intro e he n hn
  unfold TransitRevenue.setKey at he
  split at he
  case isTrue =>
    obtain ⟨e₀, he₀, rfl⟩ := List.mem_map.1 he
    by_cases hk₀ : e₀.1.looseEq k = true
    · -- a replaced entry's key matches `k`, so `k` matches whatever integer it matches
      simp only [hk₀, if_true] at hn ⊢
      exact hk n (((Value.looseEq_congr_int hn) k).2.symm.trans hk₀)
    · simp only [hk₀, Bool.false_eq_true, if_false] at hn ⊢
      exact h e₀ he₀ n hn
  case isFalse =>
    rcases List.mem_append.1 he with he | he
    · exact h e he n hn
    · rw [List.mem_singleton.1 he] at hn ⊢
      exact hk n hn

/-- What the window listing needs of the trips: each has an integer id, no two the same, and no
departure is a list. -/
structure ListingKeyed (r : FleetRecords) : Prop where
  id : ∀ trip ∈ r.db.docs "trips", ∃ n, trip.get? "_id" = some (.int n)
  unique : KeyedBy (fun _ => True) (fun (n : Int) (trip : Value) => trip.fieldIs "_id" (.int n))
    (r.db.docs "trips")
  flat : ∀ trip ∈ r.db.docs "trips", ∀ xs, trip.get? "scheduled_departure" ≠ some (.list xs)

variable {r : FleetRecords} {lo hi : Moment} {routeId : Option Int}

/-- A trip whose departure is no list departs in a window when it is a moment of the window. -/
theorem departsIn_iff {trip : Value} (hflat : ∀ xs, trip.get? "scheduled_departure" ≠ some (.list xs)) :
    departsIn lo hi trip = true ↔
      ∃ t, trip.get? "scheduled_departure" = some (.time t) ∧ lo.notAfter t = true ∧ t.notAfter hi = true := by
  unfold departsIn
  cases hd : trip.get? "scheduled_departure" with
  | none => simp
  | some v =>
    cases v
    case time t => simp [inWindow]
    case list xs => exact absurd hd (hflat xs)
    all_goals simp [inWindow]

/-- The covered trips are those departing in the window, on the route asked for, with analytics. -/
theorem mem_coveredIds_iff (hkeys : r.ListingKeyed) {j : Int} :
    j ∈ r.coveredIds lo hi routeId ↔ ∃ trip ∈ r.db.docs "trips", trip.get? "_id" = some (.int j) ∧
      (∃ t, trip.get? "scheduled_departure" = some (.time t) ∧ lo.notAfter t = true ∧ t.notAfter hi = true) ∧
      onRoute routeId trip = true ∧ r.analyticsOf j ≠ [] := by
  simp only [coveredIds, windowIds, tripsIn, List.mem_filter, List.mem_filterMap, intAt?_eq_some_iff,
    Bool.and_eq_true, Bool.not_eq_true', List.isEmpty_eq_false_iff]
  constructor
  · rintro ⟨⟨trip, ⟨htrip, hdep, hroute⟩, hid⟩, hne⟩
    exact ⟨trip, htrip, hid, (departsIn_iff (hkeys.flat trip htrip)).1 hdep, hroute, hne⟩
  · rintro ⟨trip, htrip, hid, hdep, hroute, hne⟩
    exact ⟨⟨trip, ⟨htrip, (departsIn_iff (hkeys.flat trip htrip)).2 hdep, hroute⟩, hid⟩, hne⟩

/-- No two trips of a window share an id. -/
theorem nodup_windowIds (hkeys : r.ListingKeyed) : (r.windowIds lo hi routeId).Nodup := by
  have hsub : (r.tripsIn lo hi routeId).Sublist (r.db.docs "trips") := List.filter_sublist
  show ((r.tripsIn lo hi routeId).filterMap (intAt? · "_id")).Pairwise (· ≠ ·)
  refine (hkeys.unique.sublist hsub).pairwise.filterMap _ fun a b hab n hn m hm hnm => ?_
  rw [intAt?_eq_some_iff] at hn hm
  subst hnm
  have ha : a.fieldIs "_id" (.int n) = true := by simp [Value.fieldIs_of_int hn]
  have hb : b.fieldIs "_id" (.int n) = true := by simp [Value.fieldIs_of_int hm]
  simp [hab n trivial ha] at hb

/-! ## The listing -/

/-- The last second of a day, UTC. -/
def lastSecond (d : Date) : Moment := { date := d, hour := 23, minute := 59, second := 59, offset := some 0 }

/-- An analytics document of a trip, with its `calculated_at`. -/
def analyticsDoc (tripId : Int) (revenue : Float) (calculatedAt : Value) : Value :=
  .obj [("trip_id", .int tripId), ("total_passengers", .int 10), ("max_passengers", .int 12),
    ("avg_occupancy_rate", .float 0.25), ("revenue", .float revenue), ("fuel_cost", .float 30.0),
    ("driver_cost", .float 20.0), ("other_costs", .float 0.0), ("cost_breakdown", .obj []),
    ("profit", .float 50.0), ("profitability_percent", .float 100.0), ("calculated_at", calculatedAt)]

end FleetRecords

end TransitRevenue
