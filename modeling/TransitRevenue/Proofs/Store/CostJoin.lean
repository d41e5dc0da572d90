import Mathlib
import TransitRevenue.Proofs.Store.History
import TransitRevenue.Proofs.Store.Filing
import TransitRevenue.Proofs.Engine.Atomicity
/-!
The cost inputs of a trip, joined from five collections.

A trip is found by its id, then its route and its bus by the ids it names, and the first of the
three that is missing is the fault (`CostJoin`). Once all three are found (`Found`):
* the passengers are the distinct devices that boarded: the `device_local_id`s, other than
  `null`, of the trip's boarding events, each counted once with all the values equal to it
  (`DistinctValues`);
* the peak is the largest integer count recorded after any of the trip's events, or 0;
* the revenue is the sum of the trip's recommended prices, added from the integer zero as
  numbers add (`priceTotal`), as soon as the trip has a price recommendation at all, whatever
  they sum to; with none, it is the route's base fare, as a double, times the passengers;
* the seats and the consumption are the bus's and the distance and the fees the route's, each
  read as its field's type.
That much holds where the records allow a costing (`Costable`): devices that are single values,
integer counts, and fields that read. A device id that is a list is counted once for each of
its items, as the database's distinct values unwind lists (`costInputs_counts_listed_devices`).

A price recommendation appends a document for its trip, so recommending `n` prices for a trip
that had none makes its revenue the sum of those `n` prices, added in order from `0.0`
(`Submits.revenue`); `costInputs_join` states the join and this together.
-/

namespace TransitRevenue

/-! ## Distinct values -/

namespace Value

/-- Whether a value is a mapping, which the distinct count keeps apart from single values. -/
def isMapping : Value → Bool
  | .obj _ | .dict _ => true
  | _ => false

/-- Add a value to some distinct values, unless one of them equals it. -/
def addNew (ds : List Value) (v : Value) : List Value :=
  if ds.any (·.looseEq v) then ds else ds ++ [v]

/-- One value added to the distinct single values or to the distinct mappings seen so far. -/
def addDistinct (acc : List Value × List Value) (v : Value) : List Value × List Value :=
  if v.isMapping then (acc.1, addNew acc.2 v) else (addNew acc.1 v, acc.2)

/-- `ds` holds the distinct values of `xs`: values of `xs`, no two equal, and every value of
`xs` equal to one of them. -/
structure DistinctValues (xs ds : List Value) : Prop where
  mem : ∀ d ∈ ds, d ∈ xs
  distinct : ds.Pairwise fun a b => a.looseEq b = false
  cover : ∀ x ∈ xs, ∃ d ∈ ds, d.looseEq x = true

/-- A mapping equals no single value, either way round. -/
theorem looseEq_of_isMapping_ne {a b : Value} (h : a.isMapping ≠ b.isMapping) : a.looseEq b = false := by
  cases a <;> cases b <;> simp_all [isMapping, looseEq, numeric?]

theorem DistinctValues.nil : DistinctValues [] [] :=
  ⟨by simp, .nil, by simp⟩

theorem DistinctValues.addNew {xs ds : List Value} (h : DistinctValues xs ds) {x : Value}
    (hx : x.looseEq x = true) : DistinctValues (xs ++ [x]) (addNew ds x) := by
  unfold Value.addNew
  split
  case isTrue hany =>
    -- a value equal to `x` is there already
    obtain ⟨d, hd, hdx⟩ := List.any_eq_true.1 hany
    refine ⟨fun d hd' => List.mem_append_left _ (h.mem d hd'), h.distinct, fun y hy => ?_⟩
    rcases List.mem_append.1 hy with hy | hy
    · exact h.cover y hy
    · rw [List.mem_singleton.1 hy]
      exact ⟨d, hd, hdx⟩
  case isFalse hany =>
    have hnew : ∀ d ∈ ds, d.looseEq x = false := by simpa using hany
    refine ⟨fun d hd => ?_, ?_, fun y hy => ?_⟩
    · rcases List.mem_append.1 hd with hd | hd
      · exact List.mem_append_left _ (h.mem d hd)
      · simp_all
    · refine List.pairwise_append.2 ⟨h.distinct, List.pairwise_singleton _ _, fun a ha b hb => ?_⟩
      rw [List.mem_singleton.1 hb]
      exact hnew a ha
    · rcases List.mem_append.1 hy with hy | hy
      · obtain ⟨d, hd, hdy⟩ := h.cover y hy
        exact ⟨d, List.mem_append_left _ hd, hdy⟩
      · rw [List.mem_singleton.1 hy]
        exact ⟨x, by simp, hx⟩

theorem DistinctValues.foldl_addNew {xs ds : List Value} (h : DistinctValues xs ds) :
    ∀ (ys : List Value), (∀ y ∈ ys, y.looseEq y = true) → DistinctValues (xs ++ ys) (ys.foldl Value.addNew ds)
  | [], _ => by simpa using h
  | y :: ys, hrefl => by
    have hy := (h.addNew (hrefl y (by simp))).foldl_addNew ys fun z hz => hrefl z (by simp [hz])
    simpa using hy

/-- The distinct single values and the distinct mappings of a list are together its distinct
values. -/
theorem DistinctValues.append_mappings {xs ds es : List Value}
    (hd : DistinctValues (xs.filter (!·.isMapping)) ds) (he : DistinctValues (xs.filter (·.isMapping)) es) :
    DistinctValues xs (ds ++ es) := by
  have hkind : ∀ a ∈ ds, ∀ b ∈ es, a.looseEq b = false := fun a ha b hb => by
    have ha' := (List.mem_filter.1 (hd.mem a ha)).2
    have hb' := (List.mem_filter.1 (he.mem b hb)).2
    exact looseEq_of_isMapping_ne (by simp_all)
  refine ⟨fun d hd' => ?_, List.pairwise_append.2 ⟨hd.distinct, he.distinct, hkind⟩, fun x hx => ?_⟩
  · rcases List.mem_append.1 hd' with h | h
    · exact (List.mem_filter.1 (hd.mem d h)).1
    · exact (List.mem_filter.1 (he.mem d h)).1
  · cases hmap : x.isMapping
    · obtain ⟨d, hmem, hdx⟩ := hd.cover x (List.mem_filter.2 ⟨hx, by simp [hmap]⟩)
      exact ⟨d, List.mem_append_left _ hmem, hdx⟩
    · obtain ⟨d, hmem, hdx⟩ := he.cover x (List.mem_filter.2 ⟨hx, hmap⟩)
      exact ⟨d, List.mem_append_right _ hmem, hdx⟩

theorem foldl_addDistinct :
    ∀ (xs : List Value) (acc : List Value × List Value),
      xs.foldl addDistinct acc =
        ((xs.filter (!·.isMapping)).foldl addNew acc.1, (xs.filter (·.isMapping)).foldl addNew acc.2)
  | [], _ => rfl
  | x :: xs, acc => by
    cases hx : x.isMapping <;> simp [addDistinct, hx, foldl_addDistinct xs]

end Value

namespace FleetRecords

open Value

/-- The distinct count of values none of which is a list: one for each distinct value. -/
theorem distinctCount_eq {xs : List Value} (hlist : ∀ x ∈ xs, ∀ ys, x ≠ .list ys)
    (hrefl : ∀ x ∈ xs, x.looseEq x = true) :
    ∃ ds, distinctCount xs = .ok ds.length ∧ DistinctValues xs ds := by
  have hkeys := DistinctValues.nil.foldl_addNew (xs.filter (!·.isMapping))
    fun y hy => hrefl y (List.mem_filter.1 hy).1
  have hmaps := DistinctValues.nil.foldl_addNew (xs.filter (·.isMapping))
    fun y hy => hrefl y (List.mem_filter.1 hy).1
  refine ⟨_, ?_, DistinctValues.append_mappings (by simpa using hkeys) (by simpa using hmaps)⟩
  unfold distinctCount
  rw [Except.foldlM_eq_ok_of (g := addDistinct) _ fun acc x hx => ?_, Except.ok_bind, foldl_addDistinct,
    List.length_append]
  · rfl
  · -- without lists every step is pure: single values and mappings each kept distinct
    obtain ⟨ks, ms⟩ := acc
    cases x
    case list ys => exact absurd rfl (hlist _ hx ys)
    all_goals rfl

/-! ## The peak -/

theorem above_int (a b : Int) : Value.above (.int a) (.int b) = .ok (decide (b < a)) := by
  have h : Value.above (.int a) (.int b) = .ok ((Number.int b).lt (.int a)) := rfl
  rw [h, Number.lt_of_finite rfl rfl]
  simp

/-- The greatest of some integers is the largest of them, and `null` when there is none. -/
theorem greatest_ints (ns : List Int) : Value.greatest (ns.map .int) = .ok (ns.max?.elim .null Value.int) := by
  cases ns with
  | nil => rfl
  | cons n ns =>
    rw [List.max?_cons', Option.elim_some]
    -- the running greatest stays the integer `max` of what has been seen
    suffices h : ∀ m, (ns.map Value.int).foldlM (fun m v => do if (← Value.above v m) then pure v else pure m)
        (Value.int m) = .ok (.int (ns.foldl max m)) from h n
    induction ns with
    | nil => intro m; rfl
    | cons k ks ih =>
      intro m
      have hstep : (do if (← Value.above (.int k) (.int m)) then pure (Value.int k) else pure (.int m) :
          Except Fault Value) = .ok (.int (max m k)) := by
        rw [above_int, Except.ok_bind]
        by_cases hmk : m < k
        · simp only [hmk, decide_true, if_true, max_eq_right hmk.le]
          rfl
        · simp only [hmk, decide_false, Bool.false_eq_true, if_false, max_eq_left (not_lt.1 hmk)]
          rfl
      rw [List.map_cons, List.foldlM_cons, hstep, Except.ok_bind, ih, List.foldl_cons]

/-! ## The prices -/

/-- Summing the prices that are numbers is folding their numbers with addition from zero. -/
theorem sumAll_filterMap_numeric (f : Value → Option Value) (ps : List Value) :
    Value.sumAll (ps.filterMap fun p => (f p).filter (·.numeric?.isSome)) =
      (ps.filterMap fun p => (f p).bind Value.numeric?).foldlM Number.add (.int 0) := by
  unfold Value.sumAll
  generalize Number.int 0 = acc
  induction ps generalizing acc with
  | nil => rfl
  | cons p ps ih =>
    cases hp : f p with
    | none => simpa [hp] using ih acc
    | some v =>
      cases hv : v.numeric? with
      | none => simpa [hp, hv] using ih acc
      | some x =>
        simp only [List.filterMap_cons, hp, Option.filter_some, hv, Option.isSome_some, if_true,
          Option.bind_some, List.foldlM_cons]
        cases hadd : acc.add x with
        | error e => rfl
        | ok acc' => exact ih acc'

/-- Doubles summed from the integer zero, as a double: their sum in order from `0.0`. -/
theorem foldlM_add_floats (xs : List Float) :
    ((xs.map Number.float).foldlM Number.add (.int 0) >>= Number.toFloat) = .ok (xs.foldl (· + ·) 0.0) := by
  cases xs with
  | nil => rfl
  | cons x xs =>
    have hfirst : (Number.int 0).add (.float x) = .ok (.float (0.0 + x)) := rfl
    rw [List.map_cons, List.foldlM_cons, hfirst, Except.ok_bind, List.foldl_cons]
    generalize 0.0 + x = a
    induction xs generalizing a with
    | nil => rfl
    | cons y ys ih =>
      have hstep : (Number.float a).add (.float y) = .ok (.float (a + y)) := rfl
      rw [List.map_cons, List.foldlM_cons, hstep, Except.ok_bind, List.foldl_cons]
      exact ih (a + y)

/-! ## What the join reads -/

/-- The first document of a collection whose `_id` matches `id`. -/
def byId? (r : FleetRecords) (coll : String) (id : Value) : Option Value :=
  r.db.findOne? coll (·.fieldIs "_id" id)

/-- The passenger events of a trip. -/
def eventsOf (r : FleetRecords) (tripId : Int) : List Value :=
  r.db.find "passenger_events" (·.fieldIs "trip_id" (.int tripId))

/-- The devices that boarded a trip: the `device_local_id`, other than `null`, of each of the
trip's boarding events that has one. -/
def boardedDevices (r : FleetRecords) (tripId : Int) : List Value :=
  (r.eventsOf tripId).filterMap fun e =>
    if e.fieldIs "event_type" (.str "board") then e.getNonNull? "device_local_id" else none

/-- The integer passenger counts recorded after the events of a trip. -/
def countsAfter (r : FleetRecords) (tripId : Int) : List Int :=
  (r.eventsOf tripId).filterMap (intAt? · "passenger_count_after")

/-- The price recommendations of a trip. -/
def pricesOf (r : FleetRecords) (tripId : Int) : List Value :=
  r.db.find "price_recommendations" (·.fieldIs "trip_id" (.int tripId))

/-- The recommended prices of a trip that are numbers, summed from the integer zero as numbers
add, as a double. -/
def priceTotal (r : FleetRecords) (tripId : Int) : Except Fault Float := do
  let prices := (r.pricesOf tripId).filterMap fun p => (p.get? "recommended_price").bind Value.numeric?
  (← prices.foldlM Number.add (.int 0)).toFloat

/-- Trip `t` is found and names a route and a bus, found as `route` and `bus`. -/
def Found (r : FleetRecords) (t : Int) (route bus : Value) : Prop :=
  ∃ trip routeId busId, r.byId? "trips" (.int t) = some trip ∧ trip.get? "route_id" = some routeId ∧
    r.byId? "routes" routeId = some route ∧ trip.get? "bus_id" = some busId ∧ r.byId? "buses" busId = some bus

/-- What the costing of a found trip reads besides its prices: devices that are single values,
each equal to itself; integer passenger counts; and the bus's and the route's figures, each
readable as its field's type. -/
structure Figures (r : FleetRecords) (t : Int) (route bus : Value) : Prop where
  devices : ∀ d ∈ r.boardedDevices t, (∀ xs, d ≠ .list xs) ∧ d.looseEq d = true
  counts : ∀ e ∈ r.eventsOf t, ∀ v, e.getNonNull? "passenger_count_after" = some v → ∃ n, v = .int n
  capacity : ∃ v n, bus.get? "capacity" = some v ∧ Field.int v = .ok n
  consumption : ∃ v x, bus.get? "fuel_consumption_per_100km" = some v ∧ Field.float v = .ok x
  distance : ∃ v x, route.get? "distance_km" = some v ∧ Field.float v = .ok x
  fuelCostPerKm : ∃ v x, route.get? "fuel_cost_per_km" = some v ∧ Field.float v = .ok x
  driverCost : ∃ v x, route.get? "driver_cost_per_trip" = some v ∧ Field.float v = .ok x

/-- What the costing of a found trip needs: its figures, and a sum of its recommended prices that
converts to a double or, when it has none, a base fare that does. -/
structure Costable (r : FleetRecords) (t : Int) (route bus : Value) : Prop extends Figures r t route bus where
  total : r.pricesOf t ≠ [] → ∃ x, r.priceTotal t = .ok x
  fare : r.pricesOf t = [] → ∃ v x, route.get? "base_price" = some v ∧ v.asFloat = .ok x

/-- The cost inputs `i` of trip `t` joined with its route and bus: the distinct devices that
boarded, the largest count or 0, the prices' total when there are prices and otherwise the fare
for each passenger, and the bus's and the route's figures. -/
structure Joined (r : FleetRecords) (t : Int) (route bus : Value) (i : CostInputs) : Prop where
  tripId : i.tripId = t
  boarded : ∃ ds, DistinctValues (r.boardedDevices t) ds ∧ i.totalPassengers = ds.length
  peak : i.maxPassengers = (r.countsAfter t).max?.getD 0
  priced : r.pricesOf t ≠ [] → r.priceTotal t = .ok i.revenue
  unpriced : r.pricesOf t = [] → ∀ v x, route.get? "base_price" = some v → v.asFloat = .ok x →
    i.revenue = x * Float.ofNat i.totalPassengers.toNat
  capacity : ∀ v, bus.get? "capacity" = some v → Field.int v = .ok i.capacity
  consumption : ∀ v, bus.get? "fuel_consumption_per_100km" = some v → Field.float v = .ok i.consumption
  distance : ∀ v, route.get? "distance_km" = some v → Field.float v = .ok i.distance
  fuelCostPerKm : ∀ v, route.get? "fuel_cost_per_km" = some v → Field.float v = .ok i.fuelCostPerKm
  driverCost : ∀ v, route.get? "driver_cost_per_trip" = some v → Field.float v = .ok i.driverCost

/-- How the costing `res` of trip `t` comes out: the fault of the first of the trip, its route
and its bus that is missing and, once all are found and the records allow a costing, the joined
inputs. -/
structure CostJoin (r : FleetRecords) (t : Int) (res : Except Fault CostInputs) : Prop where
  noTrip : r.byId? "trips" (.int t) = none → res = .error (.missing "trip" (toString t))
  noRoute : ∀ trip routeId, r.byId? "trips" (.int t) = some trip → trip.get? "route_id" = some routeId →
    r.byId? "routes" routeId = none → res = .error (.missing "route" routeId.shown)
  noBus : ∀ trip routeId route busId, r.byId? "trips" (.int t) = some trip →
    trip.get? "route_id" = some routeId → r.byId? "routes" routeId = some route →
    trip.get? "bus_id" = some busId → r.byId? "buses" busId = none → res = .error (.missing "bus" busId.shown)
  joined : ∀ route bus, r.Found t route bus → r.Costable t route bus → ∃ i, res = .ok i ∧ r.Joined t route bus i

/-! ## Each read of the join -/

variable {r : FleetRecords} {t : Int}

theorem lookup_of_some {coll entity : String} {id doc : Value} (h : r.byId? coll id = some doc) :
    r.lookup coll entity id = .ok doc := by
  rw [lookup, ← byId?, h]

theorem lookup_of_none {coll entity : String} {id : Value} (h : r.byId? coll id = none) :
    r.lookup coll entity id = .error (.missing entity id.shown) := by
  rw [lookup, ← byId?, h]

theorem field_of_get? {doc v : Value} {key : String} (h : doc.get? key = some v) : field doc key = .ok v := by
  simp [field, h]

/-- Without lists among them, the devices the code takes are the boarded devices. -/
theorem filterMap_boarded (hdev : ∀ d ∈ r.boardedDevices t, ∀ xs, d ≠ .list xs) :
    (r.eventsOf t).filterMap (fun e => if e.fieldIs "event_type" (.str "board") && e.fieldNotNull "device_local_id"
      then e.get? "device_local_id" else none) = r.boardedDevices t := by
  refine List.filterMap_congr fun e he => ?_
  by_cases hb : e.fieldIs "event_type" (.str "board") = true
  · cases hd : e.get? "device_local_id" with
    | none => simp [hb, hd, Value.fieldNotNull, Value.getNonNull?]
    | some v =>
      cases v
      case list xs =>
        exact absurd rfl (hdev _ (List.mem_filterMap.2 ⟨e, he, by simp [hb, Value.getNonNull?, hd]⟩) xs)
      all_goals simp [hb, hd, Value.fieldNotNull, Value.getNonNull?]
  · simp [hb]

/-- With integer counts, the counts the code takes are the integer counts. -/
theorem filterMap_counts
    (hcounts : ∀ e ∈ r.eventsOf t, ∀ v, e.getNonNull? "passenger_count_after" = some v → ∃ n, v = .int n) :
    (r.eventsOf t).filterMap (·.getNonNull? "passenger_count_after") = (r.countsAfter t).map .int := by
  rw [countsAfter, List.map_filterMap]
  refine List.filterMap_congr fun e he => ?_
  cases hg : e.get? "passenger_count_after" with
  | none => simp [Value.getNonNull?, intAt?, hg]
  | some v =>
    by_cases hnull : v = .null
    · subst hnull
      simp [Value.getNonNull?, intAt?, hg]
    · have hv : e.getNonNull? "passenger_count_after" = some v := by
        unfold Value.getNonNull?
        rw [hg]
        cases v <;> simp_all
      obtain ⟨n, rfl⟩ := hcounts e he v hv
      simp [Value.getNonNull?, intAt?, hg]

/-- The peak as read: the largest integer, 0 when there is none or it is 0. -/
theorem int_peak (ns : List Int) :
    Field.int (if (ns.max?.elim .null Value.int).truthy then ns.max?.elim .null Value.int else .int 0) =
      .ok (ns.max?.getD 0) := by
  cases ns.max? with
  | none => rfl
  | some m => by_cases hm : m = 0 <;> simp [Value.truthy, hm, Field.int]

/-- Cost inputs read from the joined fields. -/
theorem read_joined {c m : Int} {capV consV distV fcV dcV peakV : Value} {boarded : Nat}
    {revenue k d f dc : Float} (hc : Field.int capV = .ok c) (hk : Field.float consV = .ok k)
    (hd : Field.float distV = .ok d) (hf : Field.float fcV = .ok f) (hdc : Field.float dcV = .ok dc)
    (hm : Field.int peakV = .ok m) :
    read CostInputs.ofValue (.obj [("trip_id", .int t), ("capacity", capV), ("fuel_consumption_per_100km", consV),
      ("distance_km", distV), ("fuel_cost_per_km", fcV), ("driver_cost_per_trip", dcV),
      ("total_passengers", .int boarded), ("max_passengers", peakV), ("revenue", .float revenue)]) =
      .ok { tripId := t, capacity := c, consumption := k, distance := d, fuelCostPerKm := f,
            driverCost := dc, totalPassengers := boarded, maxPassengers := m, revenue } := by
  have ht : Field.int (.int t) = .ok t := rfl
  have hb : Field.int (.int boarded) = .ok boarded := rfl
  have hr : Field.float (.float revenue) = .ok revenue := rfl
  simp [read, CostInputs.ofValue, Fields.ofValue, Fields.req, Value.field?, hc, hk, hd, hf, hdc, hm, ht, hb, hr,
    Except.mapError]

/-- A field found once is the field read. -/
theorem read_of_get? {ε α : Type} {doc v : Value} {key : String} {read : Value → Except ε α} {a : α}
    (h : doc.get? key = some v) (hr : read v = .ok a) : ∀ w, doc.get? key = some w → read w = .ok a :=
  fun _ hw => Option.some.inj (h.symm.trans hw) ▸ hr

theorem costInputs_of_found {route bus : Value} (hfound : r.Found t route bus) (hcost : r.Costable t route bus) :
    ∃ i, r.costInputs t = .ok i ∧ r.Joined t route bus i := by
  obtain ⟨trip, routeId, busId, htrip, hrid, hroute, hbid, hbus⟩ := hfound
  obtain ⟨ds, hcount, hds⟩ := distinctCount_eq (fun d (hd : d ∈ r.boardedDevices t) => (hcost.devices d hd).1)
    (fun d hd => (hcost.devices d hd).2)
  obtain ⟨capV, c, hcapV, hc⟩ := hcost.capacity
  obtain ⟨consV, k, hconsV, hk⟩ := hcost.consumption
  obtain ⟨distV, d, hdistV, hd⟩ := hcost.distance
  obtain ⟨fcV, f, hfcV, hf⟩ := hcost.fuelCostPerKm
  obtain ⟨dcV, dc, hdcV, hdc⟩ := hcost.driverCost
  -- the code runs through to the record, with the revenue of one of its two branches
  obtain ⟨revenue, hrun, hpriced, hunpriced⟩ : ∃ revenue, r.costInputs t = .ok
      { tripId := t, capacity := c, consumption := k, distance := d, fuelCostPerKm := f, driverCost := dc,
        totalPassengers := ds.length, maxPassengers := (r.countsAfter t).max?.getD 0, revenue } ∧
      (r.pricesOf t ≠ [] → r.priceTotal t = .ok revenue) ∧
      (r.pricesOf t = [] → ∀ v x, route.get? "base_price" = some v → v.asFloat = .ok x →
        revenue = x * Float.ofNat ds.length) := by
    unfold costInputs
    rw [lookup_of_some htrip, Except.ok_bind, field_of_get? hrid, Except.ok_bind, lookup_of_some hroute,
      Except.ok_bind, field_of_get? hbid, Except.ok_bind, lookup_of_some hbus, Except.ok_bind]
    dsimp only
    rw [show (r.db.find "passenger_events" fun x => x.fieldIs "trip_id" (.int t)) = r.eventsOf t from rfl,
      filterMap_boarded (fun d hd => (hcost.devices d hd).1), hcount, Except.ok_bind,
      filterMap_counts hcost.counts, greatest_ints, Except.ok_bind,
      show (r.db.find "price_recommendations" fun x => x.fieldIs "trip_id" (.int t)) = r.pricesOf t from rfl]
    simp only [field_of_get? hcapV, field_of_get? hconsV, field_of_get? hdistV, field_of_get? hfcV,
      field_of_get? hdcV, Except.ok_bind, read_joined hc hk hd hf hdc (int_peak _)]
    by_cases hp : r.pricesOf t = []
    case pos =>
      -- no price recommendation: the fare for each passenger
      obtain ⟨v, x, hv, hx⟩ := hcost.fare hp
      refine ⟨x * Float.ofNat ds.length, ?_, fun h => absurd hp h, fun _ v' x' hv' hx' => ?_⟩
      · simp [hp, field_of_get? hv, hx]
      · rw [read_of_get? hv hx v' hv'] at hx'
        cases hx'
        rfl
    case neg =>
      -- the prices' total, whatever it is
      obtain ⟨x, hx⟩ := hcost.total hp
      obtain ⟨s, hs, hsx⟩ := Except.bind_eq_ok.1 hx
      refine ⟨x, ?_, fun _ => hx, fun h => absurd h hp⟩
      simp [hp, sumAll_filterMap_numeric, hs, hsx]
  refine ⟨_, hrun, ⟨rfl, ⟨ds, hds, rfl⟩, rfl, hpriced, fun hp v x hv hx => ?_, read_of_get? hcapV hc,
    read_of_get? hconsV hk, read_of_get? hdistV hd, read_of_get? hfcV hf, read_of_get? hdcV hdc⟩⟩
  simpa using hunpriced hp v x hv hx

/-- The costing of a trip follows the join: the fault of the first missing record, else, where
the records allow it, the joined inputs. -/
theorem costJoin (r : FleetRecords) (t : Int) : r.CostJoin t (r.costInputs t) where
  noTrip h := by
    unfold costInputs
    rw [lookup_of_none h]
    rfl
  noRoute _ _ htrip hrid hroute := by
    unfold costInputs
    rw [lookup_of_some htrip, Except.ok_bind, field_of_get? hrid, Except.ok_bind, lookup_of_none hroute]
    rfl
  noBus _ _ _ _ htrip hrid hroute hbid hbus := by
    unfold costInputs
    rw [lookup_of_some htrip, Except.ok_bind, field_of_get? hrid, Except.ok_bind, lookup_of_some hroute,
      Except.ok_bind, field_of_get? hbid, Except.ok_bind, lookup_of_none hbus]
    rfl
  joined _ _ hfound hcost := costInputs_of_found hfound hcost

/-! ## Recommending prices -/

theorem Quote.toValue_get?_id (q : Quote) : q.toValue.get? "_id" = none := by
  simp [Quote.toValue, Quote.fields, Value.get?, Value.field?]

theorem Quote.toValue_get?_tripId {q : Quote} (hq : q.tripId = some t) :
    q.toValue.get? "trip_id" = some (.int t) := by
  simp [Quote.toValue, Quote.fields, Value.get?, Value.field?, hq]

theorem Quote.toValue_get?_recommended (q : Quote) :
    q.toValue.get? "recommended_price" = some (.float q.recommended) := by
  simp [Quote.toValue, Quote.fields, Value.get?, Value.field?]

/-- A recommendation is kept at the end of the price recommendations. -/
theorem docs_write_quote (q : Quote) :
    ∃ x, Keeps q.toValue x ∧
      (r.write (.quote q)).db.docs "price_recommendations" = r.db.docs "price_recommendations" ++ [x] := by
  refine ⟨(r.db.identify q.toValue.stored).2, ?_, ?_⟩
  · unfold Database.identify
    rw [Value.get?_stored, Quote.toValue_get?_id, Option.map_none]
    exact ⟨_, rfl⟩
  · simp [write, Database.insert]

/-- Recommendations for a trip are its last price recommendations, in the order they were made;
nothing else changes. -/
theorem writeAll_quotes (r : FleetRecords) :
    ∀ (qs : List Quote), (∀ q ∈ qs, q.tripId = some t) →
      (∃ xs, List.Forall₂ (fun q x => Keeps q.toValue x) qs xs ∧
        (r.writeAll (qs.map .quote)).pricesOf t = r.pricesOf t ++ xs) ∧
      ∀ name, name ≠ "price_recommendations" → (r.writeAll (qs.map .quote)).db.docs name = r.db.docs name
  | [], _ => ⟨⟨[], .nil, by simp⟩, fun _ _ => rfl⟩
  | q :: qs, hqs => by
    obtain ⟨x, hx, hdocs⟩ := r.docs_write_quote q
    obtain ⟨⟨xs, hxs, hprices⟩, hothers⟩ :=
      writeAll_quotes (r.write (.quote q)) qs fun q' hq' => hqs q' (List.mem_cons_of_mem _ hq')
    have hget : x.get? "trip_id" = some (.int t) := by
      rw [hx.get? (by decide), Quote.toValue_get?_tripId (hqs q (by simp))]
      rfl
    have hkept : x.fieldIs "trip_id" (.int t) = true := by simp [Value.fieldIs_of_int hget]
    refine ⟨⟨x :: xs, .cons hx hxs, ?_⟩, fun name hne => ?_⟩
    · rw [List.map_cons, writeAll, List.foldl_cons, ← writeAll, hprices]
      simp [pricesOf, Database.find, hdocs, hkept]
    · rw [List.map_cons, writeAll, List.foldl_cons, ← writeAll, hothers name hne]
      exact Database.docs_insert_of_ne _ _ hne

/-- Records that differ at most in their price recommendations find the same trips, routes,
buses and events. -/
theorem found_congr {r' : FleetRecords} {route bus : Value}
    (h : ∀ name, name ≠ "price_recommendations" → r'.db.docs name = r.db.docs name) (hfound : r.Found t route bus) :
    r'.Found t route bus := by
  have hid : ∀ coll, coll ≠ "price_recommendations" → r'.byId? coll = r.byId? coll := fun coll hc => by
    funext id
    simp only [byId?, Database.findOne?, h coll hc]
  obtain ⟨trip, routeId, busId, htrip, hrid, hroute, hbid, hbus⟩ := hfound
  exact ⟨trip, routeId, busId, hid "trips" (by decide) ▸ htrip, hrid, hid "routes" (by decide) ▸ hroute, hbid,
    hid "buses" (by decide) ▸ hbus⟩

theorem figures_congr {r' : FleetRecords} {route bus : Value}
    (h : ∀ name, name ≠ "price_recommendations" → r'.db.docs name = r.db.docs name) (hfig : r.Figures t route bus) :
    r'.Figures t route bus := by
  have hev : r'.eventsOf t = r.eventsOf t := by simp only [eventsOf, Database.find, h "passenger_events" (by decide)]
  have hbd : r'.boardedDevices t = r.boardedDevices t := by simp only [boardedDevices, hev]
  exact ⟨hbd ▸ hfig.devices, hev ▸ hfig.counts, hfig.capacity, hfig.consumption, hfig.distance,
    hfig.fuelCostPerKm, hfig.driverCost⟩

/-- The numbers of kept recommendations are their recommended prices, as doubles. -/
theorem numbers_of_kept {qs : List Quote} {xs : List Value} (h : List.Forall₂ (fun q x => Keeps q.toValue x) qs xs) :
    (xs.filterMap fun p => (p.get? "recommended_price").bind Value.numeric?) = (qs.map (·.recommended)).map .float := by
  induction h with
  | nil => rfl
  | @cons q x qs xs hx _ ih =>
    have hget : x.get? "recommended_price" = some (.float q.recommended) := by
      rw [hx.get? (by decide), Quote.toValue_get?_recommended]
      rfl
    simp [hget, Value.numeric?, ih]

end FleetRecords

namespace Engine

variable {σ α : Type} [Store σ]

theorem submitPrice_tripId {e : Engine σ α} {t : Int} {base passengers capacity : Number} {departure : Moment}
    {p : Plan Quote} (h : e.submitPrice t base passengers capacity departure = .ok p) {q : Quote}
    (hq : p.answer = .ok q) : q.tripId = some t := by
  simp only [submitPrice, Except.bind_eq_ok] at h
  obtain ⟨_, -, h⟩ := h
  cases h
  cases hq
  rfl

variable [AuditSink α]

/-- A call answered with a recommendation ran its plan to that recommendation. -/
theorem run_of_perform_quote {e e' : Engine σ α} {plan : Except Fault (Plan Quote)} {q : Quote}
    (h : e.perform plan .quote = (e', .ok (.quote q))) : e.run plan = (e', .ok q) := by
  unfold perform at h
  generalize hrun : e.run plan = res at h
  obtain ⟨e'', res⟩ := res
  cases res with
  | error f => simp at h
  | ok q' =>
    simp only [Except.map_ok, Prod.mk.injEq, Except.ok.injEq, Reply.quote.injEq] at h
    obtain ⟨rfl, rfl⟩ := h
    rfl

/-- Calls recommending prices for trip `t` that each answered with their recommendation, taking
engine `e` to `e'`, with the recommendations `qs` in order. -/
inductive Submits (t : Int) : Engine FleetRecords α → List Quote → Engine FleetRecords α → Prop
  | nil (e : Engine FleetRecords α) : Submits t e [] e
  | cons {e e' e'' : Engine FleetRecords α} {q : Quote} {qs : List Quote} (base passengers capacity : Number)
      (departure : Moment) : e.serve (.submitPrice t base passengers capacity departure) = (e', .ok (.quote q)) →
      Submits t e' qs e'' → Submits t e (q :: qs) e''

/-- Recommending prices for a trip writes the recommendations, all of that trip, in order. -/
theorem Submits.store {t : Int} {e e' : Engine FleetRecords α} {qs : List Quote} (h : Submits t e qs e') :
    e'.store = e.store.writeAll (qs.map .quote) ∧ ∀ q ∈ qs, q.tripId = some t := by
  induction h with
  | nil => exact ⟨rfl, by simp⟩
  | cons base passengers capacity departure hserve _ ih =>
    obtain ⟨p, hplan, hanswer, hstore⟩ :=
      store_of_run_ok (submitPrice_records _ _ _ _ _ _) (run_of_perform_quote hserve)
    refine ⟨?_, fun q hq => ?_⟩
    · rw [ih.1, (Except.ok.inj hstore).symm]
      rfl
    · rcases List.mem_cons.1 hq with rfl | hq
      · exact submitPrice_tripId hplan hanswer
      · exact ih.2 q hq

end Engine

namespace FleetRecords

variable {α : Type} [AuditSink α] {t : Int}

/-- After recommending prices for a trip that had none, its costing, wherever its figures allow
one, goes through with the sum of those prices, added in order from `0.0`, as revenue. -/
theorem Submits.revenue {e e' : Engine FleetRecords α} {qs : List Quote} (h : Engine.Submits t e qs e')
    (hnone : e.store.pricesOf t = []) (hqs : qs ≠ []) {route bus : Value} (hfound : e.store.Found t route bus)
    (hfig : e.store.Figures t route bus) :
    ∃ i, e'.store.costInputs t = .ok i ∧ e'.store.Joined t route bus i ∧
      i.revenue = (qs.map (·.recommended)).foldl (· + ·) 0.0 := by
  obtain ⟨hstore, hids⟩ := h.store
  obtain ⟨⟨xs, hxs, hprices⟩, hothers⟩ := e.store.writeAll_quotes qs hids
  rw [hnone, List.nil_append] at hprices
  rw [hstore]
  -- the recommendations are the trip's only prices, all doubles
  have hpriced : (e.store.writeAll (qs.map .quote)).pricesOf t ≠ [] := by
    rw [hprices]
    rintro rfl
    exact hqs (List.forall₂_nil_right_iff.1 hxs)
  have htotal : (e.store.writeAll (qs.map .quote)).priceTotal t = .ok ((qs.map (·.recommended)).foldl (· + ·) 0.0) := by
    simp only [priceTotal, hprices, numbers_of_kept hxs]
    exact foldlM_add_floats _
  obtain ⟨i, hi, hj⟩ := costInputs_of_found (found_congr hothers hfound)
    ⟨figures_congr hothers hfig, fun _ => ⟨_, htotal⟩, fun h => absurd h hpriced⟩
  refine ⟨i, hi, hj, ?_⟩
  have hrev := (hj.priced hpriced).symm.trans htotal
  simpa using hrev

/-- The costing of a trip joins its route and its bus. It fails on the first of the three that is
missing, with its id; once all are found, where the records allow a costing, it counts the
distinct devices that boarded, takes the largest count recorded after an event or 0, takes the
prices' total when the trip has prices and otherwise the base fare for each passenger, and takes
the seats and the consumption from the bus and the distance and the fees from the route. And
after `n` recommended prices for a trip that had none, its revenue is their sum. -/
theorem costInputs_join (r : FleetRecords) (t : Int) :
    r.CostJoin t (r.costInputs t) ∧
      ∀ {α : Type} [AuditSink α] (e e' : Engine FleetRecords α) (qs : List Quote), Engine.Submits t e qs e' →
        e.store = r → r.pricesOf t = [] → qs ≠ [] → ∀ route bus, r.Found t route bus → r.Figures t route bus →
        ∃ i, e'.store.costInputs t = .ok i ∧ e'.store.Joined t route bus i ∧
          i.revenue = (qs.map (·.recommended)).foldl (· + ·) 0.0 := by
  refine ⟨costJoin r t, fun e e' qs h hr hnone hqs route bus hfound hfig => ?_⟩
  subst hr
  exact Submits.revenue h hnone hqs hfound hfig

/-- Route 3 with its fare and fees. -/
def routeThree : Value :=
  .obj [("_id", .int 3), ("base_price", .float 10.0), ("distance_km", .float 100.0),
    ("fuel_cost_per_km", .float 2.0), ("driver_cost_per_trip", .float 50.0)]

/-- Bus 9 with its seats and consumption. -/
def busNine : Value :=
  .obj [("_id", .int 9), ("capacity", .int 50), ("fuel_consumption_per_100km", .float 30.0)]

/-- Trip 1 of route 3 on bus 9, with the given passenger events and no price recommendation. -/
def boardingFleet (events : List Value) : FleetRecords :=
  { db := { collections := [
      ("trips", [.obj [("_id", .int 1), ("route_id", .int 3), ("bus_id", .int 9)]]),
      ("routes", [routeThree]), ("buses", [busNine]), ("passenger_events", events)] } }

/-- A passenger event of trip 1. -/
def boardingEvent (kind : String) (device : Value) (countAfter : Int) : Value :=
  .obj [("trip_id", .int 1), ("event_type", .str kind), ("device_local_id", device),
    ("passenger_count_after", .int countAfter)]

/-- Device `a` boards twice and device `b` once, and `a` gets off. -/
def twoDeviceEvents : List Value :=
  [boardingEvent "board" (.str "a") 1, boardingEvent "board" (.str "a") 2, boardingEvent "board" (.str "b") 3,
    boardingEvent "alight" (.str "a") 2]

theorem boardingFleet_found (events : List Value) : (boardingFleet events).Found 1 routeThree busNine :=
  ⟨_, .int 3, .int 9, rfl, rfl, rfl, rfl, rfl⟩

theorem twoDevices_costable : (boardingFleet twoDeviceEvents).Costable 1 routeThree busNine := by
  have hevents : (boardingFleet twoDeviceEvents).eventsOf 1 = twoDeviceEvents := rfl
  have hdevices : (boardingFleet twoDeviceEvents).boardedDevices 1 = [.str "a", .str "a", .str "b"] := rfl
  have hprices : (boardingFleet twoDeviceEvents).pricesOf 1 = [] := rfl
  refine ⟨⟨?_, ?_, ⟨_, _, rfl, rfl⟩, ⟨_, _, rfl, rfl⟩, ⟨_, _, rfl, rfl⟩, ⟨_, _, rfl, rfl⟩, ⟨_, _, rfl, rfl⟩⟩,
    fun h => absurd hprices h, fun _ => ⟨_, _, rfl, rfl⟩⟩
  · rw [hdevices]
    intro d hd
    simp only [List.mem_cons, List.not_mem_nil, or_false] at hd
    rcases hd with rfl | rfl | rfl <;> exact ⟨fun _ => nofun, rfl⟩
  · rw [hevents]
    intro e he v hv
    simp only [twoDeviceEvents, List.mem_cons, List.not_mem_nil, or_false] at he
    rcases he with rfl | rfl | rfl | rfl <;> exact ⟨_, (Option.some.inj hv).symm⟩

/-- Two devices boarding a trip of route 3 with no price recommendation, one of them twice:
the costing goes through with the join's figures. -/
theorem costInputs_join_of_two_devices :
    (boardingFleet twoDeviceEvents).Found 1 routeThree busNine ∧
      (boardingFleet twoDeviceEvents).Costable 1 routeThree busNine ∧
      ∃ i, (boardingFleet twoDeviceEvents).costInputs 1 = .ok i ∧
        (boardingFleet twoDeviceEvents).Joined 1 routeThree busNine i :=
  ⟨boardingFleet_found _, twoDevices_costable,
    (costInputs_join (boardingFleet twoDeviceEvents) 1).1.joined routeThree busNine (boardingFleet_found _)
      twoDevices_costable⟩

/-- A device id that is a list is counted once for each of its items: one boarding event whose
device id is the list of `a` and `b` holds one distinct device, and the costing counts two
passengers. -/
theorem costInputs_counts_listed_devices :
    let fleet := boardingFleet [boardingEvent "board" (.list [.str "a", .str "b"]) 1]
    Value.DistinctValues (fleet.boardedDevices 1) [.list [.str "a", .str "b"]] ∧
      (fleet.costInputs 1).toOption.map (·.totalPassengers) = some 2 := by
  intro fleet
  have hdevices : fleet.boardedDevices 1 = [.list [.str "a", .str "b"]] := rfl
  refine ⟨?_, rfl⟩
  rw [hdevices]
  exact ⟨fun d hd => hd, List.pairwise_singleton _ _, fun x hx => ⟨x, hx, by rw [List.mem_singleton.1 hx]; rfl⟩⟩

end FleetRecords

end TransitRevenue
