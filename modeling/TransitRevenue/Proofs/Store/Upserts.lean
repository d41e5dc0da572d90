import TransitRevenue.Proofs.Store.Filing
import TransitRevenue.Proofs.Store.TripWindow
import TransitRevenue.Proofs.Calendar
import TransitRevenue.Proofs.Except
/-!
Forecasts and trip results, upserted by key.

The store files a forecast under its route and the midnight UTC of its date (`forecastFiling`)
and a trip result under its trip (`resultFiling`), so over any sequence of writes the keyed-filing
invariant `Filing.Holds` holds of both collections. Read back, a record is the one written, with
its moment in UTC to the millisecond (`Forecast.asStored`, `TripResult.asStored`).

Main statement, `upserts_read_back`: starting from records with at most one forecast per route
and date and one result per trip, any sequence of writes keeps that so; a trip's result reads back
as the one last written for it; and the forecasts of a route between two days are exactly those
last written for its dates between them, in date order, as long as every document those
forecasts would match at the start is replaced by one of the writes. That includes a document
whose date is a list, matched when some item is at or after the first midnight and some, maybe
another, at or before the last: left in place, it has no time zone to read back, and the listing
fails. The proviso cannot be dropped: a forecast kept at 05:00 UTC of its day is not replaced by
an upsert of that day, and both are listed (`upsert_keeps_forecast_of_other_hour`).
-/

namespace TransitRevenue

/-! ## Records as the store gives them back -/

/-- A trip result as the store gives it back: its calculation moment in UTC, truncated to
milliseconds. -/
def TripResult.asStored (r : TripResult) : TripResult :=
  { r with calculatedAt := r.calculatedAt.map fun t => t.toUtc.truncateMillis }

/-- A forecast as the store gives it back: its creation moment in UTC, truncated to
milliseconds. -/
def Forecast.asStored (f : Forecast) : Forecast :=
  { f with createdAt := f.createdAt.map fun t => t.toUtc.truncateMillis }

@[simp] theorem Forecast.date_asStored (f : Forecast) : f.asStored.date = f.date := rfl

theorem Value.storedFields_floats (bd : List (String × Float)) :
    storedFields (bd.map fun (k, a) => (k, Value.float a)) = bd.map fun (k, a) => (k, Value.float a) := by
  induction bd with
  | nil => rfl
  | cons e bd ih => simp [storedFields, stored, ih]

theorem Field.numberMap_floats (bd : List (String × Float)) :
    numberMap (.obj (bd.map fun (k, a) => (k, Value.float a))) = .ok bd := by
  induction bd with
  | nil => rfl
  | cons e bd ih =>
    obtain ⟨k, a⟩ := e
    simp only [numberMap, List.map_cons, List.mapM_cons] at ih ⊢
    rw [ih]
    rfl

/-- A trip result reads back from its stored form as it was written, its moment in UTC to the
millisecond. -/
theorem TripResult.ofValue_stored (r : TripResult) :
    TripResult.ofValue r.toValue.stored = .ok r.asStored := by
  cases hc : r.calculatedAt <;>
    simp [TripResult.ofValue, TripResult.toValue, TripResult.fields, Value.stored, Value.storedFields, hc,
      Value.storedFields_floats, Fields.ofValue, Fields.req, Fields.opt, Fields.maybe, Value.field?,
      Field.numberMap_floats, Field.int, Field.float, Field.optional, Field.moment, TripResult.asStored,
      Except.mapError, Functor.map, Except.map]

/-- A forecast reads back from its stored form, dated again by its day, as it was written, its
moment in UTC to the millisecond. -/
theorem Forecast.ofValue_stored (f : Forecast) (m : Moment) :
    Forecast.ofValue (.obj (Value.setField (Value.storedFields (Value.setField (f.fields .time)
      "forecast_date" (.time m))) "forecast_date" (.date f.date))) = .ok f.asStored := by
  cases hc : f.createdAt <;> cases ha : f.actual <;>
    simp [Forecast.ofValue, Forecast.fields, Value.setField, Value.setEntry, Value.stored,
      Value.storedFields, hc, ha, Fields.ofValue, Fields.req, Fields.opt, Fields.maybe, Value.field?,
      Field.int, Field.float, Field.str, Field.date, Field.optional, Field.moment, Forecast.asStored,
      Except.mapError, Functor.map, Except.map]

/-! ## Matching keys -/

namespace Value

theorem looseEq_int (a b : Int) : (Value.int a).looseEq (.int b) = (a == b) := by
  simp only [looseEq, numeric?, Number.eq, Number.compare?, Number.extended?, Extended.compare,
    Option.bind_eq_bind, Option.bind_some, Rat.intCast_lt_intCast]
  split
  case isTrue hlt => simp; omega
  case isFalse hge =>
    split
    case isTrue hgt => simp; omega
    case isFalse hle => simp; omega

theorem fieldIs_of_get?_int {doc : Value} {key : String} {a : Int} (h : doc.get? key = some (.int a))
    (b : Int) : doc.fieldIs key (.int b) = (a == b) := by
  simp [fieldIs, h, looseEq_int]

theorem fieldIs_of_get?_time {doc : Value} {key : String} {t : Moment} (h : doc.get? key = some (.time t))
    (t' : Moment) : doc.fieldIs key (.time t') = momentEq t t' := by
  simp [fieldIs, h, looseEq]

/-- Two midnights UTC are equal moments exactly when they are of the same day number. -/
theorem momentEq_startOfDay (d d' : Date) :
    momentEq (Moment.startOfDay d) (Moment.startOfDay d') = true ↔ d.epochDays = d'.epochDays := by
  simp [momentEq, Moment.startOfDay, Moment.instant, Moment.localMicros, Moment.usDay, Moment.usSecond]

end Value

theorem Moment.notAfter_startOfDay (d d' : Date) :
    (startOfDay d).notAfter (startOfDay d') = decide (d.epochDays ≤ d'.epochDays) := by
  simp [notAfter, usDay, usSecond]

namespace FleetRecords

/-! ## Forecasts, filed by route and date -/

/-- A route and a date that exists: what forecasts are filed under. -/
def Dated (k : Int × Date) : Prop := k.2.valid = true

/-- The filter a forecast is upserted by: its route, and the midnight UTC of its date. -/
def forecastAt (k : Int × Date) (doc : Value) : Bool :=
  doc.fieldIs "route_id" (.int k.1) && doc.fieldIs "forecast_date" (.time (Moment.startOfDay k.2))

/-- What a write files among the forecasts: the forecast, under its route and date. -/
def forecastPut : Write → Option ((Int × Date) × Forecast)
  | .forecast f => some ((f.routeId, f.date), f)
  | _ => none

theorem forecastPut_eq_some {w : Write} {k : Int × Date} {f : Forecast}
    (h : forecastPut w = some (k, f)) : w = .forecast f ∧ k = (f.routeId, f.date) := by
  cases w with
  | forecast g =>
    simp only [forecastPut, Option.some.injEq, Prod.mk.injEq] at h
    obtain ⟨rfl, rfl⟩ := h
    exact ⟨rfl, rfl⟩
  | _ => cases h

theorem forecastDocument_get?_id (f : Forecast) : (forecastDocument f).get? "_id" = none := by
  simp [forecastDocument, Forecast.fields, Value.setField, Value.setEntry, Value.get?, Value.field?]

/-! ## Trip results, filed by trip -/

/-- The filter a trip result is upserted by: its trip. -/
def resultOf (tripId : Int) (doc : Value) : Bool := doc.fieldIs "trip_id" (.int tripId)

/-- What a write files among the trip results: the result, under its trip. -/
def resultPut : Write → Option (Int × TripResult)
  | .tripResult t => some (t.tripId, t)
  | _ => none

theorem resultPut_eq_some {w : Write} {k : Int} {t : TripResult} (h : resultPut w = some (k, t)) :
    w = .tripResult t ∧ k = t.tripId := by
  cases w with
  | tripResult u =>
    simp only [resultPut, Option.some.injEq, Prod.mk.injEq] at h
    obtain ⟨rfl, rfl⟩ := h
    exact ⟨rfl, rfl⟩
  | _ => cases h

/-! ## Listing the forecasts of a route -/

/-- The date under which the forecasts of a route between two days list a document, if they do:
its date, when it is of the route and, as a range query matches (`inWindow`), falls from midnight
UTC of the first day to midnight UTC of the last. -/
def listedAt (routeId : Int) (start finish : Date) (doc : Value) : Option Value :=
  (doc.get? "forecast_date").filter fun date =>
    doc.fieldIs "route_id" (.int routeId) &&
      inWindow (Moment.startOfDay start).notAfter (·.notAfter (Moment.startOfDay finish)) date

/-- The documents the forecasts of a route between two days list, with their dates, in storage
order. -/
def listedForecasts (docs : List Value) (routeId : Int) (start finish : Date) : List (Value × Value) :=
  docs.filterMap fun doc => (listedAt routeId start finish doc).map (doc, ·)

/-- A listed forecast document read back, dated by the day of its moment; a date that is no
moment cannot be read back. -/
def readListed (x : Value × Value) : Except Fault Forecast :=
  match x.2 with
  | .time t =>
    match x.1.withoutId with
    | .obj fs => read Forecast.ofValue (.obj (Value.setField fs "forecast_date" (.date t.toUtc.date)))
    | other => read Forecast.ofValue other
  | other => .error (.noAttribute other.kindName "tzinfo")

/-- The order of the listing: by the moment of the date, first ones first. -/
def listedBefore (a b : Value × Value) : Bool := !orderBefore (orderMoment b.2) (orderMoment a.2)

/-- The forecasts of a route between two days: the listed documents in order of their dates,
read back. -/
theorem forecasts_eq (r : FleetRecords) (routeId : Int) (start finish : Date) :
    r.forecasts routeId start finish =
      ((listedForecasts (r.db.docs "demand_forecasts") routeId start finish).mergeSort
        listedBefore).mapM readListed := by
  unfold forecasts listedForecasts
  dsimp only
  congr 1
  · -- the same documents are listed
    congr 1
    congr 1
    funext doc
    unfold listedAt
    cases doc.get? "forecast_date" with
    | none => rfl
    | some date =>
      simp only [Option.filter]
      split <;> rfl

theorem mem_listedForecasts {docs : List Value} {routeId : Int} {start finish : Date} {x : Value × Value} :
    x ∈ listedForecasts docs routeId start finish ↔ x.1 ∈ docs ∧ listedAt routeId start finish x.1 = some x.2 := by
  obtain ⟨doc, date⟩ := x
  simp [listedForecasts]

end FleetRecords

theorem TripResult.toValue_get?_id (t : TripResult) : t.toValue.get? "_id" = none := by
  simp [TripResult.toValue, TripResult.fields, Value.get?, Value.field?]

/-! ## Kept records -/

namespace Keeps

open FleetRecords

variable {f : Forecast} {x : Value}

theorem forecast_route (h : Keeps (forecastDocument f) x) :
    x.get? "route_id" = some (.int f.routeId) := by
  rw [h.get? (by decide)]
  simp [forecastDocument, Forecast.fields, Value.setField, Value.setEntry, Value.get?, Value.field?,
    Value.stored]

theorem forecast_date (h : Keeps (forecastDocument f) x) (hv : f.date.valid = true) :
    x.get? "forecast_date" = some (.time (Moment.startOfDay f.date)) := by
  rw [h.get? (by decide)]
  simp [forecastDocument, Forecast.fields, Value.setField, Value.setEntry, Value.get?, Value.field?,
    Value.stored, Moment.stored_startOfDay hv]

/-- A kept forecast matches the filter of a route and a date that exists exactly when they are
its own. -/
theorem forecastAt_iff (h : Keeps (forecastDocument f) x) (hv : f.date.valid = true)
    (k : Int × Date) (hk : Dated k) : forecastAt k x = true ↔ k = (f.routeId, f.date) := by
  obtain ⟨routeId, day⟩ := k
  simp only [forecastAt, Bool.and_eq_true, Value.fieldIs_of_get?_int h.forecast_route,
    Value.fieldIs_of_get?_time (h.forecast_date hv), Value.momentEq_startOfDay, beq_iff_eq,
    Prod.mk.injEq]
  constructor
  · rintro ⟨rfl, hday⟩
    exact ⟨rfl, Date.eq_of_epochDays_eq hk hv hday.symm⟩
  · rintro ⟨rfl, rfl⟩
    exact ⟨rfl, rfl⟩

theorem forecast_filedUnder (h : Keeps (forecastDocument f) x) (hv : f.date.valid = true) :
    FiledUnder Dated forecastAt (f.routeId, f.date) x :=
  ⟨hv, (h.forecastAt_iff hv (f.routeId, f.date) hv).2 rfl, fun k hk hkx => (h.forecastAt_iff hv k hk).1 hkx⟩

theorem result_filedUnder {t : TripResult} {x : Value} (h : Keeps t.toValue x) :
    FiledUnder (fun _ : Int => True) resultOf t.tripId x := by
  have htrip : x.get? "trip_id" = some (.int t.tripId) := by
    rw [h.get? (by decide)]
    simp [TripResult.toValue, TripResult.fields, Value.get?, Value.field?, Value.stored]
  refine ⟨trivial, by simp [resultOf, Value.fieldIs_of_get?_int htrip], fun k _ hk => ?_⟩
  have hk' : t.tripId = k := by simpa [resultOf, Value.fieldIs_of_get?_int htrip] using hk
  exact hk'.symm

theorem listedAt_eq (h : Keeps (forecastDocument f) x) (hv : f.date.valid = true) (routeId : Int)
    (start finish : Date) :
    listedAt routeId start finish x =
      if f.routeId = routeId ∧ start.epochDays ≤ f.date.epochDays ∧ f.date.epochDays ≤ finish.epochDays then
        some (.time (Moment.startOfDay f.date)) else none := by
  simp only [listedAt, h.forecast_date hv, Option.filter, inWindow, Value.fieldIs_of_get?_int h.forecast_route,
    Moment.notAfter_startOfDay, Bool.and_eq_true, beq_iff_eq, decide_eq_true_eq]

theorem readListed_eq (h : Keeps (forecastDocument f) x) (hv : f.date.valid = true) {date : Value}
    (hdate : date = .time (Moment.startOfDay f.date)) : readListed (x, date) = .ok f.asStored := by
  subst hdate
  simp only [readListed, h.withoutId (forecastDocument_get?_id f), forecastDocument, Value.stored,
    Moment.toUtc_startOfDay hv]
  simp [FleetRecords.read, Forecast.ofValue_stored, Except.mapError]

end Keeps

namespace FleetRecords

/-! ## Filing collections -/

/-- The forecasts form a filing collection, by route and date. -/
theorem forecastFiling : Filing "demand_forecasts" Dated forecastAt forecastPut forecastDocument where
  put_docs r w k f hw := by
    obtain ⟨rfl, rfl⟩ := forecastPut_eq_some hw
    exact Database.docs_replaceOrInsert r.db "demand_forecasts" _ (forecastDocument_get?_id f)
  other_docs r w hw := by
    cases w with
    | forecast f => cases hw
    | tripResult t => exact Database.docs_replaceOrInsert_of_ne _ _ _ _ (by decide)
    | quote q => exact Database.docs_insert_of_ne _ _ (by decide)
    | settings s => exact Database.docs_replaceOrInsert_of_ne _ _ _ _ (by decide)
  filed w k f x hw hk h := by
    obtain ⟨rfl, rfl⟩ := forecastPut_eq_some hw
    exact h.forecast_filedUnder hk

/-- The trip results form a filing collection, by trip. -/
theorem resultFiling : Filing "trip_analytics" (fun _ : Int => True) resultOf resultPut TripResult.toValue where
  put_docs r w k t hw := by
    obtain ⟨rfl, rfl⟩ := resultPut_eq_some hw
    exact Database.docs_replaceOrInsert r.db "trip_analytics" _ (TripResult.toValue_get?_id t)
  other_docs r w hw := by
    cases w with
    | tripResult t => cases hw
    | forecast f => exact Database.docs_replaceOrInsert_of_ne _ _ _ _ (by decide)
    | quote q => exact Database.docs_insert_of_ne _ _ (by decide)
    | settings s => exact Database.docs_replaceOrInsert_of_ne _ _ _ _ (by decide)
  filed w k t x hw _ h := by
    obtain ⟨rfl, rfl⟩ := resultPut_eq_some hw
    exact h.result_filedUnder

/-- At most one forecast per route and date, and at most one result per trip. -/
structure KeysUnique (r : FleetRecords) : Prop where
  forecasts : KeyedBy Dated forecastAt (r.db.docs "demand_forecasts")
  results : KeyedBy (fun _ : Int => True) resultOf (r.db.docs "trip_analytics")

/-! ## Reading a trip result back -/

/-- The result of a trip, kept once, reads back as written. -/
theorem tripResult?_of_kept {r : FleetRecords} {t : TripResult} {x : Value}
    (hk : KeyedBy (fun _ : Int => True) resultOf (r.db.docs "trip_analytics"))
    (hx : x ∈ r.db.docs "trip_analytics") (hkeep : Keeps t.toValue x) :
    r.tripResult? t.tripId = .ok (some t.asStored) := by
  have hfind : (r.db.docs "trip_analytics").find? (resultOf t.tripId) = some x :=
    hk.find?_eq hkeep.result_filedUnder hx
  simp only [tripResult?, Database.findOne?]
  rw [show (fun doc : Value => doc.fieldIs "trip_id" (.int t.tripId)) = resultOf t.tripId from rfl, hfind]
  simp [read, hkeep.withoutId (TripResult.toValue_get?_id t), TripResult.ofValue_stored, Except.mapError,
    Except.map]

section Listing

variable {r : FleetRecords} {ws : List Write} {routeId : Int} {start finish : Date}

/-- Every listed document is the forecast last written for its route and date, listed at the
midnight of its date. -/
theorem listed_of_holds
    (h : Filing.Holds Dated forecastAt forecastPut forecastDocument (r.db.docs "demand_forecasts") ws
      ((r.writeAll ws).db.docs "demand_forecasts"))
    (hdates : ∀ f, Write.forecast f ∈ ws → f.date.valid = true)
    (hrepl : ∀ doc ∈ r.db.docs "demand_forecasts", (listedAt routeId start finish doc).isSome →
      ∃ f, Write.forecast f ∈ ws ∧ forecastAt (f.routeId, f.date) doc = true)
    {x : Value × Value} (hx : x ∈ listedForecasts ((r.writeAll ws).db.docs "demand_forecasts") routeId start finish) :
    ∃ f, lastFiled forecastPut ws (routeId, f.date) = some f ∧ Keeps (forecastDocument f) x.1 ∧
      f.date.valid = true ∧ f.routeId = routeId ∧ x.2 = .time (Moment.startOfDay f.date) ∧
      start.epochDays ≤ f.date.epochDays ∧ f.date.epochDays ≤ finish.epochDays := by
  obtain ⟨hmem, hlisted⟩ := mem_listedForecasts.1 hx
  rcases h.origin x.1 hmem with ⟨hx₀, hnone⟩ | ⟨k, f, hf, hkeep⟩
  · -- a document there from the start is listed only if a write replaced it
    obtain ⟨f, hw, hkey⟩ := hrepl x.1 hx₀ (by rw [hlisted]; rfl)
    rw [hnone (.forecast f) hw (f.routeId, f.date) f rfl] at hkey
    cases hkey
  · obtain ⟨w, hw, hput⟩ := exists_of_lastFiled hf
    obtain ⟨rfl, rfl⟩ := forecastPut_eq_some hput
    have hv := hdates f hw
    rw [hkeep.listedAt_eq hv] at hlisted
    split at hlisted
    case isTrue hc =>
      obtain ⟨hr, h1, h2⟩ := hc
      subst hr
      exact ⟨f, hf, hkeep, hv, rfl, (Option.some.inj hlisted).symm, h1, h2⟩
    case isFalse => cases hlisted

/-- Every forecast last written for a date of the route between the days is listed, at the
midnight of its date. -/
theorem listed_of_lastFiled
    (h : Filing.Holds Dated forecastAt forecastPut forecastDocument (r.db.docs "demand_forecasts") ws
      ((r.writeAll ws).db.docs "demand_forecasts"))
    (hdates : ∀ f, Write.forecast f ∈ ws → f.date.valid = true) {day : Date} {f : Forecast}
    (hf : lastFiled forecastPut ws (routeId, day) = some f) (h1 : start.epochDays ≤ day.epochDays)
    (h2 : day.epochDays ≤ finish.epochDays) :
    ∃ x ∈ listedForecasts ((r.writeAll ws).db.docs "demand_forecasts") routeId start finish,
      Keeps (forecastDocument f) x.1 ∧ x.2 = .time (Moment.startOfDay f.date) ∧ day = f.date := by
  obtain ⟨w, hw, hput⟩ := exists_of_lastFiled hf
  obtain ⟨rfl, hk⟩ := forecastPut_eq_some hput
  obtain ⟨hr, hd⟩ := Prod.mk.inj hk
  subst hr hd
  obtain ⟨x, hx, hkeep⟩ := h.kept _ f hf
  have hv := hdates f hw
  refine ⟨(x, .time (Moment.startOfDay f.date)), mem_listedForecasts.2 ⟨hx, ?_⟩, hkeep, rfl, rfl⟩
  rw [hkeep.listedAt_eq hv, if_pos ⟨rfl, h1, h2⟩]

/-- No two listed documents are listed at the same moment. -/
theorem listed_pairwise
    (h : Filing.Holds Dated forecastAt forecastPut forecastDocument (r.db.docs "demand_forecasts") ws
      ((r.writeAll ws).db.docs "demand_forecasts"))
    (hdates : ∀ f, Write.forecast f ∈ ws → f.date.valid = true)
    (hrepl : ∀ doc ∈ r.db.docs "demand_forecasts", (listedAt routeId start finish doc).isSome →
      ∃ f, Write.forecast f ∈ ws ∧ forecastAt (f.routeId, f.date) doc = true) :
    (listedForecasts ((r.writeAll ws).db.docs "demand_forecasts") routeId start finish).Pairwise
      fun x y => orderRank (orderMoment x.2) ≠ orderRank (orderMoment y.2) := by
  -- the listed documents match no key twice, as the collection does not
  have hkeys : (listedForecasts ((r.writeAll ws).db.docs "demand_forecasts") routeId start finish).Pairwise
      fun x y => ∀ k, Dated k → forecastAt k x.1 = true → forecastAt k y.1 = false := by
    refine h.keyed.pairwise.filterMap _ fun a a' haa' b hb b' hb' => ?_
    simp only [Option.map_eq_some_iff] at hb hb'
    obtain ⟨date, -, rfl⟩ := hb
    obtain ⟨date', -, rfl⟩ := hb'
    exact haa'
  refine hkeys.imp_of_mem fun {x y} hx hy hxy hinst => ?_
  obtain ⟨f, -, hkx, hv, hrf, hx2, -⟩ := listed_of_holds h hdates hrepl hx
  obtain ⟨g, -, hky, hv', hrg, hy2, -⟩ := listed_of_holds h hdates hrepl hy
  -- the same moment is the same day, so both documents match that day's key
  have hday : f.date = g.date := by
    rw [hx2, hy2] at hinst
    simp only [orderMoment, orderRank_some, WithBot.coe_inj, Moment.instant_startOfDay] at hinst
    exact Date.eq_of_epochDays_eq hv hv' (by simp [Moment.usDay, Moment.usSecond] at hinst; omega)
  have hmatch := hxy (f.routeId, f.date) hv ((hkx.forecastAt_iff hv (f.routeId, f.date) hv).2 rfl)
  rw [(hky.forecastAt_iff hv' (f.routeId, f.date) hv).2 (by rw [hday, hrf, hrg])] at hmatch
  cases hmatch

/-- What the forecasts of a route between two days are after the writes `ws`: in strictly
ascending order of date, each the forecast last written for its date between the days as the
store gives it back, and every such forecast among them. -/
def ListsLastForecasts (ws : List Write) (routeId : Int) (start finish : Date) (L : List Forecast) : Prop :=
  L.Pairwise (fun g g' => g.date.epochDays < g'.date.epochDays) ∧
  (∀ g ∈ L, start.epochDays ≤ g.date.epochDays ∧ g.date.epochDays ≤ finish.epochDays ∧
    ∃ f, lastFiled forecastPut ws (routeId, g.date) = some f ∧ g = f.asStored) ∧
  ∀ day f, lastFiled forecastPut ws (routeId, day) = some f →
    start.epochDays ≤ day.epochDays → day.epochDays ≤ finish.epochDays → f.asStored ∈ L

theorem forecasts_of_holds
    (h : Filing.Holds Dated forecastAt forecastPut forecastDocument (r.db.docs "demand_forecasts") ws
      ((r.writeAll ws).db.docs "demand_forecasts"))
    (hdates : ∀ f, Write.forecast f ∈ ws → f.date.valid = true)
    (hrepl : ∀ doc ∈ r.db.docs "demand_forecasts", (listedAt routeId start finish doc).isSome →
      ∃ f, Write.forecast f ∈ ws ∧ forecastAt (f.routeId, f.date) doc = true) :
    ∃ L, (r.writeAll ws).forecasts routeId start finish = .ok L ∧ ListsLastForecasts ws routeId start finish L := by
  set listed := listedForecasts ((r.writeAll ws).db.docs "demand_forecasts") routeId start finish
  set sorted := listed.mergeSort listedBefore
  -- sorted by moment, and no moment twice
  have hsorted : sorted.Pairwise fun x y => orderRank (orderMoment x.2) < orderRank (orderMoment y.2) := by
    have hle : sorted.Pairwise fun x y => orderRank (orderMoment x.2) ≤ orderRank (orderMoment y.2) :=
      pairwise_mergeSort_rank (fun x : Value × Value => orderMoment x.2) listed
    have hne := (listed_pairwise h hdates hrepl).perm (List.mergeSort_perm listed listedBefore).symm
      (fun hxy => Ne.symm hxy)
    exact (hle.and hne).imp fun ⟨hxy, hne⟩ => lt_of_le_of_ne hxy hne
  -- each listed document reads back as the forecast it keeps
  obtain ⟨L, hL, hrel⟩ := Except.mapM_forall₂ (f := readListed) (l := sorted)
    (R := fun x g => ∃ f, lastFiled forecastPut ws (routeId, f.date) = some f ∧
      x.2 = .time (Moment.startOfDay f.date) ∧ start.epochDays ≤ f.date.epochDays ∧
      f.date.epochDays ≤ finish.epochDays ∧ g = f.asStored) fun x hx => by
    obtain ⟨f, hf, hkeep, hv, -, hx2, h1, h2⟩ := listed_of_holds h hdates hrepl (List.mem_mergeSort.1 hx)
    exact ⟨f.asStored, hkeep.readListed_eq hv hx2, f, hf, hx2, h1, h2, rfl⟩
  refine ⟨L, by rw [forecasts_eq]; exact hL, ?_, ?_, ?_⟩
  · refine Except.forall₂_pairwise ?_ hrel hsorted
    rintro x y g g' ⟨f, -, hx, -, -, rfl⟩ ⟨f', -, hy, -, -, rfl⟩ hxy
    rw [hx, hy] at hxy
    simp only [orderMoment, orderRank_some, WithBot.coe_lt_coe, Moment.instant_startOfDay] at hxy
    simp only [Forecast.date_asStored]
    simp only [Moment.usDay, Moment.usSecond] at hxy
    omega
  · intro g hg
    obtain ⟨x, -, f, hf, -, h1, h2, rfl⟩ := Except.forall₂_exists_right hrel g hg
    exact ⟨h1, h2, f, hf, rfl⟩
  · intro day f hf h1 h2
    obtain ⟨x, hx, -, hx2, rfl⟩ := listed_of_lastFiled h hdates hf h1 h2
    obtain ⟨g, hg, f', hf', hx2', -, -, rfl⟩ := Except.forall₂_exists_left hrel x (List.mem_mergeSort.2 hx)
    -- the document is listed at the midnight of both dates, so they are one date
    have hday : f'.date = f.date := by
      have h2 := hx2'.symm.trans hx2
      simp only [Value.time.injEq] at h2
      exact congrArg Moment.date h2
    rw [hday, hf] at hf'
    cases hf'
    exact hg

end Listing

/-! ## The store after any upserts -/

/-- What the keyed upserts leave after the writes `ws` over the records `r`: at most one forecast
per route and date and one result per trip; the result of a trip, the one last written for it,
read back with its moment in UTC to the millisecond; and the forecasts of a route between two
days, wherever every document they would list at the start is replaced by a write, exactly the
forecasts last written for the route's dates between those days. -/
def UpsertsReadBack (r : FleetRecords) (ws : List Write) : Prop :=
  (r.writeAll ws).KeysUnique ∧
  (∀ tripId t, lastFiled resultPut ws tripId = some t →
    (r.writeAll ws).tripResult? tripId = .ok (some t.asStored)) ∧
  ∀ routeId start finish,
    (∀ doc ∈ r.db.docs "demand_forecasts", (listedAt routeId start finish doc).isSome →
      ∃ f, Write.forecast f ∈ ws ∧ forecastAt (f.routeId, f.date) doc = true) →
    ∃ L, (r.writeAll ws).forecasts routeId start finish = .ok L ∧ ListsLastForecasts ws routeId start finish L

/-- **Keyed upserts.** From records with at most one forecast per route and date and one result
per trip, any sequence of writes of forecasts dated by days that exist leaves what
`UpsertsReadBack` says. -/
theorem upserts_read_back (r : FleetRecords) (ws : List Write) (hr : r.KeysUnique)
    (hdates : ∀ f, Write.forecast f ∈ ws → f.date.valid = true) : UpsertsReadBack r ws := by
  have hf := forecastFiling.holds_writeAll r ws (fun w hw k f hput => by
    obtain ⟨rfl, rfl⟩ := forecastPut_eq_some hput
    exact hdates f hw) hr.forecasts
  have hres := resultFiling.holds_writeAll r ws (fun _ _ _ _ _ => trivial) hr.results
  refine ⟨⟨hf.keyed, hres.keyed⟩, fun tripId t ht => ?_,
    fun routeId start finish hrepl => forecasts_of_holds hf hdates hrepl⟩
  obtain ⟨w, -, hput⟩ := exists_of_lastFiled ht
  obtain ⟨-, rfl⟩ := resultPut_eq_some hput
  obtain ⟨x, hx, hkeep⟩ := hres.kept _ t ht
  exact tripResult?_of_kept hres.keyed hx hkeep

/-- Two forecasts of one route and day written over empty records, the second replacing the
first. -/
theorem upserts_read_back_from_empty :
    let f : Forecast :=
      { routeId := 1, date := ⟨2025, 1, 1⟩, dayOfWeek := 3, predicted := 20, lower := 10, upper := 30,
        trend := 1.0, season := 1.3, algorithm := Forecast.method }
    let ws := [Write.forecast f, .forecast { f with predicted := 25 }]
    ({} : FleetRecords).KeysUnique ∧ (∀ g, Write.forecast g ∈ ws → g.date.valid = true) ∧
      UpsertsReadBack {} ws := by
  intro f ws
  have hr : ({} : FleetRecords).KeysUnique := ⟨fun _ _ => by simp [Database.docs], fun _ _ => by simp [Database.docs]⟩
  have hd : ∀ g, Write.forecast g ∈ ws → g.date.valid = true := by
    intro g hg
    simp only [ws, List.mem_cons, Write.forecast.injEq, List.not_mem_nil, or_false] at hg
    rcases hg with rfl | rfl <;> rfl
  exact ⟨hr, hd, upserts_read_back {} ws hr hd⟩

/-- An upsert replaces only a forecast kept at the midnight UTC of its day: one of the same route
and day kept at 05:00 UTC stays, and the forecasts of that day list both. -/
theorem upsert_keeps_forecast_of_other_hour :
    let early : Value := .obj [("route_id", .int 1),
      ("forecast_date", .time { date := ⟨2025, 1, 1⟩, hour := 5, offset := some 0 }),
      ("day_of_week", .int 3), ("predicted_passengers", .int 10), ("confidence_lower", .int 5),
      ("confidence_upper", .int 15), ("trend_coefficient", .float 1.0),
      ("season_coefficient", .float 1.3), ("algorithm", .str Forecast.method),
      ("actual_passengers", .null), ("created_at", .null)]
    let r : FleetRecords := { db := { collections := [("demand_forecasts", [early])] } }
    let f : Forecast :=
      { routeId := 1, date := ⟨2025, 1, 1⟩, dayOfWeek := 3, predicted := 20, lower := 10, upper := 30,
        trend := 1.0, season := 1.3, algorithm := Forecast.method }
    r.KeysUnique ∧ ∃ L, (r.write (.forecast f)).forecasts 1 ⟨2025, 1, 1⟩ ⟨2025, 1, 2⟩ = .ok L ∧
      L.length = 2 ∧ ∀ g ∈ L, g.date = ⟨2025, 1, 1⟩ := by
  intro early r f
  have hdocs : r.db.docs "demand_forecasts" = [early] := rfl
  have hv : f.date.valid = true := rfl
  refine ⟨⟨fun k _ => ?_, fun k _ => ?_⟩, ?_⟩
  · rw [hdocs]
    exact List.countP_le_length
  · show ([] : List Value).countP _ ≤ 1
    simp
  -- the upsert matches nothing at midnight, so it appends
  obtain ⟨x, hkeep, hwrite⟩ := forecastFiling.put_docs r (.forecast f) (f.routeId, f.date) f rfl
  have hmiss : forecastAt (f.routeId, f.date) early = false := by decide
  rw [hdocs, replaceOrAppend_cons, if_neg (by simp [hmiss]), replaceOrAppend_nil] at hwrite
  -- the forecast kept at 05:00 and the new one at midnight are both listed
  have hlisted : listedForecasts ((r.write (.forecast f)).db.docs "demand_forecasts") 1 ⟨2025, 1, 1⟩
      ⟨2025, 1, 2⟩ =
      [(early, .time { date := ⟨2025, 1, 1⟩, hour := 5, offset := some 0 }),
        (x, .time (Moment.startOfDay f.date))] := by
    have hearly : listedAt 1 ⟨2025, 1, 1⟩ ⟨2025, 1, 2⟩ early =
        some (.time { date := ⟨2025, 1, 1⟩, hour := 5, offset := some 0 }) := rfl
    rw [hwrite]
    simp only [listedForecasts, List.filterMap_cons, List.filterMap_nil]
    rw [hearly, hkeep.listedAt_eq hv, if_pos (by decide)]
    rfl
  obtain ⟨L, hL, hrel⟩ := Except.mapM_forall₂ (f := readListed)
    (l := (listedForecasts ((r.write (.forecast f)).db.docs "demand_forecasts") 1 ⟨2025, 1, 1⟩
      ⟨2025, 1, 2⟩).mergeSort listedBefore)
    (R := fun _ g => g.date = ⟨2025, 1, 1⟩) fun y hy => by
      rw [List.mem_mergeSort, hlisted] at hy
      simp only [List.mem_cons, List.not_mem_nil, or_false] at hy
      rcases hy with rfl | rfl
      · exact ⟨_, rfl, by decide⟩
      · exact ⟨_, hkeep.readListed_eq hv rfl, rfl⟩
  refine ⟨L, by rw [forecasts_eq]; exact hL, ?_, fun g hg => ?_⟩
  · rw [← hrel.length_eq, List.length_mergeSort, hlisted]
    rfl
  · obtain ⟨_, -, hg⟩ := Except.forall₂_exists_right hrel g hg
    exact hg

end FleetRecords

end TransitRevenue
