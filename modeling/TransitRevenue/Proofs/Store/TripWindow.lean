import TransitRevenue.Store.FleetRecords
import TransitRevenue.Proofs.Store.Collections
import TransitRevenue.Proofs.Except
/-!
The trip results of a window and the route of a trip, as the fleet's records give them.

Matching a field against an integer compares numbers by value, so any value that matches an
integer can stand for it (`Value.looseEq_congr_int`), and a table keyed by such values answers
for an integer with what was last set under a key equal to it (`keyed?_setKey`).

Over a window, `tripResults_spec_of_ids`: when every trip has an integer id and every
analytics document of a trip the window takes (`tripsIn`) reads as a trip result, the results
are one for each such trip that has an analytics document (`coveredIds`), each read from the last
of those documents. The route of a trip (`routeForTrip_eq`) is the one its document names, with
the name of the route's document, or the name of an unknown route when there is none.
-/

namespace TransitRevenue

/-! ## Numbers matched by value -/

namespace Number

theorem compare_eq_iff {a b : Extended} : Extended.compare a b = .eq ↔ a = b := by
  cases a <;> cases b
  case finite.finite a b =>
    simp only [Extended.compare, Extended.finite.injEq]
    by_cases hab : a < b
    · simp only [hab, if_true, reduceCtorEq, false_iff]
      rintro rfl
      exact Rat.lt_irrefl hab
    · by_cases hba : b < a
      · simp only [hab, hba, if_true, if_false, reduceCtorEq, false_iff]
        rintro rfl
        exact Rat.lt_irrefl hba
      · simp only [hab, hba, if_false, true_iff]
        exact Rat.le_antisymm (Rat.not_lt.1 hba) (Rat.not_lt.1 hab)
  all_goals simp [Extended.compare]

/-- Two numbers are equal when they stand at the same place of the extended line. -/
theorem eq_iff {x y : Number} : x.eq y = true ↔ ∃ e, x.extended? = some e ∧ y.extended? = some e := by
  unfold eq compare?
  cases x.extended? with
  | none => simp
  | some a =>
    cases y.extended? with
    | none => simp
    | some b =>
      show (some (Extended.compare a b) == some .eq) = true ↔ _
      simp only [beq_iff_eq, Option.some.injEq, compare_eq_iff]
      exact ⟨fun h => ⟨a, rfl, h.symm⟩, fun ⟨e, ha, hb⟩ => ha.trans hb.symm⟩

end Number

namespace Value

theorem looseEq_of_numeric {a : Value} {x : Number} (ha : a.numeric? = some x) (b : Value) :
    a.looseEq b = match b.numeric? with
      | some y => x.eq y
      | none => false := by
  cases a <;> simp only [numeric?, reduceCtorEq, Option.some.injEq] at ha <;> subst ha <;> cases b <;> rfl

theorem looseEq_numeric {b : Value} {y : Number} (hb : b.numeric? = some y) (a : Value) :
    a.looseEq b = match a.numeric? with
      | some x => x.eq y
      | none => false := by
  cases b <;> simp only [numeric?, reduceCtorEq, Option.some.injEq] at hb <;> subst hb <;> cases a <;> rfl

/-- A value matches an integer when it is a number of that value. -/
theorem looseEq_int_iff {v : Value} {j : Int} :
    v.looseEq (.int j) = true ↔ ∃ x, v.numeric? = some x ∧ x.extended? = some (.finite j) := by
  rw [looseEq_numeric (y := .int j) rfl]
  cases v.numeric? with
  | none => simp
  | some x => simp [Number.eq_iff, Number.extended?]

/-- A value that matches an integer can stand for it on either side of a match. -/
theorem looseEq_congr_int {k : Value} {j : Int} (h : k.looseEq (.int j) = true) (v : Value) :
    v.looseEq k = v.looseEq (.int j) ∧ k.looseEq v = v.looseEq (.int j) := by
  obtain ⟨x, hx, hxj⟩ := looseEq_int_iff.1 h
  rw [looseEq_numeric hx, looseEq_of_numeric hx, looseEq_numeric (y := .int j) rfl]
  cases v.numeric? with
  | none => simp
  | some y =>
    have hj : (Number.int j).extended? = some (.finite j) := rfl
    refine ⟨Bool.eq_iff_iff.2 ?_, Bool.eq_iff_iff.2 ?_⟩
    · simp only [Number.eq_iff, hxj, hj]
    · simp only [Number.eq_iff, hxj, hj]
      exact ⟨fun ⟨e, h1, h2⟩ => ⟨e, h2, h1⟩, fun ⟨e, h1, h2⟩ => ⟨e, h2, h1⟩⟩

theorem int_looseEq (j : Int) (v : Value) : (Value.int j).looseEq v = v.looseEq (.int j) :=
  (looseEq_congr_int (k := .int j) (by simp [looseEq_int_iff, numeric?, Number.extended?]) v).2

end Value

/-! ## Tables keyed by matching values -/

section Keyed

variable {α : Type}

/-- Setting a key answers for every integer the key matches, and leaves the rest. -/
theorem keyed?_setKey (table : List (Value × α)) (k : Value) (a : α) (j : Int) :
    keyed? (setKey table k a) (.int j) = if k.looseEq (.int j) then some a else keyed? table (.int j) := by
  unfold setKey keyed?
  split
  case isTrue hany =>
    -- entries keep their keys, so the same entry is found; its value is `a` when its key matches `k`
    have hkeys : ((fun x : Value × α => x.1.looseEq (.int j)) ∘
        fun ((k', v') : Value × α) => if k'.looseEq k then (k', a) else (k', v')) = (·.1.looseEq (.int j)) := by
      funext x
      simp only [Function.comp]
      split <;> rfl
    rw [List.find?_map, hkeys]
    cases hf : table.find? (·.1.looseEq (.int j)) with
    | none =>
      by_cases hkj : k.looseEq (.int j) = true
      · -- the entry that matches `k` matches `j` as well, so some entry is found
        obtain ⟨e, he, hek⟩ := List.any_eq_true.1 hany
        have hej : e.1.looseEq (.int j) = true := by
          rw [← ((Value.looseEq_congr_int hkj) e.1).1]
          exact hek
        exact absurd hej (by simpa using List.find?_eq_none.1 hf e he)
      · simp [hkj]
    | some e =>
      have hej : e.1.looseEq (.int j) = true := by simpa using List.find?_some hf
      have hek : e.1.looseEq k = k.looseEq (.int j) := ((Value.looseEq_congr_int hej) k).2
      by_cases hkj : k.looseEq (.int j) = true
      · simp [hkj, hek]
      · simp [hkj, hek]
  case isFalse hany =>
    rw [List.find?_append]
    by_cases hkj : k.looseEq (.int j) = true
    case pos =>
      -- no entry matches `j`, or it would match `k`
      have hnone : table.find? (·.1.looseEq (.int j)) = none := by
        rw [List.find?_eq_none]
        intro e he hej
        have hek : e.1.looseEq k = true := by
          rw [((Value.looseEq_congr_int (by simpa using hej)) k).2]
          exact hkj
        exact hany (List.any_eq_true.2 ⟨e, he, hek⟩)
      simp [hnone, hkj]
    case neg => simp [hkj]

end Keyed

/-! ## Fields matched against integers -/

namespace Value

/-- A field that is no list matches as its value does. -/
theorem fieldIs_of_get? {doc x : Value} {key : String} (h : doc.get? key = some x) (hx : x.unkeyable? = none)
    (v : Value) : doc.fieldIs key v = x.looseEq v := by
  unfold fieldIs
  rw [h]
  cases x <;> simp_all [unkeyable?]

/-- A document whose field matches an integer of a list matches the list. -/
theorem fieldIn_of_fieldIs {doc : Value} {key : String} {j : Int} {vs : List Value}
    (h : doc.fieldIs key (.int j) = true) (hj : Value.int j ∈ vs) : doc.fieldIn key vs = true := by
  unfold fieldIs at h
  unfold fieldIn holds
  cases hg : doc.get? key with
  | none => simp [hg] at h
  | some x =>
    rw [hg] at h
    cases x <;> dsimp only at h ⊢
    case list xs =>
      -- a list is no number, so it matches the integer through one of its items
      have hxs : holds xs (.int j) = true := by
        rcases Bool.or_eq_true_iff.1 h with h | h
        · exact h
        · obtain ⟨_, hx, -⟩ := looseEq_int_iff.1 h
          simp [numeric?] at hx
      obtain ⟨y, hy, hyj⟩ := List.any_eq_true.1 hxs
      exact List.any_eq_true.2 ⟨y, hy, List.any_eq_true.2 ⟨_, hj, by rw [int_looseEq]; exact hyj⟩⟩
    all_goals exact List.any_eq_true.2 ⟨_, hj, by rw [int_looseEq]; exact h⟩

/-- A document that matches a list of integers matches one of them. -/
theorem exists_fieldIs_of_fieldIn {doc : Value} {key : String} {ws : List Int}
    (h : doc.fieldIn key (ws.map .int) = true) : ∃ j ∈ ws, doc.fieldIs key (.int j) = true := by
  unfold fieldIn holds at h
  unfold fieldIs
  cases hg : doc.get? key with
  | none => simp [hg] at h
  | some x =>
    rw [hg] at h
    cases x <;> dsimp only at h ⊢
    case list xs =>
      obtain ⟨y, hy, hyv⟩ := List.any_eq_true.1 h
      obtain ⟨v, hv, hvy⟩ := List.any_eq_true.1 hyv
      obtain ⟨j, hj, rfl⟩ := List.mem_map.1 hv
      refine ⟨j, hj, ?_⟩
      simp only [holds, Bool.or_eq_true, List.any_eq_true]
      exact .inl ⟨y, hy, by rw [← int_looseEq]; exact hvy⟩
    all_goals
      obtain ⟨v, hv, hvx⟩ := List.any_eq_true.1 h
      obtain ⟨j, hj, rfl⟩ := List.mem_map.1 hv
      exact ⟨j, hj, by rw [← int_looseEq]; exact hvx⟩

/-- Among the documents matching some integers under a key, those matching one of them are all
the documents matching it. -/
theorem filter_fieldIs_filter_fieldIn (docs : List Value) (key : String) {ws : List Int} {j : Int}
    (hj : j ∈ ws) :
    (docs.filter (·.fieldIn key (ws.map .int))).filter (·.fieldIs key (.int j)) =
      docs.filter (·.fieldIs key (.int j)) := by
  rw [List.filter_filter]
  apply List.filter_congr
  intro a _
  cases h : a.fieldIs key (.int j)
  · simp
  · simp [fieldIn_of_fieldIs h (List.mem_map_of_mem hj)]

/-- A field holding an integer matches exactly that integer. -/
theorem fieldIs_of_int {doc : Value} {key : String} {n : Int} (h : doc.get? key = some (.int n)) (j : Int) :
    doc.fieldIs key (.int j) = decide (n = j) := by
  rw [fieldIs_of_get? h rfl]
  by_cases hj : n = j
  · subst hj
    simp [looseEq_int_iff, numeric?, Number.extended?]
  · simp only [hj, decide_false]
    cases hl : (Value.int n).looseEq (.int j)
    · rfl
    · obtain ⟨x, hx, hxj⟩ := looseEq_int_iff.1 hl
      simp only [numeric?, Option.some.injEq] at hx
      subst hx
      simp [Number.extended?] at hxj
      exact absurd hxj hj

theorem get?_withoutId (v : Value) {k : String} (hk : k ≠ "_id") : v.withoutId.get? k = v.get? k := by
  cases v <;> try rfl
  case obj fs =>
    simp only [withoutId, get?, field?, List.find?_filter]
    congr 2
    funext e
    by_cases he : e.1 = k
    · simp [he, hk]
    · simp [he]

end Value

namespace Field

/-- An integer read from a double is the double's value. -/
theorem ofFloat?_of_intOfFloat {x : Float} {k : Int} (h : intOfFloat x = .ok k) :
    Extended.ofFloat? x = some (.finite k) := by
  unfold intOfFloat at h
  split at h
  case h_1 q hq =>
    rw [hq]
    by_cases hd : (q.den != 1) = true
    · rw [if_pos hd] at h
      simp [fail] at h
    · rw [if_neg hd] at h
      by_cases hb : (decide (-Int.pow 2 63 < q.num) && decide (q.num < Int.pow 2 63)) = true
      · rw [if_pos hb] at h
        cases h
        have hden : q.den = 1 := by simpa using hd
        rw [Rat.coe_int_num_of_den_eq_one hden]
      · rw [if_neg hb] at h
        simp [fail] at h
  case h_2 => simp [fail] at h

/-- An integer field read from a value that matches an integer is that integer. -/
theorem int_eq_of_looseEq {x : Value} {k j : Int} (hk : int x = .ok k) (hx : x.looseEq (.int j) = true) :
    k = j := by
  obtain ⟨y, hy, hyj⟩ := Value.looseEq_int_iff.1 hx
  cases x <;> simp only [Value.numeric?, reduceCtorEq, Option.some.injEq] at hy <;> subst hy
  case int n =>
    simp only [int, Except.ok.injEq] at hk
    simp only [Number.extended?, Option.some.injEq, Extended.finite.injEq, Rat.intCast_inj] at hyj
    omega
  case bool b =>
    simp only [int, Except.ok.injEq] at hk
    simp only [Number.extended?, Option.some.injEq, Extended.finite.injEq, Rat.intCast_inj] at hyj
    omega
  case float f =>
    have hkf := ofFloat?_of_intOfFloat hk
    simp only [Number.extended?] at hyj
    rw [hyj] at hkf
    simpa using hkf.symm

/-- An integer field is read from no list or mapping. -/
theorem unkeyable?_of_int {x : Value} {k : Int} (hk : int x = .ok k) : x.unkeyable? = none := by
  cases x <;> simp_all [int, fail, Value.unkeyable?]

end Field

/-- A trip result read from a mapping has the integer of its `trip_id` field as its trip. -/
theorem TripResult.tripId_of_ofValue {fs : List (String × Value)} {t : TripResult}
    (h : TripResult.ofValue (.obj fs) = .ok t) : ∃ x, Value.field? fs "trip_id" = some x ∧ Field.int x = .ok t.tripId := by
  unfold TripResult.ofValue at h
  simp only [Except.bind_eq_ok] at h
  obtain ⟨_, hfs, k, hk, _, -, _, -, _, -, _, -, _, -, _, -, _, -, _, -, _, -, _, -, _, -, ht⟩ := h
  cases hfs
  cases ht
  unfold Fields.req at hk
  cases hx : Value.field? fs "trip_id" with
  | none => simp [hx] at hk
  | some x =>
    simp only [hx] at hk
    refine ⟨x, rfl, ?_⟩
    cases hi : Field.int x <;> simp_all [Except.mapError]

namespace FleetRecords

/-! ## Sorting by a moment -/

/-- Where an order moment stands: no moment below all, a moment at its instant. -/
def orderRank (m : Option Moment) : WithBot Int := m.map Moment.instant

@[simp] theorem orderRank_none : orderRank none = ⊥ := rfl

@[simp] theorem orderRank_some (t : Moment) : orderRank (some t) = (t.instant : WithBot Int) := rfl

theorem orderBefore_eq (a b : Option Moment) :
    orderBefore a b = decide (orderRank a < orderRank b) := by
  cases a <;> cases b <;> simp [orderBefore, Moment.before]

/-- Sorting first moments first keeps items in order of their ranks. -/
theorem pairwise_mergeSort_rank {α : Type} (key : α → Option Moment) (l : List α) :
    (l.mergeSort fun a b => !orderBefore (key b) (key a)).Pairwise
      fun a b => orderRank (key a) ≤ orderRank (key b) := by
  have h : (l.mergeSort fun a b => !orderBefore (key b) (key a)).Pairwise
      fun a b => (!orderBefore (key b) (key a)) = true := List.pairwise_mergeSort
    (fun a b c hab hbc => by
      simp only [orderBefore_eq, Bool.not_eq_true', decide_eq_false_iff_not, not_lt] at hab hbc ⊢
      exact hab.trans hbc)
    (fun a b => by
      simp only [orderBefore_eq, Bool.or_eq_true, Bool.not_eq_true', decide_eq_false_iff_not, not_lt]
      exact le_total _ _) l
  refine h.imp fun hab => ?_
  simpa [orderBefore_eq] using hab

/-! ## The trips of a window -/

/-- An integer field of a document. -/
def intAt? (doc : Value) (key : String) : Option Int :=
  match doc.get? key with
  | some (.int n) => some n
  | _ => none

/-- Whether a trip is taken for a window: its departure is a moment between the two ends, or a
list of which some moment is at or after the start and some, maybe another, at or before the
end. -/
def departsIn (lo hi : Moment) (trip : Value) : Bool :=
  match trip.get? "scheduled_departure" with
  | some departure => inWindow lo.notAfter (·.notAfter hi) departure
  | none => false

/-- Whether a trip runs on the given route; every trip does when none is given. -/
def onRoute (routeId : Option Int) (trip : Value) : Bool :=
  match routeId with
  | some id => trip.fieldIs "route_id" (.int id)
  | none => true

/-- The trips departing in a window, of one route if given, in the order of the collection. -/
def tripsIn (r : FleetRecords) (lo hi : Moment) (routeId : Option Int) : List Value :=
  (r.db.docs "trips").filter fun trip => departsIn lo hi trip && onRoute routeId trip

/-- The analytics documents of a trip. -/
def analyticsOf (r : FleetRecords) (tripId : Int) : List Value :=
  (r.db.docs "trip_analytics").filter (·.fieldIs "trip_id" (.int tripId))

/-- The ids of the trips of a window, in the order of the collection. -/
def windowIds (r : FleetRecords) (lo hi : Moment) (routeId : Option Int) : List Int :=
  (r.tripsIn lo hi routeId).filterMap (intAt? · "_id")

/-- The ids of the trips of a window that have analytics, in the order of the collection. -/
def coveredIds (r : FleetRecords) (lo hi : Moment) (routeId : Option Int) : List Int :=
  (r.windowIds lo hi routeId).filter fun id => !(r.analyticsOf id).isEmpty

/-- The result read from the last of some analytics documents, if it reads. -/
def lastRead? (docs : List Value) : Option TripResult :=
  docs.getLast?.bind fun a => (read TripResult.ofValue a.withoutId).toOption

/-- The trips are keyed by integers: each has an integer id and an integer route, and no two
share an id. -/
structure TripsKeyed (r : FleetRecords) : Prop where
  id : ∀ trip ∈ r.db.docs "trips", ∃ n, trip.get? "_id" = some (.int n)
  route : ∀ trip ∈ r.db.docs "trips", ∃ k, trip.get? "route_id" = some (.int k)
  unique : KeyedBy (fun _ => True) (fun (n : Int) (trip : Value) => trip.fieldIs "_id" (.int n))
    (r.db.docs "trips")

/-- Trip results of a window: one for each trip of the window that has analytics, each read from
the last analytics document of its trip. -/
structure WindowResults (r : FleetRecords) (lo hi : Moment) (routeId : Option Int)
    (results : List TripResult) : Prop where
  covered : (results.map (·.tripId)).Perm (r.coveredIds lo hi routeId)
  last : ∀ t ∈ results, ∃ a, (r.analyticsOf t.tripId).getLast? = some a ∧
    read TripResult.ofValue a.withoutId = .ok t

/-- Every analytics document of a trip of the window reads as a trip result. -/
def ResultsReadable (r : FleetRecords) (lo hi : Moment) (routeId : Option Int) : Prop :=
  ∀ id ∈ r.coveredIds lo hi routeId, ∀ a ∈ r.analyticsOf id, ∃ t, read TripResult.ofValue a.withoutId = .ok t

/-! ## Reading the analytics of a trip -/

theorem intAt?_eq {doc : Value} {key : String} {n : Int} (h : doc.get? key = some (.int n)) :
    intAt? doc key = some n := by
  simp [intAt?, h]

theorem fieldIn_perm {vs ws : List Value} (h : vs.Perm ws) (doc : Value) (key : String) :
    doc.fieldIn key vs = doc.fieldIn key ws := by
  have hholds : Value.holds vs = Value.holds ws := funext fun x => by
    simp only [Value.holds]
    exact h.any_eq
  simp only [Value.fieldIn, hholds]

/-- A document matching an integer has the field. -/
theorem exists_get?_of_fieldIs {doc : Value} {key : String} {j : Int} (h : doc.fieldIs key (.int j) = true) :
    ∃ x, doc.get? key = some x := by
  unfold Value.fieldIs at h
  cases hg : doc.get? key with
  | none => simp [hg] at h
  | some x => exact ⟨x, rfl⟩

/-- The trip of an analytics document, read from its `trip_id` field. -/
theorem int_tripId_of_read {a x : Value} {t : TripResult} (h : read TripResult.ofValue a.withoutId = .ok t)
    (hx : a.get? "trip_id" = some x) : Field.int x = .ok t.tripId := by
  cases a <;> simp [Value.get?] at hx
  case obj fs =>
    have h' : TripResult.ofValue (.obj (fs.filter (·.1 != "_id"))) = .ok t := by
      unfold read at h
      cases ho : TripResult.ofValue (.obj (fs.filter (·.1 != "_id"))) <;>
        simp_all [Value.withoutId, Except.mapError]
    obtain ⟨y, hy, hyt⟩ := TripResult.tripId_of_ofValue h'
    have : Value.field? (fs.filter (·.1 != "_id")) "trip_id" = Value.field? fs "trip_id" :=
      Value.get?_withoutId (.obj fs) (by decide)
    rw [this, hx] at hy
    cases hy
    exact hyt

/-- A document that reads as a trip result and matches an integer under its `trip_id` is a
result of the trip with that id. -/
theorem tripId_eq_of_fieldIs {a : Value} {t : TripResult} (h : read TripResult.ofValue a.withoutId = .ok t)
    {j : Int} (hj : a.fieldIs "trip_id" (.int j) = true) : t.tripId = j := by
  obtain ⟨x, hx⟩ := exists_get?_of_fieldIs hj
  have hint := int_tripId_of_read h hx
  rw [Value.fieldIs_of_get? hx (Field.unkeyable?_of_int hint)] at hj
  exact Field.int_eq_of_looseEq hint hj

/-- Filing the results of documents that read, each under its `trip_id`, answers for every trip
with the result of the last document that matches it. -/
theorem foldlM_setKey {f : List (Value × TripResult) → Value → Except Fault (List (Value × TripResult))}
    (hstep : ∀ acc a t x, read TripResult.ofValue a.withoutId = .ok t → a.get? "trip_id" = some x →
      f acc a = .ok (setKey acc x t)) (L : List Value)
    (hread : ∀ a ∈ L, ∃ t, read TripResult.ofValue a.withoutId = .ok t)
    (hfield : ∀ a ∈ L, ∃ x, a.get? "trip_id" = some x) :
    ∃ found, L.foldlM f [] = .ok found ∧
      ∀ j, keyed? found (.int j) = lastRead? (L.filter (·.fieldIs "trip_id" (.int j))) := by
  -- the fold is taken apart at its last step, which files the last document's result
  induction L using List.reverseRecOn with
  | nil => exact ⟨[], rfl, fun _ => rfl⟩
  | append_singleton L a ih =>
    obtain ⟨found, hfound, hkeyed⟩ := ih (fun b hb => hread b (by simp [hb]))
      (fun b hb => hfield b (by simp [hb]))
    obtain ⟨t, ht⟩ := hread a (by simp)
    obtain ⟨x, hx⟩ := hfield a (by simp)
    refine ⟨setKey found x t, ?_, fun j => ?_⟩
    · rw [List.foldlM_append, hfound, Except.ok_bind, List.foldlM_cons, hstep found a t x ht hx]
      rfl
    · have hmatch : a.fieldIs "trip_id" (.int j) = x.looseEq (.int j) :=
        Value.fieldIs_of_get? hx (Field.unkeyable?_of_int (int_tripId_of_read ht hx)) _
      rw [keyed?_setKey, List.filter_append, hkeyed j]
      by_cases hxj : x.looseEq (.int j) = true
      · simp [lastRead?, hmatch, hxj, ht, Except.toOption]
      · simp [lastRead?, hmatch, hxj]

/-! ## The results of a window -/

theorem insertLatestFirst_perm (x : Value × Option Moment) :
    ∀ ys, (insertLatestFirst x ys).Perm (x :: ys)
  | [] => .refl _
  | y :: ys => by
    unfold insertLatestFirst
    split
    · exact .refl _
    · exact ((insertLatestFirst_perm x ys).cons y).trans (.swap x y ys)

/-- Ordering latest first only reorders. -/
theorem foldl_insertLatestFirst_perm :
    ∀ (xs acc : List (Value × Option Moment)),
      (xs.foldl (fun acc x => insertLatestFirst x acc) acc).Perm (xs ++ acc)
  | [], _ => .refl _
  | x :: xs, acc => by
    rw [List.foldl_cons]
    refine (foldl_insertLatestFirst_perm xs _).trans ?_
    exact ((insertLatestFirst_perm x acc).append_left xs).trans List.perm_middle

/-- Each analytics document of a trip of the window reads. -/
theorem readable_of_mem_windowIds {r : FleetRecords} {lo hi : Moment} {routeId : Option Int}
    (hread : r.ResultsReadable lo hi routeId) {j : Int} (hj : j ∈ r.windowIds lo hi routeId) :
    ∀ a ∈ r.analyticsOf j, ∃ t, read TripResult.ofValue a.withoutId = .ok t := by
  intro a ha
  refine hread j (List.mem_filter.2 ⟨hj, ?_⟩) a ha
  cases h : (r.analyticsOf j).isEmpty
  · rfl
  · simp_all

/-- The last analytics document of a trip reads as a result of that trip, when it has one. -/
theorem map_tripId_lastRead? {r : FleetRecords} {j : Int}
    (h : ∀ a ∈ r.analyticsOf j, ∃ t, read TripResult.ofValue a.withoutId = .ok t) :
    (lastRead? (r.analyticsOf j)).map (·.tripId) = if (r.analyticsOf j).isEmpty then none else some j := by
  cases hl : (r.analyticsOf j).getLast? with
  | none =>
    rw [List.getLast?_eq_none_iff.1 hl]
    rfl
  | some a =>
    have ha := List.mem_of_getLast? hl
    obtain ⟨t, ht⟩ := h a ha
    have hj : t.tripId = j := tripId_eq_of_fieldIs ht (List.mem_filter.1 ha).2
    have hne : (r.analyticsOf j).isEmpty = false := by
      cases hE : (r.analyticsOf j).isEmpty
      · rfl
      · simp_all
    simp [lastRead?, hl, ht, Except.toOption, hj, hne]

/-- The trip results of a window: when every trip has an integer id and every analytics document
of a trip of the window reads, they are one for each trip of the window that has analytics, each
read from the last analytics document of its trip. -/
theorem tripResults_spec_of_ids (r : FleetRecords) (lo hi : Moment) (routeId : Option Int)
    (hid : ∀ trip ∈ r.db.docs "trips", ∃ n, trip.get? "_id" = some (.int n))
    (hread : r.ResultsReadable lo hi routeId) :
    ∃ results, r.tripResults lo hi routeId = .ok results ∧ r.WindowResults lo hi routeId results := by
  unfold tripResults
  dsimp only
  generalize htrips : List.filterMap _ (r.db.docs "trips") = trips
  -- the trips the window takes are those of `tripsIn`, keyed by their integer ids
  have hfst : trips.map Prod.fst = (r.windowIds lo hi routeId).map Value.int := by
    rw [← htrips, List.map_filterMap, windowIds, tripsIn, List.map_filterMap, List.filterMap_filter]
    apply List.filterMap_congr
    intro doc hdoc
    obtain ⟨n, hn⟩ := hid doc hdoc
    rw [intAt?_eq hn]
    unfold departsIn onRoute
    cases hd : doc.get? "scheduled_departure" with
    | none => rfl
    | some departure =>
      dsimp only
      split <;> simp_all
  generalize hI : List.map _ (List.foldl _ [] trips) = ids
  have hperm : ids.Perm ((r.windowIds lo hi routeId).map Value.int) := by
    rw [← hI, ← hfst]
    simpa using (foldl_insertLatestFirst_perm trips []).map Prod.fst
  split
  case isTrue hempty =>
    -- no trip in the window, so none is covered
    have hW : r.windowIds lo hi routeId = [] := by
      rw [List.isEmpty_iff.1 hempty] at hperm
      exact List.map_eq_nil_iff.1 hperm.symm.eq_nil
    refine ⟨[], rfl, ⟨?_, by simp⟩⟩
    simp [coveredIds, hW]
  case isFalse =>
    -- the analytics documents taken are those of the trips of the window
    have hanalysed : (r.db.docs "trip_analytics").filter (·.fieldIn "trip_id" ids) =
        (r.db.docs "trip_analytics").filter (·.fieldIn "trip_id" ((r.windowIds lo hi routeId).map .int)) :=
      List.filter_congr fun a _ => by rw [fieldIn_perm hperm a "trip_id"]
    rw [hanalysed]
    have hmatch : ∀ a ∈ (r.db.docs "trip_analytics").filter
        (·.fieldIn "trip_id" ((r.windowIds lo hi routeId).map .int)),
        ∃ j ∈ r.windowIds lo hi routeId, a ∈ r.analyticsOf j := by
      intro a ha
      obtain ⟨j, hj, haj⟩ := Value.exists_fieldIs_of_fieldIn (List.mem_filter.1 ha).2
      exact ⟨j, hj, List.mem_filter.2 ⟨(List.mem_filter.1 ha).1, haj⟩⟩
    have hfilter : ∀ j ∈ r.windowIds lo hi routeId, ((r.db.docs "trip_analytics").filter
        (·.fieldIn "trip_id" ((r.windowIds lo hi routeId).map .int))).filter
          (·.fieldIs "trip_id" (.int j)) = r.analyticsOf j :=
      fun j hj => Value.filter_fieldIs_filter_fieldIn _ _ hj
    obtain ⟨found, hfound, hkeyed⟩ := foldlM_setKey (f := fun acc doc => do
        let result ← read TripResult.ofValue doc.withoutId
        let id ← Value.asKey (← field doc "trip_id")
        return setKey acc id result)
      (fun acc a t x ht hx => by
        have hkey : Value.asKey x = .ok x := by
          simp [Value.asKey, Field.unkeyable?_of_int (int_tripId_of_read ht hx)]
        simp only [ht, field, hx, hkey, Except.ok_bind]
        rfl)
      _ (fun a ha => by
        obtain ⟨j, hj, haj⟩ := hmatch a ha
        exact readable_of_mem_windowIds hread hj a haj)
      (fun a ha => by
        obtain ⟨j, -, haj⟩ := hmatch a ha
        exact exists_get?_of_fieldIs (List.mem_filter.1 haj).2)
    -- the results answer trip by trip for the ids of the window
    have hres : (ids.filterMap (keyed? found)).Perm
        ((r.windowIds lo hi routeId).filterMap fun j => lastRead? (r.analyticsOf j)) := by
      refine (hperm.filterMap _).trans ?_
      rw [List.filterMap_map]
      refine .of_eq (List.filterMap_congr fun j hj => ?_)
      simp only [Function.comp, hkeyed j, hfilter j hj]
    rw [hfound]
    refine ⟨ids.filterMap (keyed? found), rfl, ⟨?_, ?_⟩⟩
    · refine (hres.map _).trans ?_
      rw [List.map_filterMap, coveredIds, ← List.filterMap_eq_filter]
      refine .of_eq (List.filterMap_congr fun j hj => ?_)
      rw [map_tripId_lastRead? (readable_of_mem_windowIds hread hj)]
      cases h : (r.analyticsOf j).isEmpty <;> simp [Option.guard, h]
    · intro t ht
      obtain ⟨j, -, htj⟩ := List.mem_filterMap.1 (hres.mem_iff.1 ht)
      obtain ⟨a, ha, hat⟩ := Option.bind_eq_some_iff.1 htj
      have hread_a : read TripResult.ofValue a.withoutId = .ok t := by
        cases h : read TripResult.ofValue a.withoutId <;> simp_all [Except.toOption]
      have hid : t.tripId = j := tripId_eq_of_fieldIs hread_a (List.mem_filter.1 (List.mem_of_getLast? ha)).2
      exact ⟨a, hid ▸ ha, hread_a⟩

/-- The trip results of a window when every trip has an integer id, no two the same, and an
integer route. -/
theorem tripResults_spec (r : FleetRecords) (lo hi : Moment) (routeId : Option Int)
    (hkeys : r.TripsKeyed) (hread : r.ResultsReadable lo hi routeId) :
    ∃ results, r.tripResults lo hi routeId = .ok results ∧ r.WindowResults lo hi routeId results :=
  r.tripResults_spec_of_ids lo hi routeId hkeys.id hread

/-! ## The route of a trip -/

/-- The route that the first trip with an id names. -/
def tripRoute? (r : FleetRecords) (tripId : Int) : Option Int :=
  (r.db.findOne? "trips" (·.fieldIs "_id" (.int tripId))).bind (intAt? · "route_id")

/-- A route as a report files it: its id, with the name of its document, or the name of an
unknown route when it has none. -/
def routeRef (r : FleetRecords) (routeId : Int) : RouteRef :=
  ⟨routeId, ((r.route? routeId).map (·.name)).getD RouteRef.unknownName⟩

/-- When every trip names an integer route, the route of a trip is the one its document names,
filed under its id. -/
theorem routeForTrip_eq (r : FleetRecords)
    (hroute : ∀ trip ∈ r.db.docs "trips", ∃ k, trip.get? "route_id" = some (.int k)) (tripId : Int) :
    r.routeForTrip tripId = .ok ((r.tripRoute? tripId).map r.routeRef) := by
  unfold routeForTrip tripRoute?
  cases htrip : r.db.findOne? "trips" (·.fieldIs "_id" (.int tripId)) with
  | none => rfl
  | some trip =>
    obtain ⟨k, hk⟩ := hroute trip (List.mem_of_find?_eq_some htrip)
    simp only [field, hk, Option.bind_some, intAt?_eq hk, Option.map_some, Except.ok_bind, routeRef,
      route?, Option.map_map]
    cases r.db.findOne? "routes" (·.fieldIs "_id" (.int k)) <;> rfl

/-- With integer ids, no two the same, a trip's route is found by its id. -/
theorem tripRoute?_eq {r : FleetRecords} (hkeys : r.TripsKeyed) {trip : Value} (htrip : trip ∈ r.db.docs "trips")
    {j : Int} (hj : trip.get? "_id" = some (.int j)) : r.tripRoute? j = intAt? trip "route_id" := by
  have hfiled : FiledUnder (fun _ => True) (fun (n : Int) (trip : Value) => trip.fieldIs "_id" (.int n)) j trip :=
    ⟨trivial, by simp [Value.fieldIs_of_int hj], fun k _ hk => by simpa [Value.fieldIs_of_int hj, eq_comm] using hk⟩
  rw [tripRoute?, Database.findOne?, hkeys.unique.find?_eq hfiled htrip, Option.bind_some]

/-- Each trip of the window names its route, which is the route asked for, if any. -/
theorem route_of_mem_windowIds {r : FleetRecords} {lo hi : Moment} {routeId : Option Int}
    (hkeys : r.TripsKeyed) {j : Int} (hj : j ∈ r.windowIds lo hi routeId) :
    ∃ k, r.tripRoute? j = some k ∧ ∀ k', routeId = some k' → k = k' := by
  obtain ⟨trip, htrip, hid⟩ := List.mem_filterMap.1 hj
  obtain ⟨hmem, hwin⟩ := List.mem_filter.1 htrip
  obtain ⟨n, hn⟩ := hkeys.id trip hmem
  rw [intAt?_eq hn, Option.some.injEq] at hid
  subst hid
  obtain ⟨k, hk⟩ := hkeys.route trip hmem
  refine ⟨k, by rw [tripRoute?_eq hkeys hmem hn, intAt?_eq hk], fun k' hk' => ?_⟩
  subst hk'
  have hon : trip.fieldIs "route_id" (.int k') = true := (Bool.and_eq_true_iff.1 hwin).2
  rw [Value.fieldIs_of_int hk] at hon
  simpa using hon

/-- A trip of the window with analytics is covered. -/
theorem mem_coveredIds {r : FleetRecords} {lo hi : Moment} {routeId : Option Int} {trip : Value}
    (htrip : trip ∈ r.tripsIn lo hi routeId) {id : Int} (hid : trip.get? "_id" = some (.int id))
    (hne : r.analyticsOf id ≠ []) : id ∈ r.coveredIds lo hi routeId := by
  refine List.mem_filter.2 ⟨List.mem_filterMap.2 ⟨trip, htrip, intAt?_eq hid⟩, ?_⟩
  simpa using hne

namespace WindowResults

variable {r : FleetRecords} {lo hi : Moment} {routeId : Option Int} {results : List TripResult}

theorem length_eq (h : r.WindowResults lo hi routeId results) :
    results.length = (r.coveredIds lo hi routeId).length := by
  simpa using h.covered.length_eq

/-- Counting results by their trips counts the covered trips. -/
theorem length_filter (h : r.WindowResults lo hi routeId results) (p : Int → Bool) :
    (results.filter (p ·.tripId)).length = ((r.coveredIds lo hi routeId).filter p).length := by
  rw [← (h.covered.filter p).length_eq, List.filter_map, List.length_map]
  rfl

theorem mem_coveredIds (h : r.WindowResults lo hi routeId results) {t : TripResult} (ht : t ∈ results) :
    t.tripId ∈ r.coveredIds lo hi routeId :=
  h.covered.subset (List.mem_map_of_mem ht)

theorem exists_of_mem_coveredIds (h : r.WindowResults lo hi routeId results) {j : Int}
    (hj : j ∈ r.coveredIds lo hi routeId) : ∃ t ∈ results, t.tripId = j :=
  List.mem_map.1 (h.covered.symm.subset hj)

/-- The trip of each result names its route, the route asked for, if any. -/
theorem route (h : r.WindowResults lo hi routeId results) (hkeys : r.TripsKeyed) {t : TripResult}
    (ht : t ∈ results) : ∃ k, r.tripRoute? t.tripId = some k ∧ ∀ k', routeId = some k' → k = k' :=
  route_of_mem_windowIds hkeys (List.mem_filter.1 (h.mem_coveredIds ht)).1

end WindowResults

end FleetRecords

end TransitRevenue