import TransitRevenue.Proofs.Store.TripWindow
import TransitRevenue.Proofs.Demand.Band
import TransitRevenue.Proofs.Calendar
/-!
The weekly history of a route on a weekday.

`weeklyMeans` files each completed trip of the route that departed on the weekday between
midnight `7 * weeks` days before today and midnight today (UTC) under its id, with the week
`⌊(d + 6) / 7⌋` of a trip `d` days old; it then groups the passenger counts of the trips'
analytics documents by week and gives the mean of each week, in increasing week.

The specification (`history`) says the same without windows or tables: week `k`, for `k` from
`1` to `weeks`, holds the trips that departed `7k - 6` to `7k` days before today (`inWeek`), and
has an entry when some analytics document belongs to one of them: the mean of their counts,
rounded half up as doubles round it (`halfUpMean`).

`weeklyMeans_eq_history`: the two agree whenever the trips have integer ids, no two the same, no
departure is a list, and every analytics document names its trip and its passenger count as
integers, the counts within 64 signed bits (`HistoryKeyed`). A listed departure that the window
takes stops the call instead (`weeklyMeans_fails_on_listed_departure`).
-/

namespace TransitRevenue

open Binary64

namespace Except

variable {ε α β : Type}

/-- A fold whose every step succeeds with `g` of its accumulator and item is the plain fold by
`g`. -/
theorem foldlM_eq_ok_of {f : β → α → Except ε β} {g : β → α → β} :
    ∀ {xs : List α} (init : β), (∀ acc, ∀ x ∈ xs, f acc x = .ok (g acc x)) →
      xs.foldlM f init = .ok (xs.foldl g init)
  | [], _, _ => rfl
  | x :: xs, init, h => by
    rw [List.foldlM_cons, h init x (by simp), ok_bind, List.foldl_cons]
    exact foldlM_eq_ok_of _ fun acc y hy => h acc y (by simp [hy])

end Except

/-! ## Days before today -/

namespace Moment

/-- The UTC date of a moment is the day its instant falls in. -/
theorem epochDays_toUtc_date (t : Moment) : t.toUtc.date.epochDays = t.instant / usDay := by
  simp [toUtc, ofInstant, ofLocalMicros, Date.epochDays_ofEpochDays]

/-- A moment lies from midnight `n` days after a date, included, to midnight of the date,
excluded, exactly when its UTC date is `1` to `-n` days before the date. -/
theorem window_iff (today : Date) (n : Int) (t : Moment) :
    (startOfDay (today.addDays n)).notAfter t = true ∧ t.before (startOfDay today) = true ↔
      1 ≤ t.toUtc.date.daysUntil today ∧ t.toUtc.date.daysUntil today ≤ -n := by
  simp only [notAfter, before, instant_startOfDay, Date.addDays, Date.epochDays_ofEpochDays,
    Date.daysUntil, epochDays_toUtc_date, decide_eq_true_eq, usDay, usSecond]
  omega

end Moment

/-- The week `⌊(d + 6) / 7⌋` of a day `d` days back is the `k` with `7k - 6 ≤ d ≤ 7k`. -/
theorem fdiv_week_eq_iff {d k : Int} : Int.fdiv (d + 6) 7 = k ↔ 7 * k - 6 ≤ d ∧ d ≤ 7 * k := by
  rw [Int.fdiv_eq_ediv_of_nonneg _ (by decide)]
  omega

namespace Value

theorem int_looseEq_int (a b : Int) : (Value.int a).looseEq (.int b) = decide (a = b) := by
  rw [Bool.eq_iff_iff, looseEq_int_iff]
  simp [numeric?, Number.extended?]

end Value

section Keys

variable {β κ : Type} {K : κ → Prop} {key : κ → β → Bool}

/-- A keyed collection stays keyed when documents are left out. -/
theorem KeyedBy.sublist {docs docs' : List β} (h : KeyedBy K key docs) (hs : docs'.Sublist docs) :
    KeyedBy K key docs' :=
  fun k hk => hs.countP_le.trans (h k hk)

/-- In a keyed collection, no document before the last matches a key the last one matches. -/
theorem KeyedBy.key_eq_false_of_append {docs : List β} {x : β} {k : κ} (h : KeyedBy K key (docs ++ [x]))
    (hk : K k) (hx : key k x = true) : ∀ y ∈ docs, key k y = false := by
  intro y hy
  have hcount := h k hk
  rw [List.countP_append, List.countP_singleton, hx, if_pos rfl] at hcount
  cases hky : key k y
  · rfl
  · have hpos : 0 < docs.countP (key k) := List.countP_pos_iff.2 ⟨y, hy, hky⟩
    omega

end Keys

namespace FleetRecords

theorem intAt?_eq_some_iff {doc : Value} {key : String} {n : Int} :
    intAt? doc key = some n ↔ doc.get? key = some (.int n) := by
  unfold intAt?
  split <;> simp_all

/-! ## The specification -/

/-- Whether a trip counts in week `k` before `today`: a completed trip of the route whose
departure, taken in UTC, falls on the weekday (Sunday `0`) and `7k - 6` to `7k` days before
`today`. -/
def inWeek (today : Date) (routeId dow k : Int) (trip : Value) : Bool :=
  match trip.get? "scheduled_departure" with
  | some (.time t) =>
    trip.fieldIs "route_id" (.int routeId) && trip.fieldIs "status" (.str "completed") &&
      (t.toUtc.date.dayOfWeek : Int) == dow &&
      (decide (7 * k - 6 ≤ t.toUtc.date.daysUntil today) && decide (t.toUtc.date.daysUntil today ≤ 7 * k))
  | _ => false

/-- The ids of the trips that count in week `k`. -/
def weekIds (r : FleetRecords) (today : Date) (routeId dow k : Int) : List Int :=
  ((r.db.docs "trips").filter (inWeek today routeId dow k)).filterMap (intAt? · "_id")

/-- The passenger counts of week `k`: those of the analytics documents of its trips, in the
order of the collection. -/
def weekCounts (r : FleetRecords) (today : Date) (routeId dow k : Int) : List Int :=
  ((r.db.docs "trip_analytics").filter fun a =>
    (intAt? a "trip_id").any fun j => decide (j ∈ r.weekIds today routeId dow k)).filterMap
    (intAt? · "total_passengers")

/-- The mean of some counts as doubles give it, rounded half up: the quotient of their sum by
their number rounded to the nearest double, one half added and rounded again, then the floor. -/
def halfUpMean (ns : List Int) : Int :=
  ⌊roundNearest (roundNearest ((ns.sum : ℚ) / ns.length) + 1 / 2)⌋

/-- The weekly history: for each week from `1` to `weeks` that has counts, in that order, their
mean rounded half up. -/
def history (r : FleetRecords) (today : Date) (routeId dow weeks : Int) : List Int :=
  ((List.range weeks.toNat).map fun (i : Nat) => (i : Int) + 1).filterMap fun k =>
    match r.weekCounts today routeId dow k with
    | [] => none
    | ns => some (halfUpMean ns)

/-- What the weekly history needs of the records: the trips keyed by integers, no departure a
list, and every analytics document naming its trip and its passenger count as integers, the
counts within 64 signed bits. -/
structure HistoryKeyed (r : FleetRecords) : Prop where
  trips : r.TripsKeyed
  departure : ∀ trip ∈ r.db.docs "trips", ∀ xs, trip.get? "scheduled_departure" ≠ some (.list xs)
  analytics : ∀ a ∈ r.db.docs "trip_analytics", ∃ j n, a.get? "trip_id" = some (.int j) ∧
    a.get? "total_passengers" = some (.int n) ∧ n.natAbs < 2 ^ 63

/-! ## Grouping by week -/

/-- Adding a value under a week appends it to that week's values and leaves the other weeks. -/
theorem lookup_addToWeek (w k : Int) (v : Value) :
    ∀ acc : List (Int × List Value),
      (addToWeek w v acc).lookup k = if k = w then some ((acc.lookup k).getD [] ++ [v]) else acc.lookup k
  | [] => by by_cases hk : k = w <;> simp [addToWeek, hk]
  | (w', vs) :: acc => by
    have ih := lookup_addToWeek w k v acc
    by_cases hk : k = w'
    · subst hk
      by_cases hw : k = w <;> simp [addToWeek, hw]
    · have hkb : (k == w') = false := beq_false_of_ne hk
      by_cases hw : w' = w
      · subst hw
        simp [addToWeek, List.lookup_cons, hkb, hk]
      · simp [addToWeek, List.lookup_cons, hkb, hw, ih]

/-- Adding a value under a week adds the week at the end when it is new. -/
theorem keys_addToWeek (w : Int) (v : Value) :
    ∀ acc : List (Int × List Value), (addToWeek w v acc).map (·.1) =
      if w ∈ acc.map (·.1) then acc.map (·.1) else acc.map (·.1) ++ [w]
  | [] => by simp [addToWeek]
  | (w', vs) :: acc => by
    by_cases hw : w' = w
    · subst hw
      simp [addToWeek]
    · have hw' : w ≠ w' := Ne.symm hw
      simp only [addToWeek, beq_iff_eq, hw, if_false, List.map_cons, keys_addToWeek w v acc,
        List.mem_cons, hw', false_or]
      split <;> simp

theorem nodup_addToWeek (w : Int) (v : Value) {acc : List (Int × List Value)}
    (h : (acc.map (·.1)).Nodup) : ((addToWeek w v acc).map (·.1)).Nodup := by
  rw [keys_addToWeek]
  split
  case isTrue => exact h
  case isFalse hw => exact h.append (List.nodup_singleton w) (by simpa using hw)

section Grouping

variable {α : Type} (wk : α → Int) (val : α → Value)

/-- Grouping items by week, one at a time: no week is kept twice, and each week holds the values
of its items, in order. -/
theorem foldl_addToWeek (xs : List α) :
    ((xs.foldl (fun acc x => addToWeek (wk x) (val x) acc) []).map (·.1)).Nodup ∧
      ∀ k, (xs.foldl (fun acc x => addToWeek (wk x) (val x) acc) []).lookup k =
        if (xs.filter (wk · == k)).isEmpty then none else some ((xs.filter (wk · == k)).map val) := by
  induction xs using List.reverseRecOn with
  | nil => simp
  | append_singleton xs x ih =>
    obtain ⟨hnodup, hlookup⟩ := ih
    rw [List.foldl_append, List.foldl_cons, List.foldl_nil]
    refine ⟨nodup_addToWeek _ _ hnodup, fun k => ?_⟩
    rw [lookup_addToWeek, hlookup, List.filter_append]
    by_cases hk : k = wk x
    · subst hk
      cases hE : (xs.filter (wk · == wk x)).isEmpty <;> simp_all
    · simp [hk, Ne.symm hk]

end Grouping

/-- In a table with distinct keys, an entry is there exactly when its key looks up its value. -/
theorem mem_iff_lookup {β : Type} :
    ∀ {l : List (Int × β)}, (l.map (·.1)).Nodup → ∀ k b, (k, b) ∈ l ↔ l.lookup k = some b
  | [], _, _, _ => by simp
  | (k', b') :: l, h, k, b => by
    obtain ⟨hk', hl⟩ := List.nodup_cons.1 h
    by_cases hk : k = k'
    · -- the head answers for its key, and no later entry has it
      subst hk
      have hb : (k, b) ∉ l := fun hb => hk' (List.mem_map_of_mem (f := (·.1)) hb)
      simp [hb, eq_comm]
    · have hne : (k == k') = false := beq_false_of_ne hk
      simp only [List.mem_cons, Prod.mk.injEq, hk, false_and, false_or, List.lookup_cons, hne]
      exact mem_iff_lookup hl k b

/-- Two lists ordered strictly by their first components, with the same entries, are the same. -/
theorem eq_of_keys_lt {β : Type} {l₁ l₂ : List (Int × β)} (h₁ : l₁.Pairwise (·.1 < ·.1))
    (h₂ : l₂.Pairwise (·.1 < ·.1)) (h : ∀ p, p ∈ l₁ ↔ p ∈ l₂) : l₁ = l₂ := by
  have hnodup : ∀ {l : List (Int × β)}, l.Pairwise (·.1 < ·.1) → l.Nodup :=
    fun hl => hl.imp fun hab => ne_of_apply_ne Prod.fst (ne_of_lt hab)
  refine List.Perm.eq_of_pairwise (fun a b _ _ hab hba => absurd (hab.trans hba) (lt_irrefl _)) h₁ h₂ ?_
  exact (List.perm_ext_iff_of_nodup (hnodup h₁) (hnodup h₂)).2 h

/-- Sorting entries with distinct keys by key orders them strictly. -/
theorem pairwise_mergeSort_keys {β : Type} {l : List (Int × β)} (h : (l.map (·.1)).Nodup) :
    (l.mergeSort fun a b => a.1 ≤ b.1).Pairwise (·.1 < ·.1) := by
  have hle : (l.mergeSort fun a b => a.1 ≤ b.1).Pairwise fun a b => decide (a.1 ≤ b.1) = true :=
    List.pairwise_mergeSort (fun a b c hab hbc => by simp at *; omega) (fun a b => by simp; omega) l
  have hne : (l.mergeSort fun a b => a.1 ≤ b.1).Pairwise (·.1 ≠ ·.1) :=
    List.pairwise_map.1 (((List.mergeSort_perm l fun a b => a.1 ≤ b.1).map Prod.fst).nodup_iff.2 h)
  exact (hle.and hne).imp fun ⟨hab, hne⟩ => lt_of_le_of_ne (by simpa using hab) hne

/-! ## Filing the trips by week -/

theorem inWeek_iff {today : Date} {routeId dow k : Int} {trip : Value} :
    inWeek today routeId dow k trip = true ↔ ∃ t, trip.get? "scheduled_departure" = some (.time t) ∧
      trip.fieldIs "route_id" (.int routeId) = true ∧ trip.fieldIs "status" (.str "completed") = true ∧
      (t.toUtc.date.dayOfWeek : Int) = dow ∧ 7 * k - 6 ≤ t.toUtc.date.daysUntil today ∧
      t.toUtc.date.daysUntil today ≤ 7 * k := by
  unfold inWeek
  split <;> simp_all [and_assoc]

/-- A trip counts in one week at most. -/
theorem inWeek_unique {today : Date} {routeId dow k k' : Int} {trip : Value}
    (h : inWeek today routeId dow k trip = true) (h' : inWeek today routeId dow k' trip = true) : k = k' := by
  obtain ⟨t, ht, -, -, -, hk⟩ := inWeek_iff.1 h
  obtain ⟨t', ht', -, -, -, hk'⟩ := inWeek_iff.1 h'
  rw [ht, Option.some.injEq, Value.time.injEq] at ht'
  subst ht'
  omega

section Filing

variable {f : List (Value × Int) → Value → Except Fault (List (Value × Int))} {R : Value → Int → Prop}

/-- Filing, trip by trip, the week a trip counts in under its id: when no two trips share an id
and a trip counts in one week at most, the table answers for an id with the week in which the
trip of that id counts. -/
theorem foldlM_fileWeeks (L : List Value) (hid : ∀ trip ∈ L, ∃ j, trip.get? "_id" = some (.int j))
    (hunique : KeyedBy (fun _ => True) (fun (n : Int) (trip : Value) => trip.fieldIs "_id" (.int n)) L)
    (hfun : ∀ trip k k', R trip k → R trip k' → k = k')
    (hstep : ∀ acc, ∀ trip ∈ L, ∀ j, trip.get? "_id" = some (.int j) →
      (∃ k, R trip k ∧ f acc trip = .ok (setKey acc (.int j) k)) ∨
        ((∀ k, ¬ R trip k) ∧ f acc trip = .ok acc)) :
    ∃ T, L.foldlM f [] = .ok T ∧
      ∀ j k, keyed? T (.int j) = some k ↔ ∃ trip ∈ L, trip.get? "_id" = some (.int j) ∧ R trip k := by
  -- the fold is taken apart at its last step, which files the last trip
  induction L using List.reverseRecOn with
  | nil => exact ⟨[], rfl, fun j k => by simp [keyed?]⟩
  | append_singleton L x ih =>
    obtain ⟨T, hT, hkeyed⟩ := ih (fun t ht => hid t (by simp [ht])) (hunique.sublist (List.sublist_append_left L [x]))
      (fun acc t ht => hstep acc t (by simp [ht]))
    obtain ⟨j₀, hj₀⟩ := hid x (by simp)
    -- no earlier trip has the id of the last one
    have hfresh : ∀ t ∈ L, t.get? "_id" ≠ some (.int j₀) := by
      intro t ht htj
      have hmatch := hunique.key_eq_false_of_append (k := j₀) trivial (by simp [Value.fieldIs_of_int hj₀]) t ht
      simp [Value.fieldIs_of_int htj] at hmatch
    have hlast : ∀ j k, (∃ t ∈ L ++ [x], t.get? "_id" = some (.int j) ∧ R t k) ↔
        (∃ t ∈ L, t.get? "_id" = some (.int j) ∧ R t k) ∨ (x.get? "_id" = some (.int j) ∧ R x k) := by
      intro j k
      simp only [List.mem_append, List.mem_singleton, or_and_right, exists_or, exists_eq_left]
    have hfold : ∀ T', f T x = .ok T' → (L ++ [x]).foldlM f [] = .ok T' := by
      intro T' hT'
      rw [List.foldlM_append, hT, Except.ok_bind, List.foldlM_cons, hT']
      rfl
    rcases hstep T x (by simp) j₀ hj₀ with ⟨k₀, hk₀, hf⟩ | ⟨hnone, hf⟩
    case inl =>
      refine ⟨_, hfold _ hf, fun j k => ?_⟩
      rw [keyed?_setKey, Value.int_looseEq_int, hlast]
      by_cases hj : j₀ = j
      · -- only the last trip has this id, and it counts in week `k₀` alone
        subst hj
        simp only [decide_true, if_true, Option.some.injEq, hj₀, true_and]
        have hnot : ¬ ∃ t ∈ L, t.get? "_id" = some (.int j₀) ∧ R t k :=
          fun ⟨t, ht, htj, _⟩ => hfresh t ht htj
        simp only [hnot, false_or]
        exact ⟨fun hk => hk ▸ hk₀, hfun x k₀ k hk₀⟩
      · have hx : x.get? "_id" ≠ some (.int j) := by
          rw [hj₀]
          simpa using hj
        simp [hj, hkeyed, hx]
    case inr =>
      refine ⟨T, hfold _ hf, fun j k => ?_⟩
      rw [hkeyed, hlast]
      simp [hnone k]

end Filing

/-- Only a moment, or a list of moments, lies in a window. -/
theorem inWindow_eq_false (lower upper : Moment → Bool) {v : Value} (ht : ∀ t, v ≠ .time t)
    (hl : ∀ xs, v ≠ .list xs) : inWindow lower upper v = false := by
  cases v <;> simp_all [inWindow]

/-- A trip departing at `t` counts in week `k`, one of weeks `1` to `weeks`, exactly when the
window of `weekOfTrips` takes it, it departed on the weekday, and `k` is its week
`⌊(d + 6) / 7⌋`. -/
theorem countsIn_iff_of_time {today : Date} {routeId dow weeks k : Int} {trip : Value} {t : Moment}
    (hd : trip.get? "scheduled_departure" = some (.time t)) :
    (inWeek today routeId dow k trip = true ∧ 1 ≤ k ∧ k ≤ weeks) ↔
      (trip.fieldIs "route_id" (.int routeId) && trip.fieldIs "status" (.str "completed") &&
        inWindow (Moment.startOfDay (today.addDays (-7 * weeks))).notAfter
          (·.before (Moment.startOfDay today)) (.time t)) = true ∧
      (t.toUtc.date.dayOfWeek : Int) = dow ∧ Int.fdiv (t.toUtc.date.daysUntil today + 6) 7 = k := by
  simp only [inWeek, hd, inWindow, Bool.and_eq_true, beq_iff_eq, decide_eq_true_eq, fdiv_week_eq_iff,
    Moment.window_iff]
  -- the window's `1 ≤ d ≤ 7 * weeks` is the range of weeks `1 ≤ k ≤ weeks` for `7k - 6 ≤ d ≤ 7k`
  constructor
  · rintro ⟨⟨⟨hroute, hw⟩, h1, h2⟩, hk1, hk2⟩
    exact ⟨⟨hroute, by omega, by omega⟩, hw, h1, h2⟩
  · rintro ⟨⟨hroute, hd1, hd2⟩, hw, h1, h2⟩
    exact ⟨⟨⟨hroute, hw⟩, h1, h2⟩, by omega, by omega⟩

/-- The table of weeks that `weekOfTrips` builds answers for a trip id with the week, one of
weeks `1` to `weeks`, in which the trip of that id counts. -/
theorem weekOfTrips_keyed (r : FleetRecords) (today : Date) (routeId dow weeks : Int)
    (h : r.HistoryKeyed) :
    ∃ T, r.weekOfTrips today routeId dow weeks = .ok T ∧
      ∀ j k, keyed? T (.int j) = some k ↔ ∃ trip ∈ r.db.docs "trips", trip.get? "_id" = some (.int j) ∧
        (inWeek today routeId dow k trip = true ∧ 1 ≤ k ∧ k ≤ weeks) := by
  unfold weekOfTrips
  refine foldlM_fileWeeks _ h.trips.id h.trips.unique (fun trip k k' hk hk' => inWeek_unique hk.1 hk'.1) ?_
  intro acc trip htrip j hj
  cases hd : trip.get? "scheduled_departure" with
  | none =>
    -- a trip without a departure counts in no week, and is passed over
    refine .inr ⟨fun k hk => ?_, rfl⟩
    obtain ⟨t, ht, -⟩ := inWeek_iff.1 hk.1
    simp [hd] at ht
  | some departure =>
    by_cases htime : ∃ t, departure = .time t
    case pos =>
      obtain ⟨t, rfl⟩ := htime
      dsimp only
      split
      case isTrue hc =>
        split
        case isTrue hw =>
          refine .inl ⟨_, (countsIn_iff_of_time hd).2 ⟨hc, by simpa using hw, rfl⟩, ?_⟩
          simp [hj, Value.asKey, Value.unkeyable?]
        case isFalse hw =>
          exact .inr ⟨fun k hk => hw (by simpa using ((countsIn_iff_of_time hd).1 hk).2.1), rfl⟩
      case isFalse hc =>
        exact .inr ⟨fun k hk => hc ((countsIn_iff_of_time hd).1 hk).1, rfl⟩
    case neg =>
      -- any other departure lies in no window, and the trip counts in no week
      have hwin := inWindow_eq_false (Moment.startOfDay (today.addDays (-7 * weeks))).notAfter
        (·.before (Moment.startOfDay today)) (fun t ht => htime ⟨t, ht⟩)
        (fun xs hxs => h.departure trip htrip xs (hxs ▸ hd))
      refine .inr ⟨fun k hk => ?_, by dsimp only; rw [hwin, Bool.and_false]; rfl⟩
      obtain ⟨t, ht, -⟩ := inWeek_iff.1 hk.1
      rw [hd, Option.some.injEq] at ht
      exact htime ⟨t, ht⟩

theorem mem_weekIds {r : FleetRecords} {today : Date} {routeId dow k j : Int} :
    j ∈ r.weekIds today routeId dow k ↔ ∃ trip ∈ r.db.docs "trips", trip.get? "_id" = some (.int j) ∧
      inWeek today routeId dow k trip = true := by
  simp only [weekIds, List.mem_filterMap, List.mem_filter, intAt?_eq_some_iff]
  exact ⟨fun ⟨t, ⟨ht, hw⟩, hj⟩ => ⟨t, ht, hj, hw⟩, fun ⟨t, ht, hj, hw⟩ => ⟨t, ⟨ht, hw⟩, hj⟩⟩

/-! ## The weeks' counts and means -/

/-- The week under which the history files an analytics document: the week of its trip in the
table, `0` for a trip not in it. -/
def docWeek (T : List (Value × Int)) (a : Value) : Int := (keyed? T ((a.get? "trip_id").getD .null)).getD 0

/-- The count that an analytics document adds to its week. -/
def docCount (a : Value) : Value := (a.get? "total_passengers").getD .null

/-- A document whose trip is in the table matches the table's keys. -/
theorem fieldIn_of_keyed? {a : Value} {j : Int} (hj : a.get? "trip_id" = some (.int j))
    {T : List (Value × Int)} {k : Int} (hk : keyed? T (.int j) = some k) :
    a.fieldIn "trip_id" (T.map (·.1)) = true := by
  obtain ⟨e, he, -⟩ := Option.map_eq_some_iff.1 hk
  simp only [Value.fieldIn, hj, Value.holds, List.any_map, List.any_eq_true, Function.comp_apply]
  exact ⟨e, List.mem_of_find?_eq_some he, by simpa using List.find?_some he⟩

theorem map_int_filterMap_intAt? {docs : List Value} {key : String}
    (h : ∀ a ∈ docs, ∃ n, a.get? key = some (.int n)) :
    (docs.filterMap (intAt? · key)).map .int = docs.map fun a => (a.get? key).getD .null := by
  induction docs with
  | nil => rfl
  | cons a docs ih =>
    obtain ⟨n, hn⟩ := h a (by simp)
    simp [intAt?_eq hn, hn, ih fun b hb => h b (by simp [hb])]

section Weeks

variable {r : FleetRecords} {today : Date} {routeId dow weeks : Int} {T : List (Value × Int)}

/-- The analytics documents that the history files under week `k`, one of weeks `1` to `weeks`,
carry the counts of that week: the table of weeks answers for each trip with its week. -/
theorem map_docCount_filter_docWeek (h : r.HistoryKeyed)
    (hkeyed : ∀ j k, keyed? T (.int j) = some k ↔ j ∈ r.weekIds today routeId dow k ∧ 1 ≤ k ∧ k ≤ weeks)
    {k : Int} (hk1 : 1 ≤ k) (hk2 : k ≤ weeks) :
    (((r.db.docs "trip_analytics").filter (·.fieldIn "trip_id" (T.map (·.1)))).filter
      (docWeek T · == k)).map docCount = (r.weekCounts today routeId dow k).map .int := by
  -- a document goes to week `k` exactly when its trip counts in week `k`
  have hweek : ∀ a ∈ r.db.docs "trip_analytics",
      (docWeek T a == k && a.fieldIn "trip_id" (T.map (·.1))) =
        (intAt? a "trip_id").any fun j => decide (j ∈ r.weekIds today routeId dow k) := by
    intro a ha
    obtain ⟨j, n, hj, -, -⟩ := h.analytics a ha
    have hk : docWeek T a = k ↔ keyed? T (.int j) = some k := by
      simp only [docWeek, hj, Option.getD_some]
      cases keyed? T (.int j) <;> simp
      omega
    rw [intAt?_eq hj, Option.any_some]
    by_cases hw : j ∈ r.weekIds today routeId dow k
    · have hT := (hkeyed j k).2 ⟨hw, hk1, hk2⟩
      simp [hw, fieldIn_of_keyed? hj hT, hk.2 hT]
    · have hne : docWeek T a ≠ k := fun he => hw ((hkeyed j k).1 (hk.1 he)).1
      simp [hw, hne]
  rw [List.filter_filter, List.filter_congr hweek, weekCounts, map_int_filterMap_intAt?]
  · rfl
  · intro a ha
    obtain ⟨j, n, -, hn, -⟩ := h.analytics a (List.mem_filter.1 ha).1
    exact ⟨n, hn⟩

end Weeks

theorem sumAll_ints (ns : List Int) : Value.sumAll (ns.map .int) = .ok (.int ns.sum) := by
  unfold Value.sumAll
  rw [show ns.sum = 0 + ns.sum by simp]
  generalize (0 : Int) = a
  induction ns generalizing a with
  | nil =>
    simp only [List.map_nil, List.foldlM_nil, List.sum_nil, add_zero]
    rfl
  | cons n ns ih =>
    have hnum : (Value.int n).numeric? = some (.int n) := rfl
    have hadd : (Number.int a).add (.int n) = .ok (.int (a + n)) := rfl
    simp only [List.map_cons, List.foldlM_cons, hnum, hadd, Except.ok_bind, ih, List.sum_cons, add_assoc]

/-- The mean of a week's counts as the history computes it: the sum, exact on integers, divided
by their number as doubles divide, then rounded half up. -/
theorem mean_ints {ns : List Int} (hne : ns ≠ []) (hfits : ∀ n ∈ ns, n.natAbs < 2 ^ 63) :
    (do Number.roundHalfUp (← (← Value.sumAll (ns.map .int)).div (.int (ns.map Value.int).length))) =
      .ok (halfUpMean ns) := by
  have hlen : 0 < ns.length := List.length_pos_iff.2 hne
  -- the mean of counts within `2^63` is within `2^63`
  have hsum : ns.sum.natAbs ≤ ns.length * 2 ^ 63 := Demand.natAbs_foldr_add_le fun n hn => (hfits n hn).le
  have hbound : |((ns.sum : ℚ) / ((ns.length : Int) : ℚ))| ≤ 2 ^ (63 : ℤ) := by
    have hlenq : (0 : ℚ) < ((ns.length : Int) : ℚ) := by exact_mod_cast hlen
    rw [abs_div, abs_of_pos hlenq, div_le_iff₀ hlenq]
    calc |(ns.sum : ℚ)| = (ns.sum.natAbs : ℚ) := by rw [Nat.cast_natAbs, Int.cast_abs]
      _ ≤ (ns.length * 2 ^ 63 : ℕ) := by exact_mod_cast hsum
      _ = 2 ^ (63 : ℤ) * ((ns.length : Int) : ℚ) := by push_cast; ring
  obtain ⟨hdiv, hq⟩ := Demand.div_int_finite (by omega) hbound (by norm_num) (by norm_num)
  rw [sumAll_ints, Except.ok_bind, List.length_map, hdiv, Except.ok_bind,
    Number.roundHalfUp_float hq (abs_roundNearest_le (by norm_num) hbound) (by norm_num) (by norm_num)]
  simp [halfUpMean]

/-! ## The history -/

theorem mem_weekRange {weeks k : Int} :
    k ∈ (List.range weeks.toNat).map (fun (i : Nat) => (i : Int) + 1) ↔ 1 ≤ k ∧ k ≤ weeks := by
  simp only [List.mem_map, List.mem_range]
  constructor
  · rintro ⟨i, hi, rfl⟩
    omega
  · rintro ⟨h1, h2⟩
    exact ⟨(k - 1).toNat, by omega, by omega⟩

/-- Sorting the groups by week and keeping weeks `1` to `weeks` gives, for each of those weeks in
turn that has items, its group. -/
theorem filter_mergeSort_groups {α : Type} (wk : α → Int) (val : α → Value) (xs : List α) {weeks : Int}
    {p : Int × List Value → Bool} (hp : ∀ w vs, p (w, vs) = (decide (1 ≤ w) && decide (w ≤ weeks))) :
    ((xs.foldl (fun acc x => addToWeek (wk x) (val x) acc) []).mergeSort fun a b => a.1 ≤ b.1).filter p =
      ((List.range weeks.toNat).map fun (i : Nat) => (i : Int) + 1).filterMap fun k =>
        if (xs.filter (wk · == k)).isEmpty then none else some (k, (xs.filter (wk · == k)).map val) := by
  obtain ⟨hnodup, hlookup⟩ := foldl_addToWeek wk val xs
  -- both sides are ordered strictly by week, so it is enough that they have the same groups
  refine eq_of_keys_lt ((pairwise_mergeSort_keys hnodup).filter p) ?_ ?_
  · refine List.pairwise_filterMap.2 (List.pairwise_map.2 (List.pairwise_lt_range.imp ?_))
    intro i i' hi x hx x' hx'
    split at hx <;> split at hx' <;> simp only [Option.some.injEq, reduceCtorEq] at hx hx'
    rw [← hx, ← hx']
    simpa using hi
  · rintro ⟨k, vs⟩
    simp only [List.mem_filter, List.mem_mergeSort, mem_iff_lookup hnodup, hlookup, hp, List.mem_filterMap,
      mem_weekRange, Option.ite_none_left_eq_some, Option.some.injEq, Prod.mk.injEq, Bool.and_eq_true,
      decide_eq_true_eq]
    constructor
    · rintro ⟨⟨hE, hv⟩, hk⟩
      exact ⟨k, hk, hE, rfl, hv⟩
    · rintro ⟨a, ha, hE, rfl, hv⟩
      exact ⟨⟨hE, hv⟩, ha⟩

section Weeks

variable {r : FleetRecords} {today : Date} {routeId dow weeks : Int} {T : List (Value × Int)}

theorem natAbs_lt_of_mem_weekCounts (h : r.HistoryKeyed) {k n : Int}
    (hn : n ∈ r.weekCounts today routeId dow k) : n.natAbs < 2 ^ 63 := by
  obtain ⟨a, ha, han⟩ := List.mem_filterMap.1 hn
  obtain ⟨j, n', -, hn', hfit⟩ := h.analytics a (List.mem_filter.1 ha).1
  rw [intAt?_eq hn', Option.some.injEq] at han
  exact han ▸ hfit

/-- Grouping the analytics documents of the table's trips by week, sorting the groups by week,
keeping weeks `1` to `weeks` and taking each group's mean gives the history. -/
theorem mapM_groups_eq_history (h : r.HistoryKeyed)
    (hkeyed : ∀ j k, keyed? T (.int j) = some k ↔ j ∈ r.weekIds today routeId dow k ∧ 1 ≤ k ∧ k ≤ weeks)
    {p : Int × List Value → Bool} (hp : ∀ w vs, p (w, vs) = (decide (1 ≤ w) && decide (w ≤ weeks)))
    {mean : Int × List Value → Except Fault Int}
    (hmean : ∀ k ns, ns ≠ [] → (∀ n ∈ ns, n.natAbs < 2 ^ 63) → mean (k, ns.map .int) = .ok (halfUpMean ns)) :
    ((((((r.db.docs "trip_analytics").filter (·.fieldIn "trip_id" (T.map (·.1)))).foldl
      (fun acc a => addToWeek (docWeek T a) (docCount a) acc) []).mergeSort fun a b => a.1 ≤ b.1).filter p).mapM
        mean) = .ok (r.history today routeId dow weeks) := by
  set analysed := (r.db.docs "trip_analytics").filter (·.fieldIn "trip_id" (T.map (·.1)))
  -- each group of weeks `1` to `weeks` holds the counts of its week
  have hcounts : ∀ k, 1 ≤ k → k ≤ weeks →
      (analysed.filter (docWeek T · == k)).map docCount = (r.weekCounts today routeId dow k).map .int :=
    fun k hk1 hk2 => map_docCount_filter_docWeek h hkeyed hk1 hk2
  have hempty : ∀ k, 1 ≤ k → k ≤ weeks →
      (analysed.filter (docWeek T · == k)).isEmpty = (r.weekCounts today routeId dow k).isEmpty := by
    intro k hk1 hk2
    rw [← List.isEmpty_map (f := docCount), hcounts k hk1 hk2, List.isEmpty_map]
  rw [filter_mergeSort_groups (docWeek T) docCount analysed hp,
    Except.mapM_eq_ok_of (g := fun x => halfUpMean (r.weekCounts today routeId dow x.1))]
  · rw [List.map_filterMap, history]
    congr 1
    refine List.filterMap_congr fun k hk => ?_
    obtain ⟨hk1, hk2⟩ := mem_weekRange.1 hk
    rw [hempty k hk1 hk2]
    cases hw : r.weekCounts today routeId dow k <;> simp [hw]
  · intro x hx
    obtain ⟨k, hk, hx⟩ := List.mem_filterMap.1 hx
    obtain ⟨hk1, hk2⟩ := mem_weekRange.1 hk
    rw [hempty k hk1 hk2, hcounts k hk1 hk2, Option.ite_none_left_eq_some, Option.some.injEq] at hx
    obtain ⟨hne, rfl⟩ := hx
    exact hmean k _ (by simpa using hne) fun n hn => natAbs_lt_of_mem_weekCounts h hn

end Weeks

/-- The weekly history of a route's weekday. When the trips have integer ids, no two the same and
no departure a list, and the analytics documents name their trip and passenger count as integers
within 64 signed bits, it is, for each week `k` from `1` to `weeks` in turn that has analysed
trips, the mean rounded half up of the counts of the analytics documents of the completed trips
of the route that departed, in UTC, on the weekday `7k - 6` to `7k` days before the UTC date of
`now`. -/
theorem weeklyMeans_eq_history (r : FleetRecords) (now : Moment) (routeId dow weeks : Int)
    (h : r.HistoryKeyed) :
    r.weeklyMeans now routeId dow weeks = .ok (r.history now.toUtc.date routeId dow weeks) := by
  obtain ⟨T, hT, hfiled⟩ := weekOfTrips_keyed r now.toUtc.date routeId dow weeks h
  -- the table answers for an id with a week, of `1` to `weeks`, whose trip ids hold it
  have hkeyed : ∀ j k, keyed? T (.int j) = some k ↔
      j ∈ r.weekIds now.toUtc.date routeId dow k ∧ 1 ≤ k ∧ k ≤ weeks := by
    intro j k
    simp only [hfiled, mem_weekIds, ← and_assoc, exists_and_right]
  unfold weeklyMeans
  rw [hT, Except.ok_bind]
  split
  case isTrue hnil =>
    -- no trip counts in any week, so no week has counts
    obtain rfl : T = [] := List.isEmpty_iff.1 hnil
    have hnone : ∀ k, 1 ≤ k → k ≤ weeks → r.weekCounts now.toUtc.date routeId dow k = [] := by
      intro k hk1 hk2
      have hids : ∀ j, j ∉ r.weekIds now.toUtc.date routeId dow k := fun j hj => by
        simpa [keyed?] using (hkeyed j k).2 ⟨hj, hk1, hk2⟩
      simp [weekCounts, hids]
    have hhist : r.history now.toUtc.date routeId dow weeks = [] := by
      refine List.filterMap_eq_nil_iff.2 fun k hk => ?_
      obtain ⟨hk1, hk2⟩ := mem_weekRange.1 hk
      rw [hnone k hk1 hk2]
    rw [hhist]
    rfl
  case isFalse =>
    -- every analytics document of a trip of the table goes to its week with its count
    dsimp only
    rw [Except.foldlM_eq_ok_of (g := fun acc a => addToWeek (docWeek T a) (docCount a) acc), Except.ok_bind]
    · exact mapM_groups_eq_history h hkeyed (fun _ _ => rfl) fun _ _ hne hfits => mean_ints hne hfits
    · intro acc a ha
      obtain ⟨j, n, hj, hn, -⟩ := h.analytics a (List.mem_filter.1 ha).1
      simp [field, hj, hn, Value.asKey, Value.unkeyable?, docWeek, docCount]

/-- Two completed trips of route 1 on the Wednesdays one and two weeks before Wednesday
2025-01-15, with one analytics document for the first and two for the second. -/
def wednesdayFleet : FleetRecords :=
  { db := { collections := [
      ("trips", [
        .obj [("_id", .int 1), ("route_id", .int 1), ("status", .str "completed"),
          ("scheduled_departure", .time { date := ⟨2025, 1, 8⟩, hour := 10, offset := some 0 })],
        .obj [("_id", .int 2), ("route_id", .int 1), ("status", .str "completed"),
          ("scheduled_departure", .time { date := ⟨2025, 1, 1⟩, hour := 10, offset := some 0 })]]),
      ("trip_analytics", [
        .obj [("trip_id", .int 1), ("total_passengers", .int 10)],
        .obj [("trip_id", .int 2), ("total_passengers", .int 20)],
        .obj [("trip_id", .int 2), ("total_passengers", .int 31)]])] } }

theorem wednesdayFleet_keyed : wednesdayFleet.HistoryKeyed := by
  refine ⟨⟨?_, ?_, fun n _ => ?_⟩, ?_, ?_⟩
  · intro trip htrip
    simp [wednesdayFleet, Database.docs] at htrip
    rcases htrip with rfl | rfl <;> exact ⟨_, rfl⟩
  · intro trip htrip
    simp [wednesdayFleet, Database.docs] at htrip
    rcases htrip with rfl | rfl <;> exact ⟨_, rfl⟩
  · simp [wednesdayFleet, Database.docs, List.countP_cons, Value.fieldIs, Value.get?, Value.field?,
      Value.int_looseEq_int]
    split_ifs <;> omega
  · intro trip htrip xs
    simp [wednesdayFleet, Database.docs] at htrip
    rcases htrip with rfl | rfl <;> simp [Value.get?, Value.field?]
  · intro a ha
    simp [wednesdayFleet, Database.docs] at ha
    rcases ha with rfl | rfl | rfl <;> exact ⟨_, _, rfl, rfl, by decide⟩

theorem weeklyMeans_eq_history_of_wednesdays :
    wednesdayFleet.HistoryKeyed ∧
      wednesdayFleet.weeklyMeans { date := ⟨2025, 1, 15⟩, hour := 12, offset := some 0 } 1 3 2 =
        .ok (wednesdayFleet.history ⟨2025, 1, 15⟩ 1 3 2) :=
  ⟨wednesdayFleet_keyed, weeklyMeans_eq_history _ _ 1 3 2 wednesdayFleet_keyed⟩

/-- One completed trip of route 1, whose departure is a list holding Wednesday 2025-01-08 at ten
o'clock UTC; no analytics. -/
def listedDepartureFleet : FleetRecords :=
  { db := { collections := [("trips", [.obj [("_id", .int 1), ("route_id", .int 1),
      ("status", .str "completed"),
      ("scheduled_departure", .list [.time { date := ⟨2025, 1, 8⟩, hour := 10, offset := some 0 }])]])] } }

/-- A departure written as a list, which the window takes, stops the history with a fault instead
of being passed over or counted, though the trip has an integer id and route. -/
theorem weeklyMeans_fails_on_listed_departure :
    listedDepartureFleet.TripsKeyed ∧
      listedDepartureFleet.weeklyMeans { date := ⟨2025, 1, 15⟩, hour := 12, offset := some 0 } 1 3 2 =
        .error (.noAttribute "list" "tzinfo") := by
  refine ⟨⟨?_, ?_, fun n _ => ?_⟩, by rfl⟩
  · intro trip htrip
    simp [listedDepartureFleet, Database.docs] at htrip
    exact ⟨1, htrip ▸ rfl⟩
  · intro trip htrip
    simp [listedDepartureFleet, Database.docs] at htrip
    exact ⟨1, htrip ▸ rfl⟩
  · exact List.countP_le_length

end FleetRecords

end TransitRevenue
