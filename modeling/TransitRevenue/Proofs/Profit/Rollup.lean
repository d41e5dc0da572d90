import TransitRevenue.Profit.Rollup
import TransitRevenue.Proofs.Number
import TransitRevenue.Proofs.Except
/-!
The profitability rollup never fails, and its breakdown by route partitions the trips.

Every figure the rollup computes on doubles is defined: a percentage of profit over costs is
either `0` (no costs) or a quotient by costs that are not zero (`weighted_float_ok`), and a
route's passenger total, kept in 64 bits, converts to a double and back (`Storage.readOut_total`).
So the summary of any rows exists (`summarize_ok`), and so does the breakdown of any routed rows
(`byRoute_spec`): one group per route id, in ascending order, each the totals (`TotalsOf`) of the
rows of its route, counting them, named as the first of them and summing their figures with NaN
entries left out (`groupSum`). The group counts add up to the number of routed rows
(`sum_trips_byRoute`), since every row falls in exactly one group (`sum_length_filter`). A report
over rows whose routes are all known has that summary and that breakdown (`report_ok`).
-/

namespace TransitRevenue

namespace Rollup

/-! ## Figures on doubles -/

/-- Profit over costs in percent, on doubles: zero without costs, else the quotient times 100. -/
theorem weighted_float_ok (p c : Float) : ∃ x, weighted (.float p) (.float c) = .ok (.float x) := by
  unfold weighted
  by_cases hc : (Number.float c).le (.int 0) = true
  case pos => exact ⟨0.0, by simp [hc]; rfl⟩
  case neg =>
    refine ⟨p / c * 100, ?_⟩
    have hc' : (Number.float c).le (.int 0) = false := by simpa using hc
    simp only [hc, Bool.false_eq_true, if_false]
    simp [Number.div_float_of_not_le_zero hc', Number.mul_hundred]

theorem percent_ok (p c : Float) : ∃ x, (weighted (.float p) (.float c)).bind Number.toFloat = .ok x := by
  obtain ⟨x, hx⟩ := weighted_float_ok p c
  exact ⟨x, by rw [hx]; rfl⟩

/-- A total kept in 64 bits lies within 64 bits, so it reads out through a double. -/
theorem Storage.readOut_total (s : Storage) (xs : List Int) : ∃ n, s.readOut (s.total xs) = .ok n := by
  have through : ∀ t : Int, t.natAbs < 2 ^ 64 → ∃ n, Number.floor (.float (Binary64.ofRat t)) = .ok n ∧
      Number.intToFloat t = .ok (Binary64.ofRat t) := by
    intro t ht
    obtain ⟨hx, hfin⟩ := Number.intToFloat_ok (k := 64) (by decide) ht
    obtain ⟨n, hn⟩ := Number.floor_float_ok hfin
    exact ⟨n, hn, hx⟩
  cases s with
  | exact => exact ⟨_, rfl⟩
  | signed =>
    have hb : (Storage.signed.total xs).natAbs < 2 ^ 64 := by
      unfold Storage.total
      simp only [int_pow_eq]
      split <;> omega
    obtain ⟨n, hn, hx⟩ := through _ hb
    exact ⟨n, by simp [Storage.readOut, hx, hn]⟩
  | unsigned =>
    have hb : (Storage.unsigned.total xs).natAbs < 2 ^ 64 := by
      simp only [Storage.total, int_pow_eq]
      omega
    obtain ⟨n, hn, hx⟩ := through _ hb
    exact ⟨n, by simp [Storage.readOut, hx, hn]⟩

/-- The summary of any rows exists and counts them. -/
theorem summarize_ok (rows : List Row) : ∃ s, summarize rows = .ok s ∧ s.trips = rows.length := by
  obtain ⟨pct, hpct⟩ := percent_ok (columnSum (rows.map (·.profit))) (columnSum (rows.map (·.costs)))
  exact ⟨_, by simp only [summarize, hpct]; rfl, rfl⟩

/-! ## Route keys -/

theorem mem_insertSorted {k j : Int} {xs : List Int} : j ∈ insertSorted k xs ↔ j = k ∨ j ∈ xs := by
  induction xs with
  | nil => simp [insertSorted]
  | cons x xs ih =>
    unfold insertSorted
    split
    · simp
    · split
      · rename_i h
        have : k = x := by simpa using h
        subst this
        simp
      · simp only [List.mem_cons, ih]
        exact or_left_comm

theorem pairwise_insertSorted {k : Int} {xs : List Int} (h : xs.Pairwise (· < ·)) :
    (insertSorted k xs).Pairwise (· < ·) := by
  induction xs with
  | nil => simp [insertSorted]
  | cons x xs ih =>
    rw [List.pairwise_cons] at h
    unfold insertSorted
    split
    case isTrue hk =>
      refine List.Pairwise.cons (fun y hy => ?_) (List.Pairwise.cons h.1 h.2)
      rcases List.mem_cons.1 hy with rfl | hy
      · exact hk
      · exact Int.lt_trans hk (h.1 y hy)
    case isFalse hk =>
      split
      · exact List.Pairwise.cons h.1 h.2
      · rename_i hne
        have hxk : x < k := by simp at hne; omega
        refine List.Pairwise.cons (fun y hy => ?_) (ih h.2)
        rcases mem_insertSorted.1 hy with rfl | hy
        · exact hxk
        · exact h.1 y hy

/-- The route keys gathered from routed rows are ascending and are exactly their route ids. -/
theorem routeKeys_spec (routed : List (Row × RouteRef)) :
    ∀ acc : List Int, acc.Pairwise (· < ·) →
      let keys := routed.foldl (fun ks (_, r) => insertSorted r.routeId ks) acc
      keys.Pairwise (· < ·) ∧ ∀ k, k ∈ keys ↔ k ∈ acc ∨ ∃ p ∈ routed, p.2.routeId = k := by
  induction routed with
  | nil => intro acc h; simpa using h
  | cons p routed ih =>
    intro acc h
    obtain ⟨hs, hm⟩ := ih (insertSorted p.2.routeId acc) (pairwise_insertSorted h)
    refine ⟨hs, fun k => ?_⟩
    rw [List.foldl_cons, hm, mem_insertSorted]
    constructor
    · rintro ((rfl | hk) | ⟨q, hq, rfl⟩)
      · exact .inr ⟨p, List.mem_cons_self, rfl⟩
      · exact .inl hk
      · exact .inr ⟨q, List.mem_cons_of_mem _ hq, rfl⟩
    · rintro (hk | ⟨q, hq, rfl⟩)
      · exact .inl (.inr hk)
      · rcases List.mem_cons.1 hq with rfl | hq
        · exact .inl (.inl rfl)
        · exact .inr ⟨q, hq, rfl⟩

/-! ## Groups by route -/

/-- Each item of a list falls under exactly one of some distinct keys that are the values of `f`
on it, so the sizes of the keys' parts add up to the whole. -/
theorem sum_length_filter {α : Type} (l : List α) (f : α → Int) {keys : List Int} (hn : keys.Nodup)
    (hk : ∀ k, k ∈ keys ↔ ∃ a ∈ l, f a = k) :
    (keys.map fun k => (l.filter (f · == k)).length).sum = l.length := by
  have hperm : keys.Perm (l.map f).dedup := by
    refine (List.perm_ext_iff_of_nodup hn (List.nodup_dedup _)).2 fun k => ?_
    simp [List.mem_dedup, hk]
  have hcount : ∀ k, (l.filter (f · == k)).length = (l.map f).count k := by
    intro k
    rw [List.count, List.countP_map, List.countP_eq_length_filter]
    rfl
  calc (keys.map fun k => (l.filter (f · == k)).length).sum
      = (keys.map fun k => (l.map f).count k).sum := by simp only [hcount]
    _ = ((l.map f).dedup.map fun k => (l.map f).count k).sum := (hperm.map _).sum_eq
    _ = l.length := by rw [List.sum_map_count_dedup_eq_length, List.length_map]

/-- The routed rows on route `k`, in their order. -/
def onRoute (routed : List (Row × RouteRef)) (k : Int) : List (Row × RouteRef) :=
  routed.filter (·.2.routeId == k)

/-- A group's total of some figures, NaN entries left out: when the routed rows come in route
order, the first entry plus the pairwise sum of the rest, else the compensated sum. -/
def groupSum (adjacent : Bool) (xs : List Float) : Float :=
  if adjacent then groupAdjacent (xs.filter fun x => !Binary64.isNaN x) else groupCompensated xs

/-- What a route's totals are made of: the rows `rows` of the route, named as the first of them,
with passenger counts stored as `storage` and figures summed in the order `adjacent` says. -/
structure TotalsOf (storage : Storage) (adjacent : Bool) (rows : List (Row × RouteRef))
    (g : RouteTotals) : Prop where
  named : ∃ row, rows.head? = some (row, g.route)
  trips : g.trips = rows.length
  passengers : storage.readOut (storage.total (rows.map (·.1.passengers))) = .ok g.passengers
  revenue : g.revenue = groupSum adjacent (rows.map (·.1.revenue))
  costs : g.costs = groupSum adjacent (rows.map (·.1.costs))
  profit : g.profit = groupSum adjacent (rows.map (·.1.profit))
  occupancy : g.occupancy = groupSum adjacent (rows.map (·.1.occupancy)) /
    ((rows.map (·.1.occupancy)).filter fun x => !Binary64.isNaN x).length.toFloat
  percent : (weighted (.float g.profit) (.float g.costs)).bind Number.toFloat = .ok g.percent
  category : g.category = Category.ofPercent (.float g.percent)

/-- The breakdown by route of any routed rows exists: one group per route id, in ascending order,
each the totals of the rows of its route. -/
theorem byRoute_spec (storage : Storage) (routed : List (Row × RouteRef)) :
    ∃ groups, byRoute storage routed = .ok groups ∧
      (groups.map (·.route.routeId)).Pairwise (· < ·) ∧
      (∀ k, k ∈ groups.map (·.route.routeId) ↔ ∃ p ∈ routed, p.2.routeId = k) ∧
      ∀ g ∈ groups, TotalsOf storage (ascending (routed.map (·.2.routeId)))
        (onRoute routed g.route.routeId) g := by
  obtain ⟨hsorted, hmem⟩ := routeKeys_spec routed [] List.Pairwise.nil
  unfold byRoute
  dsimp only
  refine (Except.mapM_forall₂ (R := fun k g => g.route.routeId = k ∧
    TotalsOf storage (ascending (routed.map (·.2.routeId))) (onRoute routed k) g) fun k hk => ?group).imp
    fun groups h => ⟨h.1, ?keyed⟩
  case group =>
    obtain ⟨p, hp, hpk⟩ : ∃ p ∈ routed, p.2.routeId = k := by simpa using (hmem k).1 hk
    -- the rows of `k` start with a row of route `k`
    obtain ⟨first, rest, hrows⟩ : ∃ first rest, onRoute routed k = first :: rest :=
      List.exists_cons_of_ne_nil (List.ne_nil_of_mem (List.mem_filter.2 ⟨hp, by simpa using hpk⟩))
    have hfirst : first.2.routeId = k := by
      simpa using (List.mem_filter.1 (hrows ▸ List.mem_cons_self : first ∈ onRoute routed k)).2
    refine Except.bind_ok_of_exists (percent_ok _ _) fun pct hpct => ?_
    refine Except.bind_ok_of_exists (Storage.readOut_total _ _) fun n hn => ?_
    refine ⟨_, rfl, rfl, ⟨⟨first.1, ?_⟩, by simp [onRoute], ?_, ?_, ?_, ?_, ?_, hpct, rfl⟩⟩
    case refine_1 =>
      simp only [onRoute] at hrows ⊢
      rw [hrows, List.head?_cons, Option.map_some, Option.getD_some, ← hfirst]
    case refine_2 =>
      rw [List.map_map] at hn
      exact hn
    all_goals simp only [onRoute, groupSum, List.map_map]; rfl
  case keyed =>
    have hids : groups.map (·.route.routeId) = routed.foldl (fun ks (_, r) => insertSorted r.routeId ks) [] := by
      rw [← List.forall₂_eq_eq_eq, List.forall₂_map_left_iff]
      exact List.Forall₂.flip (h.2.imp fun _ _ h => h.1)
    refine ⟨hids ▸ hsorted, fun k => by simpa [hids] using hmem k, fun g hg' => ?_⟩
    obtain ⟨k, -, hgk, htot⟩ := Except.forall₂_exists_right h.2 g hg'
    rwa [hgk]

/-- The breakdown by route of any routed rows exists: one group per route id, ascending, each
counting the rows of that route and named as the first of them. -/
theorem byRoute_groups (storage : Storage) (routed : List (Row × RouteRef)) :
    ∃ keys groups, byRoute storage routed = .ok groups ∧ keys.Pairwise (· < ·) ∧
      (∀ k, k ∈ keys ↔ ∃ p ∈ routed, p.2.routeId = k) ∧
      List.Forall₂ (fun k g => g.trips = ((routed.filter (·.2.routeId == k)).length : Int) ∧
        ∃ p ∈ routed, p.2.routeId = k ∧ g.route = p.2) keys groups := by
  obtain ⟨groups, hg, hsorted, hmem, htot⟩ := byRoute_spec storage routed
  refine ⟨groups.map (·.route.routeId), groups, hg, hsorted, hmem, ?_⟩
  rw [List.forall₂_map_left_iff, List.forall₂_same]
  intro g hg'
  obtain ⟨row, hhead⟩ := (htot g hg').named
  have hfirst := List.mem_filter.1 (List.mem_of_mem_head? hhead)
  exact ⟨(htot g hg').trips, (row, g.route), hfirst.1, rfl, rfl⟩

/-- The groups of a breakdown count every routed row once. -/
theorem sum_trips_byRoute {routed : List (Row × RouteRef)} {keys : List Int} {groups : List RouteTotals}
    (hsorted : keys.Pairwise (· < ·)) (hmem : ∀ k, k ∈ keys ↔ ∃ p ∈ routed, p.2.routeId = k)
    (hg : List.Forall₂ (fun k g => g.trips = ((routed.filter (·.2.routeId == k)).length : Int) ∧
      ∃ p ∈ routed, p.2.routeId = k ∧ g.route = p.2) keys groups) :
    (groups.map (·.trips)).sum = routed.length := by
  have hmap : keys.map (fun k => ((routed.filter (·.2.routeId == k)).length : Int)) = groups.map (·.trips) := by
    rw [← List.forall₂_eq_eq_eq, List.forall₂_map_left_iff, List.forall₂_map_right_iff]
    exact hg.imp fun _ _ h => h.1.symm
  have hn : keys.Nodup := hsorted.imp Int.ne_of_lt
  rw [← hmap, ← sum_length_filter routed (·.2.routeId) hn hmem, Nat.cast_list_sum, List.map_map]
  rfl

/-! ## The report -/

theorem routeOf_ok {lookup : Int → Except Fault (Option RouteRef)} {tripId : Int} {r : Option RouteRef}
    (h : lookup tripId = .ok r) : routeOf lookup tripId = .ok r := by
  simp [routeOf, h]

/-- A report over some results, each of whose trips has a known route, has the summary of their
rows and the breakdown of those rows by their routes. -/
theorem report_ok {results : List TripResult} {lookup : Int → Except Fault (Option RouteRef)}
    (hne : results ≠ []) (ref : Int → RouteRef)
    (hlook : ∀ t ∈ results, lookup t.tripId = .ok (some (ref t.tripId))) :
    ∃ rep, report results lookup = .ok rep ∧ summarize (results.map Row.ofResult) = .ok rep.summary ∧
      byRoute (Storage.of ((results.map Row.ofResult).map (·.passengers)))
        ((results.map Row.ofResult).map fun row => (row, ref row.tripId)) = .ok rep.byRoute := by
  obtain ⟨s, hs, -⟩ := summarize_ok (results.map Row.ofResult)
  obtain ⟨-, groups, hg, -⟩ := byRoute_groups (Storage.of ((results.map Row.ofResult).map (·.passengers)))
    ((results.map Row.ofResult).map fun row => (row, ref row.tripId))
  have hrouted : (results.map Row.ofResult).filterMapM (fun row => do
      return (← routeOf lookup row.tripId).map (row, ·)) =
      .ok ((results.map Row.ofResult).map fun row => (row, ref row.tripId)) := by
    refine Except.filterMapM_eq_ok_of fun row hrow => ?_
    obtain ⟨t, ht, rfl⟩ := List.mem_map.1 hrow
    have hid : (Row.ofResult t).tripId = t.tripId := rfl
    rw [hid, routeOf_ok (hlook t ht)]
    rfl
  refine ⟨{ summary := s, byRoute := groups }, ?_, hs, hg⟩
  have hempty : results.isEmpty = false := by simpa using hne
  simp only [report, hempty, Bool.false_eq_true, if_false, hs, Except.ok_bind, hrouted, hg]
  rfl

end Rollup

end TransitRevenue
