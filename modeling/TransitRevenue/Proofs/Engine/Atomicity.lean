import TransitRevenue.Engine.Request
import TransitRevenue.Store.Memory
import TransitRevenue.Proofs.Except
import TransitRevenue.Proofs.Demand.Band
/-!
Every call on the engine leaves it in one of two states. A call that only reads leaves the
engine as it was. A call that changes something either fails, leaving the engine as it was, its
store and its audit sink included, or makes exactly one write to the store, of the record it
answers with, and then, when an audit sink is configured, publishes exactly one audit event
naming that record: `serve_commits_or_fails`. The event follows the write: it is published on the
engine that the accepted write left (`published` after `written`), and a write the store refuses
ends the call before anything is published. Failing is only possible before anything is written
or at the write itself, as long as the sink never refuses an event (`Engine.QuietAudit`); the
failures the service is known for (an unknown route or trip, stored settings out of range, a
forecast window without a week) are among them.

The argument is a shape lemma per operation (`forecastDemand_records`, …): whatever the
operation answers, its plan is the write of that answer's record and its event, and the answer
cannot fail once the plan is made, a forecast's capacity advice included
(`Forecast.recommend_predicted`). `run_records` then carries any such plan out once.
-/

namespace TransitRevenue

/-- A store keeps the prediction of a forecast it is given. -/
@[simp] theorem Store.stamp_predicted {σ : Type} [Store σ] (now : Moment) (f : Forecast) :
    (Store.stamp σ now f).predicted = f.predicted := rfl

namespace Engine

variable {σ α : Type}

section Sink

/-- The engine with the store that a write left. -/
def written (e : Engine σ α) (s : σ) : Engine σ α := { e with store := s }

@[simp] theorem written_audit (e : Engine σ α) (s : σ) : (e.written s).audit = e.audit := rfl

variable [AuditSink α]

/-- The audit sink, when one is configured, accepts every event. -/
def QuietAudit (e : Engine σ α) : Prop :=
  ∀ a, e.audit = some a → ∀ ev, (AuditSink.publish a ev).2 = none

/-- The engine after publishing `ev` to its sink, when one is configured. -/
def published (e : Engine σ α) (ev : AuditEvent) : Engine σ α :=
  { e with audit := e.audit.map fun a => (AuditSink.publish a ev).1 }

@[simp] theorem published_store (e : Engine σ α) (ev : AuditEvent) : (e.published ev).store = e.store :=
  rfl

theorem published_of_audit_none {e : Engine σ α} (h : e.audit = none) (ev : AuditEvent) :
    e.published ev = e := by
  cases e
  simp_all [published]

variable [Store σ]

/-- A plan that, whatever it answers, writes the record `w` of its answer and then, when a sink
is configured, publishes the event `ev` of its answer, and nothing else; its answer is settled
when the plan is made. -/
def Records {β : Type} (e : Engine σ α) (plan : Except Fault (Plan β)) (w : β → Write)
    (ev : β → AuditEvent) : Prop :=
  ∀ p, plan = .ok p → ∃ v, p.answer = .ok v ∧
    p.effects = [.write (w v)] ++ (if e.audit.isSome then [.publish (ev v)] else [])

/-! ## Carrying out a plan -/

/-- A write the store refuses stops the effects there, with the engine as it was. -/
theorem apply_write_refused (e : Engine σ α) {w : Write} {f : Fault} (h : Store.write e.store w = .error f)
    (rest : List Effect) : e.apply (.write w :: rest) = (e, some f) := by
  simp [apply, h]

/-- Publishing leaves the store alone, whether or not the sink accepts the event. -/
theorem store_apply_publishes (e : Engine σ α) (b : Bool) (ev : AuditEvent) :
    (e.apply (if b then [.publish ev] else [])).1.store = e.store := by
  cases b
  case false => rfl
  case true =>
    simp only [if_true, apply]
    split
    · rfl
    · split <;> rfl

theorem apply_publish (e : Engine σ α) (quiet : e.QuietAudit) (ev : AuditEvent) :
    e.apply (if e.audit.isSome then [.publish ev] else []) = (e.published ev, none) := by
  cases h : e.audit with
  | none => simp [apply, published_of_audit_none h]
  | some a =>
    have hq := quiet a h ev
    simp only [Option.isSome_some, if_true, apply, h]
    rcases hp : AuditSink.publish a ev with ⟨a', f⟩
    rw [hp] at hq
    cases hq
    simp [published, h, hp]

/-- A write the store accepts, then the event: the event is published on the written engine. -/
theorem apply_write_publish (e : Engine σ α) (quiet : e.QuietAudit) {w : Write} {s : σ}
    (h : Store.write e.store w = .ok s) (ev : AuditEvent) :
    e.apply ([.write w] ++ (if e.audit.isSome then [.publish ev] else [])) =
      ((e.written s).published ev, none) := by
  simp only [List.singleton_append, apply, h]
  exact apply_publish (e.written s) quiet ev

/-- A plan that writes its answer's record runs to one of two ends: a failure with the engine
unchanged, or its answer, the store having accepted the record and the event having been
published after it. -/
theorem run_records {β : Type} (e : Engine σ α) (quiet : e.QuietAudit) {plan : Except Fault (Plan β)}
    {w : β → Write} {ev : β → AuditEvent} (h : e.Records plan w ev) :
    (∃ f, e.run plan = (e, .error f)) ∨
      ∃ v s, Store.write e.store (w v) = .ok s ∧ e.run plan = ((e.written s).published (ev v), .ok v) := by
  cases plan with
  | error f => exact .inl ⟨f, rfl⟩
  | ok p =>
    obtain ⟨v, hv, heff⟩ := h p rfl
    cases hw : Store.write e.store (w v) with
    | error f =>
      refine .inl ⟨f, ?_⟩
      simp only [run, heff, List.singleton_append, apply_write_refused e hw]
    | ok s =>
      refine .inr ⟨v, s, hw, ?_⟩
      simp only [run, heff, apply_write_publish e quiet hw, hv]

/-- A plan that records its answer, carried out to an answer, had that answer's record accepted
by the store, and the store it left is the written one. -/
theorem store_of_run_ok {β : Type} {e e' : Engine σ α} {plan : Except Fault (Plan β)} {w : β → Write}
    {ev : β → AuditEvent} (h : e.Records plan w ev) {v : β} (hrun : e.run plan = (e', .ok v)) :
    ∃ p, plan = .ok p ∧ p.answer = .ok v ∧ Store.write e.store (w v) = .ok e'.store := by
  cases plan with
  | error f => simp [run] at hrun
  | ok p =>
    obtain ⟨v', hv', heff⟩ := h p rfl
    cases hw : Store.write e.store (w v') with
    | error f => simp [run, heff, apply_write_refused e hw] at hrun
    | ok s =>
      simp only [run, heff, List.singleton_append, apply, hw] at hrun
      generalize happ : Engine.apply (σ := σ) (α := α) _ _ = res at hrun
      obtain ⟨e'', f⟩ := res
      cases f with
      | some f => simp at hrun
      | none =>
        simp only [hv', Prod.mk.injEq, Except.ok.injEq] at hrun
        obtain ⟨rfl, rfl⟩ := hrun
        have hpub := store_apply_publishes { e with store := s } e.audit.isSome (ev v')
        rw [happ] at hpub
        exact ⟨p, rfl, hv', hw.trans (congrArg Except.ok hpub.symm)⟩

theorem perform_records {β : Type} (e : Engine σ α) (quiet : e.QuietAudit) {plan : Except Fault (Plan β)}
    {w : β → Write} {ev : β → AuditEvent} (h : e.Records plan w ev) (wrap : β → Reply) :
    (∃ f, e.perform plan wrap = (e, .error f)) ∨
      ∃ v s, Store.write e.store (w v) = .ok s ∧
        e.perform plan wrap = ((e.written s).published (ev v), .ok (wrap v)) := by
  rcases run_records e quiet h with ⟨f, hf⟩ | ⟨v, s, hs, hv⟩
  · exact .inl ⟨f, by simp [perform, hf]⟩
  · exact .inr ⟨v, s, hs, by simp [perform, hv]⟩

theorem perform_error {β : Type} (e : Engine σ α) {f : Fault} (wrap : β → Reply) :
    e.perform (.error f) wrap = (e, .error f) := rfl

end Sink

/-! ## The shape of each write -/

section Shapes

variable [Store σ]

theorem forecastDemand_records (e : Engine σ α) (routeId : Int) (date? : Option Date) :
    e.Records (e.forecastDemand routeId date?) (fun v => .forecast v.forecast)
      (fun v => { action := "forecast.upsert", entityType := .str "demand_forecast",
                  entityId := .int routeId, newValues := v.forecast.toPlainValue, createdAt := e.now }) := by
  intro p hp
  simp only [forecastDemand, Except.bind_eq_ok] at hp
  obtain ⟨_, -, _, -, forecast, hf, hp⟩ := hp
  cases hp
  -- the advice is worked out after the write, and cannot fail on a computed forecast
  obtain ⟨action, ha⟩ := Forecast.recommend_predicted hf e.tuning.capacity
  refine ⟨{ forecast := Store.stamp σ e.now forecast,
             dayName := dayName (Store.stamp σ e.now forecast).dayOfWeek, action }, ?_, rfl⟩
  simp only [Store.stamp_predicted, ha]
  rfl

theorem submitPrice_records (e : Engine σ α) (tripId : Int) (base passengers capacity : Number)
    (departure : Moment) :
    e.Records (e.submitPrice tripId base passengers capacity departure) (fun q => .quote q)
      (fun q => { action := "price_recommendation.append", entityType := .str "price_recommendation",
                  entityId := .int tripId, newValues := q.toPlainValue, createdAt := e.now }) := by
  intro p hp
  simp only [submitPrice, Except.bind_eq_ok] at hp
  obtain ⟨_, -, hp⟩ := hp
  cases hp
  exact ⟨_, rfl, rfl⟩

theorem computeTripResult_records (e : Engine σ α) (tripId : Int) :
    e.Records (e.computeTripResult tripId) (fun r => .tripResult r)
      (fun r => { action := "trip_analytics.upsert", entityType := .str "trip_analytics",
                  entityId := .int tripId, newValues := r.toPlainValue, createdAt := e.now }) := by
  intro p hp
  simp only [computeTripResult, Except.bind_eq_ok] at hp
  obtain ⟨_, -, _, -, hp⟩ := hp
  cases hp
  exact ⟨_, rfl, rfl⟩

/-! ## Failing before the write -/

theorem forecastDemand_unknown_route (e : Engine σ α) {routeId : Int} (date? : Option Date)
    (h : Store.route? e.store routeId = .ok none) :
    e.forecastDemand routeId date? = .error (.missing "route" (toString routeId)) := by
  simp [forecastDemand, requireRoute, h, bind, Except.bind, throw, throwThe, MonadExceptOf.throw]

/-- A forecast over a window without a week fails once the route and its history are read. -/
theorem forecastDemand_of_window_lt_one (e : Engine σ α) {routeId : Int} {date? : Option Date}
    {r : RouteRef} {series : List Int} (hroute : Store.route? e.store routeId = .ok (some r))
    (hhist : Store.history e.store e.now routeId (date?.getD (e.now.date.addDays 1)).dayOfWeek
      e.tuning.weeks = .ok series)
    (hw : e.tuning.window < 1) :
    e.forecastDemand routeId date? = .error (.windowTooSmall (toString e.tuning.window)) := by
  simp only [forecastDemand, requireRoute, hroute, hhist, Except.ok_bind,
    Forecast.compute_of_window_lt_one _ _ _ e.tuning.trendWindow hw]
  rfl

theorem computeTripResult_of_inputs_error (e : Engine σ α) {tripId : Int} {f : Fault}
    (h : Store.costInputs e.store tripId = .error f) : e.computeTripResult tripId = .error f := by
  simp [computeTripResult, h]

theorem submitPrice_of_settings_error (e : Engine σ α) {f : Fault} (h : e.settings = .error f)
    (tripId : Int) (base passengers capacity : Number) (departure : Moment) :
    e.submitPrice tripId base passengers capacity departure = .error f := by
  simp [submitPrice, quote, h, Functor.map, Except.map]

end Shapes

/-! ## Every call -/

section Calls

variable [Store σ] [AuditSink α]

/-- A call that only reads leaves the engine as it was. -/
theorem serve_read (e : Engine σ α) {q : Request} (h : q.isRead = true) : (e.serve q).1 = e := by
  cases q <;> first | rfl | simp [Request.isRead] at h

/-- The two ends of every call: reads leave the engine as it was; each write either fails with
the engine as it was, or has the store accept the record it answers with and then publishes one
event about it on the written engine; and an unknown route, a forecast window without a week, a
trip without cost inputs, or stored settings that cannot be used fail before anything is
written. -/
def CommitsOrFails (e : Engine σ α) : Prop :=
  (∀ q, q.isRead = true → (e.serve q).1 = e) ∧
  (∀ routeId date?, (∃ f, e.serve (.forecastDemand routeId date?) = (e, .error f)) ∨
    ∃ (v : ForecastReply) (s : σ), Store.write e.store (.forecast v.forecast) = .ok s ∧
      e.serve (.forecastDemand routeId date?) =
        ((e.written s).published
          { action := "forecast.upsert", entityType := .str "demand_forecast", entityId := .int routeId,
            newValues := v.forecast.toPlainValue, createdAt := e.now }, .ok (.forecast v))) ∧
  (∀ tripId base passengers capacity departure,
    (∃ f, e.serve (.submitPrice tripId base passengers capacity departure) = (e, .error f)) ∨
    ∃ (q : Quote) (s : σ), Store.write e.store (.quote q) = .ok s ∧
      e.serve (.submitPrice tripId base passengers capacity departure) =
        ((e.written s).published
          { action := "price_recommendation.append", entityType := .str "price_recommendation",
            entityId := .int tripId, newValues := q.toPlainValue, createdAt := e.now }, .ok (.quote q))) ∧
  (∀ tripId, (∃ f, e.serve (.computeTripResult tripId) = (e, .error f)) ∨
    ∃ (r : TripResult) (s : σ), Store.write e.store (.tripResult r) = .ok s ∧
      e.serve (.computeTripResult tripId) =
        ((e.written s).published
          { action := "trip_analytics.upsert", entityType := .str "trip_analytics", entityId := .int tripId,
            newValues := r.toPlainValue, createdAt := e.now }, .ok (.tripResult r))) ∧
  (∀ routeId date?, Store.route? e.store routeId = .ok none →
    e.serve (.forecastDemand routeId date?) = (e, .error (.missing "route" (toString routeId)))) ∧
  (∀ routeId date? r series, Store.route? e.store routeId = .ok (some r) →
    Store.history e.store e.now routeId (date?.getD (e.now.date.addDays 1)).dayOfWeek e.tuning.weeks =
      .ok series → e.tuning.window < 1 →
    e.serve (.forecastDemand routeId date?) = (e, .error (.windowTooSmall (toString e.tuning.window)))) ∧
  (∀ tripId f, Store.costInputs e.store tripId = .error f →
    e.serve (.computeTripResult tripId) = (e, .error f)) ∧
  (∀ f, e.settings = .error f → ∀ tripId base passengers capacity departure,
    e.serve (.submitPrice tripId base passengers capacity departure) = (e, .error f))

/-- **Atomicity and audit pairing.** Over any store, which may refuse a write, and any audit
sink that accepts every event, every call on the engine commits or fails as `CommitsOrFails`
says. -/
theorem serve_commits_or_fails (e : Engine σ α) (quiet : e.QuietAudit) : e.CommitsOrFails := by
  refine ⟨fun q hq => serve_read e hq, fun routeId date? => ?_,
    fun tripId base passengers capacity departure => ?_, fun tripId => ?_, fun routeId date? h => ?_,
    fun routeId date? r series hroute hhist hw => ?_, fun tripId f h => ?_,
    fun f h tripId base passengers capacity departure => ?_⟩
  · exact perform_records e quiet (forecastDemand_records e routeId date?) _
  · exact perform_records e quiet (submitPrice_records e tripId base passengers capacity departure) _
  · exact perform_records e quiet (computeTripResult_records e tripId) _
  · simp only [serve, forecastDemand_unknown_route e date? h, perform_error]
  · simp only [serve, forecastDemand_of_window_lt_one e hroute hhist hw, perform_error]
  · simp only [serve, computeTripResult_of_inputs_error e h, perform_error]
  · simp only [serve, submitPrice_of_settings_error e h, perform_error]

/-- An engine over a memory store that knows one route, recording its audit events, commits
or fails. -/
theorem recording_engine_commits_or_fails :
    let e : Engine MemoryStore (List AuditEvent) :=
      { store := { routes := [⟨1, "Berlin - Hamburg"⟩] }, audit := some [],
        clock := { date := ⟨2025, 10, 14⟩, hour := 12, offset := some 0 } }
    e.QuietAudit ∧ e.CommitsOrFails := by
  intro e
  have quiet : e.QuietAudit := fun _ _ _ => rfl
  exact ⟨quiet, serve_commits_or_fails e quiet⟩

end Calls

end Engine

end TransitRevenue
