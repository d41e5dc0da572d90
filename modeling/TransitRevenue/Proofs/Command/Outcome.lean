import Mathlib
import TransitRevenue.Command.Run
import TransitRevenue.Proofs.Except
/-!
How a run of the command line ends.

Once the arguments are read and the configuration loaded with a known log level (`runParsed`),
the database client is built first; what it raises for the address or the database name escapes
at once, before any publisher exists, so nothing is closed (`runParsed_of_wire_error`). Once the
engine is wired, a run ends in one of three ways, decided by the subcommand's answer alone: an
answer is printed as JSON with status 0; a fault of the engine's own rules (settings out of range
or that do not read, missing records, no settings in the validated file) prints nothing and ends
with status 1; any other fault escapes. On all three the broker was closed exactly once, after
the subcommand: its log holds no flush but the closing one, which is its last call and is there
exactly when the producer was opened and tests true, and with publishing off the log is empty
(`Ends`).

Nothing the subcommand does flushes the broker: publishing only opens the producer and adds
produce and poll calls (`Publisher.Unflushed.publish`), so the broker stays unflushed through
whatever effects the engine carries out (`Engine.apply_keeps_broker`).

`settings --validate-file F`, for `F` not empty, ends with status 0 exactly when `F` is a file
whose `settings` section is a non-empty mapping that reads as settings within the range rules
(`HoldsSettings`). An empty `F` is taken for no file at all: the configured settings are shown
instead (`runParsed_empty_validate_file`).

The main statement is `runParsed_outcome_law`.
-/

namespace TransitRevenue

/-! ## The broker's log -/

namespace ProducerCall

/-- A flush of the producer. -/
def isFlush : ProducerCall → Bool
  | .flushed _ _ => true
  | _ => false

/-- The opening of the producer. -/
def isOpening : ProducerCall → Bool
  | .opened _ => true
  | _ => false

end ProducerCall

/-- A broker log closed once, at its end: its last call is a flush with the ten-second limit,
there exactly when the producer was opened and tests true (`truthy`), and no other call is a
flush. -/
def ClosedOnce (log : List ProducerCall) (remaining : Int) (truthy : Bool) : Prop :=
  ∃ calls, (∀ c ∈ calls, c.isFlush = false) ∧
    log = calls ++
      if calls.any ProducerCall.isOpening && truthy then [.flushed (.float 10.0) remaining] else []

theorem closedOnce_nil (remaining : Int) (truthy : Bool) : ClosedOnce [] remaining truthy :=
  ⟨[], fun _ h => absurd h List.not_mem_nil, by simp⟩

namespace Publisher

/-- A publisher that has not flushed: no flush in its log, and its producer open exactly when its
log shows it opened. -/
structure Unflushed (p : Publisher) : Prop where
  no_flush : ∀ c ∈ p.log, c.isFlush = false
  open_eq : p.isOpen = p.log.any ProducerCall.isOpening

theorem unflushed_of_settings (s : BrokerSettings) : ({ settings := s } : Publisher).Unflushed :=
  ⟨fun _ h => absurd h List.not_mem_nil, rfl⟩

theorem Unflushed.opened {p : Publisher} (hp : p.Unflushed) : p.opened.Unflushed := by
  unfold Publisher.opened
  split
  case isTrue => exact hp
  case isFalse =>
    refine ⟨fun c hc => ?_, by simp [ProducerCall.isOpening]⟩
    rcases List.mem_append.1 hc with hc | hc
    · exact hp.no_flush c hc
    · rw [List.mem_singleton.1 hc]
      rfl

/-- Sending adds produce and poll calls only. -/
theorem Unflushed.send {p : Publisher} (hp : p.Unflushed) (e : AuditEvent)
    (failure : Option ProducerFailure) : (p.send e failure).1.Unflushed := by
  unfold Publisher.send
  split
  case h_1 =>
    split
    case h_1 => exact hp
    case h_2 =>
      refine ⟨fun c hc => ?_, ?_⟩
      · simp only [List.append_assoc, List.mem_append, List.mem_singleton] at hc
        rcases hc with hc | rfl | rfl
        · exact hp.no_flush c hc
        · rfl
        · rfl
      · simp [hp.open_eq, ProducerCall.isOpening]
  case h_2 => exact hp

/-- Publishing keeps a publisher unflushed: it may open the producer, and adds produce and poll
calls only. -/
theorem Unflushed.publish {p : Publisher} (hp : p.Unflushed) (e : AuditEvent)
    (failure : Option ProducerFailure) : (p.publish e failure).1.Unflushed := by
  unfold Publisher.publish
  split
  case h_1 f =>
    -- a failure in building the producer leaves the publisher as it was
    split
    case isTrue => split <;> first | exact hp.send e none | exact hp
    case isFalse => exact hp.opened.send e (some f)
  case h_2 => exact hp.opened.send e none

/-- Closing an unflushed publisher closes its log once. -/
theorem Unflushed.closedOnce {p : Publisher} (hp : p.Unflushed) (remaining : Int) (truthy : Bool) :
    ClosedOnce (p.close remaining truthy).log remaining truthy := by
  refine ⟨p.log, hp.no_flush, ?_⟩
  unfold Publisher.close
  rw [← hp.open_eq]
  cases p.isOpen <;> cases truthy <;> simp

end Publisher

/-! ## The engine keeps its broker unflushed -/

namespace Engine

variable {σ : Type} [Store σ]

/-- Carrying out effects keeps whether there is a broker, and every property of it that
publishing keeps. -/
theorem apply_keeps_broker {P : Publisher → Prop}
    (hP : ∀ p ev, P p → P (AuditSink.publish p ev).1) :
    ∀ (e : Engine σ Publisher) (effs : List Effect), (∀ p, e.audit = some p → P p) →
      (e.apply effs).1.audit.isSome = e.audit.isSome ∧ ∀ p, (e.apply effs).1.audit = some p → P p
  | _, [], h => ⟨rfl, h⟩
  | e, .write w :: rest, h => by
    -- a refused write stops there, an accepted one goes on with the same sink
    simp only [apply]
    split
    · exact apply_keeps_broker hP _ rest h
    · exact ⟨rfl, h⟩
  | e, .publish ev :: rest, h => by
    cases ha : e.audit with
    | none =>
      have := apply_keeps_broker hP e rest h
      simpa only [apply, ha] using this
    | some sink =>
      have hsink : P (AuditSink.publish sink ev).1 := hP sink ev (h sink ha)
      simp only [apply, ha]
      rcases hpub : AuditSink.publish sink ev with ⟨sink', fault⟩
      rw [hpub] at hsink
      have hafter : ∀ p, ({ e with audit := some sink' } : Engine σ Publisher).audit = some p → P p :=
        fun p hp => Option.some.inj hp ▸ hsink
      cases fault with
      | some f => exact ⟨rfl, hafter⟩
      | none => exact ⟨(apply_keeps_broker hP _ rest hafter).1, (apply_keeps_broker hP _ rest hafter).2⟩

/-- Running a plan leaves the engine as carrying out some effects does. -/
theorem run_engine {α β : Type} [AuditSink α] (e : Engine σ α) (plan : Except Fault (Plan β)) :
    ∃ effs, (e.run plan).1 = (e.apply effs).1 := by
  cases plan with
  | error f => exact ⟨[], rfl⟩
  | ok p =>
    refine ⟨p.effects, ?_⟩
    simp only [run]
    split <;> simp_all

end Engine

namespace Command

/-! ## The subcommand and the end of a run -/

/-- A subcommand leaves the engine as carrying out some effects does. -/
theorem perform_engine (e : Wired) (host : Host) (command : String) (values : List (String × Given)) :
    ∃ effs, (perform e host command values).1 = (e.apply effs).1 := by
  unfold perform
  -- every branch either answers on `e` itself or runs one plan on it
  split
  all_goals
    dsimp only
    repeat' split
  all_goals first | exact ⟨[], rfl⟩ | exact Engine.run_engine e _

/-- A subcommand keeps whether there is a broker, and leaves it unflushed. -/
theorem perform_keeps_broker {e : Wired} (he : ∀ p, e.audit = some p → p.Unflushed) (host : Host)
    (command : String) (values : List (String × Given)) :
    (perform e host command values).1.audit.isSome = e.audit.isSome ∧
      ∀ p, (perform e host command values).1.audit = some p → p.Unflushed := by
  obtain ⟨effs, heq⟩ := perform_engine e host command values
  rw [heq]
  exact Engine.apply_keeps_broker (fun p ev hp => hp.publish ev none) e effs he

/-- Wiring fails exactly with what the database client raises for the address and the name. -/
theorem wire_eq_error_iff {inv : Invocation} {config : AppConfig} {f : Fault} :
    wire inv config = .error f ↔ inv.refusal config.store.url config.store.dbName = some f := by
  unfold wire
  cases inv.refusal config.store.url config.store.dbName with
  | none => simp [pure, Except.pure]
  | some g => simp [throw, throwThe, MonadExceptOf.throw, bind, Except.bind, eq_comm]

/-- A wired engine has a broker exactly when publishing is enabled, and it has not flushed. -/
theorem wire_broker {inv : Invocation} {config : AppConfig} {e : Wired} (h : wire inv config = .ok e) :
    e.audit.isSome = config.broker.enabled ∧ ∀ p, e.audit = some p → p.Unflushed := by
  unfold wire at h
  cases hr : inv.refusal config.store.url config.store.dbName with
  | some f => simp [hr, throw, throwThe, MonadExceptOf.throw, bind, Except.bind] at h
  | none =>
    simp only [hr, pure, Except.pure, Except.ok.injEq] at h
    subst h
    cases config.broker.enabled with
    | false => exact ⟨rfl, fun _ h => (nomatch h)⟩
    | true => exact ⟨rfl, fun p h => Option.some.inj h ▸ Publisher.unflushed_of_settings _⟩

/-- How a run ends once its subcommand has answered `result`, with publishing `enabled` or not:
status 0 exactly for an answer, which is printed; status 1 exactly for a fault of the engine's
own rules, with nothing printed; any other fault escapes; and on every end the broker's log was
closed once, and is empty with publishing off. -/
structure Ends (inv : Invocation) (enabled : Bool) (result : Except Fault Value) (fin : Finish) : Prop where
  status_zero : (∃ out, fin.ending = .exit 0 out) ↔ ∃ v, result = .ok v
  status_one : (∃ out, fin.ending = .exit 1 out) ↔ ∃ f, result = .error f ∧ f.isEngineFault = true
  escapes : ∀ f, fin.ending = .escape f ↔ result = .error f ∧ f.isEngineFault = false
  printed : ∀ v, result = .ok v → fin.ending = .exit 0 (resultStyle.write v ++ "\n")
  silent : ∀ out, fin.ending = .exit 1 out → out = ""
  closed : ClosedOnce fin.brokerLog inv.undelivered inv.producerTruthy ∧
    (enabled = false → fin.brokerLog = [])

/-- A run that ends as its answer decides, with the broker's log closed once, ends as `Ends`
says. -/
theorem ends_of_ending {inv : Invocation} {enabled : Bool} {result : Except Fault Value} {fin : Finish}
    (hend : fin.ending = ending result)
    (hlog : ClosedOnce fin.brokerLog inv.undelivered inv.producerTruthy ∧
      (enabled = false → fin.brokerLog = [])) : Ends inv enabled result fin := by
  -- each way of ending is read off the answer, by its shape and the kind of its fault
  cases result with
  | ok v => refine ⟨?_, ?_, ?_, ?_, ?_, hlog⟩ <;> simp [hend, ending]
  | error f =>
    cases hf : f.isEngineFault <;> refine ⟨?_, ?_, ?_, ?_, ?_, hlog⟩ <;> simp [hend, ending, hf]

theorem conclude_ends {inv : Invocation} (dbName : String) {e : Wired} {enabled : Bool}
    (hen : e.audit.isSome = enabled) (he : ∀ p, e.audit = some p → p.Unflushed)
    (result : Except Fault Value) : Ends inv enabled result (conclude inv dbName e result) := by
  -- the broker is closed whatever the answer
  refine ends_of_ending rfl ?_
  cases ha : e.audit with
  | none => exact ⟨by simpa [conclude, ha] using closedOnce_nil inv.undelivered inv.producerTruthy,
    fun _ => by simp [conclude, ha]⟩
  | some p =>
    rw [ha] at hen
    refine ⟨by simpa [conclude, ha] using (he p ha).closedOnce inv.undelivered inv.producerTruthy,
      fun hoff => ?_⟩
    rw [hoff] at hen
    exact absurd hen Bool.noConfusion

/-- A run whose database client refuses the address or the name escapes with that fault before
anything is opened: the broker's log is empty and the document server is as it was. -/
theorem runParsed_of_wire_error {inv : Invocation} {configPath : Option String} {command : String}
    {values : List (String × Given)} {config : AppConfig}
    (hconfig : loadConfig inv.host configPath = .ok config) (hlevel : checkLevel config.logLevel = .ok ())
    {f : Fault} (hwire : wire inv config = .error f) :
    runParsed inv configPath command values = { ending := .escape f, server := inv.server } := by
  simp only [runParsed, hconfig, hlevel, hwire, Except.ok_bind]
  rfl

/-- Once the configuration is loaded, its log level known and the engine wired, a run concludes
on what the subcommand did on the wired engine. -/
theorem runParsed_eq {inv : Invocation} {configPath : Option String} {command : String}
    {values : List (String × Given)} {config : AppConfig}
    (hconfig : loadConfig inv.host configPath = .ok config) (hlevel : checkLevel config.logLevel = .ok ())
    {e : Wired} (hwire : wire inv config = .ok e) :
    runParsed inv configPath command values =
      conclude inv config.store.dbName (perform e inv.host command values).1
        (perform e inv.host command values).2 := by
  simp only [runParsed, hconfig, hlevel, hwire, Except.ok_bind]
  rfl

/-- Once the engine is wired, a run ends as the subcommand's answer decides, with the broker
closed once. -/
theorem runParsed_ends {inv : Invocation} {configPath : Option String} {command : String}
    {values : List (String × Given)} {config : AppConfig}
    (hconfig : loadConfig inv.host configPath = .ok config) (hlevel : checkLevel config.logLevel = .ok ())
    {e : Wired} (hwire : wire inv config = .ok e) :
    Ends inv config.broker.enabled (perform e inv.host command values).2
      (runParsed inv configPath command values) := by
  obtain ⟨hen, hbroker⟩ := wire_broker hwire
  obtain ⟨hen', hbroker'⟩ := perform_keeps_broker hbroker inv.host command values
  rw [runParsed_eq hconfig hlevel hwire]
  exact conclude_ends config.store.dbName (hen'.trans hen) hbroker' _

/-! ## Validating a settings file -/

/-- The file at `path` holds settings: its YAML document has a `settings` section that is a
non-empty mapping, read as settings within the range rules. -/
def HoldsSettings (h : Host) (path : String) : Prop :=
  ∃ text doc fs s, settingsSource h path = .file text ∧ Yaml.load path text = .ok doc ∧
    SettingsFile.lookup (if doc.truthy then doc else .obj []) "settings" = .ok (.obj fs) ∧ fs ≠ [] ∧
    Settings.ofValue (.obj fs) = .ok s ∧ s.check = .ok ()

/-- A section gives settings exactly when it is a mapping that reads as settings. -/
theorem ofSection_eq_ok_iff {part : Value} {s : Settings} :
    SettingsFile.ofSection part = .ok s ↔ ∃ fs, part = .obj fs ∧ Settings.ofValue (.obj fs) = .ok s := by
  cases part <;> simp [SettingsFile.ofSection, Except.mapError_eq_ok]

/-- A section holds settings exactly when it is a non-empty mapping that reads as settings; an
empty or false section holds none. -/
theorem section_eq_some_iff {part : Value} {s : Settings} :
    (if part.truthy then SettingsFile.ofSection part >>= fun x => pure (some x) else pure none) =
        (.ok (some s) : Except Fault (Option Settings)) ↔
      ∃ fs, part = .obj fs ∧ fs ≠ [] ∧ Settings.ofValue (.obj fs) = .ok s := by
  by_cases ht : part.truthy
  case neg =>
    simp only [ht, Bool.false_eq_true, if_false, pure, Except.pure, Except.ok.injEq, reduceCtorEq,
      false_iff, not_exists, not_and]
    intro fs hpart hfs
    subst hpart
    simp [Value.truthy, hfs] at ht
  case pos =>
    simp only [ht, if_true, Except.bind_eq_ok, pure, Except.pure, Except.ok.injEq, Option.some.injEq,
      ofSection_eq_ok_iff]
    constructor
    · rintro ⟨x, ⟨fs, rfl, hx⟩, rfl⟩
      exact ⟨fs, rfl, by simpa [Value.truthy] using ht, hx⟩
    · rintro ⟨fs, rfl, -, hs⟩
      exact ⟨s, ⟨fs, rfl, hs⟩, rfl⟩

/-- A file gives settings exactly when its `settings` section is a non-empty mapping that reads as
settings. -/
theorem read_file_eq_some_iff {path text : String} {s : Settings} :
    SettingsFile.read path (.file text) = .ok (some s) ↔
      ∃ doc fs, Yaml.load path text = .ok doc ∧
        SettingsFile.lookup (if doc.truthy then doc else .obj []) "settings" = .ok (.obj fs) ∧
        fs ≠ [] ∧ Settings.ofValue (.obj fs) = .ok s := by
  simp only [SettingsFile.read, Except.bind_eq_ok]
  constructor
  · rintro ⟨doc, hdoc, part, hpart, hsec⟩
    obtain ⟨fs, rfl, hfs, hs⟩ := section_eq_some_iff.1 hsec
    exact ⟨doc, fs, hdoc, hpart, hfs, hs⟩
  · rintro ⟨doc, fs, hdoc, hpart, hfs, hs⟩
    exact ⟨doc, hdoc, _, hpart, section_eq_some_iff.2 ⟨fs, rfl, hfs, hs⟩⟩

/-- Validating a file that is named answers exactly when the file holds settings. -/
theorem perform_validate_ok_iff (e : Wired) (host : Host) {values : List (String × Given)}
    {path : String} (hv : given? values "validate_file" = some (.text path)) (hne : path ≠ "") :
    (∃ v, (perform e host "settings" values).2 = .ok v) ↔ HoldsSettings host path := by
  have hnamed : path.isEmpty = false := by simpa using hne
  simp only [perform, hv, hnamed, Bool.false_eq_true, if_false]
  constructor
  · rintro ⟨v, hrun⟩
    obtain ⟨o, hread, hrest⟩ := Except.bind_eq_ok.1 hrun
    cases o with
    | none => exact absurd hrest (by simp [throw, throwThe, MonadExceptOf.throw])
    | some s =>
      obtain ⟨u, hcheck, -⟩ := Except.bind_eq_ok.1 hrest
      cases hsrc : settingsSource host path with
      | missing => simp [hsrc, SettingsFile.read, pure, Except.pure] at hread
      | directory shown => simp [hsrc, SettingsFile.read, throw, throwThe, MonadExceptOf.throw] at hread
      | file text =>
        rw [hsrc] at hread
        obtain ⟨doc, fs, hdoc, hpart, hfs, hs⟩ := read_file_eq_some_iff.1 hread
        exact ⟨text, doc, fs, s, hsrc, hdoc, hpart, hfs, hs, hcheck⟩
  · rintro ⟨text, doc, fs, s, hsrc, hdoc, hpart, hfs, hs, hcheck⟩
    have hread : SettingsFile.read path (settingsSource host path) = .ok (some s) := by
      rw [hsrc]
      exact read_file_eq_some_iff.2 ⟨doc, fs, hdoc, hpart, hfs, hs⟩
    exact ⟨s.toValue, by simp [hread, hcheck, pure, Except.pure]⟩

/-! ## The outcome of a run -/

theorem runParsed_outcome_law (inv : Invocation) (configPath : Option String) (command : String)
    (values : List (String × Given)) {config : AppConfig}
    (hconfig : loadConfig inv.host configPath = .ok config)
    (hlevel : checkLevel config.logLevel = .ok ()) :
    (readCommandLine (columnsOf inv.host) inv.args = .ok configPath command values →
        run inv = runParsed inv configPath command values) ∧
      (∀ f, wire inv config = .error f →
        runParsed inv configPath command values = { ending := .escape f, server := inv.server }) ∧
      ∀ e, wire inv config = .ok e →
        Ends inv config.broker.enabled (perform e inv.host command values).2
          (runParsed inv configPath command values) ∧
        ∀ file, command = "settings" → given? values "validate_file" = some (.text file) → file ≠ "" →
          ((∃ out, (runParsed inv configPath command values).ending = .exit 0 out) ↔
            HoldsSettings inv.host file) := by
  refine ⟨fun hargs => by simp [run, hargs], fun f hwire => runParsed_of_wire_error hconfig hlevel hwire,
    fun e hwire => ?_⟩
  have hends := @runParsed_ends inv configPath command values config hconfig hlevel e hwire
  refine ⟨hends, fun file hcommand hv hne => ?_⟩
  subst hcommand
  rw [hends.status_zero]
  exact perform_validate_ok_iff _ _ hv hne

/-- Without files, validating `v.yaml`: the defaults load and their log level is known. -/
theorem runParsed_outcome_law_without_files :
    let inv : Invocation :=
      { args := ["settings", "--validate-file", "v.yaml"], clock := { date := ⟨2025, 10, 14⟩, hour := 12 } }
    let values : List (String × Given) := [("validate_file", .text "v.yaml")]
    loadConfig inv.host none = .ok {} ∧ checkLevel ({} : AppConfig).logLevel = .ok () ∧
      (readCommandLine (columnsOf inv.host) inv.args = .ok none "settings" values →
          run inv = runParsed inv none "settings" values) ∧
        (∀ f, wire inv {} = .error f →
          runParsed inv none "settings" values = { ending := .escape f, server := inv.server }) ∧
        ∀ e, wire inv {} = .ok e →
          Ends inv ({} : AppConfig).broker.enabled (perform e inv.host "settings" values).2
            (runParsed inv none "settings" values) ∧
          ∀ file, "settings" = "settings" → given? values "validate_file" = some (.text file) →
            file ≠ "" → ((∃ out, (runParsed inv none "settings" values).ending = .exit 0 out) ↔
              HoldsSettings inv.host file) := by
  intro inv values
  exact ⟨rfl, rfl, runParsed_outcome_law inv none "settings" values rfl rfl⟩

/-- An empty path validates nothing: with no files at all, `settings --validate-file ""` shows the
default settings and ends with status 0, though the path names the working directory, which holds
no settings. -/
theorem runParsed_empty_validate_file :
    let inv : Invocation :=
      { args := ["settings", "--validate-file", ""], clock := { date := ⟨2025, 10, 14⟩, hour := 12 } }
    settingsSource inv.host "" = .directory "." ∧
      ∃ out, (runParsed inv none "settings" [("validate_file", .text "")]).ending = .exit 0 out := by
  intro inv
  refine ⟨rfl, ?_⟩
  rw [(@runParsed_ends inv none "settings" [("validate_file", .text "")] {} rfl rfl _ rfl).status_zero]
  exact ⟨_, rfl⟩

end Command

end TransitRevenue
