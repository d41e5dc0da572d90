import TransitRevenue.Command.Arguments
import TransitRevenue.Config.Load
import TransitRevenue.Engine.Service
import TransitRevenue.Store.FleetRecords
import TransitRevenue.Settings.File
import TransitRevenue.Json.Write
/-!
Running the command line.

The arguments are read first: a help request prints its text and succeeds, a usage error ends
with status 2. Then the configuration is loaded and its log level checked. The engine is wired
from the configuration: the document store is the database the configuration names; the
settings come from the YAML file it names, or from the store when so configured; and audit
events go to the broker when publishing is enabled; the database client is built first and may
refuse the configured address or database name, and that failure escapes before anything else
is built. The subcommand runs, the broker is closed (flushing with a ten-second limit) whatever
the subcommand did, and the result is printed as JSON with two-space indentation, fields in
declaration order, followed by a line end. A failure of the engine's own rules ends with status 1
and prints nothing; any other failure escapes.
-/

namespace TransitRevenue

/-- What a settings path names on a host: the working directory, a file, or nothing. -/
def settingsSource (h : Host) (path : String) : SettingsFile.Source :=
  if Host.namesWorkingDirectory path then .directory "."
  else match h.read? path with
    | some text => .file text
    | none => .missing

/-- The engine's store as the command line wires it: the document records, with the settings
read from a YAML file (its path, and what it names) when so configured. -/
structure Wiring where
  records : FleetRecords
  settingsFile : Option (String × SettingsFile.Source)
  deriving Inhabited

namespace Wiring

/-- The settings, from the configured file or from the records. -/
def settings? (w : Wiring) : Except Fault (Option Settings) :=
  match w.settingsFile with
  | some (path, text) => SettingsFile.read path text
  | none => Store.settings? w.records

instance : Store Wiring where
  route? w := Store.route? w.records
  history w := Store.history w.records
  costInputs w := Store.costInputs w.records
  routeForTrip w := Store.routeForTrip w.records
  activeTrips w := Store.activeTrips w.records
  createdAt := Store.createdAt FleetRecords
  forecasts w := Store.forecasts w.records
  tripResult? w := Store.tripResult? w.records
  tripResults w := Store.tripResults w.records
  settings? := settings?
  write w x := do return { w with records := ← Store.write w.records x }

end Wiring

namespace Command

/-- Doubles as the result printer writes them: shortest digits, positional from 1e-5 up to
1e16, exponents unpadded, and the non-finite values as `null`. -/
def resultFloats : Layout :=
  { fixedFrom := -5, fixedTo := 15, plusSign := true, expWidth := 1, pointInScientific := false,
    nan := "null", inf := "null", negInf := "null" }

/-- The printed form of results: indented by two spaces, text written as it is, moments with a
`Z` for UTC. -/
def resultStyle : Json.Style where
  indent := some 2
  itemSep := ", "
  keySep := ": "
  asciiOnly := false
  floats := resultFloats
  dateText := Date.iso
  timeText := Moment.zuluText
  identText := fun _ => "ObjectId"

/-- The known log level names. -/
def levelNames : List String :=
  ["CRITICAL", "FATAL", "ERROR", "WARN", "WARNING", "INFO", "DEBUG", "NOTSET"]

/-- The capital of a letter: ASCII, Latin-1, Latin Extended-A, Greek and Cyrillic, with the
letters whose capitals are ASCII (dotless `ı`, long `ſ`) or two letters (`ß`). -/
def capital (c : Char) : List Char :=
  let n := c.toNat
  if 'a' ≤ c && c ≤ 'z' then [Char.ofNat (n - 32)]
  else if n == 0xDF then ['S', 'S']
  else if n == 0xB5 then [Char.ofNat 0x39C]
  else if n == 0xFF then [Char.ofNat 0x178]
  else if 0xE0 ≤ n && n ≤ 0xFE && n != 0xF7 then [Char.ofNat (n - 32)]
  else if n == 0x131 then ['I']
  else if n == 0x17F then ['S']
  else if (0x100 ≤ n && n ≤ 0x137) || (0x14A ≤ n && n ≤ 0x177) then
    [Char.ofNat (if n % 2 == 1 then n - 1 else n)]
  else if (0x139 ≤ n && n ≤ 0x148) || (0x179 ≤ n && n ≤ 0x17E) then
    [Char.ofNat (if n % 2 == 0 then n - 1 else n)]
  else if n == 0x3C2 then [Char.ofNat 0x3A3]
  else if 0x3B1 ≤ n && n ≤ 0x3CB then [Char.ofNat (n - 32)]
  else if 0x430 ≤ n && n ≤ 0x44F then [Char.ofNat (n - 32)]
  else if 0x450 ≤ n && n ≤ 0x45F then [Char.ofNat (n - 80)]
  else [c]

/-- A level name in capitals. -/
def capitals (s : String) : String := String.ofList (s.toList.flatMap capital)

/-- The level a configured name stands for must be a known one. -/
def checkLevel (name : String) : Except Fault Unit :=
  let upper := capitals name
  if levelNames.contains upper then .ok () else .error (.unknownLevel (Text.quoted upper))

/-- The number of terminal columns: `COLUMNS` when it is a positive integer, else 80. -/
def columnsOf (h : Host) : Nat :=
  match (h.getenv "COLUMNS").bind intOfText? with
  | some n => if n > 0 then n.toNat else 80
  | none => 80

/-- What a run of the command line sees: its arguments, its files and environment, the document
server and what its client raises, if anything, for a database address and name, the clock, and
the broker's part: how many messages it reports undelivered when flushed, and whether its
producer tests true when closed. -/
structure Invocation where
  args : List String
  host : Host := {}
  server : DocumentServer := {}
  refusal : String → String → Option Fault := fun _ _ => none
  clock : Moment
  undelivered : Int := 0
  producerTruthy : Bool := true
  deriving Inhabited

/-- How a run ends: it exits with a status after printing, or a fault escapes it. -/
inductive Ending where
  | exit (code : Nat) (stdout : String)
  | escape (fault : Fault)
  deriving Inhabited

/-- What a run leaves: how it ended, the broker's log and the document server after it. -/
structure Finish where
  ending : Ending
  brokerLog : List ProducerCall := []
  server : DocumentServer
  deriving Inhabited

/-- The engine the command line runs. -/
abbrev Wired := Engine Wiring Publisher

/-- The value given for a destination. -/
def given? (values : List (String × Given)) (dest : String) : Option Given := values.lookup dest

/-- An integer value. -/
def intOf (values : List (String × Given)) (dest : String) : Option Int :=
  match given? values dest with
  | some (.int n) => some n
  | _ => none

/-- A date value. -/
def dateOf (values : List (String × Given)) (dest : String) : Option Date :=
  match given? values dest with
  | some (.date d) => some d
  | _ => none

/-- A required value that is missing: the reading guarantees it is there. -/
def absent {α : Type} (dest : String) : Except Fault α := .error (.noField dest)

/-- A value the reading guarantees. -/
def need {α : Type} (x : Option α) (dest : String) : Except Fault α :=
  match x with
  | some v => .ok v
  | none => absent dest

/-- Run a subcommand on the engine: the engine after it and the result as data. -/
def perform (e : Wired) (host : Host) (command : String) (values : List (String × Given)) :
    Wired × Except Fault Value :=
  let pure' := fun (r : Except Fault Value) => (e, r)
  match command with
  | "forecast" =>
    match need (intOf values "route_id") "route_id" with
    | .error f => pure' (.error f)
    | .ok routeId =>
      let (e, r) := e.run (e.forecastDemand routeId (dateOf values "date"))
      (e, r.map ForecastReply.toValue)
  | "forecasts" => pure' do
    let routeId ← need (intOf values "route_id") "route_id"
    let start ← need (dateOf values "start") "start"
    let finish ← need (dateOf values "end") "end"
    let fs ← e.forecastsOf routeId start finish
    return .obj [("route_id", .int routeId), ("forecasts", .list (fs.map Forecast.toValue))]
  | "price" =>
    let inputs : Except Fault (Float × Int × Int × Moment) := do
      let base ← match given? values "base_price" with
        | some (.float x) => pure x
        | _ => absent "base_price"
      let passengers ← need (intOf values "passengers") "passengers"
      let capacity ← need (intOf values "capacity") "capacity"
      let departure ← match given? values "departure" with
        | some (.moment t) => pure t
        | _ => absent "departure"
      return (base, passengers, capacity, departure)
    match inputs with
    | .error f => pure' (.error f)
    | .ok (base, passengers, capacity, departure) =>
      match intOf values "trip_id" with
      | some tripId =>
        let (e, r) := e.run (e.submitPrice tripId (.float base) (.int passengers) (.int capacity) departure)
        (e, r.map Quote.toValue)
      | none =>
        pure' ((e.quote (.float base) (.int passengers) (.int capacity) departure).map Quote.toValue)
  | "trip-analytics" =>
    match need (intOf values "trip_id") "trip_id" with
    | .error f => pure' (.error f)
    | .ok tripId =>
      if (given? values "recompute").isSome then
        let (e, r) := e.run (e.computeTripResult tripId)
        (e, r.map TripResult.toValue)
      else pure' ((e.tripResult tripId).map TripResult.toValue)
  | "profitability" => pure' do
    let start ← need (dateOf values "start") "start"
    let finish ← need (dateOf values "end") "end"
    let report ← e.profitability start finish (intOf values "route_id")
    return report.toValue
  | "dashboard" => pure' ((e.dashboard none).map Dashboard.toValue)
  | "settings" =>
    match given? values "validate_file" with
    | some (.text path) =>
      if path.isEmpty then pure' (e.settings.map Settings.toValue)
      else pure' do
        match ← SettingsFile.read path (settingsSource host path) with
        | none => throw (.noSettingsIn path)
        | some s =>
          s.check
          return s.toValue
    | _ => pure' (e.settings.map Settings.toValue)
  | other => pure' (.error (.wrongKind ("Unknown command: " ++ other)))

/-- The engine wired from a configuration: the database it names, with the settings read from
the file it names or from the store, the broker when publishing is enabled, the clock, and the
forecasting parameters. The database client is built first, and what it raises for the address
or the database name escapes. -/
def wire (inv : Invocation) (config : AppConfig) : Except Fault Wired := do
  if let some f := inv.refusal config.store.url config.store.dbName then throw f
  let settingsFile := match config.settingsStore with
    | .mongo => none
    | .yaml => some (config.settingsFile, settingsSource inv.host config.settingsFile)
  return { store := { records := { db := inv.server.db config.store.dbName }, settingsFile },
           audit := if config.broker.enabled then some { settings := config.broker.broker } else none,
           clock := inv.clock,
           tuning := { weeks := config.engine.historicalWeeks, window := config.engine.forecastWindow,
                       trendWindow := config.engine.trendWindow,
                       capacity := config.engine.defaultCapacity } }

/-- How a subcommand's answer ends the run: printed with status 0, nothing printed with status 1
for a fault of the engine's own rules, and any other fault escapes. -/
def ending : Except Fault Value → Ending
  | .ok v => .exit 0 (resultStyle.write v ++ "\n")
  | .error f => if f.isEngineFault then .exit 1 "" else .escape f

/-- The end of a run whose subcommand left the engine `e` and answered `result`: the broker is
closed whatever the answer, and the answer ends the run. -/
def conclude (inv : Invocation) (dbName : String) (e : Wired) (result : Except Fault Value) : Finish :=
  { ending := ending result,
    brokerLog := (e.audit.map fun p => (p.close inv.undelivered inv.producerTruthy).log).getD [],
    server := inv.server.setDb dbName e.store.records.db }

/-- Run a subcommand read from the command line, with the configuration file it names: load the
configuration, check its log level, wire the engine, run the subcommand and conclude. A failure
before the engine is wired escapes with nothing opened or written. -/
def runParsed (inv : Invocation) (configPath : Option String) (command : String)
    (values : List (String × Given)) : Finish :=
  let wired : Except Fault (AppConfig × Wired) := do
    let config ← loadConfig inv.host configPath
    checkLevel config.logLevel
    return (config, ← wire inv config)
  match wired with
  | .error f => { ending := .escape f, server := inv.server }
  | .ok (config, e) =>
    let (e, result) := perform e inv.host command values
    conclude inv config.store.dbName e result

/-- Run the command line. -/
def run (inv : Invocation) : Finish :=
  match readCommandLine (columnsOf inv.host) inv.args with
  | .help text => { ending := .exit 0 text, server := inv.server }
  | .invalid => { ending := .exit 2 "", server := inv.server }
  | .ok configPath command values => runParsed inv configPath command values

end Command

end TransitRevenue
