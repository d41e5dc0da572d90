import TransitRevenue.Audit.Broker
/-!
The application's configuration: where the document store is, whether and where audit events
are published, the forecasting parameters, where the business settings are kept, and the log
level.

Every part has a default, so an empty mapping is a complete configuration. The store, broker
and engine parts are mappings of their own; the engine's windows and default capacity have
lower bounds (at least one week, a window of one, a trend window of two, a capacity of one).
The settings are kept either in a YAML file or in the document store. Fields are read in the
order they are declared and the first that does not read is reported, with its place.
-/

namespace TransitRevenue

/-- Where the document store is. -/
structure StoreConfig where
  url : String := "mongodb://localhost:27017"
  dbName : String := "fleetyield"
  deriving Inhabited

/-- Whether audit events are published, and to which broker. -/
structure BrokerConfig where
  enabled : Bool := false
  broker : BrokerSettings := {}
  deriving Inhabited

/-- The forecasting parameters. -/
structure EngineConfig where
  historicalWeeks : Int := 12
  forecastWindow : Int := 4
  trendWindow : Int := 8
  defaultCapacity : Int := 50
  deriving Inhabited

/-- Where the business settings are kept. -/
inductive SettingsStore where
  | yaml
  | mongo
  deriving Inhabited, BEq, DecidableEq

/-- The whole configuration. -/
structure AppConfig where
  store : StoreConfig := {}
  broker : BrokerConfig := {}
  engine : EngineConfig := {}
  settingsStore : SettingsStore := .yaml
  settingsFile : String := "settings.yaml"
  logLevel : String := "INFO"
  deriving Inhabited

namespace SettingsStore

/-- The name of a settings store. -/
def key : SettingsStore → String
  | .yaml => "yaml"
  | .mongo => "mongo"

/-- A settings store named exactly `yaml` or `mongo`. -/
def read : Value → Except Issue SettingsStore
  | .str "yaml" => .ok .yaml
  | .str "mongo" => .ok .mongo
  | _ => .error ⟨[], "Input should be 'yaml' or 'mongo'"⟩

end SettingsStore

/-- An integer field of at least `lo`. -/
def Field.intAtLeast (lo : Int) (v : Value) : Except Issue Int := do
  let n ← Field.int v
  if n < lo then .error ⟨[], "Input should be greater than or equal to " ++ toString lo⟩ else .ok n

namespace StoreConfig

/-- The store part read from a mapping. -/
def read (v : Value) : Except Issue StoreConfig := do
  let fs ← Fields.ofValue "MongoSettings" v
  let d : StoreConfig := {}
  return { url := ← fs.opt "url" d.url Field.str, dbName := ← fs.opt "db_name" d.dbName Field.str }

/-- The store part as data. -/
def toValue (c : StoreConfig) : Value := .obj [("url", .str c.url), ("db_name", .str c.dbName)]

end StoreConfig

namespace BrokerConfig

/-- The broker part read from a mapping. -/
def read (v : Value) : Except Issue BrokerConfig := do
  let fs ← Fields.ofValue "KafkaSettings" v
  let enabled ← fs.opt "enabled" false Field.bool
  return { enabled, broker := ← BrokerSettings.ofFields fs }

/-- The broker part as data. -/
def toValue (c : BrokerConfig) : Value :=
  .obj [("enabled", .bool c.enabled), ("bootstrap_servers", .str c.broker.servers),
    ("topic", .str c.broker.topic), ("client_id", .str c.broker.clientId)]

end BrokerConfig

namespace EngineConfig

/-- The engine part read from a mapping, each bound checked. -/
def read (v : Value) : Except Issue EngineConfig := do
  let fs ← Fields.ofValue "EngineSettings" v
  let d : EngineConfig := {}
  return {
    historicalWeeks := ← fs.opt "historical_weeks" d.historicalWeeks (Field.intAtLeast 1)
    forecastWindow := ← fs.opt "forecast_window" d.forecastWindow (Field.intAtLeast 1)
    trendWindow := ← fs.opt "trend_window" d.trendWindow (Field.intAtLeast 2)
    defaultCapacity := ← fs.opt "default_capacity" d.defaultCapacity (Field.intAtLeast 1) }

/-- The engine part as data. -/
def toValue (c : EngineConfig) : Value :=
  .obj [("historical_weeks", .int c.historicalWeeks), ("forecast_window", .int c.forecastWindow),
    ("trend_window", .int c.trendWindow), ("default_capacity", .int c.defaultCapacity)]

end EngineConfig

namespace AppConfig

/-- The names of the configuration's fields, in declaration order. -/
def fieldNames : List String :=
  ["mongo", "kafka", "engine", "settings_store", "settings_file", "log_level"]

/-- The fields that are mappings of their own. -/
def nestedFields : List String := ["mongo", "kafka", "engine"]

/-- The configuration read from its fields; absent fields take their defaults and unknown ones
are ignored. -/
def ofFields (fs : Fields) : Except Issue AppConfig := do
  let d : AppConfig := {}
  return {
    store := ← fs.opt "mongo" d.store StoreConfig.read
    broker := ← fs.opt "kafka" d.broker BrokerConfig.read
    engine := ← fs.opt "engine" d.engine EngineConfig.read
    settingsStore := ← fs.opt "settings_store" d.settingsStore SettingsStore.read
    settingsFile := ← fs.opt "settings_file" d.settingsFile Field.str
    logLevel := ← fs.opt "log_level" d.logLevel Field.str }

/-- The configuration as data. -/
def toValue (c : AppConfig) : Value :=
  .obj [("mongo", c.store.toValue), ("kafka", c.broker.toValue), ("engine", c.engine.toValue),
    ("settings_store", .str c.settingsStore.key), ("settings_file", .str c.settingsFile),
    ("log_level", .str c.logLevel)]

end AppConfig

end TransitRevenue
