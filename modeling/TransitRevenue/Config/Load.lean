import TransitRevenue.Config
import TransitRevenue.Config.DotEnv
import TransitRevenue.Json.Read
import TransitRevenue.Yaml.Node
/-!
Loading the configuration from a YAML file, the environment and a `.env` file.

The file is the one named by the caller, else by `FY_CONFIG_FILE`, else `config.yaml`; a missing
file counts as empty, and an empty or false document as an empty mapping. A file that is not
well-formed YAML is reported with its path. Then the variables `MONGO_URL` and `MONGO_DB_NAME`
set the store's address and database name, `KAFKA_BOOTSTRAP_SERVERS` sets the broker and turns
publishing on, and `FY_SETTINGS_FILE` and `FY_LOG_LEVEL` set the settings file and log level;
each only when set to a non-empty text. The result must be a mapping with text keys: these are
the explicit values.

The explicit values win over the environment, which wins over the `.env` file, which wins over the
defaults; nested mappings are merged key by key rather than replaced. Explicit names are matched
to the fields without regard to case, the first of several that match winning. Environment and
`.env` names are matched without regard to case too (`LOG_LEVEL`, `engine`); the value of a nested part
(`MONGO`, `KAFKA`, `ENGINE`) is JSON text, whose keys are matched to the part's fields without
regard to case, and JSON `null` counts as unset. Text that is not JSON is reported with the
field and the source it came from.
-/

namespace TransitRevenue

/-- What loading sees of its process: the files of the working directory by name, and the
environment variables in order. -/
structure Host where
  files : List (String × String) := []
  environ : List (String × String) := []
  deriving Inhabited

namespace Host

/-- A path with leading `./` steps removed. -/
def plainPath (p : String) : String :=
  let rec go : Nat → List Char → List Char
    | 0, cs => cs
    | fuel + 1, '.' :: '/' :: r => go fuel (r.dropWhile (· == '/'))
    | _, cs => cs
  String.ofList (go p.length p.toList)

/-- Whether a relative path names the working directory itself: it is empty or made of `.` steps
only. -/
def namesWorkingDirectory (path : String) : Bool :=
  -- read at the start of a step: a step is empty or a single `.`
  let rec steps : List Char → Bool
    | [] => true
    | '/' :: r => steps r
    | ['.'] => true
    | '.' :: '/' :: r => steps r
    | _ => false
  match path.toList with
  | '/' :: _ => false
  | cs => steps cs

/-- The text of the file at `path`, if there is one. -/
def read? (h : Host) (path : String) : Option String :=
  (h.files.find? fun (n, _) => plainPath n == plainPath path).map Prod.snd

/-- The value of an environment variable; the last setting wins. -/
def getenv (h : Host) (name : String) : Option String :=
  h.environ.reverse.lookup name

/-- The value of an environment variable when it is set to a non-empty text. -/
def nonEmpty? (h : Host) (name : String) : Option String :=
  (h.getenv name).filter (!·.isEmpty)

end Host

namespace ConfigLoad

/-- The name under which the configuration record is built, as type errors show it. -/
def recordName : String := "fleetyield.config.schema.AppConfig"

/-- The entries of a mapping value. -/
def entriesOf : Value → Option (List (Value × Value))
  | .obj fs => some (fs.map fun (k, v) => (.str k, v))
  | .dict es => some es
  | _ => none

/-- Set `key` in a container: mappings take it (in place when present); a list takes only
integer positions, and other values take no assignment. -/
def assign (container : Value) (key : String) (v : Value) : Except Fault Value :=
  match entriesOf container with
  | some es => .ok (Yaml.mappingValue (Yaml.addEntry es (.str key) v))
  | none =>
    match container with
    | .list _ => .error (.wrongKind "list indices must be integers or slices, not str")
    | c => .error (.wrongKind ("'" ++ c.kindName ++ "' object does not support item assignment"))

/-- Set `key` in the part `part` of a mapping, creating the part as an empty mapping when it
is missing. -/
def assignIn (doc : Value) (part key : String) (v : Value) : Except Fault Value :=
  match entriesOf doc with
  | none => .error (.noAttribute doc.kindName "setdefault")
  | some es => do
    let current := ((es.find? fun e => Yaml.sameKey (.str part) e.1).map Prod.snd).getD (.obj [])
    let updated ← assign current key v
    return Yaml.mappingValue (Yaml.addEntry es (.str part) updated)

/-- The explicit values after the environment's overrides. -/
def overrides (h : Host) (doc : Value) : Except Fault Value := do
  let mut doc := doc
  if let some url := h.nonEmpty? "MONGO_URL" then doc ← assignIn doc "mongo" "url" (.str url)
  if let some name := h.nonEmpty? "MONGO_DB_NAME" then
    doc ← assignIn doc "mongo" "db_name" (.str name)
  if let some servers := h.nonEmpty? "KAFKA_BOOTSTRAP_SERVERS" then
    doc ← assignIn doc "kafka" "bootstrap_servers" (.str servers)
    doc ← assignIn doc "kafka" "enabled" (.bool true)
  if let some file := h.nonEmpty? "FY_SETTINGS_FILE" then
    doc ← assign doc "settings_file" (.str file)
  if let some level := h.nonEmpty? "FY_LOG_LEVEL" then doc ← assign doc "log_level" (.str level)
  return doc

/-- The explicit values as the configuration's fields, from a mapping with text keys only: each
field takes the value of the first key that matches its name without regard to case, and keys
that match no field are dropped. -/
def explicitFields (doc : Value) : Except Fault (List (String × Value)) :=
  match doc with
  | .obj fs => .ok (AppConfig.fieldNames.filterMap fun field =>
      (fs.find? fun (k, _) => Unicode.lower k == field).map fun (_, v) => (field, v))
  | .dict _ => .error .keywordsNotText
  | v => .error (.notAMapping recordName v.kindName)

/-- The fields of each nested part, as case-insensitive matching maps names to them. -/
def partFields : String → List String
  | "mongo" => ["url", "db_name"]
  | "kafka" => ["enabled", "bootstrap_servers", "topic", "client_id"]
  | "engine" => ["historical_weeks", "forecast_window", "trend_window", "default_capacity"]
  | _ => []

/-- A nested part's mapping with its keys renamed to the part's fields they match without
regard to case; a key given twice keeps its first place and its last value. -/
def matchCase (part : String) (v : Value) : Value :=
  match v with
  | .obj fs =>
    .obj (fs.foldl (fun acc (k, x) =>
      let name := ((partFields part).find? (· == Unicode.lower k)).getD k
      Value.setField acc name x) [])
  | v => v

/-- The values a set of variables gives the configuration's fields, the variables' names in
lower case. -/
def fromVariables (vars : List (String × Option String)) (source : String) :
    Except Fault (List (String × Value)) :=
  AppConfig.fieldNames.foldlM (fun acc field => do
    match (vars.lookup field).join with
    | none => return acc
    | some text =>
      if AppConfig.nestedFields.contains field then
        match Json.parse text with
        | .error _ => throw (.badEnvironmentValue field source)
        | .ok .null => return acc
        | .ok v => return acc ++ [(field, matchCase field v)]
      else return acc ++ [(field, .str text)]) []

/-- Variables with their names in lower case; of two names that agree so, the later wins. -/
def lowered (vars : List (String × Option String)) : List (String × Option String) :=
  vars.foldl (fun acc (k, v) => Value.setEntry acc (Unicode.lower k) v) []

mutual

/-- How deeply a value nests. -/
def nesting : Value → Nat
  | .list xs => nestingOfList xs + 1
  | .obj fs => nestingOfFields fs + 1
  | .dict es => nestingOfEntries es + 1
  | _ => 0

/-- How deeply the items of a list nest. -/
def nestingOfList : List Value → Nat
  | [] => 0
  | x :: xs => max (nesting x) (nestingOfList xs)

/-- How deeply the values of fields nest. -/
def nestingOfFields : List (String × Value) → Nat
  | [] => 0
  | (_, x) :: fs => max (nesting x) (nestingOfFields fs)

/-- How deeply the keys and values of entries nest. -/
def nestingOfEntries : List (Value × Value) → Nat
  | [] => 0
  | (k, x) :: es => max (max (nesting k) (nesting x)) (nestingOfEntries es)

end

/-- `base` updated by `top`: where both hold a mapping under one key the two are merged the
same way, otherwise the value of `top` replaces. The fuel is the nesting of `base`,
since only a key under which both hold a mapping is merged further. -/
def deepUpdate : Nat → Value → Value → Value
  | 0, _, top => top
  | fuel + 1, base, top =>
    match entriesOf base, entriesOf top with
    | some bs, some ts =>
      Yaml.mappingValue (ts.foldl (fun acc (k, v) =>
        match acc.find? fun e => Yaml.sameKey k e.1 with
        | some (_, old) =>
          if (entriesOf old).isSome && (entriesOf v).isSome then
            Yaml.addEntry acc k (deepUpdate fuel old v)
          else Yaml.addEntry acc k v
        | none => Yaml.addEntry acc k v) bs)
    | _, _ => top

/-- Layer `top` over `base`. -/
def layer (base top : List (String × Value)) : List (String × Value) :=
  let top := Value.obj top
  match deepUpdate (nesting (.obj base) + 1) (.obj base) top with
  | .obj fs => fs
  | _ => []

/-- The configuration file: the one named by the caller, else by `FY_CONFIG_FILE`, else
`config.yaml`. -/
def pathOf (h : Host) (path? : Option String) : String :=
  path?.getD ((h.getenv "FY_CONFIG_FILE").getD "config.yaml")

/-- The explicit values read from the configuration file at `path` (empty when there is none),
before the environment's overrides. -/
def fileValues (h : Host) (path : String) : Except Fault Value :=
  match h.read? path with
  | none => .ok (.obj [])
  | some text =>
    match Yaml.load path text with
    | .ok v => .ok (if v.truthy then v else .obj [])
    | .error (.badYaml _ text) => .error (.configUnreadable path text)
    | .error f => .error f

end ConfigLoad

open ConfigLoad in
/-- The configuration, loaded from the file at `path?` (else `FY_CONFIG_FILE`, else
`config.yaml`), the environment, and `.env`. -/
def loadConfig (h : Host) (path? : Option String) : Except Fault AppConfig := do
  let doc ← overrides h (← fileValues h (pathOf h path?))
  let explicit ← explicitFields doc
  let env ← fromVariables (lowered (h.environ.map fun p => (p.1, some p.2))) "EnvSettingsSource"
  let dotenv ← match h.read? ".env" with
    | none => pure []
    | some text => fromVariables (lowered (DotEnv.values h.environ text)) "DotEnvSettingsSource"
  let state := layer dotenv (layer env explicit)
  (AppConfig.ofFields ⟨state⟩).mapError Fault.invalid

end TransitRevenue
