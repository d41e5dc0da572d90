import TransitRevenue.Text.Quote
/-!
Why an operation of the library can fail.

Each constructor is one cause, with the data its message needs; `Fault.message` holds every
wording in one place. Arithmetic causes (a zero divisor, a value too large for a double, an
infinity or NaN where an integer is needed) come first, then the checks of input records
(`Issue`), of settings, of references to records that do not exist, and of configuration text.
-/

namespace TransitRevenue

/-- One failed check of an input record: where it failed (field names, list positions, or
`[key]` for a mapping's key) and what was wrong there. -/
structure Issue where
  loc : List String
  msg : String
  deriving Repr, BEq, Inhabited

namespace Issue

/-- The location joined with dots, then the message. -/
def text (i : Issue) : String := ".".intercalate i.loc ++ ": " ++ i.msg

/-- The same issue one level deeper, under the field or position `outer`. -/
def within (outer : String) (i : Issue) : Issue := ⟨outer :: i.loc, i.msg⟩

end Issue

/-- The stage of reading YAML text at which it was found malformed. -/
inductive YamlStage where
  | reading
  | scanning
  | parsing
  | composing
  | constructing
  deriving Repr, BEq, Inhabited

/-- The causes of failure. -/
inductive Fault where
  /-- An integer divided by zero. -/
  | divisionByZero
  /-- A division by zero where a double is involved. -/
  | floatDivisionByZero
  /-- An integer too large to become a double. -/
  | intTooLarge
  /-- A quotient of integers too large to become a double. -/
  | quotientTooLarge
  /-- An infinite double where an integer is needed. -/
  | infinityToInt
  /-- A NaN where an integer is needed. -/
  | nanToInt
  /-- A moving-average window below one; `shown` is its text. -/
  | windowTooSmall (shown : String)
  /-- An input record failed a check. -/
  | invalid (issue : Issue)
  /-- Settings break a business rule, stated by `constraint`. -/
  | invalidSettings (constraint : String)
  /-- A record the operation needs does not exist. -/
  | missing (entity : String) (id : String)
  /-- A value of kind `kind` was asked for an attribute it lacks. -/
  | noAttribute (kind : String) (attr : String)
  /-- Values of the wrong kind were combined; `text` says how. -/
  | wrongKind (text : String)
  /-- A log level that is not one of the known names; `shown` is its quoted text. -/
  | unknownLevel (shown : String)
  /-- YAML text is malformed; `text` gives the problem and its place. -/
  | badYaml (stage : YamlStage) (text : String)
  /-- A value outside the range its type allows; `text` says which. -/
  | outOfRange (text : String)
  /-- The first character of an empty text was asked for. -/
  | emptyText
  /-- A directory was opened as a file; `shown` is its path as written back. -/
  | isDirectory (shown : String)
  /-- Keyword arguments for `callee` were given by a value of kind `kind`, not a mapping. -/
  | notAMapping (callee : String) (kind : String)
  /-- Keyword arguments were given by a mapping with a key that is not a text. -/
  | keywordsNotText
  /-- The configuration file at `path` could not be read; `cause` says why. -/
  | configUnreadable (path : String) (cause : String)
  /-- An environment value for a structured field is not valid JSON. -/
  | badEnvironmentValue (field : String) (source : String)
  /-- A text that is no decimal number where a double is needed; `shown` is the quoted text. -/
  | notANumber (shown : String)
  /-- A stored document lacks a field the operation reads. -/
  | noField (key : String)
  /-- A failure injected into a message producer, of the given kind. -/
  | producerFailed (kind : String) (text : String)
  /-- The database client refused its address or database name, with an error of the given
  kind. -/
  | clientRefused (kind : String) (text : String)
  /-- A settings file to be checked holds no settings. -/
  | noSettingsIn (path : String)
  deriving Repr, BEq, Inhabited

namespace Fault

/-- The message of a fault. -/
def message : Fault → String
  | .divisionByZero => "division by zero"
  | .floatDivisionByZero => "float division by zero"
  | .intTooLarge => "int too large to convert to float"
  | .quotientTooLarge => "integer division result too large for a float"
  | .infinityToInt => "cannot convert float infinity to integer"
  | .nanToInt => "cannot convert float NaN to integer"
  | .windowTooSmall shown => "window must be at least 1, got " ++ shown
  | .invalid issue => issue.text
  | .invalidSettings constraint => constraint
  | .missing entity id => entity ++ " " ++ id ++ " not found"
  | .noAttribute kind attr => "'" ++ kind ++ "' object has no attribute '" ++ attr ++ "'"
  | .wrongKind text => text
  | .unknownLevel shown => "Unknown level: " ++ shown
  | .badYaml _ text => text
  | .outOfRange text => text
  | .emptyText => "string index out of range"
  | .isDirectory shown => "[Errno 21] Is a directory: " ++ Text.quoted shown
  | .notAMapping callee kind => callee ++ "() argument after ** must be a mapping, not " ++ kind
  | .keywordsNotText => "keywords must be strings"
  | .configUnreadable path cause => "Failed to load configuration from " ++ path ++ ": " ++ cause
  | .badEnvironmentValue field source =>
    "error parsing value for field \"" ++ field ++ "\" from source \"" ++ source ++ "\""
  | .notANumber shown => "could not convert string to float: " ++ shown
  | .noField key => Text.quoted key
  | .producerFailed _ text => text
  | .clientRefused _ text => text
  | .noSettingsIn path => "no settings found in " ++ path

/-- Faults of the engine's own rules (bad settings, missing records or settings), which the command line
reports by its exit status rather than letting them escape. -/
def isEngineFault : Fault → Bool
  | .invalidSettings _ => true
  | .missing _ _ => true
  | .noSettingsIn _ => true
  | _ => false

end Fault

end TransitRevenue
