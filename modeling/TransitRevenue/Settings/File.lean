import TransitRevenue.Settings
import TransitRevenue.Yaml.Node
import TransitRevenue.Yaml.Printer
/-!
Settings kept in a YAML file, under its `settings` key.

Reading takes the file's single document (an empty or false one counts as an empty mapping),
looks up `settings` in it, and reads the settings from that section; a missing file, or a
section that is missing or false (`null`, `0`, `{}`, `[]`, an empty text), holds no settings.
A document that is not a mapping has no keys to look up, a section that is not a mapping
cannot supply settings, and a mapping with a key that is not a text cannot name fields: each is
a type fault. A field that does not read is reported as invalid settings, with its place.

Writing produces the document `settings:` with the settings' fields, sorted, leaving out the
unset update moment and author, and the moment written as its text.
-/

namespace TransitRevenue.SettingsFile

/-- The name under which the settings record is built, as errors about its keywords show it. -/
def recordName : String := "fleetyield.core.domain.settings.SystemSettings"

/-- The value under `key` of a document, as a mapping lookup; a document that is not a
mapping has no such lookup. -/
def lookup (doc : Value) (key : String) : Except Fault Value :=
  match doc with
  | .obj fs => .ok ((Value.field? fs key).getD .null)
  | .dict es =>
    .ok (((es.find? fun (k, _) => k.str? == some key).map Prod.snd).getD .null)
  | v => .error (.noAttribute v.kindName "get")

/-- The settings of a section: its fields must be named by texts, and read as settings. -/
def ofSection (part : Value) : Except Fault Settings :=
  match part with
  | .obj _ => (Settings.ofValue part).mapError fun i => .invalidSettings i.text
  | .dict _ => .error .keywordsNotText
  | v => .error (.notAMapping recordName v.kindName)

/-- What a settings path names: nothing, a directory (with its path as written back), or a file
with its text. -/
inductive Source where
  | missing
  | directory (shown : String)
  | file (text : String)
  deriving Inhabited

/-- The settings held at a path (`path` as messages name it): none when nothing is there; a
directory cannot be read. -/
def read (path : String) (source : Source) : Except Fault (Option Settings) := do
  match source with
  | .missing => return none
  | .directory shown => throw (.isDirectory shown)
  | .file text =>
    let doc ← Yaml.load path text
    let doc := if doc.truthy then doc else .obj []
    let part ← lookup doc "settings"
    if part.truthy then return some (← ofSection part) else return none

/-- The settings as the file keeps them: every field but an unset update moment or author, the
moment as its text. -/
def stored (s : Settings) : Value :=
  .obj ((s.fields fun t => .str t.zuluText).filter fun (_, v) => match v with | .null => false | _ => true)

/-- The text of a file holding `s`. -/
def render (s : Settings) : String :=
  Yaml.dump (.obj [("settings", stored s)])

end TransitRevenue.SettingsFile
