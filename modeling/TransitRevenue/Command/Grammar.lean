import TransitRevenue.Calendar.Iso
import TransitRevenue.Text.Numeral
/-!
The command line of the engine: its options and subcommands as data, and how each option's text
becomes a value.

The program takes `--config PATH` and one subcommand: `forecast`, `forecasts`, `price`,
`trip-analytics`, `profitability`, `dashboard` or `settings`, each with its own options. Every
parser also takes `-h`/`--help`.

Option values are read the way the command line reads them:
* an integer and a number are read as `Numeral.readInt` (in base 10) and `Numeral.readFloat?`
  read them;
* a date or moment is ISO text, read as `Iso.date?` and `Iso.moment?` read it;
* a text is taken as it stands.
-/

namespace TransitRevenue

namespace Command

/-! ## Reading numbers -/

/-- An integer text, as `Numeral.readInt` reads it in base 10. -/
def intOfText? (s : String) : Option Int := (Numeral.readInt s 10).toOption

/-- A number text, as the nearest double. -/
def floatOfText? (s : String) : Option Float := Numeral.readFloat? s

/-! ## The grammar -/

/-- The kind of value an option takes. -/
inductive Kind where
  | int
  | float
  | date
  | moment
  | text
  deriving BEq, Inhabited

/-- A value given on the command line. -/
inductive Given where
  | int (n : Int)
  | float (x : Float)
  | date (d : Date)
  | moment (t : Moment)
  | text (s : String)
  | flag
  deriving Inhabited

/-- The value of an option's text, when it reads as its kind. -/
def Kind.read (k : Kind) (s : String) : Option Given :=
  match k with
  | .int => (intOfText? s).map .int
  | .float => (floatOfText? s).map .float
  | .date => (Iso.date? s).map .date
  | .moment => (Iso.moment? s).map .moment
  | .text => some (.text s)

/-- What an option does with the command line: take the next value, set a flag, or show the
help and stop. -/
inductive Takes where
  | value (kind : Kind)
  | flag
  | help
  deriving BEq, Inhabited

/-- An option: the strings that name it, where its value goes, what it takes, whether it must
be given, and its help line. -/
structure Opt where
  flags : List String
  dest : String
  takes : Takes
  required : Bool := false
  help : Option String := none
  deriving Inhabited

/-- The name shown for an option's value: its destination in capitals. -/
def Opt.metavar (o : Opt) : String := o.dest.toUpper

/-- The help option every parser has. -/
def helpOpt : Opt :=
  { flags := ["-h", "--help"], dest := "help", takes := .help,
    help := some "show this help message and exit" }

/-- A value option. -/
def valueOpt (flag dest : String) (kind : Kind) (required : Bool) (help : Option String := none) :
    Opt :=
  { flags := [flag], dest, takes := .value kind, required, help }

/-- A subcommand: its name, its help line in the program's help, and its options. -/
structure Subcommand where
  name : String
  help : String
  options : List Opt
  deriving Inhabited

/-- The program: its name, description, options and subcommands. -/
structure Program where
  prog : String
  description : String
  options : List Opt
  commands : List Subcommand
  deriving Inhabited

/-- The engine's command line. -/
def program : Program where
  prog := "fleetyield"
  description := "Demand and revenue analytics engine"
  options := [helpOpt, valueOpt "--config" "config" .text false (some "Path to config.yaml")]
  commands := [
    { name := "forecast", help := "Forecast demand of a route",
      options := [helpOpt, valueOpt "--route-id" "route_id" .int true,
        valueOpt "--date" "date" .date false (some "YYYY-MM-DD, default tomorrow")] },
    { name := "forecasts", help := "List stored forecasts of a route",
      options := [helpOpt, valueOpt "--route-id" "route_id" .int true,
        valueOpt "--from" "start" .date true, valueOpt "--to" "end" .date true] },
    { name := "price", help := "Calculate a recommended price",
      options := [helpOpt, valueOpt "--base-price" "base_price" .float true,
        valueOpt "--passengers" "passengers" .int true, valueOpt "--capacity" "capacity" .int true,
        valueOpt "--departure" "departure" .moment true,
        valueOpt "--trip-id" "trip_id" .int false (some "Store the recommendation for this trip")] },
    { name := "trip-analytics", help := "Show or recompute trip profitability",
      options := [helpOpt, valueOpt "--trip-id" "trip_id" .int true,
        { flags := ["--recompute"], dest := "recompute", takes := .flag }] },
    { name := "profitability", help := "Profitability report for a period",
      options := [helpOpt, valueOpt "--from" "start" .date true, valueOpt "--to" "end" .date true,
        valueOpt "--route-id" "route_id" .int false] },
    { name := "dashboard", help := "Headline figures for the last 7 days", options := [helpOpt] },
    { name := "settings", help := "Show current settings",
      options := [helpOpt,
        valueOpt "--validate-file" "validate_file" .text false
          (some "Validate a settings YAML file and exit")] }]

end Command

end TransitRevenue
