import TransitRevenue.Command.Grammar
import TransitRevenue.Text.Wrap
/-!
The help text of the program and of each subcommand.

A help text is a usage line, the description if there is one, the subcommands (for the program)
and the options, each listed with its help. The text is laid out for a terminal of a given number
of columns (80 when unknown), two fewer being usable:
* the usage line is `usage: ` and the invocation; when too long it is wrapped, its parts
  following the program name on lines indented under the first part;
* an entry's help starts at a column that fits the longest entry, but at most 24 (less on narrow
  terminals); an entry too wide to leave two blanks before that column puts its help on the next
  line; help is wrapped (`Wrap.wrap`) to the width left, and the description to the usable
  width, both at least 11;
* sections are separated by one blank line.
-/

namespace TransitRevenue

namespace Command

namespace Help

/-- The measures of a help text: the usable width and the furthest column help may start at. -/
structure Measure where
  width : Nat
  maxHelp : Nat

/-- The measures for a terminal of `columns` columns. -/
def Measure.ofColumns (columns : Nat) : Measure :=
  let width := columns - 2
  { width, maxHelp := min 24 (max (width - 20) 4) }

/-- Blanks. -/
def blanks (n : Nat) : String := String.ofList (List.replicate n ' ')

/-- A text padded with blanks to `n` characters. -/
def padTo (n : Nat) (s : String) : String := s ++ blanks (n - s.length)

/-- Usage parts laid out on lines of `textWidth`: each line starts with `indent`, and the first,
when `lead` is given, is measured as if it started with it (the caller writes it). -/
def usageLines (textWidth : Nat) (parts : List String) (indent : String) (lead : Option String) :
    List String :=
  let start := match lead with
    | some p => p.length - 1
    | none => indent.length - 1
  let (lines, line, _) := parts.foldl (fun (lines, line, len) part =>
    if len + 1 + part.length > textWidth && !line.isEmpty then
      (lines ++ [indent ++ " ".intercalate line], [part], indent.length - 1 + part.length + 1)
    else (lines, line ++ [part], len + part.length + 1)) (([] : List String), ([] : List String), start)
  let lines := if line.isEmpty then lines else lines ++ [indent ++ " ".intercalate line]
  match lead, lines with
  | some _, first :: rest => (first.drop indent.length).toString :: rest
  | _, ls => ls

/-- How an option appears in the usage line, as wrappable parts. -/
def usageOf (o : Opt) : List String :=
  let first := o.flags.headD ""
  let core := match o.takes with
    | .value _ => [first, o.metavar]
    | _ => [first]
  if o.required then core else ["[" ++ " ".intercalate core ++ "]"]

/-- How an entry is introduced in the option list. -/
def invocation (o : Opt) : String :=
  match o.takes with
  | .value _ => ", ".intercalate (o.flags.map (· ++ " " ++ o.metavar))
  | _ => ", ".intercalate o.flags

/-- The usage section: `usage: `, the program and its parts, wrapped when too long. -/
def usage (m : Measure) (prog : String) (optParts posParts : List String) : String :=
  let lead := "usage: "
  let full := " ".intercalate ([prog] ++ optParts ++ posParts)
  let body :=
    if lead.length + full.length ≤ m.width then full
    else if (lead.length + prog.length) * 4 ≤ 3 * m.width then
      let indent := blanks (lead.length + prog.length + 1)
      let lines :=
        if !optParts.isEmpty then
          usageLines m.width (prog :: optParts) indent (some lead) ++
            usageLines m.width posParts indent none
        else if !posParts.isEmpty then usageLines m.width (prog :: posParts) indent (some lead)
        else [prog]
      "\n".intercalate lines
    else
      let indent := blanks lead.length
      let lines := usageLines m.width (optParts ++ posParts) indent none
      let lines := if lines.length > 1 then
          usageLines m.width optParts indent none ++ usageLines m.width posParts indent none
        else lines
      "\n".intercalate (prog :: lines)
  lead ++ body

/-- One entry of a list: its invocation and help, at indentation `indent`, help starting at
column `helpAt`. -/
def entry (m : Measure) (helpAt indent : Nat) (head : String) (help : Option String) : String :=
  let helpWidth := max (m.width - helpAt) 11
  let width := helpAt - indent - 2
  match help with
  | none => blanks indent ++ head ++ "\n"
  | some h =>
    let lines := Wrap.wrap helpWidth h
    let (first, firstIndent) :=
      if head.length ≤ width then (blanks indent ++ padTo width head ++ "  ", 0)
      else (blanks indent ++ head ++ "\n", helpAt)
    let rest := lines.drop 1
    first ++ (match lines.head? with
      | some l => blanks firstIndent ++ l ++ "\n"
      | none => "") ++
      String.join (rest.map fun l => blanks helpAt ++ l ++ "\n")

/-- The column help starts at, for entries whose widest (indented) invocation has `widest`
characters. -/
def helpColumn (m : Measure) (widest : Nat) : Nat := min (widest + 2) m.maxHelp

/-- Sections joined: each non-empty section under its heading, one blank line between. -/
def sections (parts : List String) : String :=
  "\n\n".intercalate (parts.filter (!·.isEmpty)) ++ "\n"

/-- The help text of a subcommand. -/
def ofSubcommand (m : Measure) (prog : String) (c : Subcommand) : String :=
  let widest := (c.options.map fun o => (invocation o).length + 2).foldl max 0
  let at_ := helpColumn m widest
  let opts := String.join (c.options.map fun o => entry m at_ 2 (invocation o) o.help)
  sections [usage m (prog ++ " " ++ c.name) (c.options.flatMap usageOf) [],
    "options:\n" ++ (opts.dropEnd 1).toString]

/-- The help text of the program. -/
def ofProgram (m : Measure) (p : Program) : String :=
  let choices := "\x7b" ++ ",".intercalate (p.commands.map (·.name)) ++ "\x7d"
  let widest := ((choices.length + 2) :: p.options.map fun o => (invocation o).length + 2).foldl max 0
  let widest := (p.commands.map fun c => c.name.length + 2).foldl max widest
  let at_ := helpColumn m widest
  let positional := blanks 2 ++ choices ++ "\n" ++
    String.join (p.commands.map fun c => entry m at_ 4 c.name (some c.help))
  let opts := String.join (p.options.map fun o => entry m at_ 2 (invocation o) o.help)
  sections [usage m p.prog (p.options.flatMap usageOf) [choices, "..."],
    String.intercalate "\n" (Wrap.wrap (max m.width 11) p.description),
    "positional arguments:\n" ++ (positional.dropEnd 1).toString,
    "options:\n" ++ (opts.dropEnd 1).toString]

end Help

end Command

end TransitRevenue
