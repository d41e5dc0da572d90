import TransitRevenue.Command.Help
/-!
Reading the command line.

Each argument is first sorted: `--` ends the options (everything after it is a plain argument);
an argument naming an option, exactly or by an unambiguous beginning of a long name (`--route`
for `--route-id`), possibly with `=value` attached, is an option; a one-dash option may carry its
value or further one-dash flags right after it (`-hh`); an argument that looks like a negative
number, contains a blank, is empty or is a lone `-` is a plain argument; any other argument
starting with `-` is an unknown option. An ambiguous beginning is an error.

Then options are taken in order: a value option takes the next plain argument (or its attached
value) and reads it as its kind, a flag sets itself, and help stops everything and shows the help
text. In the program, the first plain argument names the subcommand, which reads all the
arguments after it by the same rules with its own options. Plain arguments that nothing takes,
unknown options and missing required options are errors. Errors are found in the order the
arguments are taken, so a help option shows its text only when no error comes before it.
-/

namespace TransitRevenue

namespace Command

/-- The outcome of reading the command line: show a help text, a usage error, or the options
given: the configuration path, the subcommand and its values by destination. -/
inductive Parsed where
  | help (text : String)
  | invalid
  | ok (config : Option String) (command : String) (values : List (String × Given))
  deriving Inhabited

/-- How one argument was sorted. -/
inductive Slot where
  | plain
  | separator
  | option (o : Option Opt) (named : String) (attached : Option String)
  deriving Inhabited

/-- The option named exactly by a string. -/
def findOpt (opts : List Opt) (s : String) : Option Opt :=
  opts.find? (·.flags.contains s)

/-- Every option string of a parser with its option, in order. -/
def optionStrings (opts : List Opt) : List (String × Opt) :=
  opts.flatMap fun o => o.flags.map (·, o)

/-- Whether a text looks like a negative number: `-` then digits, or `-`, digits, a point and
digits (a final line end allowed). -/
def looksNegative (s : String) : Bool :=
  let cs := s.toList
  let cs := if cs.getLast? == some '\n' then cs.dropLast else cs
  let isDigit := fun (c : Char) => (Unicode.digitValue? c).isSome
  match cs with
  | '-' :: r =>
    let whole := r.takeWhile isDigit
    match r.drop whole.length with
    | [] => !whole.isEmpty
    | '.' :: f => !f.isEmpty && f.all isDigit
    | _ => false
  | _ => false

/-- The options an argument may abbreviate or carry a value for. -/
def candidates (opts : List Opt) (arg : String) : List (Opt × String × Option String) :=
  let cs := arg.toList
  let strings := optionStrings opts
  if cs.getD 1 ' ' == '-' then
    let (beginning, attached) := match arg.splitOn "=" with
      | [a] => (a, none)
      | a :: rest => (a, some ("=".intercalate rest))
      | [] => (arg, none)
    strings.filterMap fun (s, o) => if s.startsWith beginning then some (o, s, attached) else none
  else
    let short := String.ofList (cs.take 2)
    let tail := String.ofList (cs.drop 2)
    strings.filterMap fun (s, o) =>
      if s == short then some (o, s, some tail)
      else if s.startsWith arg then some (o, s, none)
      else none

/-- Sort one argument; `none` when the argument is an ambiguous abbreviation. -/
def sortArg (opts : List Opt) (arg : String) : Option Slot :=
  let cs := arg.toList
  match cs with
  | [] => some .plain
  | c :: _ =>
    if c != '-' then some .plain
    else match findOpt opts arg with
    | some o => some (.option (some o) arg none)
    | none =>
      if cs.length == 1 then some .plain
      else
        let exact := match arg.splitOn "=" with
          | a :: rest@(_ :: _) => (findOpt opts a).map fun o => (o, a, "=".intercalate rest)
          | _ => none
        match exact with
        | some (o, a, v) => some (.option (some o) a (some v))
        | none =>
          match candidates opts arg with
          | [(o, s, attached)] => some (.option (some o) s attached)
          | _ :: _ :: _ => none
          | [] =>
            if looksNegative arg || cs.contains ' ' then some .plain
            else some (.option none arg none)

/-- Sort all arguments: everything after the first `--` is plain. -/
def sortAll (opts : List Opt) : List String → Option (List Slot)
  | [] => some []
  | "--" :: rest => some (.separator :: rest.map fun _ => .plain)
  | a :: rest => do
    let s ← sortArg opts a
    let ss ← sortAll opts rest
    return s :: ss

/-- What a parser has read so far: values by destination, the options seen, and the arguments
nothing took. -/
structure Reading where
  values : List (String × Given) := []
  seen : List String := []
  extras : List String := []
  deriving Inhabited

/-- A step's failure: show help, or a usage error. -/
inductive Stop where
  | help (text : String)
  | invalid
  deriving Inhabited

/-- Set the value of a destination: replaced where it was, added at the end otherwise. -/
def assign (values : List (String × Given)) (dest : String) (v : Given) : List (String × Given) :=
  if values.any (·.1 == dest) then values.map fun p => if p.1 == dest then (dest, v) else p
  else values ++ [(dest, v)]

/-- Take an option with its arguments. -/
def take (helpText : String) (r : Reading) (o : Opt) (args : List String) :
    Except Stop Reading :=
  let r := { r with seen := o.dest :: r.seen }
  match o.takes, args with
  | .help, _ => .error (.help helpText)
  | .flag, _ => .ok { r with values := assign r.values o.dest .flag }
  | .value kind, [a] =>
    match kind.read a with
    | some v => .ok { r with values := assign r.values o.dest v }
    | none => .error .invalid
  | .value _, _ => .error .invalid

/-- The number of arguments an option takes. -/
def arity (o : Opt) : Nat :=
  match o.takes with
  | .value _ => 1
  | _ => 0

/-- The option at position `i` with what it takes: the options to take in order (a run of
one-dash flags yields several) and the position after them. -/
def optionAt (opts : List Opt) (args : List String) (slots : List Slot) (i : Nat)
    (o : Opt) (named : String) (attached : Option String) :
    Except Stop (List (Opt × List String) × Nat) :=
  let rec chain : Nat → Opt → String → Option String → List (Opt × List String) →
      Except Stop (List (Opt × List String) × Nat)
    | 0, _, _, _, _ => .error .invalid
    | fuel + 1, o, named, attached, acc =>
      match attached with
      | some value =>
        if arity o == 1 then .ok (acc ++ [(o, [value])], i + 1)
        else if named.toList.getD 1 '-' != '-' && !value.isEmpty then
          let next := "-" ++ String.ofList (value.toList.take 1)
          let rest := String.ofList (value.toList.drop 1)
          match findOpt opts next with
          | some o' => chain fuel o' next (if rest.isEmpty then none else some rest) (acc ++ [(o, [])])
          | none => .error .invalid
        else .error .invalid
      | none =>
        if arity o == 1 then
          match slots[i + 1]? with
          | some .plain => .ok (acc ++ [(o, [args.getD (i + 1) ""])], i + 2)
          | _ => .error .invalid
        else .ok (acc ++ [(o, [])], i + 1)
  chain (named.length + (attached.map String.length).getD 0 + 2) o named attached []

/-- Take the options of a parser without positional arguments, in order; every plain argument
is left over. The values read and the arguments left over, unless help or an error stops the
reading. -/
def readOptions (opts : List Opt) (helpText : String) (args : List String) :
    Except Stop Reading := do
  let some slots := sortAll opts args | throw .invalid
  let rec go : Nat → Nat → Reading → Except Stop Reading
    | 0, _, r => pure r
    | fuel + 1, i, r =>
      match slots[i]? with
      | none => pure r
      | some (.option (some o) named attached) => do
        let (steps, next) ← optionAt opts args slots i o named attached
        let r ← steps.foldlM (fun r (o, a) => take helpText r o a) r
        go fuel next r
      | some _ => go fuel (i + 1) { r with extras := r.extras ++ [args.getD i ""] }
  let r ← go (args.length + 1) 0 {}
  if opts.any (fun o => o.required && !r.seen.contains o.dest) then throw .invalid
  return r

/-- Read the program's command line, help laid out for `columns` columns. -/
def readCommandLine (columns : Nat) (args : List String) : Parsed :=
  let m := Help.Measure.ofColumns columns
  let p := program
  let outcome : Except Stop (Option String × Option (String × Reading) × List String) := do
    let some slots := sortAll p.options args | throw .invalid
    let rec go : Nat → Nat → Reading → Except Stop (Reading × Option (String × Reading))
      | 0, _, r => pure (r, none)
      | fuel + 1, i, r =>
        match slots[i]? with
        | none => pure (r, none)
        | some (.option none _ _) => go fuel (i + 1) { r with extras := r.extras ++ [args.getD i ""] }
        | some (.option (some o) named attached) => do
          let (steps, next) ← optionAt p.options args slots i o named attached
          let r ← steps.foldlM (fun r (o, a) => take (Help.ofProgram m p) r o a) r
          go fuel next r
        | some .plain =>
          let name := args.getD i ""
          match p.commands.find? (·.name == name) with
          | none => throw .invalid
          | some c => do
            let sub ← readOptions c.options (Help.ofSubcommand m p.prog c) (args.drop (i + 1))
            pure (r, some (name, sub))
        | some .separator =>
          if i + 1 < args.length then throw .invalid
          else pure ({ r with extras := r.extras ++ ["--"] }, none)
    let (r, command) ← go (args.length + 1) 0 {}
    let config := match r.values.lookup "config" with
      | some (.text s) => some s
      | _ => none
    return (config, command, r.extras)
  match outcome with
  | .error (.help text) => .help text
  | .error .invalid => .invalid
  | .ok (_, none, _) => .invalid
  | .ok (config, some (name, sub), extras) =>
    if extras.isEmpty && sub.extras.isEmpty then .ok config name sub.values else .invalid

end Command

end TransitRevenue
