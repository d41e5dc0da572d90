import TransitRevenue.Value
/-!
Reading a `.env` file: lines of `NAME=value`.

A line may start with `export `; a name is a run of characters other than `=`, `#` and blanks,
or any text in single quotes. The value after `=` (and the blanks after it) is
* in single quotes: its text, where `\\` and `\'` stand for `\` and `'`;
* in double quotes: its text, where `\\`, `\'`, `\"`, `\a`, `\b`, `\f`, `\n`, `\r`, `\t` and `\v`
  are escapes;
* empty at the end of the line;
* empty when blanks after `=` are followed by `#`, which starts a comment;
* otherwise the rest of the line, cut at the first `#` that follows a blank, with trailing
  blanks removed.
In a quoted value a backslash takes the next character with it, a line end too, so an escaped
quote never closes the value; quoted values may span lines.
A line with a name but no `=` gives the name with no value. A comment (`#`) may end a line.
A line that does not read this way is skipped whole, and reading goes on at the next line.

Values may refer to other variables as `${NAME}` or `${NAME:-default}`: the name is looked up
first among the values read before it in the file, then in the environment, and the default
(or the empty text) stands in otherwise; a name read without a value stands for the empty text.
-/

namespace TransitRevenue.DotEnv

/-- Whitespace: the ASCII blanks and line ends, the separators `\x1c`–`\x1f`, and the Unicode
spaces. -/
def isSpace (c : Char) : Bool :=
  let n := c.toNat
  n == 0x20 || (0x09 ≤ n && n ≤ 0x0d) || (0x1c ≤ n && n ≤ 0x1f) || n == 0x85 || n == 0xa0 ||
  n == 0x1680 || (0x2000 ≤ n && n ≤ 0x200a) || n == 0x2028 || n == 0x2029 || n == 0x202f ||
  n == 0x205f || n == 0x3000

/-- Whitespace other than a line end. -/
def isLineSpace (c : Char) : Bool := isSpace c && c != '\n' && c != '\r'

/-- Line ends normalized to `\n`, as a file read as text sees them. -/
def normalize : List Char → List Char
  | '\r' :: '\n' :: r => '\n' :: normalize r
  | '\r' :: r => '\n' :: normalize r
  | c :: r => c :: normalize r
  | [] => []

/-- The input after the rest of the current line and its line end. -/
def skipLine (cs : List Char) : List Char :=
  match cs.dropWhile (· != '\n') with
  | '\n' :: r => r
  | r => r

/-- The body of a quoted value after its opening quote `q`, and the input after the closing
quote: a backslash takes the next character with it, whatever it is; `none` when no closing quote
follows. -/
def quotedBody (q : Char) : List Char → List Char → Option (List Char × List Char)
  | [], _ => none
  | '\\' :: c :: r, acc => quotedBody q r (c :: '\\' :: acc)
  | c :: r, acc =>
    if c == q then some (acc.reverse, r)
    else if c == '\\' then none
    else quotedBody q r (c :: acc)

/-- Decode the escapes `\` followed by one of `escapes`. -/
def unescape (escapes : List (Char × Char)) : List Char → List Char
  | '\\' :: c :: r =>
    match escapes.lookup c with
    | some d => d :: unescape escapes r
    | none => '\\' :: unescape escapes (c :: r)
  | c :: r => c :: unescape escapes r
  | [] => []

/-- The escapes of single-quoted values. -/
def singleEscapes : List (Char × Char) := [('\\', '\\'), ('\'', '\'')]

/-- The escapes of double-quoted values. -/
def doubleEscapes : List (Char × Char) :=
  [('\\', '\\'), ('\'', '\''), ('"', '"'), ('a', '\x07'), ('b', '\x08'), ('f', '\x0c'),
   ('n', '\n'), ('r', '\r'), ('t', '\t'), ('v', '\x0b')]

/-- An unquoted value: cut at the first `#` after a blank, trailing blanks removed. -/
def unquoted (part : List Char) : List Char :=
  let rec cut : List Char → Nat → Option Nat → Nat
    | [], i, _ => i
    | c :: r, i, run =>
      if c == '#' && run.isSome then run.getD i
      else if isSpace c then cut r (i + 1) (run.orElse fun _ => some i)
      else cut r (i + 1) none
  ((part.take (cut part 0 none)).reverse.dropWhile isSpace).reverse

/-- An unquoted value running to the end of the line, and the input after it. -/
def restOfLine (cs : List Char) : List Char × List Char :=
  let part := cs.takeWhile (· != '\n')
  (unquoted part, cs.drop part.length)

/-- The value after `=` and its blanks (`spaced` when there were some), and the input after it;
`none` when a quoted value is not closed. -/
def value (spaced : Bool) (cs : List Char) : Option (List Char × List Char) :=
  match cs with
  | '\'' :: r => (quotedBody '\'' r []).map fun (b, r) => (unescape singleEscapes b, r)
  | '"' :: r => (quotedBody '"' r []).map fun (b, r) => (unescape doubleEscapes b, r)
  | [] => some ([], [])
  | '\n' :: r => some ([], '\n' :: r)
  | '#' :: r => if spaced then some ([], '#' :: r) else some (restOfLine ('#' :: r))
  | r => some (restOfLine r)

/-- The name at the start of a binding: `none` for a comment, an error for no name. -/
def name (cs : List Char) : Except Unit (Option (List Char) × List Char) :=
  match cs with
  | '#' :: _ => .ok (none, cs)
  | '\'' :: r =>
    let n := r.takeWhile (· != '\'')
    match r.drop n.length with
    | '\'' :: rest => if n.isEmpty then .error () else .ok (some n, rest)
    | _ => .error ()
  | _ =>
    let n := cs.takeWhile fun c => c != '=' && c != '#' && !isSpace c
    if n.isEmpty then .error () else .ok (some n, cs.drop n.length)

/-- The end of a binding: an optional comment, blanks, and a line end or the end of input. -/
def lineEnd (cs : List Char) : Option (List Char) :=
  let afterBlanks := cs.dropWhile isLineSpace
  let cs := match afterBlanks with
    | '#' :: r => r.dropWhile (· != '\n')
    | _ => cs
  match cs.dropWhile isLineSpace with
  | '\n' :: r => some r
  | [] => some []
  | _ => none

/-- One binding, after the whitespace before it: a name with an optional value, or `none` for a
comment or a line that does not read; and the input after it. -/
def binding (cs : List Char) : Option (String × Option String) × List Char :=
  let cs := match cs with
    | 'e' :: 'x' :: 'p' :: 'o' :: 'r' :: 't' :: c :: r =>
      if isLineSpace c then r.dropWhile isLineSpace else cs
    | _ => cs
  match name cs with
  | .error () => (none, skipLine cs)
  | .ok (key, r) =>
    let r := r.dropWhile isLineSpace
    let parsed : Option (Option (List Char) × List Char) := match r with
      | '=' :: r =>
        let r' := r.dropWhile isLineSpace
        (value (r'.length < r.length) r').map fun (v, r) => (some v, r)
      | _ => some (none, r)
    match parsed with
    | none => (none, skipLine r)
    | some (v, rest) =>
      match lineEnd rest with
      | none => (none, skipLine rest)
      | some after => (key.map fun k => (String.ofList k, v.map String.ofList), after)

/-- Every binding of a text, in order; each step reads at least one character. -/
def bindingsOf : Nat → List Char → List (String × Option String)
  | 0, _ => []
  | fuel + 1, cs =>
    match cs.dropWhile isSpace with
    | [] => []
    | cs =>
      let (b, rest) := binding cs
      let rest := if rest.length < cs.length then rest else cs.drop 1
      match b with
      | some b => b :: bindingsOf fuel rest
      | none => bindingsOf fuel rest

/-- The bindings of a `.env` text, uninterpreted; a byte order mark at its start is skipped. -/
def parse (text : String) : List (String × Option String) :=
  let cs := match normalize text.toList with
    | '\uFEFF' :: r => r
    | cs => cs
  bindingsOf (cs.length + 1) cs

/-- A reference `${name}` or `${name:-default}` at the start of the input, and the input after
it. -/
def reference (cs : List Char) : Option ((List Char × Option (List Char)) × List Char) :=
  match cs with
  | '$' :: '{' :: r =>
    let n := r.takeWhile fun c => c != '}' && c != ':'
    match r.drop n.length with
    | '}' :: rest => some ((n, none), rest)
    | ':' :: '-' :: r =>
      let d := r.takeWhile (· != '}')
      match r.drop d.length with
      | '}' :: rest => some ((n, some d), rest)
      | _ => none
    | _ => none
  | _ => none

/-- A value with its references replaced, looking names up with `find`. -/
def expand (find : String → Option (Option String)) : Nat → List Char → String
  | 0, _ => ""
  | _, [] => ""
  | fuel + 1, c :: r =>
    match reference (c :: r) with
    | some ((n, d), rest) =>
      let dflt := String.ofList (d.getD [])
      let v := match find (String.ofList n) with
        | some v => v.getD ""
        | none => dflt
      v ++ expand find fuel rest
    | none => c.toString ++ expand find fuel r

/-- The variables a `.env` text sets, with references expanded against the values before them
and then `environ`; a name set twice keeps its first place and its last value. -/
def values (environ : List (String × String)) (text : String) : List (String × Option String) :=
  (parse text).foldl (fun acc (k, v) =>
    let find := fun (n : String) =>
      match acc.lookup n with
      | some v => some v
      | none => (environ.reverse.lookup n).map some
    let v := v.map fun v => expand find (v.length + 1) v.toList
    Value.setEntry acc k v) []

end TransitRevenue.DotEnv
