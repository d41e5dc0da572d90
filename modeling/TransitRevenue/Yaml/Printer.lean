import TransitRevenue.Yaml.Scalar
/-!
Writing values as YAML text in block style.

Mappings are written with their keys sorted, one entry per line and nested ones indented by two
spaces; lists are written one `- ` entry per line, not indented under a mapping key; empty
collections are written `{}` and `[]`. A scalar is written plain when it reads back as the same
value and has no character that plain text may not hold there, in single quotes when it can, and
otherwise in double quotes with escapes: characters outside printable ASCII are escaped
(`\xE9`, `\u2028`). A key is written in place (`key: value`) when it is shorter than 128
characters with its tag and holds no line break; otherwise it follows `? `. A double-quoted value
longer than 80 columns is folded at spaces. Doubles are written with their shortest digits, with
`.0` before an exponent, and as `.inf`, `-.inf` and `.nan`.
-/

namespace TransitRevenue.Yaml

/-- Doubles in YAML: the shortest digits, positional from 1e-4 up to 1e16, and `.0` kept in the
scientific form. -/
def yamlFloats : Layout :=
  { fixedFrom := -4, fixedTo := 15, plusSign := true, expWidth := 2, pointInScientific := true,
    nan := ".nan", inf := ".inf", negInf := "-.inf" }

/-- A value as the printer sees it: tagged scalars, sequences and mappings. -/
inductive Doc where
  | scalar (tag : String) (text : String)
  | sequence (items : List Doc)
  | mapping (pairs : List (Doc × Doc))
  deriving Inhabited

/-- The text of a key, used to sort mappings. -/
def Doc.keyText : Doc → String
  | .scalar _ s => s
  | _ => ""

/-- Pairs sorted by the text of their keys; the sort is stable. -/
def sortPairs (ps : List (Doc × Doc)) : List (Doc × Doc) :=
  ps.mergeSort fun a b => compare a.1.keyText b.1.keyText != .gt

mutual

/-- A value as a document: mappings sorted by key. -/
def Doc.ofValue : Value → Doc
  | .null => .scalar (stdTag "null") "null"
  | .bool b => .scalar (stdTag "bool") (if b then "true" else "false")
  | .int n => .scalar (stdTag "int") (toString n)
  | .float x => .scalar (stdTag "float") (yamlFloats.render x)
  | .str s => .scalar (stdTag "str") s
  | .date d => .scalar (stdTag "timestamp") d.iso
  | .time t => .scalar (stdTag "timestamp") t.spacedText
  | .ident _ => .scalar (stdTag "str") "ObjectId"
  | .bytes b => .scalar (stdTag "str") (Value.bytesCode b)
  | .list xs | .set xs => .sequence (Doc.ofList xs)
  | .obj fs => .mapping (sortPairs (Doc.ofFields fs))
  | .dict es => .mapping (sortPairs (Doc.ofEntries es))

/-- Items as documents. -/
def Doc.ofList : List Value → List Doc
  | [] => []
  | x :: xs => Doc.ofValue x :: Doc.ofList xs

/-- Fields as document pairs. -/
def Doc.ofFields : List (String × Value) → List (Doc × Doc)
  | [] => []
  | (k, v) :: fs => (.scalar (stdTag "str") k, Doc.ofValue v) :: Doc.ofFields fs

/-- Entries as document pairs. -/
def Doc.ofEntries : List (Value × Value) → List (Doc × Doc)
  | [] => []
  | (k, v) :: es => (Doc.ofValue k, Doc.ofValue v) :: Doc.ofEntries es

end

/-- What a scalar's text allows: which styles may write it, and whether it is empty or spans
lines. -/
structure Analysis where
  empty : Bool
  multiline : Bool
  flowPlain : Bool
  blockPlain : Bool
  singleQuoted : Bool
  block : Bool

/-- Whether a character breaks a line. -/
def isLineBreak (c : Char) : Bool := c == '\n' || c == '\x85' || c == '\u2028' || c == '\u2029'

/-- Whether a character is a blank, a line break or the end (NUL). -/
def isWhite (c : Char) : Bool := c == '\x00' || c == ' ' || c == '\t' || c == '\r' || isLineBreak c

/-- The styles a scalar's text allows (non-ASCII text counts as special). -/
def analyze (text : String) : Analysis :=
  let cs := text.toList
  if cs.isEmpty then
    { empty := true, multiline := false, flowPlain := false, blockPlain := true, singleQuoted := true,
      block := false }
  else
    let n := cs.length
    let at_ := fun (i : Nat) => cs.getD i '\x00'
    let docIndicator := text.startsWith "---" || text.startsWith "..."
    let step := fun (acc : Bool × Bool × Bool × Bool × Bool × Bool × Bool × Bool × Bool × Bool × Bool)
        (i : Nat) =>
      let (flowInd, blockInd, lineBreaks, special, leadSpace, leadBreak, trailSpace, trailBreak,
        breakSpace, spaceBreak, _) := acc
      let c := at_ i
      let precededByWhite := i == 0 || isWhite (at_ (i - 1))
      let followedByWhite := i + 1 ≥ n || isWhite (at_ (i + 1))
      let (fi, bi) :=
        if i == 0 then
          let fb1 := "#,[]\x7b\x7d&*!|>'\"%@`".contains c
          let fi := fb1 || c == '?' || c == ':' || (c == '-' && followedByWhite)
          let bi := fb1 || ((c == '?' || c == ':') && followedByWhite) || (c == '-' && followedByWhite)
          (fi, bi)
        else
          let fi := ",?[]\x7b\x7d".contains c || c == ':' || (c == '#' && precededByWhite)
          let bi := (c == ':' && followedByWhite) || (c == '#' && precededByWhite)
          (fi, bi)
      let lb := isLineBreak c
      let printable := c == '\n' || (' ' ≤ c && c ≤ '~')
      let sp := !printable
      let prevSpace := i > 0 && at_ (i - 1) == ' '
      let prevBreak := i > 0 && isLineBreak (at_ (i - 1))
      (flowInd || fi, blockInd || bi, lineBreaks || lb, special || sp,
        leadSpace || (c == ' ' && i == 0), leadBreak || (lb && i == 0),
        trailSpace || (c == ' ' && i == n - 1), trailBreak || (lb && i == n - 1),
        breakSpace || (c == ' ' && prevBreak), spaceBreak || (lb && prevSpace), false)
    let (flowInd, blockInd, lineBreaks, special, leadSpace, leadBreak, trailSpace, trailBreak,
      breakSpace, spaceBreak, _) := (List.range n).foldl step
        (docIndicator, docIndicator, false, false, false, false, false, false, false, false, false)
    let plainOk := !(leadSpace || leadBreak || trailSpace || trailBreak || breakSpace || spaceBreak ||
      special || lineBreaks)
    { empty := false, multiline := lineBreaks,
      flowPlain := plainOk && !flowInd,
      blockPlain := plainOk && !blockInd,
      singleQuoted := !(breakSpace || spaceBreak || special),
      block := !(trailSpace || spaceBreak || special) }

/-- The shorthand of a tag as written before a node (`!!str`). -/
def tagShorthand (tag : String) : String :=
  if tag.startsWith "tag:yaml.org,2002:" then "!!" ++ (tag.drop 18).toString else tag

/-- The printer's state: the text so far, the column, whether the last thing written was
blank and whether only indentation has been written on this line, the indentation stack and
the flow depth. -/
structure Emitter where
  out : String := ""
  column : Nat := 0
  whitespace : Bool := true
  indention : Bool := true
  indent : Option Nat := none
  indents : List (Option Nat) := []
  flowLevel : Nat := 0
  openEnded : Bool := false

/-- Printing: a step that writes text. -/
abbrev EmitM := StateM Emitter

namespace Emit

/-- Write text on the current line. -/
def write (s : String) : EmitM Unit :=
  modify fun e => { e with out := e.out ++ s, column := e.column + s.length }

/-- End the line. -/
def lineBreak (s : String := "\n") : EmitM Unit :=
  modify fun e => { e with out := e.out ++ s, column := 0, whitespace := true, indention := true }

/-- Go to the current indentation, on a new line unless only indentation precedes. -/
def writeIndent : EmitM Unit := do
  let e ← get
  let indent := e.indent.getD 0
  if !e.indention || e.column > indent || (e.column == indent && !e.whitespace) then lineBreak
  let e ← get
  if e.column < indent then
    set { e with whitespace := true, out := e.out ++ String.ofList (List.replicate (indent - e.column) ' '),
                 column := indent }

/-- Write an indicator, after a space if one is needed. -/
def indicator (s : String) (needWhitespace : Bool) (whitespace : Bool := false)
    (indention : Bool := false) : EmitM Unit := do
  let e ← get
  let data := if e.whitespace || !needWhitespace then s else " " ++ s
  set { e with out := e.out ++ data, column := e.column + data.length, whitespace,
               indention := e.indention && indention, openEnded := false }

/-- Open a level of indentation. -/
def increaseIndent (flow : Bool) (indentless : Bool := false) : EmitM Unit := modify fun e =>
  let indent := match e.indent with
    | none => some (if flow then 2 else 0)
    | some i => if indentless then some i else some (i + 2)
  { e with indents := e.indent :: e.indents, indent }

/-- Close a level of indentation. -/
def decreaseIndent : EmitM Unit := modify fun e =>
  { e with indent := e.indents.headD none, indents := e.indents.tail }

/-- Write a plain scalar, folding at a lone space (not one of a run of spaces) past column 80
when `split`. -/
def plain (text : String) (split : Bool) (root : Bool) : EmitM Unit := do
  if root then modify fun e => { e with openEnded := true }
  if text.isEmpty then return
  if !(← get).whitespace then write " "
  modify fun e => { e with whitespace := false, indention := false }
  -- an empty word stands between two spaces of a run
  let rec go : List String → Option String → EmitM Unit
    | [], _ => pure ()
    | w :: rest, prev? => do
      if let some prev := prev? then
        if (← get).column > 80 && split && !prev.isEmpty && !w.isEmpty then
          writeIndent
          modify fun e => { e with whitespace := false, indention := false }
        else write " "
      write w
      go rest (some w)
  go (text.splitOn " ") none

/-- Write a single-quoted scalar: quotes doubled, line breaks written twice. -/
def singleQuoted (text : String) (split : Bool) : EmitM Unit := do
  indicator "'" true
  let cs := text.toList
  let n := cs.length
  let rec go : Nat → Nat → Nat → Bool → Bool → EmitM Unit
    | 0, _, _, _, _ => pure ()
    | fuel + 1, start, i, spaces, breaks => do
      let c? := cs[i]?
      let mut start := start
      if spaces then
        if c? != some ' ' then
          if start + 1 == i && (← get).column > 80 && split && start != 0 && i != n then writeIndent
          else write (String.ofList ((cs.drop start).take (i - start)))
          start := i
      else if breaks then
        if c?.all (fun c => !isLineBreak c) then
          if cs.getD start ' ' == '\n' then lineBreak
          for br in (cs.drop start).take (i - start) do
            if br == '\n' then lineBreak else lineBreak br.toString
          writeIndent
          start := i
      else
        if c?.all (fun c => c == ' ' || isLineBreak c || c == '\'') then
          if start < i then
            write (String.ofList ((cs.drop start).take (i - start)))
            start := i
      if c? == some '\'' then
        write "''"
        start := i + 1
      match c? with
      | some c => go fuel start (i + 1) (c == ' ') (isLineBreak c)
      | none => pure ()
  go (n + 2) 0 0 false false
  indicator "'" false

/-- The escape of a character in a double-quoted scalar. -/
def escapeOf (c : Char) : String :=
  let hex := fun (width : Nat) (v : Nat) =>
    let ds := (Nat.toDigits 16 v).map Char.toUpper
    String.ofList (List.replicate (width - ds.length) '0' ++ ds)
  match c with
  | '\x00' => "\\0" | '\x07' => "\\a" | '\x08' => "\\b" | '\t' => "\\t" | '\n' => "\\n"
  | '\x0b' => "\\v" | '\x0c' => "\\f" | '\r' => "\\r" | '\x1b' => "\\e" | '"' => "\\\""
  | '\\' => "\\\\" | '\x85' => "\\N" | '\xa0' => "\\_" | '\u2028' => "\\L" | '\u2029' => "\\P"
  | c =>
    if c.toNat ≤ 0xFF then "\\x" ++ hex 2 c.toNat
    else if c.toNat ≤ 0xFFFF then "\\u" ++ hex 4 c.toNat
    else "\\U" ++ hex 8 c.toNat

/-- Write a double-quoted scalar, escaping all but printable ASCII, and folding long lines at
spaces when `split`. -/
def doubleQuoted (text : String) (split : Bool) : EmitM Unit := do
  indicator "\"" true
  let cs := text.toList
  let n := cs.length
  let rec go : Nat → Nat → Nat → EmitM Unit
    | 0, _, _ => pure ()
    | fuel + 1, start, i => do
      let c? := cs[i]?
      let mut start := start
      let escape := match c? with
        | none => true
        | some c => "\"\\\x85\u2028\u2029\uFEFF".contains c || !(' ' ≤ c && c ≤ '~')
      if escape then
        if start < i then
          write (String.ofList ((cs.drop start).take (i - start)))
          start := i
        match c? with
        | some c =>
          write (escapeOf c)
          start := i + 1
        | none => pure ()
      if 0 < i && i + 1 < n && (c? == some ' ' || start ≥ i) &&
          (← get).column + i > 80 + start && split then
        let data := String.ofList ((cs.drop start).take (i - start)) ++ "\\"
        if start < i then start := i
        write data
        writeIndent
        modify fun e => { e with whitespace := false, indention := false }
        if cs.getD start ' ' == ' ' then write "\\"
      if i < n then go fuel start (i + 1)
  go (n + 2) 0 0
  indicator "\"" false

end Emit

/-- Where a node stands: at the root, as a sequence item, in a mapping, or as a key in place. -/
structure Place where
  root : Bool := false
  mapping : Bool := false
  simpleKey : Bool := false

open Emit in
/-- Write a scalar in the style its text allows. -/
def emitScalar (tag text : String) (place : Place) : EmitM Unit := do
  increaseIndent true
  let a := analyze text
  let implicitPlain := tag == implicitTag text
  let flow := (← get).flowLevel != 0
  let plainOk := implicitPlain && !(place.simpleKey && (a.empty || a.multiline)) &&
    ((flow && a.flowPlain) || (!flow && a.blockPlain))
  let split := !place.simpleKey
  if plainOk then plain text split place.root
  else if a.singleQuoted && !(place.simpleKey && a.multiline) then singleQuoted text split
  else doubleQuoted text split
  decreaseIndent

/-- Whether a key can be written in place: a scalar shorter than 128 characters with its tag,
not empty and on one line. -/
def simpleKey : Doc → Bool
  | .scalar tag text =>
    let a := analyze text
    (tagShorthand tag).length + text.length < 128 && !a.empty && !a.multiline
  | .sequence [] | .mapping [] => true
  | _ => false

open Emit in
mutual

/-- Write a node. -/
def emitDoc (d : Doc) (place : Place) : EmitM Unit := do
  match d with
  | .scalar tag text => emitScalar tag text place
  | .sequence [] =>
    indicator "[" true true
    indicator "]" false
  | .mapping [] =>
    indicator "\x7b" true true
    indicator "\x7d" false
  | .sequence items =>
    let indentless := place.mapping && !(← get).indention
    increaseIndent false indentless
    emitItems items
    decreaseIndent
  | .mapping pairs =>
    increaseIndent false
    emitPairs pairs
    decreaseIndent

/-- Write the items of a block sequence. -/
def emitItems : List Doc → EmitM Unit
  | [] => pure ()
  | x :: rest => do
    writeIndent
    indicator "-" true false true
    emitDoc x {}
    emitItems rest

/-- Write the entries of a block mapping. -/
def emitPairs : List (Doc × Doc) → EmitM Unit
  | [] => pure ()
  | (k, v) :: rest => do
    writeIndent
    if simpleKey k then
      emitDoc k { mapping := true, simpleKey := true }
      indicator ":" false
    else
      indicator "?" true false true
      emitDoc k { mapping := true }
      writeIndent
      indicator ":" true false true
    emitDoc v { mapping := true }
    emitPairs rest

end

/-- A value as a YAML document: the node, a final line end, and `...` after a plain scalar at the
root. -/
def dump (v : Value) : String :=
  let run : EmitM Unit := do
    emitDoc (Doc.ofValue v) { root := true }
    modify fun e => { e with indent := none }
    Emit.writeIndent
    if (← get).openEnded then
      Emit.indicator "..." true
      Emit.writeIndent
  (run.run {}).2.out

end TransitRevenue.Yaml
