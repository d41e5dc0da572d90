import TransitRevenue.Value
/-!
Places in YAML text and the problems found there.

A `Mark` is a position: the count of characters before it, and its line and column, both
counted from zero. A `Problem` says what went wrong and where, and optionally what was being
read and where that began; its text names the file and counts lines and columns from one.
Characters that YAML text may not hold at all are reported by their position alone.
-/

namespace TransitRevenue.Yaml

/-- A position in YAML text. -/
structure Mark where
  index : Nat := 0
  line : Nat := 0
  column : Nat := 0
  deriving Inhabited, BEq, Repr

/-- A problem with YAML text. -/
inductive Problem where
  /-- A character that no YAML text may hold, by code and position. -/
  | unprintable (code : Nat) (position : Nat)
  /-- A problem at a mark, found at `stage`, while reading what `context` names from
  `contextMark`. -/
  | marked (stage : YamlStage) (context : Option String) (contextMark : Option Mark)
      (problem : String) (problemMark : Mark)
  /-- A fault that is not a problem of the text's form, such as an impossible date. -/
  | other (fault : Fault)
  deriving Inhabited

namespace Problem

/-- A problem found while scanning. -/
def scanning (context : Option String) (contextMark : Option Mark) (problem : String)
    (mark : Mark) : Problem :=
  .marked .scanning context contextMark problem mark

/-- A problem found while parsing. -/
def parsing (context : Option String) (contextMark : Option Mark) (problem : String)
    (mark : Mark) : Problem :=
  .marked .parsing context contextMark problem mark

/-- The line that places a mark in a file. -/
def placeText (file : String) (m : Mark) : String :=
  "  in \"" ++ file ++ "\", line " ++ toString (m.line + 1) ++ ", column " ++ toString (m.column + 1)

/-- A code point in lower-case hexadecimal, at least four digits. -/
def hex4 (n : Nat) : String :=
  let ds := Nat.toDigits 16 n
  String.ofList (List.replicate (4 - ds.length) '0' ++ ds)

/-- The problem as a fault: the context and its mark (left out when the problem is at the same
place), then the problem and its mark, one per line. -/
def toFault (file : String) : Problem → Fault
  | .unprintable code position =>
    .badYaml .reading ("unacceptable character #x" ++ hex4 code ++
      ": special characters are not allowed\n  in \"" ++ file ++ "\", position " ++ toString position)
  | .marked stage context contextMark problem mark =>
    let ctx := context.toList
    let ctxMark := match contextMark with
      | some m => if m.line == mark.line && m.column == mark.column then [] else [placeText file m]
      | none => []
    .badYaml stage ("\n".intercalate (ctx ++ ctxMark ++ [problem, placeText file mark]))
  | .other f => f

end Problem

/-- Characters that end a line. -/
def isBreak (c : Char) : Bool :=
  c == '\n' || c == '\r' || c == '\x85' || c == '\u2028' || c == '\u2029'

/-- Characters that end a line, or the end of the text. -/
def isBreakOrEnd (c : Char) : Bool := c == '\x00' || isBreak c

/-- A blank, a line end or the end of the text. -/
def isBlankOrEnd (c : Char) : Bool := c == ' ' || c == '\t' || isBreakOrEnd c

/-- A space, a line end or the end of the text (tabs excluded). -/
def isSpaceOrEnd (c : Char) : Bool := c == ' ' || isBreakOrEnd c

/-- Letters, digits, `-` and `_`. -/
def isWordChar (c : Char) : Bool :=
  ('0' ≤ c && c ≤ '9') || ('A' ≤ c && c ≤ 'Z') || ('a' ≤ c && c ≤ 'z') || c == '-' || c == '_'

/-- Hexadecimal digits. -/
def isHexDigit (c : Char) : Bool :=
  ('0' ≤ c && c ≤ '9') || ('A' ≤ c && c ≤ 'F') || ('a' ≤ c && c ≤ 'f')

/-- Characters YAML text may hold: tab, line ends, printable ASCII, next-line, and the
printable ranges above it. -/
def isPrintable (c : Char) : Bool :=
  let n := c.toNat
  n == 0x09 || n == 0x0A || n == 0x0D || (0x20 ≤ n && n ≤ 0x7E) || n == 0x85 ||
    (0xA0 ≤ n && n ≤ 0xD7FF) || (0xE000 ≤ n && n ≤ 0xFFFD) || (0x10000 ≤ n && n ≤ 0x10FFFF)

/-- A character as messages quote it. -/
def quotedChar (c : Char) : String := Text.quoted c.toString

end TransitRevenue.Yaml
