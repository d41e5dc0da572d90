import TransitRevenue.Value
/-!
Writing values as JSON text.

A `Style` fixes everything that varies between JSON writers: indentation (none, or a number of
spaces per level with one item per line), the separators, whether every character outside
printable ASCII is escaped or only quotes, backslashes and control characters, the float layout
(whose words for the non-finite values are written as they stand, so they may be tokens, quoted
strings or `null`), and how dates, moments and generated identifiers become text.
Escapes use lower-case hexadecimal, with surrogate pairs above the basic plane.
-/

namespace TransitRevenue

namespace Json

/-- How values are written as JSON. -/
structure Style where
  /-- Spaces per nesting level; `none` writes everything on one line. -/
  indent : Option Nat
  /-- Between items on one line. -/
  itemSep : String
  /-- Between a key and its value. -/
  keySep : String
  /-- Escape every character outside printable ASCII. -/
  asciiOnly : Bool
  floats : Layout
  dateText : Date → String
  timeText : Moment → String
  identText : Nat → String

/-- Four lower-case hexadecimal digits. -/
def hexText4 (n : Nat) : String :=
  let d := fun k => "0123456789abcdef".toList.getD (n / Nat.pow 16 k % 16) '0'
  String.ofList [d 3, d 2, d 1, d 0]

/-- One character inside a JSON string. -/
def escapeChar (asciiOnly : Bool) (c : Char) : String :=
  match c with
  | '"' => "\\\""
  | '\\' => "\\\\"
  | '\n' => "\\n"
  | '\r' => "\\r"
  | '\t' => "\\t"
  | '\x08' => "\\b"
  | '\x0c' => "\\f"
  | c =>
    let n := c.toNat
    if n < 0x20 || (asciiOnly && n > 0x7e) then
      if n ≥ 0x10000 then
        let v := n - 0x10000
        "\\u" ++ hexText4 (0xD800 + v / 0x400) ++ "\\u" ++ hexText4 (0xDC00 + v % 0x400)
      else "\\u" ++ hexText4 n
    else c.toString

/-- A string as a JSON string literal. -/
def quote (asciiOnly : Bool) (s : String) : String :=
  "\"" ++ String.join (s.toList.map (escapeChar asciiOnly)) ++ "\""

namespace Style

/-- The line break and indentation before an item at a depth. -/
def lineAt (st : Style) (depth : Nat) : String :=
  match st.indent with
  | none => ""
  | some n => "\n" ++ String.ofList (List.replicate (n * depth) ' ')

/-- The separator between items. -/
def between (st : Style) (depth : Nat) : String :=
  match st.indent with
  | none => st.itemSep
  | some _ => "," ++ st.lineAt depth

mutual

/-- A value as JSON text at a nesting depth. -/
def render (st : Style) (depth : Nat) : Value → String
  | .null => "null"
  | .bool b => if b then "true" else "false"
  | .int n => toString n
  | .float x => st.floats.render x
  | .str s => quote st.asciiOnly s
  | .date d => quote st.asciiOnly (st.dateText d)
  | .time t => quote st.asciiOnly (st.timeText t)
  | .ident n => quote st.asciiOnly (st.identText n)
  | .bytes b => quote st.asciiOnly (Value.bytesCode b)
  | .list [] | .set [] => "[]"
  | .list (x :: xs) | .set (x :: xs) =>
    "[" ++ st.lineAt (depth + 1) ++ st.render (depth + 1) x ++ st.renderItems (depth + 1) xs ++
      st.lineAt depth ++ "]"
  | .dict [] => "\x7b\x7d"
  | .dict ((k, v) :: es) =>
    "\x7b" ++ st.lineAt (depth + 1) ++ quote st.asciiOnly k.shown ++ st.keySep ++
      st.render (depth + 1) v ++ st.renderEntries (depth + 1) es ++ st.lineAt depth ++ "\x7d"
  | .obj [] => "\x7b\x7d"
  | .obj ((k, v) :: fs) =>
    "\x7b" ++ st.lineAt (depth + 1) ++ quote st.asciiOnly k ++ st.keySep ++ st.render (depth + 1) v ++
      st.renderFields (depth + 1) fs ++ st.lineAt depth ++ "\x7d"

/-- Further items of an array, each after a separator. -/
def renderItems (st : Style) (depth : Nat) : List Value → String
  | [] => ""
  | x :: xs => st.between depth ++ st.render depth x ++ st.renderItems depth xs

/-- Further fields of an object, each after a separator. -/
def renderFields (st : Style) (depth : Nat) : List (String × Value) → String
  | [] => ""
  | (k, v) :: fs =>
    st.between depth ++ quote st.asciiOnly k ++ st.keySep ++ st.render depth v ++
      st.renderFields depth fs

/-- Further entries of a mapping with keys of any kind, keys written as their text. -/
def renderEntries (st : Style) (depth : Nat) : List (Value × Value) → String
  | [] => ""
  | (k, v) :: es =>
    st.between depth ++ quote st.asciiOnly k.shown ++ st.keySep ++ st.render depth v ++
      st.renderEntries depth es

end

/-- A value as JSON text. -/
def write (st : Style) (v : Value) : String := st.render 0 v

end Style

end Json

end TransitRevenue
