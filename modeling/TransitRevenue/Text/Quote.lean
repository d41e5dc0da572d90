import TransitRevenue.Text.Unicode
/-!
Quoting text for messages: a text is shown between single quotes, or double quotes when it holds
a single quote and no double quote; the quote in use and the backslash are escaped, tab and line
ends by their letters, and every other character that does not print as itself by its code point
in hexadecimal (`\xhh` up to `ff`, `\uhhhh` up to `ffff`, `\Uhhhhhhhh` beyond).
-/

namespace TransitRevenue

namespace Text

/-- Lower-case hexadecimal digits of a number, padded with zeros to `width`. -/
def hexPadded (width n : Nat) : String :=
  let ds := Nat.toDigits 16 n
  String.ofList (List.replicate (width - ds.length) '0' ++ ds)

/-- One character of a quoted text: the quote and backslash escaped, tab and line ends by their
letters, other controls and every character that does not print as itself by its code point. -/
def escapedIn (quote : Char) (c : Char) : String :=
  let n := c.toNat
  if c == quote || c == '\\' then "\\" ++ c.toString
  else if c == '\t' then "\\t"
  else if c == '\n' then "\\n"
  else if c == '\r' then "\\r"
  else if n < 0x20 || n == 0x7F then "\\x" ++ hexPadded 2 n
  else if n < 0x7F || Unicode.isPrintable c then c.toString
  else if n ≤ 0xFF then "\\x" ++ hexPadded 2 n
  else if n ≤ 0xFFFF then "\\u" ++ hexPadded 4 n
  else "\\U" ++ hexPadded 8 n

/-- A text as messages quote it: in single quotes, or in double quotes when it holds a single
quote and no double quote, with `escapedIn` applied to each character. -/
def quoted (s : String) : String :=
  let q := if s.contains '\'' && !s.contains '"' then '"' else '\''
  q.toString ++ String.join (s.toList.map (escapedIn q)) ++ q.toString

/-- The quoted form of a text cut to its first `limit` characters, as messages that bound the
length of what they quote show it. -/
def quotedUpTo (limit : Nat) (s : String) : String :=
  String.ofList ((quoted s).toList.take limit)

end Text

end TransitRevenue
