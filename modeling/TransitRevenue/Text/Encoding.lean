/-!
Byte strings as text: decoding UTF-8 and encoding ASCII, with each failure named as a strict
codec names it.

A byte string decodes one character at a time. A lead byte below `0x80` is a character of its
own; `0xC2`–`0xDF`, `0xE0`–`0xEF` and `0xF0`–`0xF4` open a character of two, three and four bytes,
whose further bytes must be continuation bytes (`0x80`–`0xBF`), the first of them narrowed after
`0xE0` (at least `0xA0`), `0xED` (below `0xA0`), `0xF0` (at least `0x90`) and `0xF4` (below `0x90`).
Any other lead byte is an invalid start byte. A failure covers the bytes it is about: the lead
byte alone when the first continuation byte is wrong, the lead and the good continuation bytes
before a wrong one, and every byte to the end when the text ends inside a character.

Text encodes to ASCII when every character is below `0x80`; otherwise the failure names the first
run of characters that are not.
-/

namespace TransitRevenue

namespace Encoding

/-- Why bytes are not UTF-8 text. -/
inductive Reason where
  | invalidStart
  | invalidContinuation
  | unexpectedEnd
  deriving Inhabited, BEq, Repr

/-- The words for a reason. -/
def Reason.text : Reason → String
  | .invalidStart => "invalid start byte"
  | .invalidContinuation => "invalid continuation byte"
  | .unexpectedEnd => "unexpected end of data"

/-- A failure to decode: the reason, the first byte it covers, and the positions it covers, from
`start` to before `stop`. -/
structure DecodeFault where
  reason : Reason
  byte : UInt8
  start : Nat
  stop : Nat
  deriving Inhabited, Repr

/-- A number in lower-case hexadecimal, at least `width` digits. -/
def hexText (width n : Nat) : String :=
  let ds := Nat.toDigits 16 n
  String.ofList (List.replicate (width - ds.length) '0' ++ ds)

/-- The message of a decoding failure: one byte by its value, several by their positions. -/
def DecodeFault.message (f : DecodeFault) : String :=
  let place := if f.stop == f.start + 1 then
      "byte 0x" ++ hexText 2 f.byte.toNat ++ " in position " ++ toString f.start
    else "bytes in position " ++ toString f.start ++ "-" ++ toString (f.stop - 1)
  "'utf-8' codec can't decode " ++ place ++ ": " ++ f.reason.text

/-- Whether a byte continues a character. -/
def isContinuation (b : UInt8) : Bool := 0x80 ≤ b && b ≤ 0xBF

/-- Whether the first continuation byte after `lead` is allowed: a continuation byte, within the
narrower range that some lead bytes allow. -/
def secondFits (lead b : UInt8) : Bool :=
  isContinuation b &&
    (if lead == 0xE0 then 0xA0 ≤ b else if lead == 0xED then b < 0xA0
     else if lead == 0xF0 then 0x90 ≤ b else if lead == 0xF4 then b < 0x90 else true)

/-- How many continuation bytes follow a lead byte, or `none` for a byte that cannot lead. -/
def trailing (lead : UInt8) : Option Nat :=
  if lead < 0x80 then some 0
  else if lead < 0xC2 then none
  else if lead < 0xE0 then some 1
  else if lead < 0xF0 then some 2
  else if lead < 0xF5 then some 3
  else none

/-- How many bytes after the lead byte are good, given the bytes that follow it: the first must
fit the lead, the others must be continuation bytes. -/
def goodAfter (lead : UInt8) (rest : List UInt8) (need : Nat) : Nat :=
  match rest.take need with
  | [] => 0
  | b :: bs => if secondFits lead b then 1 + (bs.takeWhile isContinuation).length else 0

/-- The code point of a lead byte and its continuation bytes. -/
def codePoint (lead : UInt8) (conts : List UInt8) : Nat :=
  let first := match conts.length with
    | 1 => lead.toNat % 32
    | 2 => lead.toNat % 16
    | 3 => lead.toNat % 8
    | _ => lead.toNat
  conts.foldl (fun acc b => acc * 64 + b.toNat % 64) first

/-- The character at the front of some bytes and how many bytes it takes, or why there is none
there, with how many bytes the failure covers. -/
def charAt (lead : UInt8) (rest : List UInt8) : Except (Reason × Nat) (Char × Nat) :=
  match trailing lead with
  | none => .error (.invalidStart, 1)
  | some need =>
    let good := goodAfter lead rest need
    if good == need then .ok (Char.ofNat (codePoint lead (rest.take need)), need + 1)
    else if good == rest.length then .error (.unexpectedEnd, rest.length + 1)
    else .error (.invalidContinuation, good + 1)

/-- Decode bytes from position `pos` on, characters decoded so far in `acc`, reversed. -/
def decodeFrom : Nat → Nat → List UInt8 → List Char → Except DecodeFault String
  | 0, _, _, acc => .ok (String.ofList acc.reverse)
  | _, _, [], acc => .ok (String.ofList acc.reverse)
  | fuel + 1, pos, lead :: rest, acc =>
    match charAt lead rest with
    | .ok (c, n) => decodeFrom fuel (pos + n) (rest.drop (n - 1)) (c :: acc)
    | .error (reason, n) => .error { reason, byte := lead, start := pos, stop := pos + n }

/-- Bytes decoded as UTF-8 text. -/
def decodeUtf8 (bytes : List UInt8) : Except DecodeFault String :=
  decodeFrom bytes.length 0 bytes []

/-- A character as an escape of its code point: two, four or eight hexadecimal digits. -/
def escapedCode (c : Char) : String :=
  let n := c.toNat
  if n ≤ 0xFF then "\\x" ++ hexText 2 n
  else if n ≤ 0xFFFF then "\\u" ++ hexText 4 n
  else "\\U" ++ hexText 8 n

/-- Why a text is not ASCII, naming the first run of characters that are not, or `none` when
it is. -/
def asciiFault? (s : String) : Option String :=
  let cs := s.toList
  let start := (cs.takeWhile (·.toNat < 128)).length
  match cs.drop start with
  | [] => none
  | c :: rest =>
    let run := 1 + (rest.takeWhile (·.toNat ≥ 128)).length
    let what := if run == 1 then
        "character '" ++ escapedCode c ++ "' in position " ++ toString start
      else "characters in position " ++ toString start ++ "-" ++ toString (start + run - 1)
    some ("'ascii' codec can't encode " ++ what ++ ": ordinal not in range(128)")

end Encoding

end TransitRevenue
