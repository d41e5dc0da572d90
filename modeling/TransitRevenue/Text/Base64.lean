/-!
Base64 text decoded leniently, as binary scalars of markup text are.

Characters outside the alphabet (`A`–`Z`, `a`–`z`, `0`–`9`, `+`, `/`) and `=` are skipped. The
alphabet's characters are taken six bits at a time into groups of four, each group giving three
bytes. Padding ends the data once it completes a group: after two characters of a group, two `=`
(since the last alphabet character) end it, after three, one does; `=` anywhere else is skipped.
Data that ends inside a group is refused: with one character of the group, as a count of data
characters that cannot be, otherwise as incorrect padding.
-/

namespace TransitRevenue

namespace Base64

/-- The value of a character of the alphabet. -/
def digit? (c : UInt8) : Option Nat :=
  if 65 ≤ c && c ≤ 90 then some (c.toNat - 65)
  else if 97 ≤ c && c ≤ 122 then some (c.toNat - 97 + 26)
  else if 48 ≤ c && c ≤ 57 then some (c.toNat - 48 + 52)
  else if c == 43 then some 62
  else if c == 47 then some 63
  else none

/-- Where decoding stands: the bytes made so far (reversed), the position in the current group,
the bits of the group not yet in a byte, and the pads since the last alphabet character. -/
structure Decoder where
  out : List UInt8 := []
  place : Nat := 0
  left : Nat := 0
  pads : Nat := 0

/-- Take in one alphabet character's value. -/
def Decoder.push (d : Decoder) (v : Nat) : Decoder :=
  let d := { d with pads := 0 }
  match d.place with
  | 0 => { d with place := 1, left := v }
  | 1 => { d with place := 2, out := (d.left * 4 + v / 16).toUInt8 :: d.out, left := v % 16 }
  | 2 => { d with place := 3, out := (d.left * 16 + v / 4).toUInt8 :: d.out, left := v % 4 }
  | _ => { d with place := 0, out := (d.left * 64 + v).toUInt8 :: d.out, left := 0 }

/-- Decode from a decoder's state: the bytes, or the state where the text ran out. -/
def run (d : Decoder) : List UInt8 → Except Decoder (List UInt8)
  | [] => if d.place == 0 then .ok d.out.reverse else .error d
  | c :: rest =>
    if c == 61 then
      if d.place ≥ 2 then
        let d := { d with pads := d.pads + 1 }
        if d.place + d.pads ≥ 4 then .ok d.out.reverse else run d rest
      else run d rest
    else
      match digit? c with
      | some v => run (d.push v) rest
      | none => run d rest

/-- The bytes of base64 text, or why it cannot be decoded. -/
def decode (text : List UInt8) : Except String (List UInt8) :=
  match run {} text with
  | .ok bytes => .ok bytes
  | .error d =>
    if d.place == 1 then
      .error ("Invalid base64-encoded string: number of data characters (" ++
        toString (d.out.length / 3 * 4 + 1) ++ ") cannot be 1 more than a multiple of 4")
    else .error "Incorrect padding"

end Base64

end TransitRevenue
