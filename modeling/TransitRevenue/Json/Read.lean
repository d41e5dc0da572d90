import TransitRevenue.Value
import TransitRevenue.Decimal.Read
/-!
Reading JSON text into values.

Numbers without a fraction or exponent are integers of any size (a leading zero stands alone);
the others are the nearest double, and `NaN`, `Infinity` and `-Infinity` are accepted as doubles too. Strings take the
standard escapes, `\uXXXX` pairs of surrogates joining into one character. In an object a key
given twice keeps its first position and its last value. Whitespace is space, tab, line feed and
carriage return. Every step consumes input, so the reader runs on a fuel of twice the input length.
-/

namespace TransitRevenue

namespace Json

/-- A reading result: the value and the input after it, or what went wrong. -/
abbrev Reading (α : Type) := Except String (α × List Char)

/-- Drop JSON whitespace. -/
def skipSpace (cs : List Char) : List Char :=
  cs.dropWhile (fun c => c == ' ' || c == '\t' || c == '\n' || c == '\r')

/-- The value of one hexadecimal digit. -/
def hexValue (c : Char) : Option Nat :=
  if c.isDigit then some (c.toNat - '0'.toNat)
  else if 'a' ≤ c && c ≤ 'f' then some (c.toNat - 'a'.toNat + 10)
  else if 'A' ≤ c && c ≤ 'F' then some (c.toNat - 'A'.toNat + 10)
  else none

/-- The value of four hexadecimal digits. -/
def hex4 (a b c d : Char) : Option Nat :=
  [a, b, c, d].foldlM (fun n ch => (hexValue ch).map (n * 16 + ·)) 0

/-- The body of a string after its opening quote, up to and including the closing one; each
character takes one unit of fuel. -/
def readStringBody (fuel : Nat) (cs : List Char) (acc : List Char) : Reading String :=
  match fuel, cs with
  | 0, _ => .error "Unterminated string"
  | _, [] => .error "Unterminated string"
  | _, '"' :: r => .ok (String.ofList acc.reverse, r)
  | fuel + 1, '\\' :: c :: r =>
    match c with
    | '"' => readStringBody fuel r ('"' :: acc)
    | '\\' => readStringBody fuel r ('\\' :: acc)
    | '/' => readStringBody fuel r ('/' :: acc)
    | 'b' => readStringBody fuel r ('\x08' :: acc)
    | 'f' => readStringBody fuel r ('\x0c' :: acc)
    | 'n' => readStringBody fuel r ('\n' :: acc)
    | 'r' => readStringBody fuel r ('\r' :: acc)
    | 't' => readStringBody fuel r ('\t' :: acc)
    | 'u' =>
      match r with
      | a :: b :: c :: d :: r =>
        match hex4 a b c d with
        | none => .error "Invalid \\uXXXX escape"
        | some hi =>
          if 0xD800 ≤ hi && hi < 0xDC00 then
            match r with
            | '\\' :: 'u' :: a2 :: b2 :: c2 :: d2 :: r3 =>
              match hex4 a2 b2 c2 d2 with
              | some lo =>
                if 0xDC00 ≤ lo && lo < 0xE000 then
                  readStringBody fuel r3
                    (Char.ofNat (0x10000 + (hi - 0xD800) * 0x400 + (lo - 0xDC00)) :: acc)
                else readStringBody fuel r (Char.ofNat 0xFFFD :: acc)
              | none => readStringBody fuel r (Char.ofNat 0xFFFD :: acc)
            | _ => readStringBody fuel r (Char.ofNat 0xFFFD :: acc)
          else if 0xDC00 ≤ hi && hi < 0xE000 then readStringBody fuel r (Char.ofNat 0xFFFD :: acc)
          else readStringBody fuel r (Char.ofNat hi :: acc)
      | _ => .error "Invalid \\uXXXX escape"
    | _ => .error "Invalid \\escape"
  | fuel + 1, c :: r =>
    if c.toNat < 0x20 then .error "Invalid control character" else readStringBody fuel r (c :: acc)

/-- A number at the front of the input. -/
def readNumber (cs : List Char) : Reading Value :=
  let (neg, r) := match cs with
    | '-' :: r => (true, r)
    | r => (false, r)
  let whole := match r with
    | '0' :: _ => ['0']
    | r => r.takeWhile Char.isDigit
  let r := r.drop whole.length
  if whole.isEmpty then .error "Expecting value"
  else
    let (frac, r) := match r with
      | '.' :: r => let f := r.takeWhile Char.isDigit; (some f, r.drop f.length)
      | r => (none, r)
    let (exp, r) : Option (Option Int) × List Char := match r with
      | c :: r =>
        if c == 'e' || c == 'E' then
          let (eneg, r) := match r with
            | '-' :: r => (true, r)
            | '+' :: r => (false, r)
            | r => (false, r)
          let ds := r.takeWhile Char.isDigit
          if ds.isEmpty then (some none, r)
          else
            let n : Int := Decimal.digitsValue ds
            (some (some (if eneg then -n else n)), r.drop ds.length)
        else (none, c :: r)
      | [] => (none, [])
    match frac, exp with
    | some [], _ => .error "Expecting value"
    | _, some none => .error "Expecting value"
    | none, none =>
      let n : Int := Decimal.digitsValue whole
      .ok (.int (if neg then -n else n), r)
    | f, e =>
      let f := f.getD []
      .ok (.float (Decimal.toFloat neg (whole ++ f) f.length ((e.getD none).getD 0)), r)

mutual

/-- One value at the front of the input (after whitespace). -/
def readValue (fuel : Nat) (cs : List Char) : Reading Value :=
  match fuel with
  | 0 => .error "Input nested too deeply"
  | fuel + 1 =>
    match skipSpace cs with
    | '{' :: r => readObject fuel (skipSpace r) []
    | '[' :: r => readArray fuel (skipSpace r) []
    | '"' :: r => (readStringBody (r.length + 1) r []).map fun (s, r) => (.str s, r)
    | 'n' :: 'u' :: 'l' :: 'l' :: r => .ok (.null, r)
    | 't' :: 'r' :: 'u' :: 'e' :: r => .ok (.bool true, r)
    | 'f' :: 'a' :: 'l' :: 's' :: 'e' :: r => .ok (.bool false, r)
    | 'N' :: 'a' :: 'N' :: r => .ok (.float (0.0 / 0.0), r)
    | 'I' :: 'n' :: 'f' :: 'i' :: 'n' :: 'i' :: 't' :: 'y' :: r => .ok (.float (1.0 / 0.0), r)
    | '-' :: 'I' :: 'n' :: 'f' :: 'i' :: 'n' :: 'i' :: 't' :: 'y' :: r => .ok (.float (-1.0 / 0.0), r)
    | r => readNumber r

/-- The rest of an array after `[`, its items so far in reverse. -/
def readArray (fuel : Nat) (cs : List Char) (acc : List Value) : Reading Value :=
  match fuel with
  | 0 => .error "Input nested too deeply"
  | fuel + 1 =>
    match cs, acc with
    | ']' :: r, [] => .ok (.list [], r)
    | _, _ =>
      match readValue fuel cs with
      | .error e => .error e
      | .ok (v, r) =>
        match skipSpace r with
        | ',' :: r => readArray fuel (skipSpace r) (v :: acc)
        | ']' :: r => .ok (.list (v :: acc).reverse, r)
        | _ => .error "Expecting ',' delimiter"

/-- The rest of an object after `{`, its fields so far. -/
def readObject (fuel : Nat) (cs : List Char) (acc : List (String × Value)) : Reading Value :=
  match fuel with
  | 0 => .error "Input nested too deeply"
  | fuel + 1 =>
    match cs, acc with
    | '}' :: r, [] => .ok (.obj [], r)
    | '"' :: r, _ =>
      match readStringBody (r.length + 1) r [] with
      | .error e => .error e
      | .ok (key, r) =>
        match skipSpace r with
        | ':' :: r =>
          match readValue fuel r with
          | .error e => .error e
          | .ok (v, r) =>
            let acc := Value.setField acc key v
            match skipSpace r with
            | ',' :: r => readObject fuel (skipSpace r) acc
            | '}' :: r => .ok (.obj acc, r)
            | _ => .error "Expecting ',' delimiter"
        | _ => .error "Expecting ':' delimiter"
    | _, _ => .error "Expecting property name enclosed in double quotes"

end

/-- A whole JSON text as one value, with nothing but whitespace after it. -/
def parse (s : String) : Except String Value :=
  let cs := s.toList
  match readValue (2 * cs.length + 2) cs with
  | .error e => .error e
  | .ok (v, r) => if (skipSpace r).isEmpty then .ok v else .error "Extra data"

end Json

end TransitRevenue
