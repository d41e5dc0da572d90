import TransitRevenue.Number
import TransitRevenue.Calendar.Moment
import TransitRevenue.Text.Quote
/-!
Loosely typed data: what arrives in requests, configuration text and stored documents before a
record is built from it, and what is written back out.

A `Value` keeps integers apart from doubles, holds dates and moments as such, and keeps the
fields of a mapping in their order of first insertion; `Value.insert` replaces a field's value in
place, so a key given twice keeps its first position and its last value.
-/

namespace TransitRevenue

/-- A loosely typed datum. -/
inductive Value where
  | null
  | bool (b : Bool)
  | int (n : Int)
  | float (x : Float)
  | str (s : String)
  | date (d : Date)
  | time (t : Moment)
  /-- A generated document identifier, by its serial number. -/
  | ident (serial : Nat)
  | list (items : List Value)
  | obj (fields : List (String × Value))
  /-- A mapping with some key that is not a text, as markup text allows. -/
  | dict (entries : List (Value × Value))
  /-- Raw bytes, as markup text gives binary data. -/
  | bytes (data : List UInt8)
  /-- An unordered collection of distinct keys, in the order they were added. -/
  | set (items : List Value)
  deriving Inhabited

namespace Value

/-- Set an entry of an association list: replaced in place when present, appended otherwise. -/
def setEntry {α : Type} (entries : List (String × α)) (key : String) (v : α) : List (String × α) :=
  if entries.any (·.1 == key) then entries.map (fun p => if p.1 == key then (key, v) else p)
  else entries ++ [(key, v)]

/-- Set a field of a mapping: replaced in place when present, appended otherwise. -/
def setField (fields : List (String × Value)) (key : String) (v : Value) :
    List (String × Value) :=
  setEntry fields key v

/-- The value of a field of a mapping, if the key is there. -/
def field? (fields : List (String × Value)) (key : String) : Option Value :=
  (fields.find? (·.1 == key)).map (·.2)

/-- A field of a mapping value; `none` for other values and absent keys. -/
def get? (v : Value) (key : String) : Option Value :=
  match v with
  | .obj fields => field? fields key
  | _ => none

/-- A field that is absent or `null` counts as missing. -/
def getNonNull? (v : Value) (key : String) : Option Value :=
  match v.get? key with
  | some .null => none
  | r => r

/-- A number held by a value (booleans are not numbers here). -/
def number? : Value → Option Number
  | .int n => some (.int n)
  | .float x => some (.float x)
  | _ => none

/-- The value of a number. -/
def ofNumber : Number → Value
  | .int n => .int n
  | .float x => .float x

/-- The text held by a value. -/
def str? : Value → Option String
  | .str s => some s
  | _ => none

/-- The kind of a value as its type is called in messages about it. -/
def kindName : Value → String
  | .null => "NoneType"
  | .bool _ => "bool"
  | .int _ => "int"
  | .float _ => "float"
  | .str _ => "str"
  | .date _ => "datetime.date"
  | .time _ => "datetime.datetime"
  | .ident _ => "ObjectId"
  | .list _ => "list"
  | .obj _ => "dict"
  | .dict _ => "dict"
  | .bytes _ => "bytes"
  | .set _ => "set"

/-- A value's truth: `null`, `false`, zero, and empty texts, lists and mappings are false. -/
def truthy : Value → Bool
  | .null => false
  | .bool b => b
  | .int n => n != 0
  | .float x => !(x == 0.0)
  | .str s => !s.isEmpty
  | .list xs => !xs.isEmpty
  | .obj fs => !fs.isEmpty
  | .dict es => !es.isEmpty
  | .bytes b => !b.isEmpty
  | .set xs => !xs.isEmpty
  | _ => true

/-- A duration of whole seconds as the code form of a duration: days and seconds, each left out
when zero. -/
def durationCode (seconds : Int) : String :=
  let days := Int.fdiv seconds 86400
  let rest := seconds - days * 86400
  let parts := (if days != 0 then ["days=" ++ toString days] else []) ++
    (if rest != 0 then ["seconds=" ++ toString rest] else [])
  "datetime.timedelta(" ++ (if parts.isEmpty then "0" else ", ".intercalate parts) ++ ")"

/-- A date as its code form, `datetime.date(2025, 1, 2)`. -/
def dateCode (d : Date) : String :=
  "datetime.date(" ++ toString d.year ++ ", " ++ toString d.month ++ ", " ++ toString d.day ++ ")"

/-- A moment as its code form: date and time fields, trailing zero microseconds and then
seconds left out, and the offset as a time zone. -/
def momentCode (t : Moment) : String :=
  let fields := [toString t.date.year, toString t.date.month, toString t.date.day,
    toString t.hour, toString t.minute]
  let fields := if t.micro != 0 then fields ++ [toString t.second, toString t.micro]
    else if t.second != 0 then fields ++ [toString t.second] else fields
  let zone := match t.offset with
    | none => ""
    | some 0 => ", tzinfo=datetime.timezone.utc"
    | some s => ", tzinfo=datetime.timezone(" ++ durationCode s ++ ")"
  "datetime.datetime(" ++ ", ".intercalate fields ++ zone ++ ")"

/-- Bytes as their code form: `b` and quotes (double ones when only single quotes occur), with
tabs, line ends, the quote, the backslash and bytes outside printable ASCII escaped. -/
def bytesCode (data : List UInt8) : String :=
  let quote : UInt8 := if data.contains 39 && !data.contains 34 then 34 else 39
  let escape := fun (b : UInt8) =>
    if b == quote || b == 92 then "\\" ++ (Char.ofNat b.toNat).toString
    else if b == 9 then "\\t" else if b == 10 then "\\n" else if b == 13 then "\\r"
    else if b < 32 || b ≥ 127 then
      let ds := Nat.toDigits 16 b.toNat
      "\\x" ++ String.ofList (List.replicate (2 - ds.length) '0' ++ ds)
    else (Char.ofNat b.toNat).toString
  let q := (Char.ofNat quote.toNat).toString
  "b" ++ q ++ String.join (data.map escape) ++ q

mutual

/-- A value as its code form: `None`, `True`, numbers, quoted texts, lists in brackets and
mappings in braces. -/
def code : Value → String
  | .null => "None"
  | .bool b => if b then "True" else "False"
  | .int n => toString n
  | .float x => Layout.standard.render x
  | .str s => Text.quoted s
  | .date d => dateCode d
  | .time t => momentCode t
  | .ident n => "ObjectId(" ++ toString n ++ ")"
  | .list xs => "[" ++ ", ".intercalate (codeList xs) ++ "]"
  | .obj fs => "\x7b" ++ ", ".intercalate (codeFields fs) ++ "\x7d"
  | .dict es => "\x7b" ++ ", ".intercalate (codeEntries es) ++ "\x7d"
  | .bytes b => bytesCode b
  | .set [] => "set()"
  | .set xs => "\x7b" ++ ", ".intercalate (codeList xs) ++ "\x7d"

/-- `code` on each item. -/
def codeList : List Value → List String
  | [] => []
  | x :: xs => code x :: codeList xs

/-- `code` on each field, as `'key': value`. -/
def codeFields : List (String × Value) → List String
  | [] => []
  | (k, v) :: fs =>  (Text.quoted k ++ ": " ++ code v) :: codeFields fs

/-- `code` on each entry, as `key: value`. -/
def codeEntries : List (Value × Value) → List String
  | [] => []
  | (k, v) :: es => (code k ++ ": " ++ code v) :: codeEntries es

end

/-- The text of a value as messages and location paths show it: decimal integers, standard double
text, `True`/`False`, `None`, texts as they are, dates and moments in ISO form (a space before the
time), and lists and mappings in their code form. -/
def shown : Value → String
  | .str s => s
  | .date d => d.iso
  | .time t => t.spacedText
  | v => v.code

/-- A mapping key as a location path names it: texts as they are, integers and truth values as
decimal integers, anything else in its code form. -/
def keyText : Value → String
  | .str s => s
  | .int n => toString n
  | .bool b => if b then "1" else "0"
  | v => v.code

/-- A mapping from a list of fields, later duplicates replacing earlier ones in place. -/
def ofFields (fields : List (String × Value)) : Value :=
  .obj (fields.foldl (fun acc p => setField acc p.1 p.2) [])

end Value

end TransitRevenue
