import TransitRevenue.Value
/-!
Equality, order and keys of loosely typed values, as stored documents are matched, grouped and
ranked.

* Equality (`looseEq`): numbers and truth values by exact value, so `true` equals `1` and `1.0`
  and not-a-number equals nothing; texts, dates and identifiers by content; lists item by item;
  mappings by their keys and values, whatever the order; moments by instant when both carry an
  offset and by their fields when neither does. Values of other different kinds are unequal.
* Order (`above a b`: whether `a` is above `b`): numbers and truth values by value, texts by code
  points, lists by their first unequal items (else the shorter is below), dates by day, and
  moments when both or neither carry an offset. Any other pair cannot be ordered, and asking is a
  fault that names both kinds.
* Keys: lists and mappings cannot serve as keys of a table or members of a set.
-/

namespace TransitRevenue

namespace Value

/-- The number a value stands for in arithmetic: integers, doubles, and truth values as one and
zero. -/
def numeric? : Value → Option Number
  | .int n => some (.int n)
  | .float x => some (.float x)
  | .bool b => some (.int (if b then 1 else 0))
  | _ => none

/-- Whether two moments are equal: by instant when both carry an offset, by their fields when
neither does; a moment with an offset never equals one without. -/
def momentEq (a b : Moment) : Bool :=
  match a.offset, b.offset with
  | some _, some _ => a.instant == b.instant
  | none, none => a.localMicros == b.localMicros
  | _, _ => false

mutual

/-- Loose equality of values. -/
def looseEq : Value → Value → Bool
  | .null, .null => true
  | .str a, .str b => a == b
  | .ident a, .ident b => a == b
  | .date a, .date b => a == b
  | .time a, .time b => momentEq a b
  | .list xs, .list ys => listEq xs ys
  | .obj fs, .obj gs => fs.length == gs.length && fieldsIn fs gs
  | a, b =>
    match a.numeric?, b.numeric? with
    | some x, some y => x.eq y
    | _, _ => false

/-- Item-wise `looseEq`. -/
def listEq : List Value → List Value → Bool
  | [], [] => true
  | x :: xs, y :: ys => looseEq x y && listEq xs ys
  | _, _ => false

/-- Whether each field of the first mapping is in the second with an equal value. -/
def fieldsIn : List (String × Value) → List (String × Value) → Bool
  | [], _ => true
  | (k, v) :: fs, gs =>
    (match field? gs k with
      | some w => looseEq v w
      | none => false) && fieldsIn fs gs

end

/-- Whether a list holds a value loosely equal to `v`. -/
def holds (xs : List Value) (v : Value) : Bool := xs.any (·.looseEq v)

/-- The fault of two values that cannot be ordered. -/
def unordered (a b : Value) : Fault :=
  .wrongKind ("'>' not supported between instances of '" ++ a.kindName ++ "' and '" ++
    b.kindName ++ "'")

mutual

/-- Whether `a` is above `b`, or the fault of a pair that cannot be ordered. -/
def above : Value → Value → Except Fault Bool
  | .str a, .str b => .ok (decide (b < a))
  | .list xs, .list ys => listAbove xs ys
  | .date a, .date b => .ok (b.ordinal < a.ordinal)
  | .time a, .time b =>
    match a.offset, b.offset with
    | some _, some _ => .ok (b.instant < a.instant)
    | none, none => .ok (b.localMicros < a.localMicros)
    | _, _ => .error (.wrongKind "can't compare offset-naive and offset-aware datetimes")
  | a, b =>
    match a.numeric?, b.numeric? with
    | some x, some y => .ok (y.lt x)
    | _, _ => .error (unordered a b)

/-- Lists in order: the first unequal items decide; else the longer is above. -/
def listAbove : List Value → List Value → Except Fault Bool
  | x :: xs, y :: ys => if looseEq x y then listAbove xs ys else above x y
  | _ :: _, [] => .ok true
  | [], _ => .ok false

end

/-- The greatest of some values: the first, replaced by each later one above it; `null` for
none. -/
def greatest : List Value → Except Fault Value
  | [] => .ok .null
  | x :: xs => xs.foldlM (fun m v => do if (← above v m) then pure v else pure m) x

/-- The kind of a value that cannot be a key: lists and mappings. -/
def unkeyable? : Value → Option String
  | .list _ => some "list"
  | .obj _ | .dict _ => some "dict"
  | _ => none

/-- A value that may serve as a key, or the fault of one that cannot. -/
def asKey (v : Value) : Except Fault Value :=
  match v.unkeyable? with
  | some kind => .error (.wrongKind ("unhashable type: '" ++ kind ++ "'"))
  | none => .ok v

/-- The sum of values from the integer zero, added one by one: numbers and truth values only. -/
def sumAll (xs : List Value) : Except Fault Number :=
  xs.foldlM (fun acc v =>
    match v.numeric? with
    | some x => acc.add x
    | none => .error (.wrongKind ("unsupported operand type(s) for +: '" ++
        (Value.ofNumber acc).kindName ++ "' and '" ++ v.kindName ++ "'"))) (.int 0)

end Value

end TransitRevenue
