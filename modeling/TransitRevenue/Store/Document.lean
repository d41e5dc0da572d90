import TransitRevenue.Value.Order
/-!
Document databases: named collections of documents, each a mapping value, kept in storage order.

A database stores moments as instants in UTC to the millisecond (finer digits are cut off), so a
document reads back with every moment converted and truncated. A filter on a field matches the way
the database's matcher compares values: loosely (`Value.looseEq`, so `3` matches `3.0` and
`true` matches `1`), a list field matching when it holds the value, and an absent field matching
only `null`. Inserting appends; replacing by a filter keeps the position and identifier of the
first document that matches, and inserts otherwise, with the identifier the filter names or a
newly generated one.
-/

namespace TransitRevenue

namespace Value

mutual

/-- The form in which the database keeps a value: moments in UTC, truncated to milliseconds. -/
def stored : Value → Value
  | .time t => .time t.toUtc.truncateMillis
  | .list xs => .list (storedList xs)
  | .obj fs => .obj (storedFields fs)
  | v => v

/-- `stored` on each item. -/
def storedList : List Value → List Value
  | [] => []
  | x :: xs => stored x :: storedList xs

/-- `stored` on each field. -/
def storedFields : List (String × Value) → List (String × Value)
  | [] => []
  | (k, v) :: fs => (k, stored v) :: storedFields fs

end

/-- Whether a document's field matches a plain value: the field equals it loosely, or is a list
holding it or equal to it; an absent field matches only `null`. -/
def fieldIs (doc : Value) (key : String) (v : Value) : Bool :=
  match doc.get? key with
  | some (.list xs) => holds xs v || (Value.list xs).looseEq v
  | some x => x.looseEq v
  | none => match v with
    | .null => true
    | _ => false

/-- Whether a document's field is not `null`: a list when none of its items is `null`, and an
absent field too. -/
def fieldNotNull (doc : Value) (key : String) : Bool :=
  match doc.get? key with
  | some (.list xs) => !xs.any fun x => match x with
    | .null => true
    | _ => false
  | some .null => false
  | _ => true

/-- Whether a document's field is one of some values: the field, or any item of it when it is a
list, is loosely equal to one of them. -/
def fieldIn (doc : Value) (key : String) (vs : List Value) : Bool :=
  match doc.get? key with
  | some (.list xs) => xs.any (holds vs ·)
  | some x => holds vs x
  | none => false

/-- The moment in a document's field, if the field holds one. -/
def momentAt? (doc : Value) (key : String) : Option Moment :=
  match doc.get? key with
  | some (.time t) => some t
  | _ => none

/-- A document without its identifier field. -/
def withoutId : Value → Value
  | .obj fs => .obj (fs.filter (·.1 != "_id"))
  | v => v

/-- A document with the given identifier first, unless it already has one. -/
def withId : Value → Value → Value
  | .obj fs, id => if fs.any (·.1 == "_id") then .obj fs else .obj (("_id", id) :: fs)
  | v, _ => v

end Value

/-- A database: named collections of documents, and the count of identifiers generated so far. -/
structure Database where
  collections : List (String × List Value) := []
  generated : Nat := 0
  deriving Inhabited

namespace Database

/-- The documents of a collection, in storage order; none for an unknown collection. -/
def docs (db : Database) (name : String) : List Value :=
  ((db.collections.find? (·.1 == name)).map (·.2)).getD []

/-- The documents of a collection that satisfy a test. -/
def find (db : Database) (name : String) (p : Value → Bool) : List Value :=
  (db.docs name).filter p

/-- The first document of a collection that satisfies a test. -/
def findOne? (db : Database) (name : String) (p : Value → Bool) : Option Value :=
  (db.docs name).find? p

/-- Replace the documents of a collection. -/
def setDocs (db : Database) (name : String) (docs : List Value) : Database :=
  { db with collections := Value.setEntry db.collections name docs }

/-- Give a document an identifier if it has none, generating a new one. -/
def identify (db : Database) (doc : Value) : Database × Value :=
  match doc.get? "_id" with
  | some _ => (db, doc)
  | none => ({ db with generated := db.generated + 1 }, doc.withId (.ident db.generated))

/-- Append a document to a collection, in stored form. -/
def insert (db : Database) (name : String) (doc : Value) : Database :=
  let (db, doc) := db.identify doc.stored
  db.setDocs name (db.docs name ++ [doc])

/-- Replace the first document that satisfies `p`, keeping its identifier and position, or
insert the document with identifier `filterId` (when the filter names one) or a new one. -/
def replaceOrInsert (db : Database) (name : String) (p : Value → Bool) (filterId : Option Value)
    (doc : Value) : Database :=
  let docs := db.docs name
  match docs.findIdx? p with
  | some i =>
    let old := docs.getD i .null
    let keep := (old.get? "_id").getD .null
    db.setDocs name (docs.set i (doc.stored.withoutId.withId keep))
  | none =>
    match filterId with
    | some id => db.setDocs name (docs ++ [doc.stored.withoutId.withId id])
    | none => db.insert name doc

end Database

/-- Named databases, as one server holds them. -/
structure DocumentServer where
  databases : List (String × Database) := []
  deriving Inhabited

namespace DocumentServer

/-- A database by name; empty if it was never written. -/
def db (s : DocumentServer) (name : String) : Database :=
  ((s.databases.find? (·.1 == name)).map (·.2)).getD {}

/-- Replace a database. -/
def setDb (s : DocumentServer) (name : String) (db : Database) : DocumentServer :=
  { s with databases := Value.setEntry s.databases name db }

end DocumentServer

end TransitRevenue
