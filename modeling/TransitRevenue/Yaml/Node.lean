import TransitRevenue.Yaml.Event
import TransitRevenue.Yaml.Scalar
import Std.Data.HashMap
/-!
The nodes of a YAML document, and the values they stand for.

Composing turns the events of one document into a graph of nodes: scalars, sequences and
mappings, each with its type tag (given, or read off a plain scalar by `implicitTag`), numbered in
the order they start. An anchor names its node from the node's start, so an alias inside a
collection may repeat the collection itself, and the graph may hold cycles. A stream holds at
most one document.

Constructing gives each node a value, with a work list of collections:
* a scalar gets its value when first met, by its tag: null, booleans, integers, doubles, texts,
  dates and moments, and binary data;
* a collection, by its tag a list, a mapping, a set of keys, or an ordered list of pairs, starts
  empty when first met and is filled later, in the order collections were first met; so the
  entries of collections at one depth are read before those of collections one level deeper;
* a node met again is the same value, even while it is still being filled.
Filling a mapping first resolves its merge keys (`<<`) in place: each is removed, and the entries
of the mappings it names (of a list of them, the last first) go before the mapping's remaining
entries; a `=` key becomes a text key, wherever its node occurs. Keys follow the equality of the
values they stand for, so `1`, `1.0` and `true` are one key, and a later entry of a key replaces
the value of an earlier one in place; lists, mappings and sets cannot be keys.

A document that holds itself has no finite value: its value is unfolded to a depth past any chain
of distinct collections, and reads as null below that.
-/

namespace TransitRevenue.Yaml

/-- A node of a YAML document, with its type tag and where it starts; the nodes of a collection
are given by their numbers in the document. -/
inductive Node where
  | scalar (tag : String) (value : String) (start : Mark)
  | sequence (tag : String) (items : List Nat) (start : Mark)
  | mapping (tag : String) (pairs : List (Nat × Nat)) (start : Mark)
  deriving Inhabited, Repr

namespace Node

/-- Where a node starts. -/
def start : Node → Mark
  | .scalar _ _ m | .sequence _ _ m | .mapping _ _ m => m

/-- A node's type tag. -/
def tag : Node → String
  | .scalar t _ _ | .sequence t _ _ | .mapping t _ _ => t

/-- How a kind of node is named in messages. -/
def id : Node → String
  | .scalar _ _ _ => "scalar"
  | .sequence _ _ _ => "sequence"
  | .mapping _ _ _ => "mapping"

/-- The node with another tag. -/
def withTag (t : String) : Node → Node
  | .scalar _ v m => .scalar t v m
  | .sequence _ xs m => .sequence t xs m
  | .mapping _ ps m => .mapping t ps m

/-- The entries of a mapping node; none for other nodes. -/
def pairs : Node → List (Nat × Nat)
  | .mapping _ ps _ => ps
  | _ => []

/-- The node with other entries, if it is a mapping. -/
def withPairs (ps : List (Nat × Nat)) : Node → Node
  | .mapping t _ m => .mapping t ps m
  | n => n

end Node

/-- A composed document: its nodes by number, and the number of its root. -/
structure Graph where
  nodes : Array Node
  root : Nat

/-- The composer: the parser, the nodes composed so far, and the anchors with the numbers of the
nodes they name. -/
structure Composer where
  parser : Parser
  nodes : Array Node := #[]
  anchors : List (String × Nat) := []
  deriving Inhabited

/-- Composing: a step that reads and updates the composer, or finds a problem. -/
abbrev ComposeM := StateT Composer (Except Problem)

namespace Compose

/-- Run a parsing step on the composer's parser. -/
def parse {α : Type} (m : ParseM α) : ComposeM α := do
  let c ← get
  let (a, p) ← liftM (m.run c.parser)
  set { c with parser := p }
  return a

/-- The next event, without taking it. -/
def peekEvent : ComposeM Event := parse Parse.peekEvent

/-- Take the next event. -/
def getEvent : ComposeM Event := parse Parse.getEvent

/-- Fail with a composing problem. -/
def fail {α : Type} (context : Option String) (contextMark : Option Mark) (problem : String)
    (mark : Mark) : ComposeM α := do
  throw ((← get).parser.scanner.report (.marked .composing context contextMark problem mark))

/-- The tag of a node: the given one, or for `!` and none the implicit one. -/
def resolve (given : Option String) (default : String) : String :=
  match given with
  | some t => if t == "!" then default else t
  | none => default

/-- Start a node, under an anchor that must be new: the node takes the next number, and the
anchor names it from now on. -/
def begin (anchor : Option String) (n : Node) : ComposeM Nat := do
  let c ← get
  if let some a := anchor then
    if let some (_, first) := c.anchors.find? (·.1 == a) then
      fail (some ("found duplicate anchor " ++ Text.quoted a ++ "; first occurrence"))
        (some (c.nodes.getD first default).start) "second occurrence" n.start
  let i := c.nodes.size
  set { c with nodes := c.nodes.push n, anchors := (anchor.map ((·, i))).toList ++ c.anchors }
  return i

/-- Finish a collection node with its contents. -/
def finish (i : Nat) (n : Node) : ComposeM Unit :=
  modify fun c => { c with nodes := c.nodes.setIfInBounds i n }

/-- Whether an event ends a sequence. -/
def isSequenceEnd (e : Event) : Bool :=
  match e.kind with
  | .sequenceEnd => true
  | _ => false

/-- Whether an event ends a mapping. -/
def isMappingEnd (e : Event) : Bool :=
  match e.kind with
  | .mappingEnd => true
  | _ => false

mutual

/-- A node and everything in it, by its number. -/
def node : Nat → ComposeM Nat
  | 0 => pure 0
  | n + 1 => do
    let e ← peekEvent
    match e.kind with
    | .alias a =>
      discard getEvent
      match (← get).anchors.find? (·.1 == a) with
      | some (_, i) => return i
      | none => fail none none ("found undefined alias " ++ Text.quoted a) e.start
    | .scalar anchor tag pi _ value _ =>
      let tag := match tag with
        | some t => if t == "!" then implicitTag value else t
        | none => if pi then implicitTag value else stdTag "str"
      let i ← begin anchor (.scalar tag value e.start)
      discard getEvent
      return i
    | .sequenceStart anchor tag _ _ =>
      let tag := resolve tag (stdTag "seq")
      let i ← begin anchor (.sequence tag [] e.start)
      discard getEvent
      let xs ← items n
      discard getEvent
      finish i (.sequence tag xs e.start)
      return i
    | .mappingStart anchor tag _ _ =>
      let tag := resolve tag (stdTag "map")
      let i ← begin anchor (.mapping tag [] e.start)
      discard getEvent
      let ps ← pairs n
      discard getEvent
      finish i (.mapping tag ps e.start)
      return i
    | _ => pure 0

/-- The items of a sequence, up to its end. -/
def items : Nat → ComposeM (List Nat)
  | 0 => pure []
  | n + 1 => do
    if isSequenceEnd (← peekEvent) then return []
    let x ← node n
    let rest ← items n
    return x :: rest

/-- The entries of a mapping, up to its end. -/
def pairs : Nat → ComposeM (List (Nat × Nat))
  | 0 => pure []
  | n + 1 => do
    if isMappingEnd (← peekEvent) then return []
    let k ← node n
    let v ← node n
    let rest ← pairs n
    return (k, v) :: rest

end

/-- The single document of a stream, if there is one. -/
def single (fuel : Nat) : ComposeM (Option Graph) := do
  discard getEvent
  let doc ← if (← peekEvent).isStreamEnd then pure none else do
    discard getEvent
    let root ← node fuel
    discard getEvent
    let c ← get
    set { c with nodes := #[], anchors := [] }
    pure (some { nodes := c.nodes, root : Graph })
  let e ← peekEvent
  if !e.isStreamEnd then
    let e ← getEvent
    fail (some "expected a single document in the stream")
      (doc.map fun g => (g.nodes.getD g.root default).start) "but found another document" e.start
  discard getEvent
  return doc

end Compose

/-! ## Values of nodes -/

/-- Whether two keys are the same key: numbers and truth values by numeric value, texts, bytes,
null, dates, and moments (local ones by their fields, others by instant). -/
def sameKey (a b : Value) : Bool :=
  let numeric := fun (v : Value) => match v with
    | .bool t => some (Number.int (if t then 1 else 0))
    | v => v.number?
  match a, b with
  | .str x, .str y => x == y
  | .bytes x, .bytes y => x == y
  | .null, .null => true
  | .date x, .date y => x == y
  | .time x, .time y =>
    match x.offset, y.offset with
    | none, none => x.date == y.date && x.hour == y.hour && x.minute == y.minute &&
        x.second == y.second && x.micro == y.micro
    | some _, some _ => x.instant == y.instant
    | _, _ => false
  | _, _ =>
    match numeric a, numeric b with
    | some x, some y => x.eq y
    | _, _ => false

/-- Add an entry to a mapping under construction: a key already there keeps its place and takes
the new value. -/
def addEntry {α : Type} (entries : List (Value × α)) (k : Value) (v : α) : List (Value × α) :=
  if entries.any (sameKey k ·.1) then entries.map fun e => if sameKey k e.1 then (e.1, v) else e
  else entries ++ [(k, v)]

/-- A text naming a key's class of equal keys, for the keys that have a simple one: texts, null,
and numbers and truth values by their exact value (NaN has none). Two keys with classes are the
same key exactly when their classes agree, and a key without a class is never the same key as
one with a class. -/
def keyClass? : Value → Option String
  | .str s => some ("s" ++ s)
  | .null => some "0"
  | .bool b => some (if b then "n1/1" else "n0/1")
  | v => v.number?.bind fun n => n.extended?.map fun
    | .finite q => "n" ++ toString q.num ++ "/" ++ toString q.den
    | .posInf => "n+inf"
    | .negInf => "n-inf"

/-- The entries of a mapping under construction, with the position of each key that has a class
(`keyClass?`), so that such a key is found at once. -/
structure Entries (α : Type) where
  items : Array (Value × α) := #[]
  places : Std.HashMap String Nat := {}

/-- Add an entry, as `addEntry` does: a key already there keeps its place and takes the new
value. -/
def Entries.add {α : Type} (es : Entries α) (k : Value) (v : α) : Entries α :=
  let replace := fun (i : Nat) => { es with items := es.items.modify i fun e => (e.1, v) }
  match keyClass? k with
  | some c =>
    match es.places[c]? with
    | some i => replace i
    | none => { items := es.items.push (k, v), places := es.places.insert c es.items.size }
  | none =>
    match es.items.findIdx? fun e => sameKey k e.1 with
    | some i => replace i
    | none => { es with items := es.items.push (k, v) }

/-- A mapping value: with text keys only, a record of fields; otherwise a general mapping. -/
def mappingValue (entries : List (Value × Value)) : Value :=
  let texts := entries.filterMap fun (k, v) => match k with
    | .str s => some (s, v)
    | _ => none
  if texts.length == entries.length then .obj texts else .dict entries

/-- A problem found while constructing. -/
def constructing (context : Option String) (contextMark : Option Mark) (problem : String)
    (mark : Mark) : Problem :=
  .marked .constructing context contextMark problem mark

/-- The problem of a tag that no constructor takes. -/
def unknownTag (tag : String) (at_ : Mark) : Problem :=
  constructing none none ("could not determine a constructor for the tag " ++ Text.quoted tag) at_

/-- The tags whose values are made from a scalar's text. -/
def scalarTags : List String :=
  ["null", "bool", "int", "float", "str", "timestamp", "binary"].map stdTag

/-- The value of a scalar's text by its tag, one of `scalarTags`. -/
def scalarValue (tag text : String) (at_ : Mark) : Except Problem Value :=
  let lift := fun {α : Type} (r : Except Fault α) => r.mapError Problem.other
  if tag == stdTag "null" then .ok .null
  else if tag == stdTag "bool" then lift (boolValue text) |>.map .bool
  else if tag == stdTag "int" then lift (intValue text) |>.map .int
  else if tag == stdTag "float" then lift (floatValue text) |>.map .float
  else if tag == stdTag "timestamp" then lift (timestampValue text)
  else if tag == stdTag "binary" then
    (binaryValue text).map Value.bytes |>.mapError fun m => constructing none none m at_
  else .ok (.str text)

/-- What a node has been made into: a scalar's value, or a collection whose parts are nodes given
by number. -/
inductive Made where
  | datum (v : Value)
  | list (items : List Nat)
  | dict (entries : List (Value × Nat))
  | set (keys : List Value)
  | pairs (items : List (Nat × Nat))
  deriving Inhabited

/-- The empty collection a collection tag starts with, or `none` for a tag of no collection. -/
def emptyOf (tag : String) : Option Made :=
  if tag == stdTag "seq" then some (.list [])
  else if tag == stdTag "map" then some (.dict [])
  else if tag == stdTag "set" then some (.set [])
  else if tag == stdTag "omap" || tag == stdTag "pairs" then some (.pairs [])
  else none

/-- The constructor's state: the document's nodes (merge keys are resolved in place), what each
node has been made into, and the work list of collections to fill, of which the first `done`
are filled. -/
structure Builder where
  nodes : Array Node
  made : Array (Option Made)
  work : Array Nat := #[]
  done : Nat := 0

namespace Builder

/-- The node with a number. -/
def node (b : Builder) (i : Nat) : Node := b.nodes.getD i default

/-- Change the node with a number. -/
def change (b : Builder) (i : Nat) (f : Node → Node) : Builder :=
  { b with nodes := b.nodes.modify i f }

/-- Record what a node has been made into. -/
def record (b : Builder) (i : Nat) (m : Made) : Builder :=
  { b with made := b.made.setIfInBounds i (some m) }

end Builder

/-- Constructing: a step that reads and updates the constructor, or finds a problem. -/
abbrev BuildM := StateT Builder (Except Problem)

namespace Build

/-- What a node is made into: what it was made into before, if it was met before; else a
scalar's value, or an empty collection queued for filling. -/
def construct (i : Nat) : BuildM Made := do
  let b ← get
  if let some m := b.made.getD i none then return m
  let n := b.node i
  match emptyOf n.tag with
  | some m =>
    modify fun b => { b.record i m with work := b.work.push i }
    return m
  | none =>
    if !scalarTags.contains n.tag then throw (unknownTag n.tag n.start)
    match n with
    | .scalar tag text start =>
      let m := Made.datum (← liftM (scalarValue tag text start))
      modify (·.record i m)
      return m
    | other =>
      throw (constructing none none ("expected a scalar node, but found " ++ other.id) other.start)

/-- A problem with merging into the mapping that starts at `owner`. -/
def mergeProblem (owner : Mark) (problem : String) (at_ : Mark) : Problem :=
  constructing (some "while constructing a mapping") (some owner) problem at_

mutual

/-- Resolve the merge keys of mapping node `i`, in place: the merged entries go before the
entries that remain. -/
def flatten : Nat → Nat → BuildM Unit
  | 0, _ => pure ()
  | fuel + 1, i => do
    let b ← get
    -- a mapping without merge or `=` keys is left as it is
    unless (b.node i).pairs.any (fun (k, _) => [stdTag "merge", stdTag "value"].contains (b.node k).tag) do
      return
    let merged ← flattenFrom fuel i 0 []
    if !merged.isEmpty then modify (·.change i fun n => n.withPairs (merged ++ n.pairs))

/-- Go through the entries of mapping node `i` from position `index` on, as they stand when
reached: a merge key is removed and its mappings' entries gathered after `merged`; a `=` key
becomes a text key. The entries gathered. -/
def flattenFrom : Nat → Nat → Nat → List (Nat × Nat) → BuildM (List (Nat × Nat))
  | 0, _, _, merged => pure merged
  | fuel + 1, i, index, merged => do
    let b ← get
    let ps := (b.node i).pairs
    match ps[index]? with
    | none => pure merged
    | some (k, v) =>
      let key := b.node k
      if key.tag == stdTag "merge" then
        let owner := (b.node i).start
        let merging := b.node v
        modify (·.change i fun n => n.withPairs (ps.eraseIdx index))
        match merging with
        | .mapping _ _ _ =>
          flatten fuel v
          flattenFrom fuel i index (merged ++ ((← get).node v).pairs)
        | .sequence _ subs _ =>
          let groups ← flattenEach fuel owner subs
          flattenFrom fuel i index (merged ++ groups.reverse.flatten)
        | other =>
          throw (mergeProblem owner
            ("expected a mapping or list of mappings for merging, but found " ++ other.id) other.start)
      else
        if key.tag == stdTag "value" then modify (·.change k (Node.withTag (stdTag "str")))
        flattenFrom fuel i (index + 1) merged

/-- The entries of each mapping of a merge list, each resolved first. -/
def flattenEach : Nat → Mark → List Nat → BuildM (List (List (Nat × Nat)))
  | 0, _, _ => pure []
  | _ + 1, _, [] => pure []
  | fuel + 1, owner, sub :: rest => do
    match (← get).node sub with
    | .mapping _ _ _ =>
      flatten fuel sub
      let ps := ((← get).node sub).pairs
      return ps :: (← flattenEach fuel owner rest)
    | other =>
      throw (mergeProblem owner ("expected a mapping for merging, but found " ++ other.id) other.start)

end

/-- More steps than resolving the merge keys of any document takes. -/
def mergeSteps : Nat := Nat.pow 2 40

/-- The entries of mapping node `i`, its merge keys resolved: each key is made and must be a
scalar's value, then its value is made. -/
def mappingEntries (i : Nat) : BuildM (List (Value × Nat)) := do
  match (← get).node i with
  | .mapping _ _ start =>
    flatten mergeSteps i
    let entries ← ((← get).node i).pairs.foldlM (fun (acc : Entries Nat) (k, v) => do
      match ← construct k with
      | .datum key =>
        discard (construct v)
        return acc.add key v
      | _ =>
        throw (constructing (some "while constructing a mapping") (some start)
          "found unhashable key" ((← get).node k).start)) {}
    return entries.items.toList
  | other => throw (constructing none none ("expected a mapping node, but found " ++ other.id) other.start)

/-- The pairs of an ordered map or pairs node: a sequence of mappings of one entry each, whose
keys and values are made in order. -/
def pairsOf (i : Nat) : BuildM (List (Nat × Nat)) := do
  let n := (← get).node i
  let context := some ("while constructing " ++
    (if n.tag == stdTag "omap" then "an ordered map" else "pairs"))
  match n with
  | .sequence _ subs start =>
    subs.mapM fun sub => do
      match (← get).node sub with
      | .mapping _ [(k, v)] _ =>
        discard (construct k)
        discard (construct v)
        return (k, v)
      | .mapping _ ps m =>
        throw (constructing context (some start)
          ("expected a single mapping item, but found " ++ toString ps.length ++ " items") m)
      | other =>
        throw (constructing context (some start)
          ("expected a mapping of length 1, but found " ++ other.id) other.start)
  | other => throw (constructing context (some other.start) ("expected a sequence, but found " ++ other.id) other.start)

/-- Fill collection node `i`, by what it was made into. -/
def fill (i : Nat) : BuildM Unit := do
  match (← get).made.getD i none with
  | some (.list _) =>
    match (← get).node i with
    | .sequence _ xs _ =>
      xs.forM fun x => discard (construct x)
      modify (·.record i (.list xs))
    | other =>
      throw (constructing none none ("expected a sequence node, but found " ++ other.id) other.start)
  | some (.dict _) =>
    let entries ← mappingEntries i
    modify (·.record i (.dict entries))
  | some (.set _) =>
    let entries ← mappingEntries i
    modify (·.record i (.set (entries.map (·.1))))
  | some (.pairs _) =>
    let ps ← pairsOf i
    modify (·.record i (.pairs ps))
  | _ => pure ()

/-- Fill the collections of the work list in order, at most `n` of them; filling one may add
more to the list. -/
def drain : Nat → BuildM Unit
  | 0 => pure ()
  | n + 1 => do
    let b ← get
    match b.work[b.done]? with
    | none => pure ()
    | some i =>
      set { b with done := b.done + 1 }
      fill i
      drain n

end Build

/-- Construct a document: its root, then the collections of the work list. Each node joins the
work list at most once. -/
def build (g : Graph) : Except Problem Builder := do
  let b : Builder := { nodes := g.nodes, made := Array.replicate g.nodes.size none }
  let (_, b) ← (do discard (Build.construct g.root); Build.drain (g.nodes.size + 1)).run b
  return b

/-- Unfolded values kept by depth and node number. -/
abbrev Unfolded := Std.HashMap (Nat × Nat) Value

/-- The value of node `i` unfolded to depth `d`; collections below depth zero read as null. -/
def unfold (b : Builder) : Nat → Nat → StateM Unfolded Value
  | 0, _ => pure .null
  | d + 1, i =>
    match b.made.getD i none with
    | none => pure .null
    | some (.datum v) => pure v
    | some m => do
      if let some v := (← get)[(d + 1, i)]? then return v
      let v ← match m with
        | .list xs => do pure (.list (← xs.mapM (unfold b d)))
        | .dict es => do
          pure (mappingValue (← es.mapM fun (k, x) => do pure (k, ← unfold b d x)))
        | .set keys => pure (.set keys)
        | .pairs ps => do
          pure (.list (← ps.mapM fun (k, x) => do pure (.list [← unfold b d k, ← unfold b d x])))
        | .datum v => pure v
      modify (·.insert (d + 1, i) v)
      return v

/-- Text as a file opened for reading text presents it: `\r\n` and `\r` become `\n`. -/
def readText (text : String) : List Char :=
  go text.toList
where
  /-- Normalize the line ends of a list of characters. -/
  go : List Char → List Char
    | '\r' :: '\n' :: rest => '\n' :: go rest
    | '\r' :: rest => '\n' :: go rest
    | c :: rest => c :: go rest
    | [] => []

/-- The value of the single YAML document in a text (null for an empty stream), or the first
problem met reading it. A composed document has been read to its end, so a character that YAML
text may not hold is reported before the document is constructed. -/
def loadValue (text : String) : Except Problem Value := do
  let src := (readText text).toArray
  let composer : Composer := { parser := { scanner := Scanner.start src } }
  let (doc, _) ← (Compose.single (8 * src.size + 64)).run composer
  if let some (code, at_) := Scanner.firstUnprintable? src then throw (.unprintable code at_)
  match doc with
  | none => return .null
  | some g =>
    let b ← build g
    return (Id.run ((unfold b (g.nodes.size + 64) g.root).run {})).1

/-- The value of the YAML text of a file, problems named after the file. -/
def load (file text : String) : Except Fault Value :=
  (loadValue text).mapError (Problem.toFault file)

end TransitRevenue.Yaml
