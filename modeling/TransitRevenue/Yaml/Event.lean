import TransitRevenue.Yaml.Token
/-!
The events of YAML text: a parser from tokens to the start and end of documents and
collections, scalars and aliases.

The parser is a state machine over the grammar of YAML streams. Its state names what may come
next (a document, a block mapping's key, a flow sequence's entry, ...), and a stack holds the
states to return to after a node. Missing keys and values are empty scalars. A block sequence
whose entries stand at the same column as the mapping key that holds it needs no indentation
(an *indentless* sequence). Tag handles are expanded with the document's `%TAG` directives, `!`
and `!!` having their standard meanings.
-/

namespace TransitRevenue.Yaml

/-- What an event is. Scalars record whether their tag may be left implicit when written plain,
and when written quoted. -/
inductive EventKind where
  | streamStart
  | streamEnd
  | documentStart (explicit : Bool)
  | documentEnd (explicit : Bool)
  | alias (anchor : String)
  | scalar (anchor : Option String) (tag : Option String) (plainImplicit quotedImplicit : Bool)
      (value : String) (style : Option Char)
  | sequenceStart (anchor : Option String) (tag : Option String) (implicit : Bool) (flow : Bool)
  | sequenceEnd
  | mappingStart (anchor : Option String) (tag : Option String) (implicit : Bool) (flow : Bool)
  | mappingEnd
  deriving Inhabited, Repr

/-- An event with the marks where it starts and ends. -/
structure Event where
  kind : EventKind
  start : Mark
  stop : Mark
  deriving Inhabited, Repr

namespace Event

/-- Whether the event ends the stream. -/
def isStreamEnd (e : Event) : Bool :=
  match e.kind with
  | .streamEnd => true
  | _ => false

/-- The anchor an event gives its node, if any. -/
def anchor? (e : Event) : Option String :=
  match e.kind with
  | .scalar a _ _ _ _ _ | .sequenceStart a _ _ _ | .mappingStart a _ _ _ => a
  | _ => none

end Event

/-- What the parser expects next. -/
inductive ParseState where
  | streamStart
  | implicitDocumentStart
  | documentStart
  | documentEnd
  | documentContent
  | blockNode
  | blockSequenceFirstEntry
  | blockSequenceEntry
  | indentlessSequenceEntry
  | blockMappingFirstKey
  | blockMappingKey
  | blockMappingValue
  | flowSequenceFirstEntry
  | flowSequenceEntry
  | flowSequenceEntryMappingKey
  | flowSequenceEntryMappingValue
  | flowSequenceEntryMappingEnd
  | flowMappingFirstKey
  | flowMappingKey
  | flowMappingValue
  | flowMappingEmptyValue
  | finished
  deriving Inhabited, BEq, Repr

/-- The parser: the scanner, the current state and the stack of states to return to, the marks
of the open collections, the tag handles in force, and an event read ahead. -/
structure Parser where
  scanner : Scanner
  state : ParseState := .streamStart
  states : List ParseState := []
  marks : List Mark := []
  tagHandles : List (String × String) := []
  version : Option (Nat × Nat) := none
  current : Option Event := none
  deriving Inhabited

/-- The standard tag handles. -/
def defaultTagHandles : List (String × String) := [("!", "!"), ("!!", "tag:yaml.org,2002:")]

/-- Parsing: a step that reads and updates the parser, or finds a problem. -/
abbrev ParseM := StateT Parser (Except Problem)

namespace Parse

/-- Run a scanning step on the parser's scanner. -/
def scan {α : Type} (m : ScanM α) : ParseM α := do
  let p ← get
  let (a, s) ← liftM (m.run p.scanner)
  set { p with scanner := s }
  return a

/-- The next token, without taking it. -/
def peekToken : ParseM Token := scan Scan.peekToken

/-- Take the next token. -/
def getToken : ParseM Token := scan Scan.getToken

/-- Whether the next token satisfies `p`. -/
def checkToken (p : TokenKind → Bool) : ParseM Bool := do return p (← peekToken).kind

/-- Fail with a parsing problem. -/
def fail {α : Type} (context : Option String) (contextMark : Option Mark) (problem : String)
    (mark : Mark) : ParseM α := do
  throw ((← get).scanner.report (Problem.parsing context contextMark problem mark))

/-- Set the next state. -/
def goTo (s : ParseState) : ParseM Unit := modify fun p => { p with state := s }

/-- Push a state to return to. -/
def pushState (s : ParseState) : ParseM Unit := modify fun p => { p with states := s :: p.states }

/-- Return to the state on top of the stack. -/
def popState : ParseM Unit := modify fun p =>
  { p with state := p.states.headD .finished, states := p.states.tail }

/-- Remember where a collection starts. -/
def pushMark (m : Mark) : ParseM Unit := modify fun p => { p with marks := m :: p.marks }

/-- Forget where the innermost collection starts. -/
def popMark : ParseM Unit := modify fun p => { p with marks := p.marks.tail }

/-- Where the innermost collection starts. -/
def topMark : ParseM Mark := do return (← get).marks.headD {}

/-- An empty scalar at a mark. -/
def emptyScalar (m : Mark) : Event := ⟨.scalar none none true false "" none, m, m⟩

/-- Token tests. -/
def isKind (k : TokenKind) : TokenKind → Bool := fun t =>
  match k, t with
  | .streamEnd, .streamEnd | .documentStart, .documentStart | .documentEnd, .documentEnd
  | .blockEnd, .blockEnd | .blockEntry, .blockEntry | .key, .key | .value, .value
  | .flowEntry, .flowEntry | .flowSequenceEnd, .flowSequenceEnd
  | .flowMappingEnd, .flowMappingEnd | .blockSequenceStart, .blockSequenceStart
  | .blockMappingStart, .blockMappingStart | .flowSequenceStart, .flowSequenceStart
  | .flowMappingStart, .flowMappingStart => true
  | _, _ => false

/-- Whether a token is one of the given kinds. -/
def isOneOf (ks : List TokenKind) (t : TokenKind) : Bool := ks.any (isKind · t)

/-- Whether a token is a directive. -/
def isDirective : TokenKind → Bool
  | .directive _ _ => true
  | _ => false

/-- Read the directives before an explicit document: the YAML version and tag handles. -/
def directives : ParseM (Option (Nat × Nat)) := do
  modify fun p => { p with version := none, tagHandles := [] }
  go ((← get).scanner.src.size + 2)
  let p ← get
  let handles := defaultTagHandles.foldl (fun acc (h, e) =>
    if acc.any (·.1 == h) then acc else acc ++ [(h, e)]) p.tagHandles
  set { p with tagHandles := handles }
  return p.version
where
  /-- At most `n` more directives. -/
  go : Nat → ParseM Unit
    | 0 => pure ()
    | n + 1 => do
      if !(← checkToken isDirective) then return
      let t ← getToken
      match t.kind with
      | .directive "YAML" (.version major minor) =>
        if (← get).version.isSome then fail none none "found duplicate YAML directive" t.start
        if major != 1 then
          fail none none "found incompatible YAML document (version 1.* is required)" t.start
        modify fun p => { p with version := some (major, minor) }
      | .directive "TAG" (.tagHandle handle expansion) =>
        if (← get).tagHandles.any (·.1 == handle) then
          fail none none ("duplicate tag handle " ++ Text.quoted handle) t.start
        modify fun p => { p with tagHandles := p.tagHandles ++ [(handle, expansion)] }
      | _ => pure ()
      go n

/-- A node: an alias, or a scalar or the start of a collection with its anchor and tag. -/
def node (block indentless : Bool) : ParseM Event := do
  let t ← peekToken
  match t.kind with
  | .alias name =>
    discard getToken
    popState
    return ⟨.alias name, t.start, t.stop⟩
  | _ =>
    -- anchor and tag, in either order
    let (anchor, tag, startMark, endMark, tagMark) ← do
      let t ← peekToken
      match t.kind with
      | .anchor a =>
        discard getToken
        let t2 ← peekToken
        match t2.kind with
        | .tag h s =>
          discard getToken
          pure (some a, some (h, s), some t.start, some t2.stop, some t2.start)
        | _ => pure (some a, none, some t.start, some t.stop, none)
      | .tag h s =>
        discard getToken
        let t2 ← peekToken
        match t2.kind with
        | .anchor a =>
          discard getToken
          pure (some a, some (h, s), some t.start, some t2.stop, some t.start)
        | _ => pure (none, some (h, s), some t.start, some t.stop, some t.start)
      | _ => pure (none, none, none, none, none)
    let tag ← expandTag tag startMark tagMark
    let here := (← peekToken).start
    let startMark := startMark.getD here
    let endMark := endMark.getD here
    let implicit := tag.isNone || tag == some "!"
    let t ← peekToken
    if indentless && isKind .blockEntry t.kind then
      goTo .indentlessSequenceEntry
      return ⟨.sequenceStart anchor tag implicit false, startMark, t.stop⟩
    match t.kind with
    | .scalar value plain style =>
      discard getToken
      let (pi, qi) :=
        if (plain && tag.isNone) || tag == some "!" then (true, false)
        else if tag.isNone then (false, true) else (false, false)
      popState
      return ⟨.scalar anchor tag pi qi value style, startMark, t.stop⟩
    | .flowSequenceStart =>
      goTo .flowSequenceFirstEntry
      return ⟨.sequenceStart anchor tag implicit true, startMark, t.stop⟩
    | .flowMappingStart =>
      goTo .flowMappingFirstKey
      return ⟨.mappingStart anchor tag implicit true, startMark, t.stop⟩
    | .blockSequenceStart =>
      if block then
        goTo .blockSequenceFirstEntry
        return ⟨.sequenceStart anchor tag implicit false, startMark, t.start⟩
      else nodeEnd anchor tag implicit startMark endMark block t
    | .blockMappingStart =>
      if block then
        goTo .blockMappingFirstKey
        return ⟨.mappingStart anchor tag implicit false, startMark, t.start⟩
      else nodeEnd anchor tag implicit startMark endMark block t
    | _ => nodeEnd anchor tag implicit startMark endMark block t
where
  /-- A tag with its handle expanded. -/
  expandTag (tag : Option (Option String × String)) (startMark tagMark : Option Mark) :
      ParseM (Option String) := do
    match tag with
    | some (some handle, suffix) =>
      let found := (← get).tagHandles.find? (·.1 == handle)
      match found with
      | some (_, expansion) => return some (expansion ++ suffix)
      | none =>
        let msg := "found undefined tag handle " ++ Text.quoted handle
        fail (some "while parsing a node") startMark msg (tagMark.getD {})
    | some (none, suffix) => return some suffix
    | none => return none
  /-- A node without content: an empty scalar if it has an anchor or tag, else a problem. -/
  nodeEnd (anchor tag : Option String) (implicit : Bool) (startMark endMark : Mark) (block : Bool)
      (t : Token) : ParseM Event := do
    if anchor.isSome || tag.isSome then
      popState
      return ⟨.scalar anchor tag implicit false "" none, startMark, endMark⟩
    fail (some ("while parsing a " ++ (if block then "block" else "flow") ++ " node")) (some startMark)
      ("expected the node content, but found " ++ Text.quoted t.kind.id) t.start

/-- The next event, by the current state. -/
def step : ParseM Event := do
  match (← get).state with
  | .streamStart =>
    let t ← getToken
    goTo .implicitDocumentStart
    return ⟨.streamStart, t.start, t.stop⟩
  | .implicitDocumentStart =>
    if !(← checkToken fun k => isDirective k || isOneOf [.documentStart, .streamEnd] k) then
      modify fun p => { p with tagHandles := defaultTagHandles }
      let t ← peekToken
      pushState .documentEnd
      goTo .blockNode
      return ⟨.documentStart false, t.start, t.start⟩
    else documentStart
  | .documentStart => documentStart
  | .documentEnd =>
    let t ← peekToken
    let (stop, explicit) ← if isKind .documentEnd t.kind then do
        let t ← getToken
        pure (t.stop, true)
      else pure (t.start, false)
    goTo .documentStart
    return ⟨.documentEnd explicit, t.start, stop⟩
  | .documentContent =>
    let t ← peekToken
    if isDirective t.kind || isOneOf [.documentStart, .documentEnd, .streamEnd] t.kind then
      popState
      return emptyScalar t.start
    else node true false
  | .blockNode => node true false
  | .blockSequenceFirstEntry =>
    let t ← getToken
    pushMark t.start
    blockSequenceEntry
  | .blockSequenceEntry => blockSequenceEntry
  | .indentlessSequenceEntry =>
    let t ← peekToken
    if isKind .blockEntry t.kind then
      let t ← getToken
      if !(← checkToken (isOneOf [.blockEntry, .key, .value, .blockEnd])) then
        pushState .indentlessSequenceEntry
        node true false
      else
        goTo .indentlessSequenceEntry
        return emptyScalar t.stop
    else
      popState
      return ⟨.sequenceEnd, t.start, t.start⟩
  | .blockMappingFirstKey =>
    let t ← getToken
    pushMark t.start
    blockMappingKey
  | .blockMappingKey => blockMappingKey
  | .blockMappingValue =>
    let t ← peekToken
    if isKind .value t.kind then
      let t ← getToken
      if !(← checkToken (isOneOf [.key, .value, .blockEnd])) then
        pushState .blockMappingKey
        node true true
      else
        goTo .blockMappingKey
        return emptyScalar t.stop
    else
      goTo .blockMappingKey
      return emptyScalar t.start
  | .flowSequenceFirstEntry =>
    let t ← getToken
    pushMark t.start
    flowSequenceEntry true
  | .flowSequenceEntry => flowSequenceEntry false
  | .flowSequenceEntryMappingKey =>
    let t ← getToken
    if !(← checkToken (isOneOf [.value, .flowEntry, .flowSequenceEnd])) then
      pushState .flowSequenceEntryMappingValue
      node false false
    else
      goTo .flowSequenceEntryMappingValue
      return emptyScalar t.stop
  | .flowSequenceEntryMappingValue =>
    let t ← peekToken
    if isKind .value t.kind then
      let t ← getToken
      if !(← checkToken (isOneOf [.flowEntry, .flowSequenceEnd])) then
        pushState .flowSequenceEntryMappingEnd
        node false false
      else
        goTo .flowSequenceEntryMappingEnd
        return emptyScalar t.stop
    else
      goTo .flowSequenceEntryMappingEnd
      return emptyScalar t.start
  | .flowSequenceEntryMappingEnd =>
    goTo .flowSequenceEntry
    let t ← peekToken
    return ⟨.mappingEnd, t.start, t.start⟩
  | .flowMappingFirstKey =>
    let t ← getToken
    pushMark t.start
    flowMappingKey true
  | .flowMappingKey => flowMappingKey false
  | .flowMappingValue =>
    let t ← peekToken
    if isKind .value t.kind then
      let t ← getToken
      if !(← checkToken (isOneOf [.flowEntry, .flowMappingEnd])) then
        pushState .flowMappingKey
        node false false
      else
        goTo .flowMappingKey
        return emptyScalar t.stop
    else
      goTo .flowMappingKey
      return emptyScalar t.start
  | .flowMappingEmptyValue =>
    goTo .flowMappingKey
    return emptyScalar (← peekToken).start
  | .finished =>
    let t ← peekToken
    return ⟨.streamEnd, t.start, t.stop⟩
where
  /-- An explicit document's start, or the end of the stream. -/
  documentStart : ParseM Event := do
    skipDocumentEnds ((← get).scanner.src.size + 2)
    let t ← peekToken
    if !isKind .streamEnd t.kind then
      discard directives
      let t2 ← peekToken
      if !isKind .documentStart t2.kind then
        fail none none ("expected '<document start>', but found " ++ Text.quoted t2.kind.id) t2.start
      let t2 ← getToken
      pushState .documentEnd
      goTo .documentContent
      return ⟨.documentStart true, t.start, t2.stop⟩
    else
      let t ← getToken
      goTo .finished
      return ⟨.streamEnd, t.start, t.stop⟩
  /-- Skip extra document end markers. -/
  skipDocumentEnds : Nat → ParseM Unit
    | 0 => pure ()
    | n + 1 => do
      if ← checkToken (isKind .documentEnd) then
        discard getToken
        skipDocumentEnds n
  /-- An entry of a block sequence, or its end. -/
  blockSequenceEntry : ParseM Event := do
    let t ← peekToken
    if isKind .blockEntry t.kind then
      let t ← getToken
      if !(← checkToken (isOneOf [.blockEntry, .blockEnd])) then
        pushState .blockSequenceEntry
        node true false
      else
        goTo .blockSequenceEntry
        return emptyScalar t.stop
    else if !isKind .blockEnd t.kind then
      fail (some "while parsing a block collection") (some (← topMark))
        ("expected <block end>, but found " ++ Text.quoted t.kind.id) t.start
    else
      let t ← getToken
      popState
      popMark
      return ⟨.sequenceEnd, t.start, t.stop⟩
  /-- A key of a block mapping, or its end. -/
  blockMappingKey : ParseM Event := do
    let t ← peekToken
    if isKind .key t.kind then
      let t ← getToken
      if !(← checkToken (isOneOf [.key, .value, .blockEnd])) then
        pushState .blockMappingValue
        node true true
      else
        goTo .blockMappingValue
        return emptyScalar t.stop
    else if !isKind .blockEnd t.kind then
      fail (some "while parsing a block mapping") (some (← topMark))
        ("expected <block end>, but found " ++ Text.quoted t.kind.id) t.start
    else
      let t ← getToken
      popState
      popMark
      return ⟨.mappingEnd, t.start, t.stop⟩
  /-- An entry of a flow sequence, or its end. -/
  flowSequenceEntry (first : Bool) : ParseM Event := do
    if !(← checkToken (isKind .flowSequenceEnd)) then
      if !first then
        if ← checkToken (isKind .flowEntry) then discard getToken
        else
          let t ← peekToken
          fail (some "while parsing a flow sequence") (some (← topMark))
            ("expected ',' or ']', but got " ++ Text.quoted t.kind.id) t.start
      let t ← peekToken
      if isKind .key t.kind then
        goTo .flowSequenceEntryMappingKey
        return ⟨.mappingStart none none true true, t.start, t.stop⟩
      else if !isKind .flowSequenceEnd t.kind then
        pushState .flowSequenceEntry
        return ← node false false
    let t ← getToken
    popState
    popMark
    return ⟨.sequenceEnd, t.start, t.stop⟩
  /-- A key of a flow mapping, or its end. -/
  flowMappingKey (first : Bool) : ParseM Event := do
    if !(← checkToken (isKind .flowMappingEnd)) then
      if !first then
        if ← checkToken (isKind .flowEntry) then discard getToken
        else
          let t ← peekToken
          fail (some "while parsing a flow mapping") (some (← topMark))
            ("expected ',' or '\x7d', but got " ++ Text.quoted t.kind.id) t.start
      let t ← peekToken
      if isKind .key t.kind then
        let t ← getToken
        if !(← checkToken (isOneOf [.value, .flowEntry, .flowMappingEnd])) then
          pushState .flowMappingValue
          return ← node false false
        else
          goTo .flowMappingValue
          return emptyScalar t.stop
      else if !isKind .flowMappingEnd t.kind then
        pushState .flowMappingEmptyValue
        return ← node false false
    let t ← getToken
    popState
    popMark
    return ⟨.mappingEnd, t.start, t.stop⟩

/-- The next event, without taking it. -/
def peekEvent : ParseM Event := do
  match (← get).current with
  | some e => return e
  | none =>
    let e ← step
    modify fun p => { p with current := some e }
    return e

/-- Take the next event. -/
def getEvent : ParseM Event := do
  let e ← peekEvent
  modify fun p => { p with current := none }
  return e

end Parse

end TransitRevenue.Yaml
