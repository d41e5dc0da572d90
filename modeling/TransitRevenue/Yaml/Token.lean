import TransitRevenue.Yaml.Mark
import TransitRevenue.Text.Encoding
/-!
The tokens of YAML text, and the scanner that produces them on demand.

Tokens are produced lazily, in the order a reader asks for them, because the scanner needs a
look-ahead of a whole line to decide whether a scalar is a mapping key: a scalar, alias, anchor,
tag or flow collection that may be a key is remembered as a *possible simple key* of its flow
level, and the `:` that follows it inserts the `KEY` token (and, in block context, the start of a
block mapping) in front of it. A possible key lapses at the end of its line or 1024 characters
later; a key that had to be one (it stands at the indentation of a block collection) then fails.

Indentation is tracked as a stack of columns: a block collection opens when content starts to
the right of the current column, and each column given up closes one with a `BLOCK-END`. Inside
flow collections (`[...]`, `{...}`) indentation does not count. Tabs never count as indentation:
a tab before a token is a character that cannot start one.

The text is read in blocks, a first one of 8192 characters and then blocks of 4096, each checked
for characters that YAML text may not hold when the scanner first needs a character of it; a
problem met after such a character has been read is reported as that character instead.
-/

namespace TransitRevenue.Yaml

/-- The value of a directive: a YAML version, a tag handle with its expansion, or nothing. -/
inductive DirectiveValue where
  | version (major minor : Nat)
  | tagHandle (handle expansion : String)
  | none
  deriving Inhabited, Repr

/-- What a token is. -/
inductive TokenKind where
  | streamStart
  | streamEnd
  | directive (name : String) (value : DirectiveValue)
  | documentStart
  | documentEnd
  | blockSequenceStart
  | blockMappingStart
  | blockEnd
  | flowSequenceStart
  | flowMappingStart
  | flowSequenceEnd
  | flowMappingEnd
  | key
  | value
  | blockEntry
  | flowEntry
  | alias (name : String)
  | anchor (name : String)
  | tag (handle : Option String) (suffix : String)
  | scalar (text : String) (plain : Bool) (style : Option Char)
  deriving Inhabited, Repr

namespace TokenKind

/-- How a token is named in messages. -/
def id : TokenKind → String
  | .streamStart => "<stream start>"
  | .streamEnd => "<stream end>"
  | .directive _ _ => "<directive>"
  | .documentStart => "<document start>"
  | .documentEnd => "<document end>"
  | .blockSequenceStart => "<block sequence start>"
  | .blockMappingStart => "<block mapping start>"
  | .blockEnd => "<block end>"
  | .flowSequenceStart => "["
  | .flowMappingStart => "\x7b"
  | .flowSequenceEnd => "]"
  | .flowMappingEnd => "\x7d"
  | .key => "?"
  | .value => ":"
  | .blockEntry => "-"
  | .flowEntry => ","
  | .alias _ => "<alias>"
  | .anchor _ => "<anchor>"
  | .tag _ _ => "<tag>"
  | .scalar _ _ _ => "<scalar>"

end TokenKind

/-- A token with the marks where it starts and ends. -/
structure Token where
  kind : TokenKind
  start : Mark
  stop : Mark
  deriving Inhabited, Repr

/-- A place where a mapping key may begin: the number of the token there, whether a key must
begin there, and where it is. -/
structure SimpleKey where
  tokenNumber : Nat
  required : Bool
  index : Nat
  mark : Mark
  deriving Inhabited

/-- The scanner's state: the text and the position in it, the tokens found but not yet taken,
the indentation stack, and the possible simple keys by flow level. -/
structure Scanner where
  src : Array Char
  index : Nat := 0
  /-- How many characters from the start the scanner has needed so far. -/
  reach : Nat := 0
  line : Nat := 0
  column : Nat := 0
  done : Bool := false
  flowLevel : Int := 0
  queue : List Token := []
  taken : Nat := 0
  indent : Int := -1
  indents : List Int := []
  allowSimpleKey : Bool := true
  keys : List (Int × SimpleKey) := []
  deriving Inhabited

namespace Scanner

/-- The character `k` places ahead; the end of the text reads as NUL. -/
def peek (s : Scanner) (k : Nat) : Char := s.src.getD (s.index + k) '\x00'

/-- The current position. -/
def mark (s : Scanner) : Mark := { index := s.index, line := s.line, column := s.column }

/-- The next `n` characters as text. -/
def ahead (s : Scanner) (n : Nat) : String := String.ofList ((List.range n).map s.peek)

/-- Whether the text here starts with `word` followed by a blank or the end. -/
def startsWithIndicator (s : Scanner) (word : String) : Bool :=
  s.ahead 3 == word && isBlankOrEnd (s.peek 3)

/-- Move one character on, counting lines and columns (a byte order mark takes no column). -/
def step (s : Scanner) : Scanner :=
  if s.index < s.src.size then
    let c := s.peek 0
    let s' := { s with index := s.index + 1, reach := max s.reach (s.index + 2) }
    if c == '\n' || c == '\x85' || c == '\u2028' || c == '\u2029' || (c == '\r' && s'.peek 0 != '\n') then
      { s' with line := s.line + 1, column := 0 }
    else if c != '\uFEFF' then { s' with column := s.column + 1 }
    else s'
  else s

/-- Move `n` characters on. -/
def forward : Nat → Scanner → Scanner
  | 0, s => s
  | n + 1, s => forward n s.step

/-- Skip the characters that satisfy `p`. -/
def skipWhile (p : Char → Bool) (s : Scanner) : Scanner :=
  go (s.src.size + 1) s
where
  /-- At most `n` more characters. -/
  go : Nat → Scanner → Scanner
    | 0, s => s
    | n + 1, s => if s.index < s.src.size && p (s.peek 0) then go n s.step else s

/-- How many characters from `start` places ahead satisfy `p`, counted up to the end. -/
def runLength (s : Scanner) (p : Char → Bool) (start : Nat) : Nat :=
  go (s.src.size + 1) start
where
  /-- At most `n` more characters. -/
  go : Nat → Nat → Nat
    | 0, k => k - start
    | n + 1, k => if s.index + k < s.src.size && p (s.peek k) then go n (k + 1) else k - start

/-- A line break here, read and normalized (`\r\n`, `\r` and next-line become `\n`), or the
empty text if there is none. -/
def lineBreak (s : Scanner) : String × Scanner :=
  let c := s.peek 0
  if c == '\r' || c == '\n' || c == '\x85' then
    if c == '\r' && s.peek 1 == '\n' then ("\n", s.forward 2) else ("\n", s.forward 1)
  else if c == '\u2028' || c == '\u2029' then (c.toString, s.forward 1)
  else ("", s)

/-- A scanner at the start of a text, holding the stream-start token. -/
def start (src : Array Char) : Scanner :=
  { src, queue := [⟨.streamStart, {}, {}⟩] }

/-- The first character of a text that YAML text may not hold, by code and position. -/
def firstUnprintable? (src : Array Char) : Option (Nat × Nat) :=
  (src.findIdx? (!isPrintable ·)).map fun i => ((src.getD i ' ').toNat, i)

/-- Whether the text has been read as far as `position`: it is read in a first block of 8192
characters and then in blocks of 4096, each when the scanner first needs a character of it. -/
def hasRead (s : Scanner) (position : Nat) : Bool :=
  position < 8192 || s.reach > 8192 + (position - 8192) / 4096 * 4096

/-- The problem to report for `p`: an unacceptable character in the text read so far is reported
first, since reading stops there. -/
def report (s : Scanner) (p : Problem) : Problem :=
  match firstUnprintable? s.src with
  | some (code, at_) => if s.hasRead at_ then .unprintable code at_ else p
  | none => p

end Scanner

/-- Scanning: a step that reads and updates the scanner, or finds a problem. -/
abbrev ScanM := StateT Scanner (Except Problem)

namespace Scan

/-- The character `k` places ahead. -/
def peek (k : Nat) : ScanM Char := do return (← get).peek k

/-- The current position. -/
def mark : ScanM Mark := do return (← get).mark

/-- Move `n` characters on. -/
def forward (n : Nat) : ScanM Unit := modify (Scanner.forward n)

/-- Read a line break, if there is one. -/
def lineBreak : ScanM String := do
  let (b, s) := (← get).lineBreak
  set s
  return b

/-- The next `n` characters as text, then move past them. -/
def take (n : Nat) : ScanM String := do
  let t := (← get).ahead n
  forward n
  return t

/-- Fail with a scanning problem at a mark. -/
def failAt {α : Type} (context : Option String) (contextMark : Option Mark) (problem : String)
    (at_ : Mark) : ScanM α := do
  throw ((← get).report (Problem.scanning context contextMark problem at_))

/-- Fail with a scanning problem at the current position. -/
def fail {α : Type} (context : Option String) (contextMark : Option Mark) (problem : String) :
    ScanM α := do
  failAt context contextMark problem (← mark)

/-- Queue a token. -/
def push (t : Token) : ScanM Unit := modify fun s => { s with queue := s.queue ++ [t] }

/-- Queue a token that spans no characters. -/
def pushHere (k : TokenKind) : ScanM Unit := do
  let m ← mark
  push ⟨k, m, m⟩

/-- Queue a token over the next `n` characters. -/
def pushOver (k : TokenKind) (n : Nat) : ScanM Unit := do
  let a ← mark
  forward n
  push ⟨k, a, ← mark⟩

/-- Fail if a possible simple key that had to be a key has lapsed. -/
def lapse (k : SimpleKey) : ScanM Unit := do
  if k.required then fail (some "while scanning a simple key") (some k.mark) "could not find expected ':'"

/-- Drop possible simple keys that can no longer be keys: those on an earlier line, or more
than 1024 characters back. -/
def staleKeys : ScanM Unit := do
  let s ← get
  let mut kept : List (Int × SimpleKey) := []
  for (level, k) in s.keys do
    if k.mark.line != s.line || s.index - k.index > 1024 then lapse k
    else kept := kept ++ [(level, k)]
  modify fun s => { s with keys := kept }

/-- Forget the possible simple key of the current flow level. -/
def removeSimpleKey : ScanM Unit := do
  let s ← get
  match s.keys.find? (·.1 == s.flowLevel) with
  | some (_, k) =>
    lapse k
    modify fun s => { s with keys := s.keys.filter (·.1 != s.flowLevel) }
  | none => pure ()

/-- Remember that the next token may be a simple key. -/
def saveSimpleKey : ScanM Unit := do
  let s ← get
  let required := s.flowLevel == 0 && s.indent == (s.column : Int)
  if s.allowSimpleKey then
    removeSimpleKey
    let s ← get
    let k : SimpleKey := { tokenNumber := s.taken + s.queue.length, required, index := s.index, mark := s.mark }
    set { s with keys := s.keys.filter (fun (e : Int × SimpleKey) => e.1 != s.flowLevel) ++ [(s.flowLevel, k)] }

/-- Close the block collections indented deeper than `column` (in block context only). -/
def unwindIndent (column : Int) : ScanM Unit := do
  if (← get).flowLevel != 0 then return
  go ((← get).indents.length + 1)
where
  /-- At most `n` more collections. -/
  go : Nat → ScanM Unit
    | 0 => pure ()
    | n + 1 => do
      let s ← get
      if s.indent > column then
        let m := s.mark
        set { s with indent := s.indents.headD (-1), indents := s.indents.tail,
                     queue := s.queue ++ [({ kind := .blockEnd, start := m, stop := m } : Token)] }
        go n

/-- Open a block collection at `column` if it is deeper than the current one. -/
def addIndent (column : Int) : ScanM Bool := do
  let s ← get
  if s.indent < column then
    set { s with indents := s.indent :: s.indents, indent := column }
    return true
  return false

/-- Set whether a simple key may start at the next token. -/
def allowKey (b : Bool) : ScanM Unit := modify fun s => { s with allowSimpleKey := b }

/-- Whether the scanner is inside a flow collection. -/
def inFlow : ScanM Bool := do return (← get).flowLevel != 0

/-! ## Skipping blanks, comments and line ends -/

/-- Skip spaces, comments and line ends up to the next token; a line end in block context
allows a simple key. -/
def toNextToken : ScanM Unit := do
  let s ← get
  if s.index == 0 && s.peek 0 == '\uFEFF' then forward 1
  go ((← get).src.size + 1)
where
  /-- At most `n` more lines. -/
  go : Nat → ScanM Unit
    | 0 => pure ()
    | n + 1 => do
      modify (Scanner.skipWhile (· == ' '))
      if (← peek 0) == '#' then modify (Scanner.skipWhile (fun c => !isBreakOrEnd c))
      let b ← lineBreak
      if !b.isEmpty then
        if !(← inFlow) then allowKey true
        go n

/-! ## Directives -/

/-- A directive's name. -/
def directiveName (start : Mark) : ScanM String := do
  let n := (← get).runLength isWordChar 0
  if n == 0 then
    fail (some "while scanning a directive") (some start)
      ("expected alphabetic or numeric character, but found " ++ quotedChar (← peek 0))
  let name ← take n
  let c ← peek 0
  if !isSpaceOrEnd c then
    fail (some "while scanning a directive") (some start)
      ("expected alphabetic or numeric character, but found " ++ quotedChar c)
  return name

/-- A number of a YAML version directive. -/
def versionNumber (start : Mark) : ScanM Nat := do
  let c ← peek 0
  if !c.isDigit then
    fail (some "while scanning a directive") (some start) ("expected a digit, but found " ++ quotedChar c)
  let n := (← get).runLength Char.isDigit 0
  let ds ← take n
  return ds.foldl (fun acc d => acc * 10 + (d.toNat - '0'.toNat)) 0

/-- The version of a YAML directive. -/
def versionValue (start : Mark) : ScanM DirectiveValue := do
  modify (Scanner.skipWhile (· == ' '))
  let major ← versionNumber start
  if (← peek 0) != '.' then
    fail (some "while scanning a directive") (some start)
      ("expected a digit or '.', but found " ++ quotedChar (← peek 0))
  forward 1
  let minor ← versionNumber start
  if !isSpaceOrEnd (← peek 0) then
    fail (some "while scanning a directive") (some start)
      ("expected a digit or ' ', but found " ++ quotedChar (← peek 0))
  return .version major minor

/-- A tag handle: `!`, `!!` or `!word!`. -/
def tagHandle (name : String) (start : Mark) : ScanM String := do
  let c ← peek 0
  if c != '!' then
    fail (some ("while scanning a " ++ name)) (some start) ("expected '!', but found " ++ quotedChar c)
  let s ← get
  if s.peek 1 != ' ' then
    let n := 1 + s.runLength isWordChar 1
    let c := s.peek n
    if c != '!' then
      forward n
      fail (some ("while scanning a " ++ name)) (some start) ("expected '!', but found " ++ quotedChar c)
    take (n + 1)
  else take 1

/-- Characters allowed in a tag's URI. -/
def isUriChar (c : Char) : Bool :=
  isWordChar c || ";/?:@&=+$,.!~*'()[]%".contains c

/-- Decode `%XX` escapes of a URI as UTF-8. -/
def uriEscapes (name : String) (start : Mark) : ScanM String := do
  let at_ ← mark
  let bytes ← go ((← get).src.size + 1) #[]
  match Encoding.decodeUtf8 bytes.toList with
  | .ok t => return t
  | .error f => failAt (some ("while scanning a " ++ name)) (some start) f.message at_
where
  /-- At most `n` more escapes. -/
  go : Nat → Array UInt8 → ScanM (Array UInt8)
    | 0, acc => pure acc
    | n + 1, acc => do
      if (← peek 0) != '%' then return acc
      forward 1
      for k in [0, 1] do
        let c ← peek k
        if !isHexDigit c then
          fail (some ("while scanning a " ++ name)) (some start)
            ("expected URI escape sequence of 2 hexadecimal numbers, but found " ++ quotedChar c)
      let hi := (← peek 0)
      let lo := (← peek 1)
      let digit := fun (c : Char) =>
        if c.isDigit then c.toNat - '0'.toNat
        else if 'a' ≤ c && c ≤ 'f' then c.toNat - 'a'.toNat + 10 else c.toNat - 'A'.toNat + 10
      forward 2
      go n (acc.push (digit hi * 16 + digit lo).toUInt8)

/-- A tag's URI. -/
def tagUri (name : String) (start : Mark) : ScanM String := do
  go ((← get).src.size + 1) [] 0
where
  /-- At most `n` more characters; `chunks` read so far and `len` pending. -/
  go : Nat → List String → Nat → ScanM String
    | 0, chunks, _ => pure (String.join chunks)
    | n + 1, chunks, len => do
      let c ← peek len
      if isUriChar c && (← get).index + len < (← get).src.size then
        if c == '%' then
          let part ← take len
          let esc ← uriEscapes name start
          go n (chunks ++ [part, esc]) 0
        else go n chunks (len + 1)
      else
        let chunks ← if len > 0 then do pure (chunks ++ [← take len]) else pure chunks
        if chunks.isEmpty then
          fail (some ("while parsing a " ++ name)) (some start) ("expected URI, but found " ++ quotedChar c)
        return String.join chunks

/-- The handle and expansion of a TAG directive. -/
def tagDirectiveValue (start : Mark) : ScanM DirectiveValue := do
  modify (Scanner.skipWhile (· == ' '))
  let handle ← tagHandle "directive" start
  if (← peek 0) != ' ' then
    fail (some "while scanning a directive") (some start) ("expected ' ', but found " ++ quotedChar (← peek 0))
  modify (Scanner.skipWhile (· == ' '))
  let expansion ← tagUri "directive" start
  if !isSpaceOrEnd (← peek 0) then
    fail (some "while scanning a directive") (some start) ("expected ' ', but found " ++ quotedChar (← peek 0))
  return .tagHandle handle expansion

/-- The rest of a directive's line: blanks and a comment. -/
def ignoredLine (what : String) (start : Mark) : ScanM Unit := do
  modify (Scanner.skipWhile (· == ' '))
  if (← peek 0) == '#' then modify (Scanner.skipWhile (fun c => !isBreakOrEnd c))
  let c ← peek 0
  if !isBreakOrEnd c then
    fail (some ("while scanning a " ++ what)) (some start)
      ("expected a comment or a line break, but found " ++ quotedChar c)
  discard lineBreak

/-- A directive. -/
def directive : ScanM Token := do
  let start ← mark
  forward 1
  let name ← directiveName start
  let (value, stop) ← match name with
    | "YAML" => do let v ← versionValue start; pure (v, ← mark)
    | "TAG" => do let v ← tagDirectiveValue start; pure (v, ← mark)
    | _ => do
      let m ← mark
      modify (Scanner.skipWhile (fun c => !isBreakOrEnd c))
      pure (DirectiveValue.none, m)
  ignoredLine "directive" start
  return ⟨.directive name value, start, stop⟩

/-! ## Anchors, aliases and tags -/

/-- An anchor (`&name`) or alias (`*name`). -/
def anchorOrAlias (isAlias : Bool) : ScanM Token := do
  let start ← mark
  let what := if isAlias then "an alias" else "an anchor"
  forward 1
  let n := (← get).runLength isWordChar 0
  if n == 0 then
    fail (some ("while scanning " ++ what)) (some start)
      ("expected alphabetic or numeric character, but found " ++ quotedChar (← peek 0))
  let name ← take n
  let c ← peek 0
  if !(isBlankOrEnd c || "?:,]\x7d%@`".contains c) then
    fail (some ("while scanning " ++ what)) (some start)
      ("expected alphabetic or numeric character, but found " ++ quotedChar c)
  let stop ← mark
  return ⟨if isAlias then .alias name else .anchor name, start, stop⟩

/-- A tag: `!<uri>`, `!`, `!suffix`, or `handle!suffix`. -/
def tag : ScanM Token := do
  let start ← mark
  let c ← peek 1
  let (handle, suffix) ← if c == '<' then do
      forward 2
      let suffix ← tagUri "tag" start
      if (← peek 0) != '>' then
        fail (some "while parsing a tag") (some start) ("expected '>', but found " ++ quotedChar (← peek 0))
      forward 1
      pure (none, suffix)
    else if isBlankOrEnd c then do
      forward 1
      pure (none, "!")
    else do
      let s ← get
      let n := 1 + s.runLength (fun c => !isSpaceOrEnd c && c != '!') 1
      let handle ← if s.peek n == '!' then tagHandle "tag" start
        else do forward 1; pure "!"
      let suffix ← tagUri "tag" start
      pure (some handle, suffix)
  let c ← peek 0
  if !isSpaceOrEnd c then
    fail (some "while scanning a tag") (some start) ("expected ' ', but found " ++ quotedChar c)
  return ⟨.tag handle suffix, start, ← mark⟩

/-! ## Block scalars -/

/-- The chomping and indentation indicators of a block scalar's header. -/
def blockIndicators (start : Mark) : ScanM (Option Bool × Option Nat) := do
  let ctx := some "while scanning a block scalar"
  let readIncrement : ScanM (Option Nat) := do
    let c ← peek 0
    if c.isDigit then
      if c == '0' then
        fail ctx (some start) "expected indentation indicator in the range 1-9, but found 0"
      forward 1
      return some (c.toNat - '0'.toNat)
    return none
  let readChomping : ScanM (Option Bool) := do
    let c ← peek 0
    if c == '+' || c == '-' then
      forward 1
      return some (c == '+')
    return none
  let c ← peek 0
  let (chomping, increment) ← if c == '+' || c == '-' then do
      let ch ← readChomping
      pure (ch, ← readIncrement)
    else if c.isDigit then do
      let inc ← readIncrement
      pure (← readChomping, inc)
    else pure (none, none)
  let c ← peek 0
  if !isSpaceOrEnd c then
    fail ctx (some start) ("expected chomping or indentation indicators, but found " ++ quotedChar c)
  return (chomping, increment)

/-- Leading line breaks of a block scalar when its indentation is found from its first line:
the breaks, the deepest column of the blank lines, and the end mark. -/
def blockIndentation : ScanM (List String × Nat × Mark) := do
  go ((← get).src.size + 1) [] 0 (← mark)
where
  /-- At most `n` more characters. -/
  go : Nat → List String → Nat → Mark → ScanM (List String × Nat × Mark)
    | 0, bs, m, e => pure (bs, m, e)
    | n + 1, bs, m, e => do
      let c ← peek 0
      if c == ' ' then
        forward 1
        let col := (← get).column
        go n bs (max m col) e
      else if isBreak c then
        let b ← lineBreak
        go n (bs ++ [b]) m (← mark)
      else pure (bs, m, e)

/-- Line breaks and indentation between the lines of a block scalar. -/
def blockBreaks (indent : Nat) : ScanM (List String × Mark) := do
  let e ← mark
  skipIndent
  go ((← get).src.size + 1) [] e
where
  /-- Skip spaces up to the indentation. -/
  skipIndent : ScanM Unit := modify fun s =>
    Scanner.skipWhile.go (fun c => c == ' ') (indent - s.column) s
  /-- At most `n` more lines. -/
  go : Nat → List String → Mark → ScanM (List String × Mark)
    | 0, bs, e => pure (bs, e)
    | n + 1, bs, e => do
      if isBreak (← peek 0) then
        let b ← lineBreak
        let e ← mark
        skipIndent
        go n (bs ++ [b]) e
      else pure (bs, e)

/-- A literal (`|`) or folded (`>`) block scalar. -/
def blockScalar (folded : Bool) : ScanM Token := do
  let start ← mark
  forward 1
  let (chomping, increment) ← blockIndicators start
  ignoredLine "block scalar" start
  let minIndent := max ((← get).indent + 1) 1
  let (indent, breaks, stop) ← match increment with
    | none => do
      let (bs, maxIndent, e) ← blockIndentation
      pure (max minIndent.toNat maxIndent, bs, e)
    | some inc => do
      let indent := minIndent.toNat + inc - 1
      let (bs, e) ← blockBreaks indent
      pure (indent, bs, e)
  let (chunks, lastBreak, breaks, stop) ← body indent ((← get).src.size + 1) [] "" breaks stop
  let chunks := if chomping != some false then chunks ++ [lastBreak] else chunks
  let chunks := if chomping == some true then chunks ++ breaks else chunks
  return ⟨.scalar (String.join chunks) false (some (if folded then '>' else '|')), start, stop⟩
where
  /-- The lines of the scalar at its indentation. -/
  body (indent : Nat) : Nat → List String → String → List String → Mark →
      ScanM (List String × String × List String × Mark)
    | 0, chunks, lb, bs, e => pure (chunks, lb, bs, e)
    | n + 1, chunks, _, bs, _e => do
      let s ← get
      if s.column == indent && s.peek 0 != '\x00' then
        let chunks := chunks ++ bs
        let leadingNonSpace := s.peek 0 != ' ' && s.peek 0 != '\t'
        let len := s.runLength (fun c => !isBreakOrEnd c) 0
        let line ← take len
        let lb ← lineBreak
        let (bs, e) ← blockBreaks indent
        let s ← get
        if s.column == indent && s.peek 0 != '\x00' then
          let chunks := chunks ++ [line]
          let chunks :=
            if folded && lb == "\n" && leadingNonSpace && s.peek 0 != ' ' && s.peek 0 != '\t' then
              if bs.isEmpty then chunks ++ [" "] else chunks
            else chunks ++ [lb]
          body indent n chunks lb bs e
        else pure (chunks ++ [line], lb, bs, e)
      else pure (chunks, "", bs, _e)

/-! ## Quoted scalars -/

/-- Characters written by one-letter escapes in double-quoted scalars. -/
def escapeChar? (c : Char) : Option Char :=
  match c with
  | '0' => some '\x00' | 'a' => some '\x07' | 'b' => some '\x08' | 't' => some '\t'
  | '\t' => some '\t' | 'n' => some '\n' | 'v' => some '\x0b' | 'f' => some '\x0c'
  | 'r' => some '\r' | 'e' => some '\x1b' | ' ' => some ' ' | '"' => some '"'
  | '/' => some '/' | '\\' => some '\\' | 'N' => some '\x85' | '_' => some '\xa0'
  | 'L' => some '\u2028' | 'P' => some '\u2029'
  | _ => none

/-- The number of hexadecimal digits after `\x`, `\u` and `\U`. -/
def escapeWidth? (c : Char) : Option Nat :=
  match c with
  | 'x' => some 2 | 'u' => some 4 | 'U' => some 8
  | _ => none

/-- Line breaks inside a quoted scalar, skipping the blanks that indent each line. -/
def quotedBreaks (start : Mark) : ScanM (List String) := do
  go ((← get).src.size + 1) []
where
  /-- At most `n` more lines. -/
  go : Nat → List String → ScanM (List String)
    | 0, bs => pure bs
    | n + 1, bs => do
      let s ← get
      if s.startsWithIndicator "---" || s.startsWithIndicator "..." then
        fail (some "while scanning a quoted scalar") (some start) "found unexpected document separator"
      modify (Scanner.skipWhile (fun c => c == ' ' || c == '\t'))
      if isBreak (← peek 0) then
        let b ← lineBreak
        go n (bs ++ [b])
      else pure bs

/-- The non-blank parts of a quoted scalar, with escapes and doubled quotes resolved. -/
def quotedText (double : Bool) (start : Mark) : ScanM (List String) := do
  go ((← get).src.size + 1) []
where
  /-- At most `n` more pieces. -/
  go : Nat → List String → ScanM (List String)
    | 0, acc => pure acc
    | n + 1, acc => do
      let s ← get
      let len := s.runLength (fun c => !("'\"\\".contains c || isBlankOrEnd c)) 0
      let acc ← if len > 0 then do pure (acc ++ [← take len]) else pure acc
      let c ← peek 0
      if !double && c == '\'' && (← peek 1) == '\'' then
        forward 2
        go n (acc ++ ["'"])
      else if (double && c == '\'') || (!double && (c == '"' || c == '\\')) then
        forward 1
        go n (acc ++ [c.toString])
      else if double && c == '\\' then
        forward 1
        let e ← peek 0
        match escapeChar? e, escapeWidth? e with
        | some r, _ =>
          forward 1
          go n (acc ++ [r.toString])
        | none, some w =>
          forward 1
          for k in List.range w do
            let h ← peek k
            if !isHexDigit h then
              fail (some "while scanning a double-quoted scalar") (some start)
                ("expected escape sequence of " ++ toString w ++ " hexadecimal numbers, but found " ++
                  quotedChar h)
          let digits ← take w
          let code := digits.foldl (fun acc h =>
            acc * 16 + (if h.isDigit then h.toNat - '0'.toNat
              else if 'a' ≤ h && h ≤ 'f' then h.toNat - 'a'.toNat + 10 else h.toNat - 'A'.toNat + 10)) 0
          go n (acc ++ [(Char.ofNat code).toString])
        | none, none =>
          if isBreak e then
            discard lineBreak
            let bs ← quotedBreaks start
            go n (acc ++ bs)
          else
            fail (some "while scanning a double-quoted scalar") (some start)
              ("found unknown escape character " ++ quotedChar e)
      else pure acc

/-- Blanks and line breaks inside a quoted scalar: a single break folds to a space. -/
def quotedSpaces (start : Mark) : ScanM (List String) := do
  let n := (← get).runLength (fun c => c == ' ' || c == '\t') 0
  let blanks ← take n
  let c ← peek 0
  if c == '\x00' then
    fail (some "while scanning a quoted scalar") (some start) "found unexpected end of stream"
  if isBreak c then
    let lb ← lineBreak
    let bs ← quotedBreaks start
    let head := if lb != "\n" then [lb] else if bs.isEmpty then [" "] else []
    return head ++ bs
  return [blanks]

/-- A single- or double-quoted scalar. -/
def quotedScalar (double : Bool) : ScanM Token := do
  let start ← mark
  let quote ← peek 0
  forward 1
  let first ← quotedText double start
  let chunks ← go ((← get).src.size + 1) quote start first
  forward 1
  return ⟨.scalar (String.join chunks) false (some (if double then '"' else '\'')), start, ← mark⟩
where
  /-- At most `n` more pieces, up to the closing quote. -/
  go : Nat → Char → Mark → List String → ScanM (List String)
    | 0, _, _, acc => pure acc
    | n + 1, quote, start, acc => do
      if (← peek 0) == quote then return acc
      let sp ← quotedSpaces start
      let tx ← quotedText double start
      go n quote start (acc ++ sp ++ tx)

/-! ## Plain scalars -/

/-- Blanks and line breaks after a piece of a plain scalar, as they join it to the next piece;
`none` at a document separator. -/
def plainSpaces : ScanM (Option (List String)) := do
  let n := (← get).runLength (· == ' ') 0
  let blanks ← take n
  let c ← peek 0
  if isBreak c then
    let lb ← lineBreak
    allowKey true
    if (← get).startsWithIndicator "---" || (← get).startsWithIndicator "..." then return none
    match ← go ((← get).src.size + 1) [] with
    | none => return none
    | some bs =>
      let head := if lb != "\n" then [lb] else if bs.isEmpty then [" "] else []
      return some (head ++ bs)
  else if !blanks.isEmpty then return some [blanks]
  else return some []
where
  /-- At most `n` more characters of blank lines. -/
  go : Nat → List String → ScanM (Option (List String))
    | 0, bs => pure (some bs)
    | n + 1, bs => do
      let c ← peek 0
      if c == ' ' then
        forward 1
        go n bs
      else if isBreak c then
        let b ← lineBreak
        if (← get).startsWithIndicator "---" || (← get).startsWithIndicator "..." then return none
        go n (bs ++ [b])
      else pure (some bs)

/-- Whether a plain scalar stops at `k` places ahead. -/
def plainStops (s : Scanner) (k : Nat) : Bool :=
  let c := s.peek k
  let inFlow := s.flowLevel != 0
  isBlankOrEnd c ||
    (c == ':' && (isBlankOrEnd (s.peek (k + 1)) || (inFlow && ",[]\x7b\x7d".contains (s.peek (k + 1))))) ||
    (inFlow && ",?[]\x7b\x7d".contains c)

/-- The length of the piece of a plain scalar that starts here: up to the first place where the
scalar stops, which is at the end of the text at the latest. -/
def plainLength (s : Scanner) : Nat :=
  go (s.src.size + 1 - s.index) 0
where
  /-- At most `n` more places, from `k` places ahead. -/
  go : Nat → Nat → Nat
    | 0, k => k
    | n + 1, k => if plainStops s k then k else go n (k + 1)

/-- A plain scalar, possibly over several lines. -/
def plainScalar : ScanM Token := do
  let start ← mark
  let indent := (← get).indent + 1
  let (chunks, stop) ← go ((← get).src.size + 1) indent [] [] start
  return ⟨.scalar (String.join chunks) true none, start, stop⟩
where
  /-- At most `n` more pieces. -/
  go : Nat → Int → List String → List String → Mark → ScanM (List String × Mark)
    | 0, _, chunks, _, stop => pure (chunks, stop)
    | n + 1, indent, chunks, spaces, stop => do
      if (← peek 0) == '#' then return (chunks, stop)
      let len := plainLength (← get)
      if len == 0 then return (chunks, stop)
      allowKey false
      let piece ← take len
      let chunks := chunks ++ spaces ++ [piece]
      let stop ← mark
      match ← plainSpaces with
      | none => pure (chunks, stop)
      | some sp =>
        let s ← get
        if sp.isEmpty || s.peek 0 == '#' || (s.flowLevel == 0 && (s.column : Int) < indent) then
          pure (chunks, stop)
        else go n indent chunks sp stop

/-! ## Fetching tokens -/

/-- Whether a plain scalar may start here. -/
def checkPlain (s : Scanner) : Bool :=
  let c := s.peek 0
  let inFlow := s.flowLevel != 0
  !(isBlankOrEnd c || "-?:,[]\x7b\x7d#&*!|>'\"%@`".contains c) ||
    (!isBlankOrEnd (s.peek 1) && (c == '-' || (!inFlow && (c == '?' || c == ':'))))

/-- A directive, document indicator, or stream end: all close the open block collections. -/
def fetchIndicator (k : Option TokenKind) : ScanM Unit := do
  unwindIndent (-1)
  removeSimpleKey
  allowKey false
  match k with
  | some k => pushOver k 3
  | none => push (← directive)

/-- The start of a flow collection, which may be a simple key. -/
def fetchFlowStart (k : TokenKind) : ScanM Unit := do
  saveSimpleKey
  modify fun s => { s with flowLevel := s.flowLevel + 1 }
  allowKey true
  pushOver k 1

/-- The end of a flow collection. -/
def fetchFlowEnd (k : TokenKind) : ScanM Unit := do
  removeSimpleKey
  modify fun s => { s with flowLevel := s.flowLevel - 1 }
  allowKey false
  pushOver k 1

/-- A `-` entry of a block sequence, opening the sequence if needed. -/
def fetchBlockEntry : ScanM Unit := do
  if !(← inFlow) then
    if !(← get).allowSimpleKey then fail none none "sequence entries are not allowed here"
    if ← addIndent (← get).column then pushHere .blockSequenceStart
  allowKey true
  removeSimpleKey
  pushOver .blockEntry 1

/-- A `?` key indicator, opening a block mapping if needed. -/
def fetchKey : ScanM Unit := do
  if !(← inFlow) then
    if !(← get).allowSimpleKey then fail none none "mapping keys are not allowed here"
    if ← addIndent (← get).column then pushHere .blockMappingStart
  allowKey !(← inFlow)
  removeSimpleKey
  pushOver .key 1

/-- A `:` value indicator: it turns the possible simple key of its level into a key. -/
def fetchValue : ScanM Unit := do
  let s ← get
  match s.keys.find? (·.1 == s.flowLevel) with
  | some (_, k) =>
    let at_ := k.tokenNumber - s.taken
    let queue := s.queue.insertIdx at_ ⟨.key, k.mark, k.mark⟩
    set { s with keys := s.keys.filter (·.1 != s.flowLevel), queue }
    if !(← inFlow) then
      if ← addIndent k.mark.column then
        modify fun s => { s with queue := s.queue.insertIdx at_ ⟨.blockMappingStart, k.mark, k.mark⟩ }
    allowKey false
  | none =>
    if !(← inFlow) then
      if !s.allowSimpleKey then fail none none "mapping values are not allowed here"
      if ← addIndent s.column then pushHere .blockMappingStart
    allowKey !(← inFlow)
    removeSimpleKey
  pushOver .value 1

/-- A token that may be a simple key: saved as one, and no key may follow it directly. -/
def fetchKeyable (scan : ScanM Token) : ScanM Unit := do
  saveSimpleKey
  allowKey false
  push (← scan)

/-- Scan the next token (after any block ends it implies) onto the queue. -/
def fetchMoreTokens : ScanM Unit := do
  toNextToken
  staleKeys
  unwindIndent (← get).column
  let s ← get
  let c := s.peek 0
  let inFlow := s.flowLevel != 0
  if c == '\x00' then
    unwindIndent (-1)
    removeSimpleKey
    modify fun s => { s with allowSimpleKey := false, keys := [] }
    pushHere .streamEnd
    modify fun s => { s with done := true }
  else if c == '%' && s.column == 0 then fetchIndicator none
  else if c == '-' && s.column == 0 && s.startsWithIndicator "---" then fetchIndicator (some .documentStart)
  else if c == '.' && s.column == 0 && s.startsWithIndicator "..." then fetchIndicator (some .documentEnd)
  else if c == '[' then fetchFlowStart .flowSequenceStart
  else if c == '{' then fetchFlowStart .flowMappingStart
  else if c == ']' then fetchFlowEnd .flowSequenceEnd
  else if c == '}' then fetchFlowEnd .flowMappingEnd
  else if c == ',' then
    allowKey true
    removeSimpleKey
    pushOver .flowEntry 1
  else if c == '-' && isBlankOrEnd (s.peek 1) then fetchBlockEntry
  else if c == '?' && (inFlow || isBlankOrEnd (s.peek 1)) then fetchKey
  else if c == ':' && (inFlow || isBlankOrEnd (s.peek 1)) then fetchValue
  else if c == '*' then fetchKeyable (anchorOrAlias true)
  else if c == '&' then fetchKeyable (anchorOrAlias false)
  else if c == '!' then fetchKeyable tag
  else if (c == '|' || c == '>') && !inFlow then
    allowKey true
    removeSimpleKey
    push (← blockScalar (c == '>'))
  else if c == '\'' || c == '"' then fetchKeyable (quotedScalar (c == '"'))
  else if checkPlain s then fetchKeyable plainScalar
  else
    fail (some "while scanning for the next token") none
      ("found character " ++ quotedChar c ++ " that cannot start any token")

/-- Whether more tokens must be scanned before the first queued one can be handed out: none
is queued, or it may still turn out to follow a mapping key. -/
def needMoreTokens : ScanM Bool := do
  let s ← get
  if s.done then return false
  if s.queue.isEmpty then return true
  staleKeys
  let s ← get
  return (s.keys.map (·.2.tokenNumber)).min? == some s.taken

/-- Scan until the first queued token is settled. -/
def settle : ScanM Unit := do
  go ((← get).src.size + 4)
where
  /-- At most `n` more tokens. -/
  go : Nat → ScanM Unit
    | 0 => pure ()
    | n + 1 => do
      if ← needMoreTokens then
        fetchMoreTokens
        go n

/-- The next token, without taking it. -/
def peekToken : ScanM Token := do
  settle
  return (← get).queue.headD ⟨.streamEnd, (← get).mark, (← get).mark⟩

/-- Take the next token. -/
def getToken : ScanM Token := do
  let t ← peekToken
  modify fun s => { s with queue := s.queue.tail, taken := s.taken + 1 }
  return t

end Scan

end TransitRevenue.Yaml
