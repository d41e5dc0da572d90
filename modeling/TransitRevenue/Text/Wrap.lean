/-!
Filling text into lines of a given width, as help texts are laid out.

The text's runs of whitespace become single blanks and its ends are trimmed. It is then cut into
chunks, scanning from the left: a run of blanks; two or more hyphens that follow a word character
or punctuation and precede a word character; or a word. A word is the shortest run of other
characters that ends
* after a hyphen that has two letters before it (or a letter, a hyphen and a letter) and a
  letter, an optional hyphen and a letter after it, so `YYYY-MM-DD` breaks after each hyphen;
* before a blank or the end of the text;
* or before two or more hyphens followed by a word character, when it ends in a word character or
  punctuation.

Lines are filled greedily with whole chunks. A chunk too long for any line is broken: as much of
it as fits goes on the current line, or only up to its last hyphen that fits when something other
than hyphens stands before that hyphen. A blank chunk at the start of a line other than the first
is dropped, and so is the last piece of a line when it is blank or empty (once, so a blank before
an empty piece stays).
-/

namespace TransitRevenue

namespace Wrap

/-- Whitespace as the chunks see it. -/
def isSpace (c : Char) : Bool :=
  c == ' ' || c == '\t' || c == '\n' || c == '\x0b' || c == '\x0c' || c == '\r'

/-- A word character: a letter, a digit or an underscore; characters outside ASCII count as
letters. -/
def isWord (c : Char) : Bool := c.isAlphanum || c == '_' || c.toNat > 127

/-- A letter: a word character other than a digit. -/
def isLetter (c : Char) : Bool := isWord c && !c.isDigit

/-- A word character or punctuation that may stand before a dash. -/
def isWordPunct (c : Char) : Bool :=
  isWord c || c == '!' || c == '"' || c == '\'' || c == '&' || c == '.' || c == ',' || c == '?'

/-- Whether the text starts with two or more hyphens and then a word character. -/
def dashesThenWord (cs : List Char) : Bool :=
  let k := (cs.takeWhile (· == '-')).length
  k ≥ 2 && (cs.drop k).head?.any isWord

/-- Whether a word may end after the hyphen that starts `rest`, `seen` being the text before the
hyphen, reversed. -/
def hyphenBreak (seen rest : List Char) : Bool :=
  let before := match seen with
    | a :: b :: r => (isLetter a && isLetter b) || (match r with
      | c :: _ => isLetter a && b == '-' && isLetter c
      | [] => false)
    | _ => false
  let after := match rest with
    | '-' :: l :: r => isLetter l && (match r with
      | m :: r' => isLetter m || (m == '-' && r'.head?.any isLetter)
      | [] => false)
    | _ => false
  before && after

/-- The length of the word at the front of `cs`, `seen` being the text before it, reversed, and
`n` the characters already taken. -/
def wordLength (seen : List Char) : List Char → Nat → Nat
  | [], n => n
  | c :: rest, n =>
    let seen := c :: seen
    if hyphenBreak seen rest then n + 2
    else if rest.head?.all isSpace then n + 1
    else if isWordPunct c && dashesThenWord rest then n + 1
    else wordLength seen rest (n + 1)

/-- The length of the chunk at the front of `cs`, `seen` being the text before it, reversed. -/
def chunkLength (seen cs : List Char) : Nat :=
  match cs with
  | [] => 0
  | c :: _ =>
    if isSpace c then (cs.takeWhile isSpace).length
    else if c == '-' && seen.head?.any isWordPunct && dashesThenWord cs then
      (cs.takeWhile (· == '-')).length
    else wordLength seen cs 0

/-- The chunks of a text; each step takes at least one character. -/
def chunksOf : Nat → List Char → List Char → List String
  | 0, _, _ => []
  | _, _, [] => []
  | fuel + 1, seen, cs =>
    let k := max 1 (chunkLength seen cs)
    String.ofList (cs.take k) :: chunksOf fuel ((cs.take k).reverse ++ seen) (cs.drop k)

/-- The text with its runs of whitespace made single blanks and its ends trimmed. -/
def normalize (text : String) : List Char :=
  let rec go : List Char → Bool → List Char
    | [], _ => []
    | c :: r, blank =>
      if isSpace c then (if blank then go r true else ' ' :: go r true) else c :: go r false
  let cs := go text.toList true
  if cs.getLast? == some ' ' then cs.dropLast else cs

/-- Whether a piece of a line is blank or empty. -/
def isBlank (s : String) : Bool := s.all (· == ' ')

/-- The part of an over-long chunk that goes on a line with `room` columns left: `room`
characters, or up to the last hyphen among them when something other than hyphens stands before
that hyphen. -/
def breakAt (room : Nat) (chunk : String) : Nat :=
  let cs := chunk.toList
  if cs.length ≤ room then room
  else
    match ((List.range room).filter fun i => cs[i]? == some '-').getLast? with
    | some h => if h > 0 && (cs.take h).any (· != '-') then h + 1 else room
    | none => room

/-- Fill a line from `chunks` with `used` columns taken: whole chunks while they fit, then the
front of a chunk too long for any line. The pieces of the line and the chunks left. -/
def fillLine (width : Nat) : List String → Nat → List String × List String
  | [], _ => ([], [])
  | c :: rest, used =>
    if used + c.length ≤ width then
      let (line, left) := fillLine width rest (used + c.length)
      (c :: line, left)
    else if c.length > width then
      let room := if width < 1 then 1 else width - used
      let k := breakAt room c
      ([String.ofList (c.toList.take k)], String.ofList (c.toList.drop k) :: rest)
    else ([], c :: rest)

/-- The total length of some chunks. -/
def size (chunks : List String) : Nat := (chunks.map String.length).foldl (· + ·) 0

/-- Lines from chunks; `first` says whether no line has been made yet. Each round takes at least
one character or one chunk, so the fuel is the characters and chunks left. -/
def linesOf (width : Nat) : Nat → Bool → List String → List String
  | 0, _, _ => []
  | _, _, [] => []
  | fuel + 1, first, chunks =>
    let chunks := match chunks with
      | c :: rest => if isBlank c && !first then rest else chunks
      | [] => []
    let (line, left) := fillLine width chunks 0
    let line := if line.getLast?.any isBlank then line.dropLast else line
    if line.isEmpty then linesOf width fuel first left
    else String.join line :: linesOf width fuel false left

/-- A text filled into lines of at most `width` characters. -/
def wrap (width : Nat) (text : String) : List String :=
  let cs := normalize text
  let chunks := chunksOf (cs.length + 1) [] cs
  linesOf width (size chunks + chunks.length + 1) true chunks

end Wrap

end TransitRevenue
