import TicketSync.Yaml.Scalar

/-!
The tokens of a YAML text. A key in front of a colon shows only at the colon, so places where such
a key may have started are kept as candidates; the tokens that open the key are put in at its place
when the colon comes. A candidate lapses with its line. Where a text is faulty, the tokens before
the fault are given, up to the first candidate that was still open.
-/
namespace TicketSync.Yaml

/-- A token of a YAML text. -/
inductive Token where
  | version (major minor : Nat)
  | tagPrefix (handle start : String)
  | documentStart
  | documentEnd
  | blockSequence
  | blockMapping
  | blockEnd
  | openSequence
  | closeSequence
  | openMapping
  | closeMapping
  | entry
  | comma
  | key
  | value
  | alias (name : String)
  | anchor (name : String)
  | tag (handle suffix : String)
  | scalar (text : String) (plain : Bool)
  | streamEnd
  deriving DecidableEq, Repr, Inhabited

/-- A place where a key may have started: before the token `number`. -/
structure Candidate where
  required : Bool
  number : Nat
  index : Nat
  line : Nat
  column : Nat

/-- What the scanner knows: the place, the tokens so far, the columns of the open block collections,
whether a key may start here, and the candidates inside each open bracket, innermost first. -/
structure Scanner where
  cursor : Cursor
  tokens : Array Token := #[]
  indent : Int := -1
  outer : List Int := []
  keyAllowed : Bool := true
  candidates : List (Option Candidate) := [none]
  finished : Bool := false

namespace Scanner

/-- Whether a bracket is open. -/
def inFlow (s : Scanner) : Bool := 1 < s.candidates.length

/-- The scanner with one more token. -/
def emit (s : Scanner) (t : Token) : Scanner := { s with tokens := s.tokens.push t }

/-- The scanner with a token put in before the token `number`. -/
def emitAt (s : Scanner) (number : Nat) (t : Token) : Scanner :=
  { s with tokens := s.tokens.extract 0 number ++ #[t] ++ s.tokens.extract number s.tokens.size }

/-- Whether a candidate has lapsed at this place. -/
def lapsed (s : Scanner) (k : Candidate) : Bool :=
  k.line < s.cursor.line || k.index + 1024 < s.cursor.index

/-- The scanner without the candidates that have lapsed. A required one must not lapse. -/
def dropLapsed (s : Scanner) : Option Scanner :=
  if s.candidates.any fun k => k.any fun k => s.lapsed k && k.required then none
  else some { s with candidates := s.candidates.map (Option.filter fun k => !s.lapsed k) }

/-- The scanner without the innermost candidate. A required one must not be dropped. -/
def dropCandidate (s : Scanner) : Option Scanner :=
  match s.candidates with
  | some k :: rest => if k.required then none else some { s with candidates := none :: rest }
  | _ => some s

/-- The scanner with this place as a candidate, if a key may start here. -/
def addCandidate (s : Scanner) : Option Scanner :=
  if s.keyAllowed then do
    let s ← s.dropCandidate
    let k : Candidate :=
      { required := !s.inFlow && s.indent = s.cursor.column, number := s.tokens.size,
        index := s.cursor.index, line := s.cursor.line, column := s.cursor.column }
    return { s with candidates := some k :: s.candidates.drop 1 }
  else some s

/-- The scanner with a block collection opened at a column, if it lies inside the ones before. -/
def openBlock (s : Scanner) (column : Nat) (number : Nat) (t : Token) : Scanner :=
  if !s.inFlow && s.indent < column then
    { s.emitAt number t with indent := column, outer := s.indent :: s.outer }
  else s

/-- The block collections left open at a column: how many are closed, and the rest. -/
def closing (column : Int) : Int → List Int → Nat × Int × List Int
  | indent, [] => if column < indent then (1, -1, []) else (0, indent, [])
  | indent, o :: outer =>
    if column < indent then
      let (n, indent, outer) := closing column o outer
      (n + 1, indent, outer)
    else (0, indent, o :: outer)

/-- The scanner with the block collections closed that lie inside a column. -/
def closeBlocks (s : Scanner) (column : Int) : Scanner :=
  if s.inFlow then s
  else
    let (n, indent, outer) := closing column s.indent s.outer
    { s with tokens := s.tokens ++ Array.replicate n .blockEnd, indent, outer }

/-- The scanner at another place. -/
def moveTo (s : Scanner) (c : Cursor) : Scanner := { s with cursor := c }

/-- The scanner after blanks, comments and line ends. Outside of brackets a line end lets a key
start. A mark of byte order is passed over at the start of the text. -/
def skipGap : (fuel : Nat) → Scanner → Scanner
  | 0, s => s
  | fuel + 1, s =>
    let c := s.cursor
    let c := if c.index = 0 && c.has 0 fun x => x.toNat = 0xFEFF then c.skip else c
    let tabs := s.inFlow || !s.keyAllowed
    let c := (c.skipWhile fun x => x = ' ' || (tabs && x = '\t')).skipComment
    if c.has 0 isBreak then
      skipGap fuel { s with cursor := c.skipBreak, keyAllowed := s.keyAllowed || !s.inFlow }
    else s.moveTo c

/-! ### Directives, anchors and tags -/

/-- A number of a version: at most nine digits. -/
def readVersionNumber (c : Cursor) : Option (Nat × Cursor) :=
  let (ds, c) := c.takeWhile Char.isDigit
  if ds.isEmpty || 9 < ds.length then none
  else some (ds.foldl (fun n d => n * 10 + (d.toNat - 48)) 0, c)

/-- The handle of a tag: `!`, or a word between two of them. In a directive the second one must not
be missing after a word. -/
def readHandle (directive : Bool) (c : Cursor) : Option (List Char × Cursor) :=
  if c.isAt '!' then
    let (word, c) := c.skip.takeWhile isWordChar
    if c.isAt '!' then some ('!' :: word ++ ['!'], c.skip)
    else if directive && !word.isEmpty then none
    else some ('!' :: word, c)
  else none

/-- A character of a tag; inside angle brackets the commas and brackets are among them. -/
def isTagChar (wide : Bool) (c : Char) : Bool :=
  isWordChar c || ";/?:@&=+$.%!~*'()".toList.contains c || (wide && ",[]".toList.contains c)

/-- The value of an octet written after a percent sign. -/
def octet? : List Char → Option (Nat × List Char)
  | '%' :: a :: b :: rest => do return ((← hexValue? a) * 16 + (← hexValue? b), rest)
  | _ => none

/-- How many octets follow the first one of a character, and its bits of the code point. -/
def leadOctet? (n : Nat) : Option (Nat × Nat) :=
  if n < 0x80 then some (0, n)
  else if 0xC0 ≤ n && n < 0xE0 then some (1, n % 32)
  else if 0xE0 ≤ n && n < 0xF0 then some (2, n % 16)
  else if 0xF0 ≤ n && n < 0xF8 then some (3, n % 8)
  else none

/-- The rest of a character written in octets. -/
def trailOctets : (count : Nat) → (bits : Nat) → List Char → Option (Nat × List Char)
  | 0, bits, cs => some (bits, cs)
  | count + 1, bits, cs => do
    let (n, cs) ← octet? cs
    if n / 64 = 2 then trailOctets count (bits * 64 + n % 64) cs else none

/-- The text of a tag, with its octets put together to characters. -/
def unescapeTag : (fuel : Nat) → List Char → Option (List Char)
  | 0, _ => some []
  | _ + 1, [] => some []
  | fuel + 1, c :: rest =>
    if c = '%' then do
      let (n, rest) ← octet? (c :: rest)
      let (count, bits) ← leadOctet? n
      let (point, rest) ← trailOctets count bits rest
      return Char.ofNat point :: (← unescapeTag fuel rest)
    else do return c :: (← unescapeTag fuel rest)

/-- The text of a tag at this place, after the characters `start`. -/
def readTagText (wide : Bool) (start : List Char) (c : Cursor) : Option (List Char × Cursor) := do
  let (cs, c) := c.takeWhile (isTagChar wide)
  let text ← unescapeTag cs.length cs
  return (start ++ text, c)

/-- A tag: its handle and its suffix. -/
def readTag (flow : Bool) (c : Cursor) : Option (Token × Cursor) := do
  let (handle, suffix, c) ←
    if c.atOffset 1 '<' then do
      let (text, c) ← readTagText true [] (c.skipMany 2)
      if text.isEmpty || !c.isAt '>' then none
      else pure ([], text, c.skip)
    else do
      let (handle, c) ← readHandle false c
      if 1 < handle.length && handle.getLast? = some '!' then
        let (text, c) ← readTagText false [] c
        if text.isEmpty then none else pure (handle, text, c)
      else
        let (text, c) ← readTagText false (handle.drop 1) c
        pure (if text.isEmpty then ([], ['!'], c) else (['!'], text, c))
  if c.gapAt 0 || (flow && c.isAt ',') then
    return (.tag (String.ofList handle) (String.ofList suffix), c)
  else none

/-- The place after the rest of a line that holds nothing but a comment. -/
def endLine? (c : Cursor) : Option Cursor :=
  let c := (c.skipWhile isBlank).skipComment
  if c.breakAt 0 then some c.skipBreak else none

/-- A directive: a version or the start that a handle stands for. -/
def readDirective (c : Cursor) : Option (Token × Cursor) := do
  let (name, c) := c.skip.takeWhile isWordChar
  if name.isEmpty || !c.gapAt 0 then none
  else
    let c := c.skipWhile isBlank
    if name = "YAML".toList then
      let (major, c) ← readVersionNumber c
      if !c.isAt '.' then none
      else
        let (minor, c) ← readVersionNumber c.skip
        return (.version major minor, ← endLine? c)
    else if name = "TAG".toList then
      let (handle, c) ← readHandle true c
      if !c.has 0 isBlank then none
      else
        let (start, c) ← readTagText true [] (c.skipWhile isBlank)
        if start.isEmpty || !c.gapAt 0 then none
        else return (.tagPrefix (String.ofList handle) (String.ofList start), ← endLine? c)
    else none

/-- The name of an anchor after its mark. -/
def readAnchorName (c : Cursor) : Option (String × Cursor) :=
  let (name, c) := c.skip.takeWhile isWordChar
  if name.isEmpty then none
  else if c.gapAt 0 || c.has 0 (fun x => "?:,]\x7d%@`".toList.contains x) then
    some (String.ofList name, c)
  else none

/-! ### One token -/

/-- The scanner after a bracket that opens. -/
def openFlow (s : Scanner) (t : Token) : Option Scanner := do
  let s ← s.addCandidate
  return { s.emit t with
    candidates := none :: s.candidates, keyAllowed := true, cursor := s.cursor.skip }

/-- The scanner after a bracket that closes. -/
def closeFlow (s : Scanner) (t : Token) : Option Scanner := do
  let s ← s.dropCandidate
  let candidates := if s.inFlow then s.candidates.drop 1 else s.candidates
  return { s.emit t with candidates, keyAllowed := false, cursor := s.cursor.skip }

/-- The scanner after a mark that starts an entry or a key of a block. -/
def blockMark (s : Scanner) (opening t : Token) (allowedAfter : Bool) : Option Scanner := do
  if !s.inFlow && !s.keyAllowed then none
  else
    let s := s.openBlock s.cursor.column s.tokens.size opening
    let s ← s.dropCandidate
    return { s.emit t with keyAllowed := allowedAfter, cursor := s.cursor.skip }

/-- The scanner after a colon. The innermost candidate becomes the key. -/
def colon (s : Scanner) : Option Scanner :=
  match s.candidates with
  | some k :: rest =>
    let s := (s.emitAt k.number .key).openBlock k.column k.number .blockMapping
    some { s.emit .value with
      candidates := none :: rest, keyAllowed := false, cursor := s.cursor.skip }
  | _ =>
    if !s.inFlow && !s.keyAllowed then none
    else
      let s := s.openBlock s.cursor.column s.tokens.size .blockMapping
      some { s.emit .value with keyAllowed := !s.inFlow, cursor := s.cursor.skip }

/-- The scanner after a token that can be a key or start one. -/
def keyLike (s : Scanner) (read : Scanner → Option (Token × Cursor)) : Option Scanner := do
  let s ← s.addCandidate
  let (t, c) ← read s
  return { s.emit t with keyAllowed := false, cursor := c }

/-- The scanner after a token that cannot stand inside a block. -/
def topLevel (s : Scanner) (read : Cursor → Option (Token × Cursor)) : Option Scanner := do
  let s ← (s.closeBlocks (-1)).dropCandidate
  let (t, c) ← read s.cursor
  return { s.emit t with keyAllowed := false, cursor := c }

/-- The scanner at the end of the text. -/
def finish (s : Scanner) : Option Scanner := do
  let s ← (s.closeBlocks (-1)).dropCandidate
  return { s.emit .streamEnd with keyAllowed := false, finished := true }

/-- The scanner after a scalar in a block. -/
def block (s : Scanner) (literal : Bool) : Option Scanner := do
  let s ← s.dropCandidate
  let (text, c) ← readBlock literal s.indent s.cursor
  return { s.emit (.scalar (String.ofList text) false) with keyAllowed := true, cursor := c }

/-- The scanner after a plain scalar. -/
def plain (s : Scanner) : Option Scanner := do
  let s ← s.addCandidate
  let (text, lineEnded, c) ← readPlain s.inFlow (s.indent + 1).toNat s.cursor
  return { s.emit (.scalar (String.ofList text) true) with keyAllowed := lineEnded, cursor := c }

/-- Characters that do not start a plain scalar: tabs and those that structure a text. -/
def isIndicator (c : Char) : Bool :=
  isBlank c || "-?:,[]\x7b\x7d#&*!|>'\"%@`".toList.contains c

/-- The scanner after the token at this place. -/
def readToken (s : Scanner) : Option Scanner :=
  let c := s.cursor
  match c.rest with
  | [] => s.finish
  | x :: _ =>
    if c.column = 0 && x = '%' then s.topLevel readDirective
    else if c.documentMark '-' then s.topLevel fun c => some (.documentStart, c.skipMany 3)
    else if c.documentMark '.' then s.topLevel fun c => some (.documentEnd, c.skipMany 3)
    else if x = '[' then s.openFlow .openSequence
    else if x = '\x7b' then s.openFlow .openMapping
    else if x = ']' then s.closeFlow .closeSequence
    else if x = '\x7d' then s.closeFlow .closeMapping
    else if x = ',' then do
      let s ← s.dropCandidate
      return { s.emit .comma with keyAllowed := true, cursor := c.skip }
    else if x = '-' && c.gapAt 1 then s.blockMark .blockSequence .entry true
    else if x = '?' && (s.inFlow || c.gapAt 1) then s.blockMark .blockMapping .key (!s.inFlow)
    else if x = ':' && (s.inFlow || c.gapAt 1) then s.colon
    else if x = '*' then
      s.keyLike fun s => (readAnchorName s.cursor).map fun (n, c) => (.alias n, c)
    else if x = '&' then
      s.keyLike fun s => (readAnchorName s.cursor).map fun (n, c) => (.anchor n, c)
    else if x = '!' then s.keyLike fun s => readTag s.inFlow s.cursor
    else if x = '|' && !s.inFlow then s.block true
    else if x = '>' && !s.inFlow then s.block false
    else if x = '\'' || x = '"' then
      s.keyLike fun s => (readQuoted (x = '\'') s.cursor).map fun (text, c) =>
        (.scalar (String.ofList text) false, c)
    else if !isIndicator x || (x = '-' && !c.has 1 isBlank) ||
        (!s.inFlow && (x = '?' || x = ':') && !c.gapAt 1) then s.plain
    else none

/-- The scanner after the next token, with lapsed candidates dropped before and after it. -/
def step (s : Scanner) : Option Scanner := do
  let s ← (s.skipGap (s.cursor.rest.length + 1)).dropLapsed
  let s ← (s.closeBlocks s.cursor.column).readToken
  s.dropLapsed

/-- The number of the first token that a candidate still holds back. -/
def settled (s : Scanner) : Nat :=
  s.candidates.foldl (fun n k => (k.map fun k => min n k.number).getD n) s.tokens.size

/-- The tokens from here to the end of the text, by at most `fuel` steps. -/
def run : (fuel : Nat) → Scanner → Array Token
  | 0, s => s.tokens
  | fuel + 1, s =>
    if s.finished then s.tokens
    else
      match s.step with
      | some s => run fuel s
      | none => s.tokens.extract 0 s.settled

end Scanner

/-- The tokens of a text, to its end or to the first fault. Each step but the last one takes at
least one character. -/
def scan (text : List Char) : Array Token :=
  if text.all isAllowed then
    let text := match text with
      | c :: rest => if c.toNat = 0xFEFF then rest else c :: rest
      | [] => []
    Scanner.run (text.length + 2) { cursor := { rest := text } }
  else #[]

end TicketSync.Yaml
