import TicketSync.Yaml.Cursor

/-!
Scalars of YAML: quoted, plain, and in blocks. Each reader starts at the first character of a scalar
and gives its content with the place after it, or none where the scalar is faulty.
-/
namespace TicketSync.Yaml

/-- The content of line ends that are folded: one line end becomes a blank, of several the first
is dropped. -/
def foldBreaks (first others : List Char) : List Char :=
  if first = ['\n'] then (if others.isEmpty then [' '] else others) else first ++ others

/-- Blanks and line ends between the words of a scalar. `first` is none while no line has ended. -/
structure Gap where
  blanks : List Char := []
  first : Option (List Char) := none
  others : List Char := []

/-- What a gap adds to the content. -/
def Gap.content (g : Gap) : List Char :=
  match g.first with
  | some first => foldBreaks first g.others
  | none => g.blanks

/-- A gap with the blanks and line ends that follow. `tabFault` says where a tab is a fault. -/
def readGap (tabFault : Cursor → Bool) : (fuel : Nat) → Gap → Cursor → Option (Gap × Cursor)
  | 0, g, c => some (g, c)
  | fuel + 1, g, c =>
    match c.rest with
    | [] => some (g, c)
    | x :: _ =>
      if isBlank x then
        if g.first.isSome && tabFault c then none
        else
          let g := if g.first.isSome then g else { g with blanks := g.blanks ++ [x] }
          readGap tabFault fuel g c.skip
      else if isBreak x then
        let (b, next) := c.readBreak
        let g : Gap :=
          match g.first with
          | none => ⟨[], some b, []⟩
          | some first => ⟨[], some first, g.others ++ b⟩
        readGap tabFault fuel g next
      else some (g, c)

/-! ### Quoted scalars -/

/-- The value of a hexadecimal digit. -/
def hexValue? (c : Char) : Option Nat :=
  if c.isDigit then some (c.toNat - 48)
  else if 'a' ≤ c && c ≤ 'f' then some (c.toNat - 87)
  else if 'A' ≤ c && c ≤ 'F' then some (c.toNat - 55)
  else none

/-- The character that an escape of one letter stands for. -/
def escape? (c : Char) : Option Char :=
  let code (n : Nat) : Option Char := some (Char.ofNat n)
  if c = '0' then code 0
  else if c = 'a' then code 7
  else if c = 'b' then code 8
  else if c = 't' || c = '\t' then code 9
  else if c = 'n' then code 10
  else if c = 'v' then code 11
  else if c = 'f' then code 12
  else if c = 'r' then code 13
  else if c = 'e' then code 27
  else if c = ' ' || c = '"' || c = '/' || c = '\\' then some c
  else if c = 'N' then code 0x85
  else if c = '_' then code 0xA0
  else if c = 'L' then code 0x2028
  else if c = 'P' then code 0x2029
  else none

/-- How many hexadecimal digits follow the letter of an escape. -/
def escapeDigits? (c : Char) : Option Nat :=
  if c = 'x' then some 2 else if c = 'u' then some 4 else if c = 'U' then some 8 else none

/-- The character of a code point written in hexadecimal digits. -/
def codePoint? (ds : List Char) (count : Nat) : Option Char := do
  let n ← ds.foldlM (fun n d => (hexValue? d).map (n * 16 + ·)) 0
  if ds.length < count || (0xD800 ≤ n && n ≤ 0xDFFF) || 0x10FFFF < n then none
  else some (Char.ofNat n)

/-- The words of a quoted scalar after its opening mark, up to a gap or the closing mark. The flag
says that a line end was escaped. -/
def readQuotedWord (single : Bool) : (fuel : Nat) → List Char → Cursor →
    Option (List Char × Bool × Cursor)
  | 0, acc, c => some (acc, false, c)
  | fuel + 1, acc, c =>
    match c.rest with
    | [] => some (acc, false, c)
    | x :: rest =>
      if isBlank x || isBreak x then some (acc, false, c)
      else if single then
        if x = '\'' then
          if rest.head? = some '\'' then readQuotedWord single fuel (acc ++ ['\'']) (c.skipMany 2)
          else some (acc, false, c)
        else readQuotedWord single fuel (acc ++ [x]) c.skip
      else if x = '"' then some (acc, false, c)
      else if x = '\\' then
        match rest with
        | [] => none
        | e :: digits =>
          if isBreak e then some (acc, true, c.skip.skipBreak)
          else
            match escape? e, escapeDigits? e with
            | some y, _ => readQuotedWord single fuel (acc ++ [y]) (c.skipMany 2)
            | none, some n =>
              match codePoint? (digits.take n) n with
              | some y => readQuotedWord single fuel (acc ++ [y]) (c.skipMany (2 + n))
              | none => none
            | none, none => none
      else readQuotedWord single fuel (acc ++ [x]) c.skip

/-- The rest of a quoted scalar after its opening mark. -/
def readQuotedFrom (single : Bool) : (fuel : Nat) → List Char → Cursor → Option (List Char × Cursor)
  | 0, _, _ => none
  | fuel + 1, acc, c =>
    if c.atDocumentMark || c.rest.isEmpty then none
    else do
      let (acc, escaped, c) ← readQuotedWord single (c.rest.length + 1) acc c
      if c.isAt (if single then '\'' else '"') then return (acc, c.skip)
      else
        let start : Gap := if escaped then ⟨[], some [], []⟩ else {}
        let (g, c) ← readGap (fun _ => false) (c.rest.length + 1) start c
        readQuotedFrom single fuel (acc ++ g.content) c

/-- A scalar between single or double quotation marks. -/
def readQuoted (single : Bool) (c : Cursor) : Option (List Char × Cursor) :=
  readQuotedFrom single (c.rest.length + 1) [] c.skip

/-! ### Plain scalars -/

/-- The five characters that structure collections in brackets. -/
def isFlowMark (c : Char) : Bool :=
  c = ',' || c = '[' || c = ']' || c = '\x7b' || c = '\x7d'

/-- Whether a colon inside brackets stands where it is a fault. -/
def colonFault (flow : Bool) (c : Cursor) : Bool :=
  flow && c.isAt ':' && c.has 1 fun x => isFlowMark x || x = '?'

/-- Whether a plain scalar ends here. -/
def plainEnds (flow : Bool) (c : Cursor) : Bool :=
  (c.isAt ':' && c.gapAt 1) || (flow && c.has 0 isFlowMark)

/-- The characters of a plain scalar up to a gap. -/
def readPlainWord (flow : Bool) : (fuel : Nat) → List Char → Cursor → Option (List Char × Cursor)
  | 0, acc, c => some (acc, c)
  | fuel + 1, acc, c =>
    match c.rest with
    | [] => some (acc, c)
    | x :: _ =>
      if isBlank x || isBreak x then some (acc, c)
      else if colonFault flow c then none
      else if plainEnds flow c then some (acc, c)
      else readPlainWord flow fuel (acc ++ [x]) c.skip

/-- A plain scalar after some of its words. Lines are indented by at least `indent`. The flag says
that a line end was passed after the last word. -/
def readPlainFrom (flow : Bool) (indent : Nat) : (fuel : Nat) → List Char → Gap → Cursor →
    Option (List Char × Bool × Cursor)
  | 0, _, _, _ => none
  | fuel + 1, acc, gap, c =>
    if c.atDocumentMark || c.isAt '#' then some (acc, gap.first.isSome, c)
    else do
      let (word, c) ← readPlainWord flow (c.rest.length + 1) [] c
      let (acc, gap) := if word.isEmpty then (acc, gap) else (acc ++ gap.content ++ word, {})
      if c.has 0 fun x => isBlank x || isBreak x then
        let (gap, c) ←
          readGap (fun c => c.column < indent && c.isAt '\t') (c.rest.length + 1) gap c
        if !flow && c.column < indent then return (acc, gap.first.isSome, c)
        else readPlainFrom flow indent fuel acc gap c
      else return (acc, gap.first.isSome, c)

/-- A plain scalar. The flag says that the text goes on at the start of a line. -/
def readPlain (flow : Bool) (indent : Nat) (c : Cursor) : Option (List Char × Bool × Cursor) :=
  readPlainFrom flow indent (c.rest.length + 1) [] {} c

/-! ### Blocks -/

/-- What becomes of the line ends at the end of a block. -/
inductive Chomping where
  | strip
  | clip
  | keep
  deriving DecidableEq

/-- The sign for what becomes of the line ends. -/
def chomping? (c : Cursor) : Option Chomping :=
  if c.isAt '+' then some .keep else if c.isAt '-' then some .strip else none

/-- The digit for the indentation of a block; zero is a fault. -/
def indentDigit? (c : Cursor) : Option (Option Nat) :=
  match c.rest with
  | x :: _ => if x.isDigit then (if x = '0' then none else some (some (x.toNat - 48))) else some none
  | [] => some none

/-- The signs after the mark of a block, in either order. -/
def readBlockSigns (c : Cursor) : Option (Chomping × Option Nat × Cursor) :=
  match chomping? c with
  | some chomp => do
    let c := c.skip
    match ← indentDigit? c with
    | some n => return (chomp, some n, c.skip)
    | none => return (chomp, none, c)
  | none => do
    match ← indentDigit? c with
    | some n =>
      let c := c.skip
      match chomping? c with
      | some chomp => return (chomp, some n, c.skip)
      | none => return (.clip, some n, c)
    | none => return (.clip, none, c)

/-- The line ends before a line of a block: the indentation (zero while it is unknown), the widest
one seen, the line ends and the place. -/
def readBlockBreaks (indent : Nat) : (fuel : Nat) → (widest : Nat) → List Char → Cursor →
    Option (Nat × List Char × Cursor)
  | 0, widest, acc, c => some (widest, acc, c)
  | fuel + 1, widest, acc, c =>
    let blanks := (c.rest.takeWhile (· = ' ')).length
    let c := c.skipMany (if indent = 0 then blanks else min blanks (indent - c.column))
    let widest := max widest c.column
    if (indent = 0 || c.column < indent) && c.isAt '\t' then none
    else if c.has 0 isBreak then
      let (b, c) := c.readBreak
      readBlockBreaks indent fuel widest (acc ++ b) c
    else some (widest, acc, c)

/-- The lines of a block with the indentation `indent`: its content, the end of the last line and
the empty lines after it. -/
def readBlockLines (literal : Bool) (indent : Nat) : (fuel : Nat) → (acc lead trail : List Char) →
    (leadBlank : Bool) → Cursor → Option (List Char × List Char × List Char × Cursor)
  | 0, acc, lead, trail, _, c => some (acc, lead, trail, c)
  | fuel + 1, acc, lead, trail, leadBlank, c =>
    if c.column ≠ indent || c.rest.isEmpty then some (acc, lead, trail, c)
    else do
      let blank := c.has 0 isBlank
      let acc :=
        if !literal && lead.head? = some '\n' && !leadBlank && !blank then
          (if trail.isEmpty then acc ++ [' '] else acc) ++ trail
        else acc ++ lead ++ trail
      let (line, c) := c.takeWhile fun x => !isBreak x
      let (lead, c) := c.readBreak
      let (_, trail, c) ← readBlockBreaks indent (c.rest.length + 1) 0 [] c
      readBlockLines literal indent fuel (acc ++ line) lead trail blank c

/-- A scalar in a block. `parent` is the indentation of what it belongs to. -/
def readBlock (literal : Bool) (parent : Int) (c : Cursor) : Option (List Char × Cursor) := do
  let (chomp, digit, c) ← readBlockSigns c.skip
  let c := (c.skipWhile isBlank).skipComment
  if !c.breakAt 0 then none
  else
    let c := c.skipBreak
    let given := match digit with
      | some n => (if 0 ≤ parent then parent.toNat + n else n)
      | none => 0
    let (widest, trail, c) ← readBlockBreaks given (c.rest.length + 1) 0 [] c
    let indent := if given = 0 then max widest (max (parent + 1).toNat 1) else given
    let (acc, lead, trail, c) ←
      readBlockLines literal indent (c.rest.length + 1) [] [] trail false c
    match chomp with
    | .strip => return (acc, c)
    | .clip => return (acc ++ lead, c)
    | .keep => return (acc ++ lead ++ trail, c)

end TicketSync.Yaml
