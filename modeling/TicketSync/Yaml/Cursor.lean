/-!
A place in a YAML text: what is left of it, and the line, the column and the number of characters
before. A line ends with a line feed, a carriage return, both together, or one of three other marks.
-/
namespace TicketSync.Yaml

/-- A place in a text. -/
structure Cursor where
  rest : List Char
  index : Nat := 0
  line : Nat := 0
  column : Nat := 0
  deriving Inhabited

/-- A blank or a tab. -/
def isBlank (c : Char) : Bool := c = ' ' || c = '\t'

/-- A character that ends a line. -/
def isBreak (c : Char) : Bool :=
  c = '\n' || c = '\r' || c.toNat = 0x85 || c.toNat = 0x2028 || c.toNat = 0x2029

/-- A letter, a digit, `_` or `-`. -/
def isWordChar (c : Char) : Bool :=
  ('a' ≤ c && c ≤ 'z') || ('A' ≤ c && c ≤ 'Z') || c.isDigit || c = '_' || c = '-'

/-- Whether a text may hold a character. -/
def isAllowed (c : Char) : Bool :=
  let n := c.toNat
  n = 9 || n = 10 || n = 13 || (0x20 ≤ n && n ≤ 0x7E) || n = 0x85 || (0xA0 ≤ n && n ≤ 0xFFFD) ||
    0x10000 ≤ n

namespace Cursor

/-- The character at a distance. -/
def peek (c : Cursor) (n : Nat) : Option Char := c.rest[n]?

/-- Whether the next character is `x`. -/
def isAt (c : Cursor) (x : Char) : Bool := c.rest.head? = some x

/-- Whether the character at a distance is `x`. -/
def atOffset (c : Cursor) (n : Nat) (x : Char) : Bool := c.peek n = some x

/-- Whether the character at a distance passes a test, where the end of the text passes it. -/
def endOr (c : Cursor) (n : Nat) (p : Char → Bool) : Bool :=
  match c.peek n with
  | some x => p x
  | none => true

/-- Whether a character at a distance passes a test. -/
def has (c : Cursor) (n : Nat) (p : Char → Bool) : Bool :=
  match c.peek n with
  | some x => p x
  | none => false

/-- Whether a line or the text ends at a distance. -/
def breakAt (c : Cursor) (n : Nat) : Bool := c.endOr n isBreak

/-- Whether a blank, a line end or the end of the text is at a distance. -/
def gapAt (c : Cursor) (n : Nat) : Bool := c.endOr n fun x => isBlank x || isBreak x

/-- The place after one character of a line. -/
def skip (c : Cursor) : Cursor :=
  { c with rest := c.rest.drop 1, index := c.index + 1, column := c.column + 1 }

/-- The place after `n` characters of a line. -/
def skipMany (c : Cursor) (n : Nat) : Cursor :=
  { c with rest := c.rest.drop n, index := c.index + n, column := c.column + n }

/-- The place after characters that pass a test. -/
def skipWhile (c : Cursor) (p : Char → Bool) : Cursor :=
  c.skipMany (c.rest.takeWhile p).length

/-- The characters that pass a test, and the place after them. -/
def takeWhile (c : Cursor) (p : Char → Bool) : List Char × Cursor :=
  let cs := c.rest.takeWhile p
  (cs, c.skipMany cs.length)

/-- The place after the end of a line, and the line end as content has it: a line feed, or one of
the two marks that separate lines and paragraphs. -/
def readBreak (c : Cursor) : List Char × Cursor :=
  let next (n : Nat) : Cursor := ⟨c.rest.drop n, c.index + n, c.line + 1, 0⟩
  match c.rest with
  | '\r' :: '\n' :: _ => (['\n'], next 2)
  | x :: _ =>
    if x = '\n' || x = '\r' || x.toNat = 0x85 then (['\n'], next 1)
    else if isBreak x then ([x], next 1)
    else ([], c)
  | [] => ([], c)

/-- The place after the end of a line. -/
def skipBreak (c : Cursor) : Cursor := c.readBreak.2

/-- The place after a comment, if one starts here. -/
def skipComment (c : Cursor) : Cursor :=
  if c.isAt '#' then c.skipWhile fun x => !isBreak x else c

/-- Whether three marks that start or end a document stand here, at the start of a line. -/
def documentMark (c : Cursor) (x : Char) : Bool :=
  c.column = 0 && c.atOffset 0 x && c.atOffset 1 x && c.atOffset 2 x && c.gapAt 3

/-- Whether a document starts or ends here. -/
def atDocumentMark (c : Cursor) : Bool := c.documentMark '-' || c.documentMark '.'

end Cursor
end TicketSync.Yaml
