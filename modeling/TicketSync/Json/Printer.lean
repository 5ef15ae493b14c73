import TicketSync.Json.Basic
import TicketSync.Text.Quoted

/-! JSON text of a value: on one line without blanks, or over lines with two blanks for each
level. In strings the quotation mark, the backslash and the characters below U+0020 are escaped. -/
namespace TicketSync.Json

/-- How a character is written inside a string. -/
def escape (c : Char) : List Char :=
  if c = '"' then ['\\', '"']
  else if c = '\\' then ['\\', '\\']
  else if c = '\n' then ['\\', 'n']
  else if c = '\r' then ['\\', 'r']
  else if c = '\t' then ['\\', 't']
  else if c.toNat = 8 then ['\\', 'b']
  else if c.toNat = 12 then ['\\', 'f']
  else if c.toNat < 16 then ['\\', 'u', '0', '0', '0'] ++ Text.hexDigits c.toNat
  else if c.toNat < 32 then ['\\', 'u', '0', '0'] ++ Text.hexDigits c.toNat
  else [c]

/-- A string between quotation marks. -/
def printString (s : String) : List Char :=
  '"' :: s.toList.flatMap escape ++ ['"']

/-- The decimal digits of an integer, with its sign. -/
def printInt : Int → List Char
  | .ofNat n => Nat.toDigits 10 n
  | .negSucc n => '-' :: Nat.toDigits 10 (n + 1)

mutual
/-- A value on one line. -/
def print : Json → List Char
  | .null => ['n', 'u', 'l', 'l']
  | .bool true => ['t', 'r', 'u', 'e']
  | .bool false => ['f', 'a', 'l', 's', 'e']
  | .int i => printInt i
  | .real x => x.toText
  | .str s => printString s
  | .arr [] => ['[', ']']
  | .arr (v :: rest) => '[' :: print v ++ printItems rest
  | .obj [] => ['\x7b', '\x7d']
  | .obj ((k, v) :: rest) => '\x7b' :: printString k ++ ':' :: print v ++ printFields rest

/-- The items of an array after the first one, and its end. -/
def printItems : List Json → List Char
  | [] => [']']
  | v :: rest => ',' :: print v ++ printItems rest

/-- The fields of an object after the first one, and its end. -/
def printFields : List (String × Json) → List Char
  | [] => ['\x7d']
  | (k, v) :: rest => ',' :: printString k ++ ':' :: print v ++ printFields rest
end

/-- A new line with two blanks for each level. -/
def newLine (level : Nat) : List Char :=
  '\n' :: List.replicate (2 * level) ' '

mutual
/-- A value over several lines, inside `level` brackets. -/
def printWide (level : Nat) : Json → List Char
  | .arr [] => ['[', ']']
  | .arr (v :: rest) =>
    '[' :: newLine (level + 1) ++ printWide (level + 1) v ++ printWideItems level rest
  | .obj [] => ['\x7b', '\x7d']
  | .obj ((k, v) :: rest) =>
    '\x7b' :: newLine (level + 1) ++ printString k ++ ':' :: ' ' :: printWide (level + 1) v ++
      printWideFields level rest
  | v => print v

/-- The items of an array after the first one, and its end. -/
def printWideItems (level : Nat) : List Json → List Char
  | [] => newLine level ++ [']']
  | v :: rest =>
    ',' :: newLine (level + 1) ++ printWide (level + 1) v ++ printWideItems level rest

/-- The fields of an object after the first one, and its end. -/
def printWideFields (level : Nat) : List (String × Json) → List Char
  | [] => newLine level ++ ['\x7d']
  | (k, v) :: rest =>
    ',' :: newLine (level + 1) ++ printString k ++ ':' :: ' ' :: printWide (level + 1) v ++
      printWideFields level rest
end

/-- The text of a value on one line. -/
def toText (v : Json) : String := String.ofList v.print

/-- The text of a value over several lines. -/
def toWideText (v : Json) : String := String.ofList (v.printWide 0)

end TicketSync.Json
