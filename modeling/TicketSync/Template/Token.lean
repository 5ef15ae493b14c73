import TicketSync.Power
import TicketSync.Text.Alphanumeric
import TicketSync.Text.Blank
import TicketSync.Text.Quoted

/-!
The tokens of an action, and why a text is not a sequence of tokens. `scan` reads the longest
token at each place; `Token.spell` writes a token so that `scan` reads it back.
-/
namespace TicketSync.Template

/-- A token of an action. A field is a path of names, each after a point. -/
inductive Token where
  | field (path : List String)
  | text (s : String)
  | number (n : Int)
  | name (s : String)
  | openParen
  | closeParen
  | pipe
  deriving DecidableEq, Repr

/-- Texts separated by a comma and a blank. -/
def commaList (items : List String) : String :=
  ", ".intercalate items

/-- The form of a token in messages. -/
def Token.describe : Token → String
  | .field path => "Field([" ++ commaList (path.map Text.quote) ++ "])"
  | .text s => "Str(" ++ Text.quote s ++ ")"
  | .number n => "Int(" ++ toString n ++ ")"
  | .name s => "Ident(" ++ Text.quote s ++ ")"
  | .openParen => "LParen"
  | .closeParen => "RParen"
  | .pipe => "Pipe"

/-- Why a text has no tokens. -/
inductive ScanFault where
  | unterminatedText
  | unterminatedRawText
  | unknownEscape (c : Char)
  | numberTooLarge (digits : String)
  | numberTooSmall (digits : String)
  | unexpected (c : Char)
  deriving DecidableEq, Repr

/-- The message of a fault. -/
def ScanFault.message : ScanFault → String
  | .unterminatedText => "unterminated quoted string"
  | .unterminatedRawText => "unterminated raw string"
  | .unknownEscape c => "unknown escape sequence \\" ++ c.toString
  | .numberTooLarge ds => "bad number " ++ ds ++ ": number too large to fit in target type"
  | .numberTooSmall ds => "bad number " ++ ds ++ ": number too small to fit in target type"
  | .unexpected c => "unexpected character " ++ Text.quoteChar c ++ " in action"

/-- The characters of a name in a path. -/
def isFieldChar (c : Char) : Bool :=
  Text.isAlphanumeric c || c = '_' || c = '-'

/-- The characters that a name starts with. -/
def isNameStart (c : Char) : Bool :=
  Text.isAlphabetic c || c = '_'

/-- The characters of a name after the first one. -/
def isNameChar (c : Char) : Bool :=
  Text.isAlphanumeric c || c = '_'

/-- The names of a path after a point, and the rest. A point after a name is taken as well. -/
def readPath : (fuel : Nat) → List Char → List String × List Char
  | 0, cs => ([], cs)
  | fuel + 1, cs =>
    let segment := cs.takeWhile isFieldChar
    let rest := cs.dropWhile isFieldChar
    if segment.isEmpty then ([], rest)
    else
      match rest with
      | '.' :: rest =>
        let (path, rest) := readPath fuel rest
        (String.ofList segment :: path, rest)
      | rest => ([String.ofList segment], rest)

/-- The character that stands behind a backslash. -/
def unescape? : Char → Option Char
  | 'n' => some '\n'
  | 't' => some '\t'
  | '"' => some '"'
  | '\\' => some '\\'
  | _ => none

/-- The content of a quoted text after its opening mark, and the rest. -/
def readQuoted : List Char → Except ScanFault (List Char × List Char)
  | [] => .error .unterminatedText
  | '"' :: rest => .ok ([], rest)
  | ['\\'] => .error .unterminatedText
  | '\\' :: c :: rest =>
    match unescape? c with
    | none => .error (.unknownEscape c)
    | some x => (readQuoted rest).map fun (s, r) => (x :: s, r)
  | c :: rest => (readQuoted rest).map fun (s, r) => (c :: s, r)

/-- The content of a text between backquotes after the opening one, and the rest. -/
def readRaw (cs : List Char) : Except ScanFault (List Char × List Char) :=
  match cs.dropWhile (· ≠ '`') with
  | [] => .error .unterminatedRawText
  | _ :: rest => .ok (cs.takeWhile (· ≠ '`'), rest)

/-- The value of decimal digits. -/
def digitsValue (ds : List Char) : Nat :=
  ds.foldl (fun n c => n * 10 + (c.toNat - 48)) 0

/-- The number of these digits, when it has 64 bits. -/
def readInteger (negative : Bool) (ds : List Char) : Except ScanFault Token :=
  let n := digitsValue ds
  if negative then
    if n ≤ twoTo 63 then .ok (.number (-n)) else .error (.numberTooSmall (String.ofList ('-' :: ds)))
  else if n < twoTo 63 then .ok (.number n)
  else .error (.numberTooLarge (String.ofList ds))

/-- The token that starts with the character `c`, which is not blank, and the rest. -/
def readToken (c : Char) (rest : List Char) : Except ScanFault (Token × List Char) :=
  if c = '(' then .ok (.openParen, rest)
  else if c = ')' then .ok (.closeParen, rest)
  else if c = '|' then .ok (.pipe, rest)
  else if c = '.' then
    let (path, rest) := readPath (rest.length + 1) rest
    .ok (.field path, rest)
  else if c = '"' then (readQuoted rest).map fun (s, r) => (.text (String.ofList s), r)
  else if c = '`' then (readRaw rest).map fun (s, r) => (.text (String.ofList s), r)
  else if c.isDigit then
    (readInteger false (c :: rest.takeWhile Char.isDigit)).map fun t =>
      (t, rest.dropWhile Char.isDigit)
  else if c = '-' && (rest.takeWhile Char.isDigit) ≠ [] then
    (readInteger true (rest.takeWhile Char.isDigit)).map fun t => (t, rest.dropWhile Char.isDigit)
  else if isNameStart c then
    .ok (.name (String.ofList (c :: rest.takeWhile isNameChar)), rest.dropWhile isNameChar)
  else .error (.unexpected c)

/-- The tokens of a text, by at most `fuel` steps. -/
def scanFrom : (fuel : Nat) → List Char → Except ScanFault (List Token)
  | 0, _ => .ok []
  | _ + 1, [] => .ok []
  | fuel + 1, c :: rest =>
    if Text.isBlank c then scanFrom fuel rest
    else do
      let (t, rest) ← readToken c rest
      let ts ← scanFrom fuel rest
      return t :: ts

/-- The tokens of a text. Each step takes at least one character. -/
def scan (cs : List Char) : Except ScanFault (List Token) :=
  scanFrom cs.length cs

/-! ### Spelling -/

/-- A character inside a quoted text. -/
def spellChar (c : Char) : List Char :=
  if c = '"' || c = '\\' then ['\\', c] else [c]

/-- A text in double quotation marks, with these and the backslash escaped. -/
def spellText (s : String) : List Char :=
  '"' :: s.toList.flatMap spellChar ++ ['"']

/-- A token as it is written in an action. -/
def Token.spell : Token → List Char
  | .field path => '.' :: (".".intercalate path).toList
  | .text s => spellText s
  | .number n => (toString n).toList
  | .name s => s.toList
  | .openParen => ['(']
  | .closeParen => [')']
  | .pipe => ['|']

end TicketSync.Template
