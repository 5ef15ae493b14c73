import TicketSync.Json.Basic
import TicketSync.Power

/-!
JSON text to value. A text holds one value with blanks around it; brackets are nested at most 127
deep. A number without fraction and exponent is an integer when it fits 64 bits; otherwise digits
that no longer fit are dropped and the rest is scaled by a power of ten. A repeated key is kept.
-/
namespace TicketSync.Json

/-- The four blanks of JSON. -/
def isJsonBlank (c : Char) : Bool :=
  c = ' ' || c = '\n' || c = '\t' || c = '\r'

/-- The text after its leading blanks. -/
def skipBlanks (cs : List Char) : List Char := cs.dropWhile isJsonBlank

/-! ### Numbers -/

/-- The largest natural of 64 bits. -/
def maxWord : Nat := twoTo 64 - 1

/-- The value of a decimal digit. -/
def digit (c : Char) : Nat := c.toNat - 48

/-- Digits before the point: the significand they make and how many were dropped. -/
def wholeDigits : (significand : Nat) → List Char → Nat × Nat
  | n, [] => (n, 0)
  | n, c :: rest =>
    if maxWord < n * 10 + digit c then (n, rest.length + 1)
    else wholeDigits (n * 10 + digit c) rest

/-- Digits after the point: the significand with them and how many were kept. -/
def fractionDigits : (significand : Nat) → List Char → Nat × Nat
  | n, [] => (n, 0)
  | n, c :: rest =>
    if maxWord < n * 10 + digit c then (n, 0)
    else
      let (m, kept) := fractionDigits (n * 10 + digit c) rest
      (m, kept + 1)

/-- The largest exponent that is not cut short. -/
def maxExponent : Nat := twoTo 31 - 1

/-- The value of the digits of an exponent, or none when it is beyond `maxExponent`. -/
def exponentValue (ds : List Char) : Option Nat :=
  let n := ds.foldl (fun n c => if maxExponent < n then n else n * 10 + digit c) 0
  if maxExponent < n then none else some n

/-- An integer kept within 32 bits. -/
def clampExponent (e : Int) : Int := max (-(twoTo 31)) (min e (twoTo 31 - 1))

/-- The double of these parts, where `exponent` is the sign and the digits after the `e`. -/
def scaled? (negative : Bool) (significand : Nat) (start : Int) (exponent : Option (Bool × List Char)) :
    Option Binary64 :=
  match exponent with
  | none => Binary64.ofDecimal? negative significand start
  | some (down, ds) =>
    match exponentValue ds with
    | some n =>
      Binary64.ofDecimal? negative significand (clampExponent (if down then start - n else start + n))
    | none => if significand ≠ 0 && !down then none else some (.zero negative)

/-- The exponent of a number, when one follows. -/
def readExponent : List Char → Option (Option (Bool × List Char) × List Char)
  | c :: rest =>
    if c = 'e' || c = 'E' then
      let (down, rest) := match rest with
        | '+' :: rest => (false, rest)
        | '-' :: rest => (true, rest)
        | rest => (false, rest)
      let ds := rest.takeWhile Char.isDigit
      if ds.isEmpty then none else some (some (down, ds), rest.dropWhile Char.isDigit)
    else some (none, c :: rest)
  | [] => some (none, [])

/-- An integer of 64 bits, or the double where it has none: below the range, or minus zero. -/
def wholeNumber? (negative : Bool) (n : Nat) : Option Json :=
  if negative then
    if n = 0 then some (.real (.zero true))
    else if n ≤ twoTo 63 then some (.int (-n))
    else (Binary64.ofNat? n).map fun x => .real { x with negative := true }
  else some (.int n)

/-- A number whose sign has been read. -/
def readNumber (negative : Bool) (cs : List Char) : Option (Json × List Char) :=
  let ds := cs.takeWhile Char.isDigit
  let rest := cs.dropWhile Char.isDigit
  if ds.isEmpty || (1 < ds.length && ds.head? = some '0') then none
  else
    let (n, dropped) := wholeDigits 0 ds
    match rest with
    | '.' :: rest =>
      let fs := rest.takeWhile Char.isDigit
      if fs.isEmpty then none
      else do
        let (m, kept) := fractionDigits n fs
        let (e, rest) ← readExponent (rest.dropWhile Char.isDigit)
        let x ← scaled? negative m (dropped - kept) e
        some (.real x, rest)
    | rest => do
      let (e, rest) ← readExponent rest
      if e.isNone && dropped = 0 then some (← wholeNumber? negative n, rest)
      else some (.real (← scaled? negative n dropped e), rest)

/-! ### Strings -/

/-- The value of a hexadecimal digit. -/
def hexValue? (c : Char) : Option Nat :=
  if c.isDigit then some (c.toNat - 48)
  else if 'a' ≤ c && c ≤ 'f' then some (c.toNat - 87)
  else if 'A' ≤ c && c ≤ 'F' then some (c.toNat - 55)
  else none

/-- The value of four hexadecimal digits. -/
def hexQuad? (a b c d : Char) : Option Nat := do
  some ((((← hexValue? a) * 16 + (← hexValue? b)) * 16 + (← hexValue? c)) * 16 + (← hexValue? d))

/-- The character of a letter after a backslash, `u` apart. -/
def unescape? : Char → Option Char
  | '"' => some '"'
  | '\\' => some '\\'
  | '/' => some '/'
  | 'b' => some (Char.ofNat 8)
  | 'f' => some (Char.ofNat 12)
  | 'n' => some '\n'
  | 'r' => some '\r'
  | 't' => some '\t'
  | _ => none

/-- The rest of a string after its opening quotation mark. A surrogate must be one of a pair. -/
def readString : List Char → Option (List Char × List Char)
  | [] => none
  | '"' :: rest => some ([], rest)
  | '\\' :: 'u' :: a :: b :: c :: d :: rest =>
    match hexQuad? a b c d with
    | none => none
    | some n =>
      if 0xD800 ≤ n && n ≤ 0xDBFF then
        match rest with
        | '\\' :: 'u' :: e :: f :: g :: h :: rest =>
          match hexQuad? e f g h with
          | none => none
          | some m =>
            if 0xDC00 ≤ m && m ≤ 0xDFFF then
              (readString rest).map fun (s, r) =>
                (Char.ofNat (0x10000 + (n - 0xD800) * 0x400 + (m - 0xDC00)) :: s, r)
            else none
        | _ => none
      else if 0xDC00 ≤ n && n ≤ 0xDFFF then none
      else (readString rest).map fun (s, r) => (Char.ofNat n :: s, r)
  | '\\' :: c :: rest =>
    match unescape? c with
    | none => none
    | some x => (readString rest).map fun (s, r) => (x :: s, r)
  | c :: rest =>
    if c.toNat < 32 || c = '\\' then none
    else (readString rest).map fun (s, r) => (c :: s, r)

/-! ### Values -/

/-- The rest of the text after a word that it has to start with. -/
def afterWord : (word : List Char) → List Char → Option (List Char)
  | [], cs => some cs
  | w :: word, c :: cs => if w = c then afterWord word cs else none
  | _ :: _, [] => none

mutual
/-- A value at the start of the text, inside at most `depth` more brackets. -/
def readValue (depth : Nat) : (fuel : Nat) → List Char → Option (Json × List Char)
  | 0, _ => none
  | fuel + 1, cs =>
    match skipBlanks cs with
    | 'n' :: rest => (afterWord ['u', 'l', 'l'] rest).map fun r => (.null, r)
    | 't' :: rest => (afterWord ['r', 'u', 'e'] rest).map fun r => (.bool true, r)
    | 'f' :: rest => (afterWord ['a', 'l', 's', 'e'] rest).map fun r => (.bool false, r)
    | '"' :: rest => (readString rest).map fun (s, r) => (.str (String.ofList s), r)
    | '-' :: rest => readNumber true rest
    | '[' :: rest =>
      match depth with
      | 0 => none
      | depth + 1 =>
        match skipBlanks rest with
        | ']' :: rest => some (.arr [], rest)
        | rest => (readItems depth fuel rest).map fun (vs, r) => (.arr vs, r)
    | '\x7b' :: rest =>
      match depth with
      | 0 => none
      | depth + 1 =>
        match skipBlanks rest with
        | '\x7d' :: rest => some (.obj [], rest)
        | rest => (readFields depth fuel rest).map fun (fs, r) => (.obj fs, r)
    | rest => readNumber false rest

/-- The items of an array up to its end. -/
def readItems (depth : Nat) : (fuel : Nat) → List Char → Option (List Json × List Char)
  | 0, _ => none
  | fuel + 1, cs => do
    let (v, rest) ← readValue depth fuel cs
    match skipBlanks rest with
    | ']' :: rest => some ([v], rest)
    | ',' :: rest => (readItems depth fuel rest).map fun (vs, r) => (v :: vs, r)
    | _ => none

/-- The fields of an object up to its end. -/
def readFields (depth : Nat) : (fuel : Nat) → List Char → Option (List (String × Json) × List Char)
  | 0, _ => none
  | fuel + 1, cs =>
    match skipBlanks cs with
    | '"' :: rest => do
      let (k, rest) ← readString rest
      match skipBlanks rest with
      | ':' :: rest =>
        let (v, rest) ← readValue depth fuel rest
        match skipBlanks rest with
        | '\x7d' :: rest => some ([(String.ofList k, v)], rest)
        | ',' :: rest =>
          (readFields depth fuel rest).map fun (fs, r) => ((String.ofList k, v) :: fs, r)
        | _ => none
      | _ => none
    | _ => none
end

/-- The most brackets that may be open at once. -/
def maxDepth : Nat := 127

/-- The value of a text, with blanks around it and nothing else. -/
def readChars? (cs : List Char) : Option Json := do
  let (v, rest) ← readValue maxDepth (2 * cs.length + 1) cs
  if (skipBlanks rest).isEmpty then some v else none

/-- The value of a text, with repeated keys as they are written. -/
def read? (s : String) : Option Json := readChars? s.toList

end TicketSync.Json
