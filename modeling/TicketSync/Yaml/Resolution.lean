import TicketSync.Power
import TicketSync.Source
import TicketSync.Yaml.Node

/-!
What the scalars of a YAML document stand for, and YAML as a format of documents. A plain scalar is
null, a truth value, an integer, a number or a text by its spelling; a quoted one is a text. Where a
text is asked for, every scalar gives its own.
-/
namespace TicketSync.Yaml

/-- The spellings of null. -/
def isNullWord (s : String) : Bool :=
  s = "null" || s = "Null" || s = "NULL" || s = "~"

/-- The spellings of truth values. -/
def flag? (s : String) : Option Bool :=
  if s = "true" || s = "True" || s = "TRUE" then some true
  else if s = "false" || s = "False" || s = "FALSE" then some false
  else none

/-! ### Integers -/

/-- The number of digits in a base, of which there has to be one. -/
def digits? (base : Nat) (cs : List Char) : Option Nat :=
  if cs.isEmpty then none
  else cs.foldlM (fun n c => (hexValue? c).bind fun d => if d < base then some (n * base + d) else none) 0

/-- A sign. -/
def isSign (c : Char) : Bool := c = '+' || c = '-'

/-- Whether digits have a zero before them, with or without a sign. -/
def hasLeadingZero (cs : List Char) : Bool :=
  let cs := match cs with
    | c :: rest => if isSign c then rest else cs
    | [] => cs
  1 < cs.length && cs.head? = some '0' && cs.all Char.isDigit

/-- The base of a number that starts with a zero and a letter, and the digits after them. -/
def based? : List Char → Option (Nat × List Char)
  | '0' :: 'x' :: ds => some (16, ds)
  | '0' :: 'o' :: ds => some (8, ds)
  | '0' :: 'b' :: ds => some (2, ds)
  | _ => none

/-- A natural number, with or without a plus sign. -/
def natural? (cs : List Char) : Option Nat :=
  let body := match cs with
    | '+' :: rest => rest
    | rest => rest
  match based? body with
  | some (base, ds) => digits? base ds
  | none => if hasLeadingZero cs then none else digits? 10 body

/-- A number below zero, or zero, after a minus sign. -/
def negative? (cs : List Char) : Option Nat :=
  match cs with
  | '-' :: body =>
    match based? body with
    | some (base, ds) => digits? base ds
    | none => if hasLeadingZero cs then none else digits? 10 body
  | _ => none

/-! ### Numbers -/

/-- The decimal places after a point and their number. -/
def readPlaces : List Char → List Char × List Char
  | '.' :: rest => (rest.takeWhile Char.isDigit, rest.dropWhile Char.isDigit)
  | rest => ([], rest)

/-- The exponent at the end of a number, zero when there is none. -/
def exponent? : List Char → Option Int
  | [] => some 0
  | e :: rest =>
    if e = 'e' || e = 'E' then
      match rest with
      | '-' :: ds => (digits? 10 ds).map fun n => -(n : Int)
      | '+' :: ds => (digits? 10 ds).map fun n => (n : Int)
      | ds => (digits? 10 ds).map fun n => (n : Int)
    else none

/-- The double nearest to a decimal, none where it is too large. -/
def nearest? (negative : Bool) (significand : Nat) (exponent : Int) : Option Binary64 :=
  let order := exponent + (Nat.toDigits 10 significand).length
  if significand = 0 || order < -400 then some (.zero negative)
  else if 400 < order then none
  else if 0 ≤ exponent then Binary64.ofRatio? negative (significand * tenTo exponent.toNat) 1
  else Binary64.ofRatio? negative significand (tenTo (-exponent).toNat)

/-- The number of a decimal text, if it is finite. -/
def real? (cs : List Char) : Option Binary64 := do
  let (negative, cs) := match cs with
    | '-' :: rest => (true, rest)
    | '+' :: rest => (false, rest)
    | rest => (false, rest)
  let whole := cs.takeWhile Char.isDigit
  let (places, rest) := readPlaces (cs.dropWhile Char.isDigit)
  if whole.isEmpty && places.isEmpty then none
  else
    let e ← exponent? rest
    nearest? negative ((whole ++ places).foldl (fun n c => n * 10 + (c.toNat - 48)) 0)
      (e - places.length)

/-- The spellings of infinities and of what is no number. -/
def isNonFinite (s : String) : Bool :=
  [".inf", ".Inf", ".INF", "+.inf", "+.Inf", "+.INF", "-.inf", "-.Inf", "-.INF", ".nan", ".NaN",
    ".NAN"].contains s

/-- The JSON value of a number, null where it is not finite. -/
def number? (s : String) : Option Json :=
  if isNonFinite s then some .null else (real? s.toList).map .real

/-! ### Scalars -/

/-- An integer by its spelling, where it fits 128 bits. What does not fit 64 bits has no value. -/
def integer? (s : String) : Option (Decoded Json) :=
  match natural? s.toList, negative? s.toList with
  | some n, _ =>
    if n < twoTo 64 then some (.ok (.int n)) else if n < twoTo 128 then some (.error .form) else none
  | none, some n =>
    if n ≤ twoTo 63 then some (.ok (.int (-n)))
    else if n ≤ twoTo 127 then some (.error .form) else none
  | none, none => none

/-- The value of a plain scalar by its spelling. -/
def plainValue (s : String) : Decoded Json :=
  if s.isEmpty || isNullWord s then .ok .null
  else
    match flag? s, integer? s with
    | some b, _ => .ok (.bool b)
    | none, some v => v
    | none, none =>
      match if hasLeadingZero s.toList then none else number? s with
      | some v => .ok v
      | none => .ok (.str s)

/-- A tag of the application, which no value of a document has. -/
def isLocalTag (tag : Option String) : Bool :=
  match tag with
  | some t => t.toList.head? = some '!'
  | none => false

/-- A value that has to be there. -/
def orMisfit (v : Option Json) : Decoded Json :=
  match v with
  | some v => .ok v
  | none => .error .form

/-- The value of a scalar with a tag of the schema, of another tag or without one. -/
def scalarValue (tag : Option String) (text : String) (plain : Bool) : Decoded Json :=
  match tag with
  | none => if plain then plainValue text else .ok (.str text)
  | some tag =>
    if tag = "tag:yaml.org,2002:bool" then orMisfit ((flag? text).map .bool)
    else if tag = "tag:yaml.org,2002:int" then (integer? text).getD (.error .form)
    else if tag = "tag:yaml.org,2002:float" then orMisfit (number? text)
    else if tag = "tag:yaml.org,2002:null" then
      orMisfit (if isNullWord text then some .null else none)
    else if isLocalTag (some tag) then .error .form
    else .ok (.str text)

namespace Node

/-- The text of a scalar. -/
def text : Node → Decoded String
  | .scalar _ text _ => .ok text
  | _ => .error .form

/-- Whether a node is left empty, so that it stands for an empty collection. -/
def isEmpty : Node → Bool
  | .scalar _ text plain => text.isEmpty && plain
  | .absent => true
  | _ => false

mutual
/-- The JSON value of a node; the last of equal keys counts. -/
def value : Node → Decoded Json
  | .scalar tag text plain => scalarValue tag text plain
  | .sequence tag items =>
    if isLocalTag tag then .error .form else (values items).map .arr
  | .mapping tag entries =>
    if isLocalTag tag then .error .form else (fields entries).map .ofFields
  | .absent => .ok .null
  | .unreadable => .error .form

/-- The JSON values of nodes. -/
def values : List Node → Decoded (List Json)
  | [] => .ok []
  | n :: rest => do
    let v ← n.value
    return v :: (← values rest)

/-- The fields of entries. -/
def fields : List (Node × Node) → Decoded (List (String × Json))
  | [] => .ok []
  | (key, n) :: rest => do
    let k ← key.text
    let v ← n.value
    return (k, v) :: (← fields rest)
end

/-- Whether a node is left out where a value may be absent. -/
def isOmitted : Node → Bool
  | .scalar tag text plain =>
    plain &&
      match tag with
      | none => text.isEmpty || isNullWord text
      | some t => t = "tag:yaml.org,2002:null" && isNullWord text
  | .absent => true
  | _ => false

/-- The natural number of a plain scalar. -/
def natural : Node → Decoded Nat
  | .scalar _ text true =>
    match natural? text.toList with
    | some n => if n < twoTo 64 then .ok n else .error .form
    | none => .error .form
  | _ => .error .form

/-- A key where keys may be of any kind. None has a tag of the application. -/
def looseKey : Node → Option LooseKey
  | .scalar tag text plain =>
    match scalarValue tag text plain with
    | .ok (.str s) => some (.text s)
    | .ok (.int i) => some (if 0 ≤ i then .index i.toNat else .other)
    | .ok _ => some .other
    | .error _ => none
  | n =>
    match n.value with
    | .ok _ => some .other
    | .error _ => none

/-- A node by its form. -/
def view : Node → LooseView Node
  | .sequence tag items => if isLocalTag tag then .other else .items items
  | .mapping tag entries =>
    match if isLocalTag tag then none else entries.mapM fun e => e.1.looseKey.map (·, e.2) with
    | some entries => .entries entries
    | none => .other
  | _ => .other

end Node

/-- YAML as a format of documents. -/
instance : Source Node where
  asText := Node.text
  asNat := Node.natural
  isAbsent := Node.isOmitted
  asItems
    | .sequence _ items => .ok items
    | n => if n.isEmpty then .ok [] else .error .form
  asEntries
    | .mapping _ entries => .ok entries
    | n => if n.isEmpty then .ok [] else .error .form
  byPosition? _ := none
  asJson := Node.value
  view := Node.view

/-- A value read from the document of a text, which has to hold nothing else. A fault in the value
comes before one in the rest of the text. -/
def decode {α : Type} (read : Node → Decoded α) (text : String) : Decoded α := do
  let d := Document.parse text
  let x ← read d.root
  if d.sound then return x else .error .form

end TicketSync.Yaml
