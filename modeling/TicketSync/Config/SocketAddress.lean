import TicketSync.Power
import TicketSync.Text.Printable
import TicketSync.Text.Quoted

/-!
Addresses to listen on: an IPv4 address and a port, or an IPv6 address in brackets, with an
optional zone, and a port. `parse?` reads any spelling and `display` writes the canonical one, in
which the first of the longest runs of at least two zero groups is left out.
-/
namespace TicketSync

/-- An address to listen on. -/
inductive SocketAddress where
  | v4 (octets : List Nat) (port : Nat)
  | v6 (groups : List Nat) (zone : Nat) (port : Nat)
  deriving DecidableEq, Repr, Inhabited

namespace SocketAddress

/-- The value of a digit in a base of at most sixteen. -/
def digitValue? (base : Nat) (c : Char) : Option Nat :=
  let n :=
    if c.isDigit then some (c.toNat - 48)
    else if 'a' ≤ c && c ≤ 'f' then some (c.toNat - 87)
    else if 'A' ≤ c && c ≤ 'F' then some (c.toNat - 55)
    else none
  n.filter (· < base)

/-- The digits at the start of a text. -/
def digitsOf (base : Nat) (cs : List Char) : List Char :=
  cs.takeWhile fun c => (digitValue? base c).isSome

/-- The value of digits. -/
def valueOf (base : Nat) (ds : List Char) : Nat :=
  ds.foldl (fun n c => n * base + (digitValue? base c).getD 0) 0

/-- A number below a bound at the start of a text. -/
def readNumber? (base bound : Nat) (cs : List Char) : Option (Nat × List Char) :=
  let ds := digitsOf base cs
  if ds.isEmpty || bound ≤ valueOf base ds then none else some (valueOf base ds, cs.drop ds.length)

/-- An octet: at most three digits, without zeros before it. -/
def readOctet? (cs : List Char) : Option (Nat × List Char) :=
  let ds := digitsOf 10 cs
  if 3 < ds.length || (1 < ds.length && ds.head? = some '0') then none else readNumber? 10 256 cs

/-- A group of an IPv6 address: at most four digits of base sixteen. -/
def readGroup? (cs : List Char) : Option (Nat × List Char) :=
  if 4 < (digitsOf 16 cs).length then none else readNumber? 16 65536 cs

/-- The rest of a text after a character that it has to start with. -/
def after? (c : Char) : List Char → Option (List Char)
  | d :: rest => if d = c then some rest else none
  | [] => none

/-- Four octets with points between them. -/
def readOctets? (cs : List Char) : Option (List Nat × List Char) := do
  let (a, cs) ← readOctet? cs
  let (b, cs) ← readOctet? (← after? '.' cs)
  let (c, cs) ← readOctet? (← after? '.' cs)
  let (d, cs) ← readOctet? (← after? '.' cs)
  return ([a, b, c, d], cs)

/-- The two groups of four octets. -/
def groupsOfOctets : List Nat → List Nat
  | [a, b, c, d] => [a * 256 + b, c * 256 + d]
  | _ => []

/-- At most `limit` groups with colons between them, whether they end in octets, and the rest.
`first` says that no group comes before them. -/
def readGroups : (limit : Nat) → (first : Bool) → List Char → List Nat × Bool × List Char
  | 0, _, cs => ([], false, cs)
  | limit + 1, first, cs =>
    let start := if first then some cs else after? ':' cs
    match if 0 < limit then start.bind readOctets? else none with
    | some (octets, rest) => (groupsOfOctets octets, true, rest)
    | none =>
      match start.bind readGroup? with
      | none => ([], false, cs)
      | some (g, rest) =>
        let (gs, octets, rest) := readGroups limit false rest
        (g :: gs, octets, rest)

/-- The eight groups of an IPv6 address. Two colons stand for one group of zeros or more. -/
def readAddress6? (cs : List Char) : Option (List Nat × List Char) :=
  match readGroups 8 true cs with
  | (front, octets, rest) =>
    if front.length = 8 then some (front, rest)
    else if octets then none
    else do
      let rest ← after? ':' (← after? ':' rest)
      let (back, _, rest) := readGroups (7 - front.length) true rest
      return (front ++ List.replicate (8 - front.length - back.length) 0 ++ back, rest)

/-- A colon and a port. -/
def readPort? (cs : List Char) : Option (Nat × List Char) := do
  readNumber? 10 65536 (← after? ':' cs)

/-- The zone of an IPv6 address, zero when none is given. -/
def readZone (cs : List Char) : Nat × List Char :=
  match (after? '%' cs).bind (readNumber? 10 (twoTo 32)) with
  | some (zone, rest) => (zone, rest)
  | none => (0, cs)

/-- An IPv4 address with a port. -/
def read4? (cs : List Char) : Option (SocketAddress × List Char) := do
  let (octets, cs) ← readOctets? cs
  let (port, cs) ← readPort? cs
  return (.v4 octets port, cs)

/-- An IPv6 address with a port. -/
def read6? (cs : List Char) : Option (SocketAddress × List Char) := do
  let (groups, cs) ← readAddress6? (← after? '[' cs)
  let (zone, cs) := readZone cs
  let (port, cs) ← readPort? (← after? ']' cs)
  return (.v6 groups zone port, cs)

/-- The address of a text. -/
def parse? (s : String) : Option SocketAddress :=
  match (read4? s.toList).or (read6? s.toList) with
  | some (a, []) => some a
  | _ => none

/-! ### Canonical text -/

/-- Octets with points between them. -/
def octetsText (octets : List Nat) : String := ".".intercalate (octets.map toString)

/-- Groups with colons between them. -/
def groupsText (groups : List Nat) : String :=
  ":".intercalate (groups.map fun g => String.ofList (Text.hexDigits g))

/-- The length of the run of zeros at the start. -/
def zeroRun (groups : List Nat) : Nat := (groups.takeWhile (· = 0)).length

/-- The start and length of the first of the longest runs of zeros. -/
def longestZeroRun (groups : List Nat) : Nat × Nat :=
  (List.range groups.length).foldl
    (fun best i => if best.2 < zeroRun (groups.drop i) then (i, zeroRun (groups.drop i)) else best)
    (0, 0)

/-- An IPv6 address. One that stands for an IPv4 address ends in octets. -/
def address6Text (groups : List Nat) : String :=
  match groups with
  | [0, 0, 0, 0, 0, 0xffff, a, b] =>
    "::ffff:" ++ octetsText [a / 256, a % 256, b / 256, b % 256]
  | _ =>
    let (start, length) := longestZeroRun groups
    if 1 < length then
      groupsText (groups.take start) ++ "::" ++ groupsText (groups.drop (start + length))
    else groupsText groups

/-- The canonical text of an address. -/
def display : SocketAddress → String
  | .v4 octets port => octetsText octets ++ ":" ++ toString port
  | .v6 groups zone port =>
    "[" ++ address6Text groups ++ (if zone = 0 then "" else "%" ++ toString zone) ++ "]:" ++
      toString port

end SocketAddress
end TicketSync
