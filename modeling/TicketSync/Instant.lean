import TicketSync.Power
import TicketSync.Text.Blank

/-!
Instants of UTC to the nanosecond, their RFC 3339 text, and a reader of dates with a time and an
offset that is generous with blanks and short numbers. Days are counted in the Gregorian calendar
without end in either direction; a leap second is a second with more than 10^9 nanoseconds.
-/
namespace TicketSync

/-- A day of the Gregorian calendar. -/
structure CalendarDay where
  year : Int
  month : Nat
  day : Nat
  deriving DecidableEq, Repr

/-- A point in time: seconds from the start of 1970, and nanoseconds of the last one. -/
structure Instant where
  seconds : Int
  nanos : Nat
  deriving DecidableEq, Repr, Inhabited

/-! ### The calendar -/

/-- Whether a year has a 29th of February. -/
def isLeapYear (y : Int) : Bool :=
  y % 4 = 0 && (y % 100 ≠ 0 || y % 400 = 0)

/-- The number of days of a month. -/
def daysInMonth (y : Int) (m : Nat) : Nat :=
  if m = 2 then (if isLeapYear y then 29 else 28)
  else if m = 4 || m = 6 || m = 9 || m = 11 then 30
  else 31

/-- The days from the start of 1970 to a calendar day, by years that start in March. -/
def CalendarDay.number (c : CalendarDay) : Int :=
  let y := if c.month ≤ 2 then c.year - 1 else c.year
  let era := y / 400
  let ofEra := y % 400
  let ofYear : Int := (153 * ((c.month + 9) % 12) + 2) / 5 + c.day - 1
  era * 146097 + ofEra * 365 + ofEra / 4 - ofEra / 100 + ofYear - 719468

/-- The calendar day so many days after the start of 1970. -/
def CalendarDay.ofNumber (n : Int) : CalendarDay :=
  let z := n + 719468
  let era := z / 146097
  let ofEra := (z % 146097).toNat
  let y := (ofEra - ofEra / 1460 + ofEra / 36524 - ofEra / 146096) / 365
  let ofYear := ofEra - (365 * y + y / 4 - y / 100)
  let m := (5 * ofYear + 2) / 153
  let month := if m < 10 then m + 3 else m - 9
  let year := era * 400 + y
  ⟨if month ≤ 2 then year + 1 else year, month, ofYear - (153 * m + 2) / 5 + 1⟩

namespace Instant

/-- The greatest and least years of an instant. -/
def yearRange : Int × Int := (-262143, 262142)

/-- The seconds of a day. -/
def daySeconds : Int := 86400

/-- The instant of a day and a time of that day, `offset` seconds ahead of UTC. -/
def ofLocal? (c : CalendarDay) (hour minute second nanos : Nat) (offset : Int) : Option Instant :=
  let (least, greatest) := yearRange
  if c.year < least || greatest < c.year || c.month < 1 || 12 < c.month || c.day < 1 ||
      daysInMonth c.year c.month < c.day || 23 < hour || 59 < minute || 60 < second then none
  else
    let (second, nanos) := if second = 60 then (59, nanos + 1000000000) else (second, nanos)
    let seconds := c.number * daySeconds + hour * 3600 + minute * 60 + second - offset
    let year := (CalendarDay.ofNumber (seconds / daySeconds)).year
    if year < least || greatest < year then none else some ⟨seconds, nanos⟩

/-! ### Text -/

/-- A number with zeros before it up to a width. -/
def padded (width : Nat) (n : Nat) : String :=
  let s := toString n
  String.ofList (List.replicate (width - s.length) '0') ++ s

/-- A year in four digits, with a sign when these do not hold it. -/
def yearText (y : Int) : String :=
  if 0 ≤ y && y ≤ 9999 then padded 4 y.toNat
  else (if y < 0 then "-" else "+") ++ padded 4 y.natAbs

/-- The day of an instant. -/
def day (i : Instant) : CalendarDay := .ofNumber (i.seconds / daySeconds)

/-- The date, in the order year, month, day. -/
def dateText (i : Instant) : String :=
  yearText i.day.year ++ "-" ++ padded 2 i.day.month ++ "-" ++ padded 2 i.day.day

/-- The time of the day in hours, minutes and seconds. -/
def clockText (i : Instant) : String :=
  let s := (i.seconds % daySeconds).toNat
  let leap := if 1000000000 ≤ i.nanos then 1 else 0
  padded 2 (s / 3600) ++ ":" ++ padded 2 (s / 60 % 60) ++ ":" ++ padded 2 (s % 60 + leap)

/-- The fraction of a second in as few groups of three digits as hold it. -/
def fractionText (i : Instant) : String :=
  let n := i.nanos % 1000000000
  if n = 0 then ""
  else if n % 1000000 = 0 then "." ++ padded 3 (n / 1000000)
  else if n % 1000 = 0 then "." ++ padded 6 (n / 1000)
  else "." ++ padded 9 n

/-- The text of an instant. -/
def toText (i : Instant) : String :=
  i.dateText ++ "T" ++ i.clockText ++ i.fractionText ++ "Z"

/-! ### Reading -/

/-- The value of decimal digits. -/
def digitsValue (ds : List Char) : Nat :=
  ds.foldl (fun n c => n * 10 + (c.toNat - 48)) 0

/-- The text after its leading blanks. -/
def skipBlanks (cs : List Char) : List Char := cs.dropWhile Text.isBlank

/-- A number of at most `width` digits, after blanks. -/
def readNumber? (width : Nat) (cs : List Char) : Option (Nat × List Char) :=
  let cs := skipBlanks cs
  let ds := (cs.take width).takeWhile Char.isDigit
  if ds.isEmpty then none else some (digitsValue ds, cs.drop ds.length)

/-- A year: of at most four digits, or of any number of them after a sign. -/
def readYear? (cs : List Char) : Option (Int × List Char) :=
  let signed (rest : List Char) : Option (Nat × List Char) :=
    let ds := rest.takeWhile Char.isDigit
    if ds.isEmpty then none else some (digitsValue ds, rest.drop ds.length)
  match skipBlanks cs with
  | '-' :: rest => (signed rest).map fun (n, r) => (-(n : Int), r)
  | '+' :: rest => (signed rest).map fun (n, r) => ((n : Int), r)
  | rest => (readNumber? 4 rest).map fun (n, r) => ((n : Int), r)

/-- The rest after a mark with blanks before it. -/
def afterMark? (mark : Char) (cs : List Char) : Option (List Char) :=
  match skipBlanks cs with
  | c :: rest => if c = mark then some rest else none
  | [] => none

/-- The nanoseconds of a fraction, when there is one. Digits after the ninth are passed over. -/
def readFraction? : List Char → Option (Nat × List Char)
  | '.' :: rest =>
    let ds := (rest.take 9).takeWhile Char.isDigit
    if ds.isEmpty then none
    else some (digitsValue ds * tenTo (9 - ds.length), rest.dropWhile Char.isDigit)
  | cs => some (0, cs)

/-- Whether a text starts with UTC in letters of any case. -/
def startsWithUtc : List Char → Bool
  | a :: b :: c :: _ => a.toLower = 'u' && b.toLower = 't' && c.toLower = 'c'
  | _ => false

/-- The seconds by which a time is ahead of UTC. -/
def readOffset? (cs : List Char) : Option (Int × List Char) :=
  if startsWithUtc cs then some (0, cs.drop 3)
  else
    match cs with
    | c :: rest =>
      if c = 'Z' || c = 'z' then some (0, rest)
      else if c = '+' || c = '-' || c.toNat = 0x2212 then
        match rest with
        | h₁ :: h₂ :: rest =>
          if h₁.isDigit && h₂.isDigit then
            match rest.dropWhile fun c => c = ':' || Text.isBlank c with
            | m₁ :: m₂ :: rest =>
              if m₁.isDigit && m₁.toNat < 54 && m₂.isDigit then
                let n : Int := digitsValue [h₁, h₂] * 3600 + digitsValue [m₁, m₂] * 60
                if n < daySeconds then some (if c = '+' then n else -n, rest) else none
              else none
            | _ => none
          else none
        | _ => none
      else none
    | [] => none

/-- The mark between a date and a time. -/
def isTimeMark (c : Char) : Bool := c = 'T' || c = 't' || c = ' '

/-- The instant of a date, a time and an offset. -/
def parse? (s : String) : Option Instant := do
  let (year, cs) ← readYear? s.toList
  let (month, cs) ← readNumber? 2 (← afterMark? '-' cs)
  let (day, cs) ← readNumber? 2 (← afterMark? '-' cs)
  match cs with
  | [] => none
  | mark :: cs =>
    if isTimeMark mark then
      let (hour, cs) ← readNumber? 2 cs
      let (minute, cs) ← readNumber? 2 (← afterMark? ':' cs)
      let (second, cs) ← readNumber? 2 (← afterMark? ':' cs)
      let (nanos, cs) ← readFraction? cs
      let (offset, cs) ← readOffset? (skipBlanks cs)
      if (skipBlanks cs).isEmpty then ofLocal? ⟨year, month, day⟩ hour minute second nanos offset
      else none
    else none

/-- Whether one instant is earlier than another one. -/
def before (i j : Instant) : Bool :=
  i.seconds < j.seconds || (i.seconds = j.seconds && i.nanos < j.nanos)

end Instant
end TicketSync
