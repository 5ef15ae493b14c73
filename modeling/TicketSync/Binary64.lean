import TicketSync.Power

/-!
Finite numbers of the binary64 format, as an integer times a power of two, with rounding, products
and quotients in exact integer arithmetic. `shortest` finds the decimal of fewest digits that reads
back as the number, and `toText` writes it.
-/
namespace TicketSync

/-- A finite binary64 number, of magnitude `significand * 2 ^ exponent`. The significand has 53
bits, or fewer at the least exponent, so a number has one representation. -/
structure Binary64 where
  negative : Bool
  significand : Nat
  exponent : Int
  significand_lt : significand < twoTo 53
  least_exponent : -1074 ≤ exponent
  greatest_exponent : exponent ≤ 971
  normal : twoTo 52 ≤ significand ∨ exponent = -1074
  deriving DecidableEq

namespace Binary64

/-- Zero with a sign. -/
def zero (negative : Bool) : Binary64 :=
  ⟨negative, 0, -1074, by decide, by decide, by decide, .inr rfl⟩

instance : Inhabited Binary64 := ⟨zero false⟩

/-- Whether a number is zero, of either sign. -/
def isZero (x : Binary64) : Bool := x.significand = 0

/-- Equality of values: the two zeros are equal. -/
def same (x y : Binary64) : Bool :=
  (x.isZero && y.isZero) ||
    (x.negative == y.negative && x.significand == y.significand && x.exponent == y.exponent)

/-- The number with these parts, or none when they break the format's bounds. -/
def ofParts? (negative : Bool) (m : Nat) (e : Int) : Option Binary64 :=
  if h : m < twoTo 53 ∧ -1074 ≤ e ∧ e ≤ 971 ∧ (twoTo 52 ≤ m ∨ e = -1074) then
    some ⟨negative, m, e, h.1, h.2.1, h.2.2.1, h.2.2.2⟩
  else none

/-- `num / den` over `2 ^ e` as a quotient of two naturals. -/
def scale (num den : Nat) (e : Int) : Nat × Nat :=
  if 0 ≤ e then (num, den * twoTo e.toNat) else (num * twoTo (-e).toNat, den)

/-- A quotient rounded to the nearest natural, a half to the even one. -/
def roundHalfEven (num den : Nat) : Nat :=
  let q := num / den
  let r := 2 * (num % den)
  if r < den then q else if den < r then q + 1 else q + q % 2

/-- The number nearest to `num / den`, ties to the even significand, or none when it is too large. -/
def ofRatio? (negative : Bool) (num den : Nat) : Option Binary64 :=
  if num = 0 then some (zero negative)
  else
    let low : Int := max (-1074) ((num.log2 : Int) - den.log2 - 53)
    let (n, d) := scale num den low
    let e := if n / d < twoTo 53 then low else low + 1
    let (n, d) := scale num den e
    let m := roundHalfEven n d
    if m = twoTo 53 then ofParts? negative (twoTo 52) (e + 1) else ofParts? negative m e

/-- The nearest number to a natural below the format's bound. -/
def ofNat? (n : Nat) : Option Binary64 := ofRatio? false n 1

/-- The magnitude as a quotient of two naturals. -/
def ratio (x : Binary64) : Nat × Nat :=
  if 0 ≤ x.exponent then (x.significand * twoTo x.exponent.toNat, 1)
  else (x.significand, twoTo (-x.exponent).toNat)

/-- The rounded product, or none when it is too large. -/
def mul? (x y : Binary64) : Option Binary64 :=
  let (a, b) := x.ratio
  let (c, d) := y.ratio
  ofRatio? (x.negative != y.negative) (a * c) (b * d)

/-- The rounded quotient by a number that is not zero, or none when it is too large. -/
def div? (x y : Binary64) : Option Binary64 :=
  let (a, b) := x.ratio
  let (c, d) := y.ratio
  ofRatio? (x.negative != y.negative) (a * d) (b * c)

/-- The number nearest to a power of ten, for exponents up to 308. -/
def powerOfTen? (k : Nat) : Option Binary64 :=
  if k ≤ 308 then ofNat? (tenTo k) else none

/-! ### The shortest decimal -/

/-- A natural times a power of ten. -/
structure Decimal where
  digits : Nat
  exponent : Int
  deriving DecidableEq, Repr

/-- Whether `a / b ≤ digits * 10 ^ exponent`. -/
def Decimal.above (x : Decimal) (a b : Nat) : Bool :=
  if 0 ≤ x.exponent then a ≤ x.digits * tenTo x.exponent.toNat * b
  else a * tenTo (-x.exponent).toNat ≤ x.digits * b

/-- Whether `digits * 10 ^ exponent ≤ a / b`. -/
def Decimal.below (x : Decimal) (a b : Nat) : Bool :=
  if 0 ≤ x.exponent then x.digits * tenTo x.exponent.toNat * b ≤ a
  else x.digits * b ≤ a * tenTo (-x.exponent).toNat

/-- The reals that round to a number, as the two ends over one denominator. The ends themselves
belong to it iff the significand is even. -/
structure Neighbourhood where
  low : Nat
  high : Nat
  den : Nat
  closed : Bool

/-- The neighbourhood of a magnitude. Below a power of two the next number is half as far away. -/
def neighbourhood (x : Binary64) : Neighbourhood :=
  let quarter : Nat × Nat :=
    if 0 ≤ x.exponent then (twoTo x.exponent.toNat, 4) else (1, 4 * twoTo (-x.exponent).toNat)
  let lower := if x.significand = twoTo 52 ∧ -1074 < x.exponent then 1 else 2
  ⟨(4 * x.significand - lower) * quarter.1, (4 * x.significand + 2) * quarter.1, quarter.2,
    x.significand % 2 = 0⟩

/-- Whether a decimal lies in a neighbourhood. -/
def Neighbourhood.holds (i : Neighbourhood) (x : Decimal) : Bool :=
  if i.closed then x.above i.low i.den && x.below i.high i.den
  else !(x.below i.low i.den) && !(x.above i.high i.den)

/-- The greatest `p` with `10 ^ p ≤ num / den`, for a positive quotient. -/
def order (num den : Nat) : Int :=
  let guess : Int := (((num.log2 : Int) - den.log2 - 1) * 30103) / 100000
  let fits (p : Int) : Bool := (Decimal.mk 1 p).below num den
  if fits (guess + 2) then guess + 2
  else if fits (guess + 1) then guess + 1
  else if fits guess then guess
  else guess - 1

/-- The two neighbours of `num / den` among the decimals with exponent `k`. -/
def onGrid (num den : Nat) (k : Int) : Decimal × Decimal :=
  let q := if 0 ≤ k then num / (den * tenTo k.toNat) else num * tenTo (-k).toNat / den
  (⟨q, k⟩, ⟨q + 1, k⟩)

/-- Whether the lower neighbour of `num / den` is the nearer one, or as near and even. -/
def lowerIsNearer (num den : Nat) (k : Int) (q : Nat) : Bool :=
  let (n, d) := if 0 ≤ k then (num, den * tenTo k.toNat) else (num * tenTo (-k).toNat, den)
  let twice := 2 * n
  let middle := (2 * q + 1) * d
  twice < middle || (twice = middle && q % 2 = 0)

/-- The first of the digit counts `count`, …, 17 at which a neighbour reads back as the number. -/
def shortestFrom (x : Binary64) (num den : Nat) (p : Int) : (fuel : Nat) → (count : Nat) → Decimal
  | 0, _ => ⟨0, 0⟩
  | fuel + 1, count =>
    let k := p - (count - 1 : Nat)
    let (lo, hi) := onGrid num den k
    let i := x.neighbourhood
    match i.holds lo, i.holds hi with
    | true, true => if lowerIsNearer num den k lo.digits then lo else hi
    | true, false => lo
    | false, true => hi
    | false, false => shortestFrom x num den p fuel (count + 1)

/-- Moves factors of ten from the digits to the exponent. -/
def Decimal.strip (x : Decimal) : (fuel : Nat) → Decimal
  | 0 => x
  | fuel + 1 =>
    if x.digits % 10 = 0 ∧ x.digits ≠ 0 then strip ⟨x.digits / 10, x.exponent + 1⟩ fuel else x

/-- The decimal of fewest digits that reads back as the magnitude, and of these the nearest. -/
def shortest (x : Binary64) : Decimal :=
  let (num, den) := x.ratio
  (shortestFrom x num den (order num den) 17 1).strip 20

/-- How numbers are written: positional notation for these decimal orders, else an exponent. -/
structure Style where
  leastOrder : Int
  greatestOrder : Int
  plusSign : Bool

/-- Orders -5 to 15 are positional and keep a digit after the point; an exponent has a sign. -/
def plain : Style := ⟨-5, 15, true⟩

/-- The text of a positive decimal. -/
def Style.write (style : Style) (x : Decimal) : List Char :=
  let ds := Nat.toDigits 10 x.digits
  let order : Int := x.exponent + (ds.length - 1 : Nat)
  if style.leastOrder ≤ order ∧ order ≤ style.greatestOrder then
    if 0 ≤ x.exponent then ds ++ List.replicate x.exponent.toNat '0' ++ ['.', '0']
    else if 0 ≤ order then
      let whole := (order + 1).toNat
      ds.take whole ++ '.' :: ds.drop whole
    else ['0', '.'] ++ List.replicate (-order - 1).toNat '0' ++ ds
  else
    let mantissa := match ds with
      | [] => []
      | [d] => [d]
      | d :: rest => d :: '.' :: rest
    let sign := if order < 0 then ['-'] else if style.plusSign then ['+'] else []
    mantissa ++ 'e' :: sign ++ Nat.toDigits 10 order.natAbs

/-- The text of a number. -/
def toText (x : Binary64) : List Char :=
  let body := if x.isZero then ['0', '.', '0'] else plain.write x.shortest
  if x.negative then '-' :: body else body

/-! ### Reading -/

/-- The number of a significand times a power of ten. The significand is rounded first and then
multiplied or divided by rounded powers of ten, as far as the power of ten goes at once. -/
def ofScaled (x : Binary64) (exponent : Int) : (fuel : Nat) → Option Binary64
  | 0 => some x
  | fuel + 1 =>
    match powerOfTen? exponent.natAbs with
    | some p => if 0 ≤ exponent then x.mul? p else x.div? p
    | none =>
      if x.isZero then some x
      else if 0 ≤ exponent then none
      else do
        let p ← powerOfTen? 308
        ofScaled (← x.div? p) (exponent + 308) fuel

/-- The number of `significand * 10 ^ exponent`, or none when it is too large. Five quotients by
the largest power of ten bring every significand below `2 ^ 64` to zero. -/
def ofDecimal? (negative : Bool) (significand : Nat) (exponent : Int) : Option Binary64 := do
  let x ← ofNat? significand
  let y ← ofScaled x exponent 5
  some { y with negative := negative }

end Binary64
end TicketSync
