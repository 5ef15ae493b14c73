import TicketSync.Text.Quoted
import TicketSync.Text.Utf8

/-!
Bytes written as a percent sign with two hexadecimal digits. A percent sign without two digits
after it stands for itself.
-/
namespace TicketSync.Text

/-- The value of a hexadecimal digit. -/
def hexValue? (b : UInt8) : Option UInt8 :=
  if 48 ≤ b && b ≤ 57 then some (b - 48)
  else if 65 ≤ b && b ≤ 70 then some (b - 55)
  else if 97 ≤ b && b ≤ 102 then some (b - 87)
  else none

/-- The bytes with every written one put in its place. -/
def percentDecode : List UInt8 → List UInt8
  | 37 :: a :: b :: rest =>
    match hexValue? a, hexValue? b with
    | some x, some y => (x * 16 + y) :: percentDecode rest
    | _, _ => 37 :: percentDecode (a :: b :: rest)
  | b :: rest => b :: percentDecode rest
  | [] => []

/-- A byte as a percent sign with two digits. -/
def percentByte (b : UInt8) : List Char :=
  '%' :: (hexDigits (b.toNat / 16) ++ hexDigits (b.toNat % 16)).map Char.toUpper

/-- A text with every byte of it written. -/
def percentEncode (s : String) : String :=
  String.ofList ((utf8 s).flatMap percentByte)

end TicketSync.Text
