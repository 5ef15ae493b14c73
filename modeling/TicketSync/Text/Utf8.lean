import TicketSync.Power

/-!
Texts as bytes in UTF-8. Bytes are read one sequence at a time: a sequence that is no character is
cut where it stops being the beginning of one, and each such piece counts as one fault.
-/
namespace TicketSync.Text

/-- How many bytes follow the first byte of a sequence, and between which bounds the second byte
lies. -/
def utf8Lead (b : Nat) : Option (Nat × Nat × Nat) :=
  if 0xC2 ≤ b && b ≤ 0xDF then some (1, 0x80, 0xBF)
  else if b = 0xE0 then some (2, 0xA0, 0xBF)
  else if b = 0xED then some (2, 0x80, 0x9F)
  else if 0xE1 ≤ b && b ≤ 0xEF then some (2, 0x80, 0xBF)
  else if b = 0xF0 then some (3, 0x90, 0xBF)
  else if b = 0xF4 then some (3, 0x80, 0x8F)
  else if 0xF1 ≤ b && b ≤ 0xF3 then some (3, 0x80, 0xBF)
  else none

/-- The bits of the first byte of a sequence that belong to the character. -/
def utf8LeadBits (follow b : Nat) : Nat :=
  b % twoTo (6 - follow)

/-- Reads the bytes that follow in a sequence: the code point, if all are there, and the rest. -/
def utf8Follow : Nat → Nat → Nat → Nat → List UInt8 → Option Nat × List UInt8
  | 0, _, _, code, bytes => (some code, bytes)
  | _ + 1, _, _, _, [] => (none, [])
  | n + 1, low, high, code, b :: rest =>
    if low ≤ b.toNat && b.toNat ≤ high then
      utf8Follow n 0x80 0xBF (code * 64 + b.toNat % 64) rest
    else (none, b :: rest)

theorem utf8Follow_length_le (n low high code : Nat) (bytes : List UInt8) :
    (utf8Follow n low high code bytes).2.length ≤ bytes.length := by
  induction n generalizing low high code bytes with
  | zero => simp [utf8Follow]
  | succ n ih =>
    cases bytes with
    | nil => simp [utf8Follow]
    | cons b rest =>
      simp only [utf8Follow]
      split
      · exact Nat.le_trans (ih ..) (Nat.le_succ _)
      · exact Nat.le_refl _

/-- The characters of bytes, with `none` for each piece that is no character. -/
def utf8Pieces : List UInt8 → List (Option Char)
  | [] => []
  | b :: rest =>
    if b < 0x80 then some (Char.ofNat b.toNat) :: utf8Pieces rest
    else
      match utf8Lead b.toNat with
      | none => none :: utf8Pieces rest
      | some (n, low, high) =>
        let read := utf8Follow n low high (utf8LeadBits n b.toNat) rest
        read.1.map Char.ofNat :: utf8Pieces read.2
termination_by bytes => bytes.length
decreasing_by
  · exact Nat.lt_succ_self _
  · exact Nat.lt_succ_self _
  · exact Nat.lt_succ_of_le (utf8Follow_length_le ..)

/-- The text of bytes, if they are one. -/
def ofUtf8? (bytes : List UInt8) : Option String :=
  ((utf8Pieces bytes).mapM id).map String.ofList

/-- The text of bytes with the replacement character for each fault. -/
def ofUtf8 (bytes : List UInt8) : String :=
  String.ofList ((utf8Pieces bytes).map (·.getD '\uFFFD'))

/-- The bytes of a text. -/
def utf8 (s : String) : List UInt8 :=
  s.toUTF8.toList

end TicketSync.Text
