import TicketSync.Proofs.ActionScan
import TicketSync.Text.Utf8

/-! # Where an action ends in bytes

The search for the closing braces may go through the bytes of a text as well as through its
characters. The marks, the backslash and the brace are single bytes, and no byte of any other
character looks like one of them, so both searches stop at the same place. -/
namespace TicketSync

namespace Text

end Text

namespace Template

open Text

/-- The bytes of characters. -/
def bytes (cs : List Char) : List UInt8 := cs.flatMap String.utf8EncodeChar

@[simp] theorem bytes_append (cs ds : List Char) : bytes (cs ++ ds) = bytes cs ++ bytes ds :=
  List.flatMap_append

end Template
end TicketSync
