import TicketSync.Text.Blank

/-! Tables of texts in columns. A column is as wide as the longest of its cells in bytes, and cells
are filled up by characters; blanks at the end of a line are dropped. -/
namespace TicketSync.CommandLine

/-- A cell filled up with spaces to a number of characters. -/
def pad (width : Nat) (cell : String) : String :=
  cell ++ String.ofList (List.replicate (width - cell.length) ' ')

/-- The text without the blanks at its end. -/
def trimEnd (s : String) : String :=
  String.ofList (s.toList.reverse.dropWhile Text.isBlank).reverse

/-- The widths of columns after one more row. -/
def widen : List Nat → List String → List Nat
  | w :: widths, cell :: cells => max w cell.utf8ByteSize :: widen widths cells
  | widths, [] => widths
  | [], _ => []

/-- The widths of the columns of a table. -/
def columnWidths (headers : List String) (rows : List (List String)) : List Nat :=
  rows.foldl widen (headers.map (·.utf8ByteSize))

/-- A row as a line. -/
def tableLine (widths : List Nat) (cells : List String) : String :=
  trimEnd ("  ".intercalate ((widths.zip cells).map fun x => pad x.1 x.2)) ++ "\n"

/-- A table: the headers, a line of dashes, and the rows. -/
def table (headers : List String) (rows : List (List String)) : String :=
  let widths := columnWidths headers rows
  let dashes := widths.map fun w => String.ofList (List.replicate w '-')
  String.join ((headers :: dashes :: rows).map (tableLine widths))

end TicketSync.CommandLine
