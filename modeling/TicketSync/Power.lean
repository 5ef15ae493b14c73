/-! Powers of two and of ten: the bounds of numbers of so many bits or digits. -/
namespace TicketSync

/-- The `n`-th power of two. -/
abbrev twoTo (n : Nat) : Nat := Nat.pow 2 n

/-- The `n`-th power of ten. -/
abbrev tenTo (n : Nat) : Nat := Nat.pow 10 n

end TicketSync
