import TicketSync.Yaml.Event

/-!
The value of a YAML document as a tree. Aliases are replaced by what they stand for, within limits
on depth and number; where a limit is passed or the document is cut off by a fault, the tree has an
unreadable node.
-/
namespace TicketSync.Yaml

/-- A node of a document. -/
inductive Node where
  | scalar (tag : Option String) (text : String) (plain : Bool)
  | sequence (tag : Option String) (items : List Node)
  | mapping (tag : Option String) (entries : List (Node × Node))
  | absent
  | unreadable
  deriving Inhabited

/-- An event with the number of its alias, where it is one. -/
inductive Mark where
  | alias (number : Nat)
  | scalar (tag : Option String) (text : String) (plain : Bool)
  | openSequence (tag : Option String)
  | openMapping (tag : Option String)
  | close

/-- The anchor of an event. -/
def Event.anchor : Event → Option String
  | .scalar p _ _ | .openSequence p | .openMapping p => p.anchor
  | _ => none

/-- The names of anchors with their numbers. A name that is given again gets a new number, which a
later name may get as well. -/
abbrev Numbering := List (String × Nat)

/-- The numbering after a name has been given: its number is how many names there were. -/
def Numbering.add (n : Numbering) (name : String) : Numbering :=
  (name, n.length) :: n.filter (·.1 ≠ name)

/-- The number of a name. -/
def Numbering.find? (n : Numbering) (name : String) : Option Nat :=
  (List.find? (·.1 = name) n).map (·.2)

/-- The events up to the first alias of an unknown name, with the numbers of the others, and where
each number stands: at the event that was given it last. -/
def marks (names : Numbering) (position : Nat) : List Event → List Mark × List (Nat × Nat) × Bool
  | [] => ([], [], true)
  | e :: rest =>
    let (names, place) := match e.anchor with
      | some a => (names.add a, [(names.length, position)])
      | none => (names, [])
    let go (m : Mark) : List Mark × List (Nat × Nat) × Bool :=
      let (ms, places, known) := marks names (position + 1) rest
      (m :: ms, place ++ places, known)
    match e with
    | .alias name =>
      match names.find? name with
      | some n => go (.alias n)
      | none => ([], [], false)
    | .scalar p text plain => go (.scalar p.tag text plain)
    | .openSequence p => go (.openSequence p.tag)
    | .openMapping p => go (.openMapping p.tag)
    | .close => go .close

/-- The marks of a document and the place of each number. -/
structure Plan where
  marks : Array Mark
  places : List (Nat × Nat)

/-- The last place of a number. -/
def Plan.place? (p : Plan) (n : Nat) : Option Nat :=
  (p.places.reverse.find? (·.1 = n)).map (·.2)

/-- The position after the collection that is open at a position inside `depth` more of them. -/
def Plan.skip (p : Plan) : (fuel : Nat) → (depth : Nat) → (position : Nat) → Nat
  | 0, _, i => i
  | fuel + 1, depth, i =>
    match p.marks[i]? with
    | none => i
    | some .close => if depth = 0 then i + 1 else p.skip fuel (depth - 1) (i + 1)
    | some (.openSequence _) | some (.openMapping _) => p.skip fuel (depth + 1) (i + 1)
    | some _ => p.skip fuel depth (i + 1)

mutual
/-- The node at a position inside at most `depth` more collections, the position after it, and how
many more aliases may be replaced. -/
def Plan.node (p : Plan) : (fuel : Nat) → (depth jumps position : Nat) → Node × Nat × Nat
  | 0, _, jumps, i => (.unreadable, i, jumps)
  | fuel + 1, depth, jumps, i =>
    match p.marks[i]? with
    | none | some .close => (.unreadable, i, jumps)
    | some (.scalar tag text plain) => (.scalar tag text plain, i + 1, jumps)
    | some (.alias n) =>
      match jumps, p.place? n with
      | jumps + 1, some place =>
        let (node, _, jumps) := p.node fuel depth jumps place
        (node, i + 1, jumps)
      | jumps, _ => (.unreadable, i + 1, jumps)
    | some (.openSequence tag) =>
      match depth with
      | 0 => (.unreadable, p.skip p.marks.size 0 (i + 1), jumps)
      | depth + 1 =>
        let (items, next, jumps) := p.items fuel depth jumps (i + 1)
        (.sequence tag items, next, jumps)
    | some (.openMapping tag) =>
      match depth with
      | 0 => (.unreadable, p.skip p.marks.size 0 (i + 1), jumps)
      | depth + 1 =>
        let (entries, next, jumps) := p.entries fuel depth jumps (i + 1)
        (.mapping tag entries, next, jumps)

/-- The items of a sequence from a position on. One that is cut off ends unreadably. -/
def Plan.items (p : Plan) : (fuel : Nat) → (depth jumps position : Nat) → List Node × Nat × Nat
  | 0, _, jumps, i => ([.unreadable], i, jumps)
  | fuel + 1, depth, jumps, i =>
    match p.marks[i]? with
    | none => ([.unreadable], i, jumps)
    | some .close => ([], i + 1, jumps)
    | some _ =>
      let (node, next, jumps) := p.node fuel depth jumps i
      let (rest, next, jumps) := p.items fuel depth jumps next
      (node :: rest, next, jumps)

/-- The entries of a mapping from a position on. One that is cut off ends unreadably. -/
def Plan.entries (p : Plan) : (fuel : Nat) → (depth jumps position : Nat) →
    List (Node × Node) × Nat × Nat
  | 0, _, jumps, i => ([(.unreadable, .unreadable)], i, jumps)
  | fuel + 1, depth, jumps, i =>
    match p.marks[i]? with
    | none => ([(.unreadable, .unreadable)], i, jumps)
    | some .close => ([], i + 1, jumps)
    | some _ =>
      let (key, next, jumps) := p.node fuel depth jumps i
      let (value, next, jumps) := p.node fuel depth jumps next
      let (rest, next, jumps) := p.entries fuel depth jumps next
      ((key, value) :: rest, next, jumps)
end

/-- The most collections inside each other. -/
def maxDepth : Nat := 128

/-- A document: its value, and whether the stream is sound and holds nothing else. -/
structure Document where
  root : Node
  sound : Bool

/-- The document of these events. Every alias may be replaced as often as there are a hundred times
as many events. -/
def Document.ofEvents (events : List Event) (sound : Bool) : Document :=
  let (ms, places, known) := Yaml.marks [] 0 events
  let jumps := 100 * ms.length
  let fuel := (jumps + 1) * (2 * ms.length + 2)
  let (root, _, _) := Plan.node ⟨ms.toArray, places⟩ fuel maxDepth jumps 0
  ⟨root, sound && known⟩

/-- The first document of a text. -/
def Document.parse (text : String) : Document :=
  match Stream.ofTokens (scan text.toList).toList with
  | .empty => ⟨.absent, true⟩
  | .document events sound => .ofEvents events sound

end TicketSync.Yaml
