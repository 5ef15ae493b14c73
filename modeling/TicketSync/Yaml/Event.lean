import TicketSync.Yaml.Token

/-!
The events of the first document in a stream of tokens: its scalars and aliases, and where its
collections start and end. `Stream` also says whether the document is followed by nothing else.
-/
namespace TicketSync.Yaml

/-- What precedes the content of a node. -/
structure Properties where
  anchor : Option String := none
  tag : Option String := none
  deriving DecidableEq, Repr, Inhabited

/-- An event of a document. -/
inductive Event where
  | alias (name : String)
  | scalar (p : Properties) (text : String) (plain : Bool)
  | openSequence (p : Properties)
  | openMapping (p : Properties)
  | close
  deriving DecidableEq, Repr, Inhabited

/-- What a document has to go on with. -/
inductive Goal where
  | node (block indentless : Bool)
  | document
  | blockEntry
  | indentlessEntry
  | blockKey
  | blockValue
  | flowEntry (first : Bool)
  | pairKey
  | pairValue
  | pairEnd
  | flowKey (first : Bool)
  | flowValue
  | flowNoValue
  deriving DecidableEq, Repr

/-- How the events of the first document end. -/
inductive Ending where
  | fault
  | document (rest : List Token)
  deriving Inhabited

/-- The start that a tag's handle stands for. -/
def tagStart? (starts : List (String × String)) (handle : String) : Option String :=
  (starts.find? (·.1 = handle)).map (·.2)

/-- The full tag of a handle and a suffix. -/
def fullTag? (starts : List (String × String)) (handle suffix : String) : Option String :=
  if handle.isEmpty then some suffix else (tagStart? starts handle).map (· ++ suffix)

/-- The anchor and the tag before a node, in either order, each at most once. -/
def readProperties (starts : List (String × String)) : List Token →
    Option (Properties × List Token)
  | .anchor a :: .tag h s :: ts => do return (⟨some a, some (← fullTag? starts h s)⟩, ts)
  | .anchor a :: ts => some (⟨some a, none⟩, ts)
  | .tag h s :: .anchor a :: ts => do return (⟨some a, some (← fullTag? starts h s)⟩, ts)
  | .tag h s :: ts => do return (⟨none, some (← fullTag? starts h s)⟩, ts)
  | ts => some ({}, ts)

/-- The scalar of a node without content. -/
def emptyScalar : Event := .scalar {} "" true

/-- A token of a document that no longer belongs to its content. -/
def endsDocument : Token → Bool
  | .version .. | .tagPrefix .. | .documentStart | .documentEnd | .streamEnd => true
  | _ => false

/-- A token that ends a key or a value of a block. -/
def endsBlockNode : Token → Bool
  | .key | .value | .blockEnd => true
  | _ => false

/-- The events for a node: its first event, the goals for the rest of it, and the tokens left. -/
def startNode (starts : List (String × String)) (block indentless : Bool) (ts : List Token) :
    Option (Event × List Goal × List Token) :=
  match ts with
  | .alias name :: ts => some (.alias name, [], ts)
  | ts =>
    match readProperties starts ts with
    | none => none
    | some (p, ts) =>
      match ts with
      | .scalar text plain :: ts => some (.scalar p text plain, [], ts)
      | .openSequence :: ts => some (.openSequence p, [.flowEntry true], ts)
      | .openMapping :: ts => some (.openMapping p, [.flowKey true], ts)
      | .entry :: rest =>
        if indentless then some (.openSequence p, [.indentlessEntry], .entry :: rest)
        else if p.anchor.isSome || p.tag.isSome then some (.scalar p "" true, [], .entry :: rest)
        else none
      | .blockSequence :: rest =>
        if block then some (.openSequence p, [.blockEntry], rest)
        else if p.anchor.isSome || p.tag.isSome then
          some (.scalar p "" true, [], .blockSequence :: rest)
        else none
      | .blockMapping :: rest =>
        if block then some (.openMapping p, [.blockKey], rest)
        else if p.anchor.isSome || p.tag.isSome then
          some (.scalar p "" true, [], .blockMapping :: rest)
        else none
      | [] => none
      | ts => if p.anchor.isSome || p.tag.isSome then some (.scalar p "" true, [], ts) else none

/-- One step towards a goal: the events, the goals in its place, and the tokens left. -/
def advance (starts : List (String × String)) (goal : Goal) (ts : List Token) :
    Option (List Event × List Goal × List Token) :=
  match goal, ts with
  | _, [] => none
  | .node block indentless, ts =>
    (startNode starts block indentless ts).map fun (e, goals, ts) => ([e], goals, ts)
  | .document, t :: rest =>
    if endsDocument t then some ([emptyScalar], [], t :: rest)
    else some ([], [.node true false], t :: rest)
  | .blockEntry, .entry :: t :: rest =>
    if t = .entry || t = .blockEnd then some ([emptyScalar], [.blockEntry], t :: rest)
    else some ([], [.node true false, .blockEntry], t :: rest)
  | .blockEntry, .blockEnd :: rest => some ([.close], [], rest)
  | .blockEntry, _ => none
  | .indentlessEntry, .entry :: t :: rest =>
    if t = .entry || endsBlockNode t then some ([emptyScalar], [.indentlessEntry], t :: rest)
    else some ([], [.node true false, .indentlessEntry], t :: rest)
  | .indentlessEntry, [.entry] => none
  | .indentlessEntry, ts => some ([.close], [], ts)
  | .blockKey, .key :: t :: rest =>
    if endsBlockNode t then some ([emptyScalar], [.blockValue], t :: rest)
    else some ([], [.node true true, .blockValue], t :: rest)
  | .blockKey, .blockEnd :: rest => some ([.close], [], rest)
  | .blockKey, _ => none
  | .blockValue, .value :: t :: rest =>
    if endsBlockNode t then some ([emptyScalar], [.blockKey], t :: rest)
    else some ([], [.node true true, .blockKey], t :: rest)
  | .blockValue, [.value] => none
  | .blockValue, ts => some ([emptyScalar], [.blockKey], ts)
  | .flowEntry _, .closeSequence :: rest => some ([.close], [], rest)
  | .flowEntry first, ts =>
    match (if first then some ts else match ts with | .comma :: ts => some ts | _ => none) with
    | some (.key :: rest) => some ([.openMapping {}], [.pairKey, .flowEntry false], rest)
    | some (.closeSequence :: rest) => some ([.close], [], rest)
    | some (t :: rest) => some ([], [.node false false, .flowEntry false], t :: rest)
    | _ => none
  | .pairKey, t :: rest =>
    if t = .value || t = .comma || t = .closeSequence then some ([emptyScalar], [.pairValue], rest)
    else some ([], [.node false false, .pairValue], t :: rest)
  | .pairValue, .value :: t :: rest =>
    if t = .comma || t = .closeSequence then some ([emptyScalar], [.pairEnd], t :: rest)
    else some ([], [.node false false, .pairEnd], t :: rest)
  | .pairValue, [.value] => none
  | .pairValue, ts => some ([emptyScalar], [.pairEnd], ts)
  | .pairEnd, ts => some ([.close], [], ts)
  | .flowKey _, .closeMapping :: rest => some ([.close], [], rest)
  | .flowKey first, ts =>
    match (if first then some ts else match ts with | .comma :: ts => some ts | _ => none) with
    | some (.key :: t :: rest) =>
      if t = .value || t = .comma || t = .closeMapping then
        some ([emptyScalar], [.flowValue], t :: rest)
      else some ([], [.node false false, .flowValue], t :: rest)
    | some [.key] => none
    | some (.closeMapping :: rest) => some ([.close], [], rest)
    | some (t :: rest) => some ([], [.node false false, .flowNoValue], t :: rest)
    | _ => none
  | .flowValue, .value :: t :: rest =>
    if t = .comma || t = .closeMapping then some ([emptyScalar], [.flowKey false], t :: rest)
    else some ([], [.node false false, .flowKey false], t :: rest)
  | .flowValue, [.value] => none
  | .flowValue, ts => some ([emptyScalar], [.flowKey false], ts)
  | .flowNoValue, ts => some ([emptyScalar], [.flowKey false], ts)

/-- The events from these goals on, and what comes after the document. -/
def eventsFrom (starts : List (String × String)) : (fuel : Nat) → List Goal → List Token →
    List Event × Ending
  | _, [], ts => ([], .document ts)
  | 0, _ :: _, _ => ([], .fault)
  | fuel + 1, goal :: goals, ts =>
    match advance starts goal ts with
    | none => ([], .fault)
    | some (events, next, ts) =>
      let (more, ending) := eventsFrom starts fuel (next ++ goals) ts
      (events ++ more, ending)

/-- The starts of the two handles that need no directive. -/
def standardStarts : List (String × String) := [("!", "!"), ("!!", "tag:yaml.org,2002:")]

/-- The directives before a document: whether a version was given, and the starts of handles. -/
def readDirectives : (version : Bool) → List (String × String) → List Token →
    Option (List (String × String) × List Token)
  | version, starts, .version major minor :: ts =>
    if version || major ≠ 1 || (minor ≠ 1 && minor ≠ 2) then none
    else readDirectives true starts ts
  | version, starts, .tagPrefix handle start :: ts =>
    if starts.any (·.1 = handle) then none
    else readDirectives version (starts ++ [(handle, start)]) ts
  | _, starts, ts => some (starts, ts)

/-- The first document of a stream. -/
inductive Stream where
  /-- The stream has no document. -/
  | empty
  /-- The events of a document, and whether the stream is sound and ends with it. -/
  | document (events : List Event) (sound : Bool)

/-- Whether nothing but the end of the stream comes after a document. -/
def endsStream : List Token → Bool
  | .documentEnd :: ts => endsStream ts
  | .streamEnd :: _ => true
  | _ => false

/-- The most steps between two tokens of a document. -/
def eventFuel (n : Nat) : Nat := 6 * (n + 1)

/-- The document that starts with these tokens. -/
def documentOf (starts : List (String × String)) (goal : Goal) (ts : List Token) : Stream :=
  match eventsFrom starts (eventFuel ts.length) [goal] ts with
  | (events, .fault) => .document events false
  | (events, .document rest) => .document events (endsStream rest)

/-- The first document of these tokens. -/
def Stream.ofTokens : List Token → Stream
  | [] => .document [] false
  | .streamEnd :: _ => .empty
  | t :: ts =>
    match t with
    | .version .. | .tagPrefix .. | .documentStart =>
      match readDirectives false [] (t :: ts) with
      | some (starts, .documentStart :: rest) => documentOf (starts ++ standardStarts) .document rest
      | _ => .document [] false
    | t => documentOf standardStarts (.node true false) (t :: ts)

end TicketSync.Yaml
