import TicketSync.Template.Evaluation

/-!
Templates: text with actions between double braces. A closing pair inside a quoted text or a text
between backquotes does not end an action. An expression is a single action, for which the braces
may be left out.
-/
namespace TicketSync

/-- A piece of a template. -/
inductive Template.Part where
  | text (s : String)
  | action (p : Template.Pipeline)

/-- A parsed template. -/
structure Template where
  parts : List Template.Part

namespace Template

/-- The text before the first two opening braces, and what follows them if there are any. -/
def beforeAction : List Char → List Char × Option (List Char)
  | [] => ([], none)
  | '\x7b' :: '\x7b' :: rest => ([], some rest)
  | c :: rest => let (t, after) := beforeAction rest; (c :: t, after)

/-- The text of an action after its opening braces, and what follows its closing ones. `mark` is
the quotation mark of the text that is open, if one is. -/
def splitAction (mark : Option Char) : List Char → Option (List Char × List Char)
  | [] => none
  | c :: rest =>
    match mark with
    | some m =>
      if c = '\\' ∧ m = '"' then
        match rest with
        | [] => none
        | d :: rest => (splitAction mark rest).map fun (a, r) => (c :: d :: a, r)
      else
        (splitAction (if c = m then none else mark) rest).map fun (a, r) => (c :: a, r)
    | none =>
      if c = '"' ∨ c = '`' then (splitAction (some c) rest).map fun (a, r) => (c :: a, r)
      else
        match c, rest with
        | '\x7d', '\x7d' :: rest => some ([], rest)
        | _, rest => (splitAction none rest).map fun (a, r) => (c :: a, r)

/-- A text piece, left out when it is empty. -/
def textPart (t : List Char) : List Part :=
  if t.isEmpty then [] else [.text (String.ofList t)]

/-- The pieces of a text, by at most `fuel` actions. -/
def readParts (fs : Functions) : (fuel : Nat) → List Char → Except ParseFault (List Part)
  | 0, cs => .ok (textPart cs)
  | fuel + 1, cs =>
    match beforeAction cs with
    | (t, none) => .ok (textPart t)
    | (t, some after) =>
      match splitAction none after with
      | none => .error .unclosedAction
      | some (a, rest) => do
        let p ← Pipeline.read? fs a
        let parts ← readParts fs fuel rest
        return textPart t ++ .action p :: parts

/-- The template of a text. -/
def parse? (fs : Functions) (src : String) : Except ParseFault Template := do
  return ⟨← readParts fs src.length src.toList⟩

/-- The text of the pieces in a context. -/
def renderParts (fs : Functions) (context : Json) : List Part → Except EvalFault String
  | [] => .ok ""
  | .text s :: rest => do
    let r ← renderParts fs context rest
    return s ++ r
  | .action p :: rest => do
    let v ← p.eval fs context
    let r ← renderParts fs context rest
    return render v ++ r

/-- The text of a template in a context. -/
def renderIn (t : Template) (fs : Functions) (context : Json) : Except EvalFault String :=
  renderParts fs context t.parts

/-- The text between the braces of an expression, or all of it when it has none. -/
def stripBraces (cs : List Char) : List Char :=
  match cs with
  | '\x7b' :: '\x7b' :: rest =>
    match rest.reverse with
    | '\x7d' :: '\x7d' :: inner => inner.reverse
    | _ => cs
  | _ => cs

/-- The pipeline of an expression, with or without braces around it. -/
def readExpression? (fs : Functions) (src : String) : Except ParseFault Pipeline :=
  Pipeline.read? fs (stripBraces (Text.trimChars src.toList))

/-- Why a template or an expression has no value. -/
inductive Fault where
  | parse (fault : ParseFault)
  | eval (fault : EvalFault)
  deriving DecidableEq, Repr

/-- The message of a fault. -/
def Fault.message : Fault → String
  | .parse fault => fault.message
  | .eval fault => fault.message

/-- The text of a source as a template. All of it is parsed before any of it is rendered. -/
def renderSource (fs : Functions) (context : Json) (src : String) : Except Fault String :=
  match parse? fs src with
  | .error fault => .error (.parse fault)
  | .ok t => (t.renderIn fs context).mapError .eval

/-- The value of a source as an expression. -/
def evalSource (fs : Functions) (context : Json) (src : String) : Except Fault Json :=
  match readExpression? fs src with
  | .error fault => .error (.parse fault)
  | .ok p => (p.eval fs context).mapError .eval

end Template
end TicketSync
