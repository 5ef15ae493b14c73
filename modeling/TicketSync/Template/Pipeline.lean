import TicketSync.Template.Function
import TicketSync.Template.Token

/-!
Pipelines, the content of an action: commands separated by bars, where the value of each one is the
last argument of the next. `Pipeline.parse?` reads the tokens of an action; `Pipeline.flat` writes
a pipeline as tokens, and `Pipeline.WellFormed` says which pipelines have a reading over a registry.
-/
namespace TicketSync.Template

/-- A constant in an action. -/
inductive Literal where
  | text (s : String)
  | number (n : Int)
  | flag (b : Bool)
  deriving DecidableEq, Repr

/-- The value of a constant. -/
def Literal.value : Literal → Json
  | .text s => .str s
  | .number n => .int n
  | .flag b => .bool b

mutual
/-- An argument: a path into the context, a constant, or a pipeline in parentheses. -/
inductive Term where
  | field (path : List String)
  | literal (l : Literal)
  | sub (commands : List Command)

/-- A stage of a pipeline: a function with its arguments, or one term. -/
inductive Command where
  | call (function : String) (args : List Term)
  | term (t : Term)
end

/-- Commands, each of which passes its value on to the next. -/
abbrev Pipeline := List Command

/-- Why the tokens of an action are no pipeline. -/
inductive ParseFault where
  | scan (fault : ScanFault)
  | unexpected (t : Token)
  | notAFunctionStage
  | undefined (function : String)
  | missingValue
  | argumentToValue (found : Token)
  | bareFunction (function : String)
  | unclosedParen
  | unclosedAction
  deriving DecidableEq, Repr

/-- The message of a fault. -/
def ParseFault.message : ParseFault → String
  | .scan fault => fault.message
  | .unexpected t => "unexpected " ++ t.describe ++ " in action"
  | .notAFunctionStage => "non-function command in pipeline stage"
  | .undefined f => "function " ++ Text.quote f ++ " not defined"
  | .missingValue => "missing value for command"
  | .argumentToValue t => "can't give argument to non-function (found " ++ t.describe ++ ")"
  | .bareFunction f => "function " ++ Text.quote f ++ " used as argument; wrap it in parentheses"
  | .unclosedParen => "unclosed left paren"
  | .unclosedAction => "unclosed action"

/-- The constant that a name stands for. -/
def flag? : String → Option Bool
  | "true" => some true
  | "false" => some false
  | _ => none

/-- Whether a token ends a command. -/
def Token.endsCommand : Token → Bool
  | .pipe | .closeParen => true
  | _ => false

mutual
/-- A pipeline at the start of the tokens, and the rest. -/
def parsePipeline (fs : Functions) : (fuel : Nat) → List Token → Except ParseFault (Pipeline × List Token)
  | 0, _ => .error .missingValue
  | fuel + 1, ts => do
    let (c, ts) ← parseCommand fs fuel ts
    let (cs, ts) ← parseStages fs fuel ts
    return (c :: cs, ts)

/-- The stages of a pipeline after the first one. Each of them has to be a call. -/
def parseStages (fs : Functions) : (fuel : Nat) → List Token → Except ParseFault (Pipeline × List Token)
  | 0, _ => .error .missingValue
  | fuel + 1, .pipe :: ts => do
    let (c, ts) ← parseCommand fs fuel ts
    match c with
    | .term _ => .error .notAFunctionStage
    | .call f args =>
      let (cs, ts) ← parseStages fs fuel ts
      return (.call f args :: cs, ts)
  | _ + 1, ts => .ok ([], ts)

/-- One command, and the rest. -/
def parseCommand (fs : Functions) : (fuel : Nat) → List Token → Except ParseFault (Command × List Token)
  | 0, _ => .error .missingValue
  | fuel + 1, ts =>
    match ts with
    | .name f :: rest =>
      match flag? f with
      | some _ => parseValue fs fuel ts
      | none =>
        if fs.contains f then do
          let (args, ts) ← parseTerms fs fuel rest
          return (.call f args, ts)
        else .error (.undefined f)
    | ts => parseValue fs fuel ts

/-- A command that is a term, with nothing but the end of the command behind it. -/
def parseValue (fs : Functions) : (fuel : Nat) → List Token → Except ParseFault (Command × List Token)
  | 0, _ => .error .missingValue
  | fuel + 1, ts => do
    match ← parseTerm fs fuel ts with
    | (none, _) => .error .missingValue
    | (some t, []) => return (.term t, [])
    | (some t, next :: ts) =>
      if next.endsCommand then return (.term t, next :: ts) else .error (.argumentToValue next)

/-- The terms up to the end of a command. -/
def parseTerms (fs : Functions) : (fuel : Nat) → List Token → Except ParseFault (List Term × List Token)
  | 0, _ => .error .missingValue
  | fuel + 1, ts => do
    match ← parseTerm fs fuel ts with
    | (none, ts) => return ([], ts)
    | (some t, ts) =>
      let (args, ts) ← parseTerms fs fuel ts
      return (t :: args, ts)

/-- One term, or none at the end of a command. -/
def parseTerm (fs : Functions) : (fuel : Nat) → List Token → Except ParseFault (Option Term × List Token)
  | 0, _ => .error .missingValue
  | fuel + 1, ts =>
    match ts with
    | [] => .ok (none, [])
    | .pipe :: _ | .closeParen :: _ => .ok (none, ts)
    | .field path :: rest => .ok (some (.field path), rest)
    | .text s :: rest => .ok (some (.literal (.text s)), rest)
    | .number n :: rest => .ok (some (.literal (.number n)), rest)
    | .name f :: rest =>
      match flag? f with
      | some b => .ok (some (.literal (.flag b)), rest)
      | none => .error (.bareFunction f)
    | .openParen :: rest => do
      match ← parsePipeline fs fuel rest with
      | (p, .closeParen :: ts) => return (some (.sub p), ts)
      | _ => .error .unclosedParen
end

/-- Steps enough for every parse of `n` tokens: no more than six calls between two tokens. -/
def parseFuel (n : Nat) : Nat := 6 * (n + 1)

/-- The pipeline of these tokens. -/
def Pipeline.parse? (fs : Functions) (ts : List Token) : Except ParseFault Pipeline := do
  match ← parsePipeline fs (parseFuel ts.length) ts with
  | (p, []) => return p
  | (_, t :: _) => .error (.unexpected t)

/-- The pipeline of the text of an action. -/
def Pipeline.read? (fs : Functions) (cs : List Char) : Except ParseFault Pipeline := do
  match scan cs with
  | .error fault => .error (.scan fault)
  | .ok ts => Pipeline.parse? fs ts

/-! ### Spelling -/

/-- The token of a constant. -/
def Literal.token : Literal → Token
  | .text s => .text s
  | .number n => .number n
  | .flag true => .name "true"
  | .flag false => .name "false"

mutual
/-- The tokens of a term. -/
def Term.flat : Term → List Token
  | .field path => [.field path]
  | .literal l => [l.token]
  | .sub p => .openParen :: Pipeline.flat p ++ [.closeParen]

/-- The tokens of terms one after the other. -/
def Term.flatAll : List Term → List Token
  | [] => []
  | t :: ts => t.flat ++ Term.flatAll ts

/-- The tokens of a command. -/
def Command.flat : Command → List Token
  | .call f args => .name f :: Term.flatAll args
  | .term t => t.flat

/-- The tokens of commands with bars between them. -/
def Pipeline.flat : List Command → List Token
  | [] => []
  | c :: cs => c.flat ++ Pipeline.flatStages cs

/-- The tokens of commands, each after a bar. -/
def Pipeline.flatStages : List Command → List Token
  | [] => []
  | c :: cs => .pipe :: c.flat ++ Pipeline.flatStages cs
end

/-- A name that can be called: in the registry, and no constant. -/
def Callable (fs : Functions) (f : String) : Prop :=
  fs.contains f = true ∧ flag? f = none

mutual
/-- A term whose calls are all of functions, and whose pipelines have calls after the first stage. -/
def Term.WellFormed (fs : Functions) : Term → Prop
  | .field _ => True
  | .literal _ => True
  | .sub p => Pipeline.WellFormed fs p

/-- Terms that are all well formed. -/
def Term.AllWellFormed (fs : Functions) : List Term → Prop
  | [] => True
  | t :: ts => t.WellFormed fs ∧ Term.AllWellFormed fs ts

/-- A command that is well formed. -/
def Command.WellFormed (fs : Functions) : Command → Prop
  | .call f args => Callable fs f ∧ Term.AllWellFormed fs args
  | .term t => t.WellFormed fs

/-- A pipeline of at least one command in which every command after the first is a call. -/
def Pipeline.WellFormed (fs : Functions) : List Command → Prop
  | [] => False
  | c :: cs => c.WellFormed fs ∧ Pipeline.StagesWellFormed fs cs

/-- Stages that are all calls and well formed. -/
def Pipeline.StagesWellFormed (fs : Functions) : List Command → Prop
  | [] => True
  | .call f args :: cs =>
    Callable fs f ∧ Term.AllWellFormed fs args ∧ Pipeline.StagesWellFormed fs cs
  | .term _ :: _ => False
end

end TicketSync.Template
