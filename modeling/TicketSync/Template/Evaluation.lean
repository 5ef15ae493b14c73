import TicketSync.Template.Pipeline

/-!
The value of a pipeline in a context. A path leads through maps; where it meets null or a missing
key the value is null, and on any other value it fails. A call takes its arguments in order, then
the value of the stage before it.
-/
namespace TicketSync.Template

/-- Why a pipeline has no value. -/
inductive EvalFault where
  | undefined (function : String)
  | fieldOf (name kind : String)
  | call (function : String) (fault : FunctionFault)
  deriving DecidableEq, Repr

/-- The message of a fault. -/
def EvalFault.message : EvalFault → String
  | .undefined f => "function " ++ Text.quote f ++ " not defined"
  | .fieldOf name kind => "can't evaluate field " ++ name ++ " in type " ++ kind
  | .call f fault => "error calling " ++ f ++ ": " ++ fault.message

/-- The value at the end of a path. -/
def lookUp : List String → Json → Except EvalFault Json
  | [], v => .ok v
  | name :: path, .obj fields =>
    match Dict.find name fields with
    | some v => lookUp path v
    | none => .ok .null
  | _ :: _, .null => .ok .null
  | name :: _, v => .error (.fieldOf name v.kind)

mutual
/-- The value of a term. -/
def evalTerm (fs : Functions) (context : Json) : Term → Except EvalFault Json
  | .field path => lookUp path context
  | .literal l => .ok l.value
  | .sub p => evalStages fs context p

/-- The values of terms, in order. -/
def evalTerms (fs : Functions) (context : Json) : List Term → Except EvalFault (List Json)
  | [] => .ok []
  | t :: ts => do
    let v ← evalTerm fs context t
    let vs ← evalTerms fs context ts
    return v :: vs

/-- The value of a command that follows a stage with the values `piped`, one or none. -/
def evalCommand (fs : Functions) (context : Json) : Command → (piped : List Json) → Except EvalFault Json
  | .term t, _ => evalTerm fs context t
  | .call f args, piped =>
    match fs.get? f with
    | none => .error (.undefined f)
    | some function => do
      let vs ← evalTerms fs context args
      match function (vs ++ piped) with
      | .ok v => return v
      | .error fault => .error (.call f fault)

/-- The value of a pipeline, null if it has no command. -/
def evalStages (fs : Functions) (context : Json) : List Command → Except EvalFault Json
  | [] => .ok .null
  | c :: cs => do
    let v ← evalCommand fs context c []
    evalPiped fs context cs v

/-- The value of the stages after one with the value `piped`. -/
def evalPiped (fs : Functions) (context : Json) : List Command → (piped : Json) → Except EvalFault Json
  | [], piped => .ok piped
  | c :: cs, piped => do
    let v ← evalCommand fs context c [piped]
    evalPiped fs context cs v
end

/-- The value of a pipeline in a context. -/
def Pipeline.eval (fs : Functions) (context : Json) (p : Pipeline) : Except EvalFault Json :=
  evalStages fs context p

end TicketSync.Template
