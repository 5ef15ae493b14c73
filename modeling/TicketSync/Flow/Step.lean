import TicketSync.Flow.ActionName
import TicketSync.Vars.Basic

/-!
Steps of a job: actions, which call a method of a tracker, and branches, which run their steps when
a condition holds. In JSON an object with a field `if` is a branch; anything else has to be an
action. A malformed action name is reported as such when it is the first fault.
-/
namespace TicketSync

/-- A call of a tracker's method. A detached one neither gets nor leaves a task id. -/
structure Action where
  name : ActionName
  vars : Vars := {}
  detached : Bool := false
  deriving DecidableEq, Inhabited

/-- A step of a job. -/
inductive Step where
  | action (a : Action)
  | branch (condition : String) (steps : List Step)
  deriving Inhabited

/-! ### JSON form -/

/-- The JSON form of an action. -/
def Action.toJson (a : Action) : Json :=
  .obj ([("name", .str a.name.display), ("vars", a.vars.toJson)] ++
    if a.detached then [("detached", .bool true)] else [])

mutual
/-- The JSON form of a step. -/
def Step.toJson : Step → Json
  | .action a => a.toJson
  | .branch condition steps => .obj [("if", .str condition), ("actions", .arr (Step.listToJson steps))]

/-- The JSON forms of steps. -/
def Step.listToJson : List Step → List Json
  | [] => []
  | s :: rest => s.toJson :: Step.listToJson rest
end

/-- The JSON form of a sequence of steps. -/
def Step.sequenceToJson (steps : List Step) : Json := .arr (Step.listToJson steps)

/-- A field of an action. -/
inductive Action.Field where
  | name (n : ActionName)
  | vars (v : Vars)
  | detached (b : Bool)

/-- An action name written as a text. -/
def ActionName.ofJson? : Json → Decoded ActionName
  | .str s =>
    match ActionName.parse? s with
    | some n => .ok n
    | none => .error (.actionName s)
  | _ => .error .form

/-- The field of a name, if it is one of an action. -/
def Action.readField (name : String) (v : Json) : Decoded (Option Action.Field) :=
  if name = "name" then (ActionName.ofJson? v).map fun n => some (.name n)
  else if name = "vars" then (Vars.ofJson? v).map fun vars => some (.vars vars)
  else if name = "detached" then v.asFlag.map fun b => some (.detached b)
  else .ok none

/-- The fields of an action, read in turn. -/
def Action.readFields : List (String × Json) → Decoded (List Action.Field)
  | [] => .ok []
  | (name, v) :: rest => do
    let field ← Action.readField name v
    return field.toList ++ (← Action.readFields rest)

/-- The names of the fields of an action. -/
def Action.fieldNames : List String := ["name", "vars", "detached"]

/-- The action of these fields. Only the name has to be among them. -/
def Action.ofFields (fields : List Action.Field) : Decoded Action :=
  match fields.findSome? fun | .name n => some n | _ => none with
  | none => .error .form
  | some name => .ok {
      name
      vars := (fields.findSome? fun | .vars v => some v | _ => none).getD {}
      detached := (fields.findSome? fun | .detached b => some b | _ => none).getD false }

/-- The action of a JSON form. -/
def Action.ofJson? : Json → Decoded Action
  | .obj fields => do
    let read ← Action.readFields fields
    if Json.repeats Action.fieldNames fields then .error .form else Action.ofFields read
  | .arr items => do
    let read ← Action.readFields (Action.fieldNames.zip items)
    if Action.fieldNames.length < items.length then .error .form else Action.ofFields read
  | _ => .error .form

/-- Whether an object has the field that makes it a branch. -/
def isBranch (fields : List (String × Json)) : Bool :=
  fields.any (·.1 = "if")

/-- A field of a branch. -/
inductive Step.BranchField where
  | condition (s : String)
  | steps (l : List Step)

/-- The branch of these fields. Only the condition has to be among them. -/
def Step.ofBranchFields (fields : List Step.BranchField) : Decoded Step :=
  match fields.findSome? fun | .condition s => some s | _ => none with
  | none => .error .form
  | some condition =>
    .ok (.branch condition ((fields.findSome? fun | .steps l => some l | _ => none).getD []))

mutual
/-- The step of a JSON form. -/
def Step.ofJson? : Json → Decoded Step
  | .obj fields =>
    if isBranch fields then do
      let read ← Step.readBranchFields fields
      if Json.repeats ["if", "actions"] fields then .error .form else Step.ofBranchFields read
    else (Action.ofJson? (.obj fields)).map .action
  | v => (Action.ofJson? v).map .action

/-- The fields of a branch, read in turn. -/
def Step.readBranchFields : List (String × Json) → Decoded (List Step.BranchField)
  | [] => .ok []
  | (name, v) :: rest =>
    if name = "if" then do
      let s ← v.asText
      return .condition s :: (← Step.readBranchFields rest)
    else if name = "actions" then do
      let l ← Step.ofList? v
      return .steps l :: (← Step.readBranchFields rest)
    else Step.readBranchFields rest

/-- The steps of an array. -/
def Step.ofList? : Json → Decoded (List Step)
  | .arr items => Step.ofItems? items
  | _ => .error .form

/-- The steps of these items, in turn. -/
def Step.ofItems? : List Json → Decoded (List Step)
  | [] => .ok []
  | v :: rest => do
    let s ← Step.ofJson? v
    return s :: (← Step.ofItems? rest)
end

/-- The sequence of steps of a JSON form. -/
def Step.sequenceOfJson? (v : Json) : Decoded (List Step) := Step.ofList? v

mutual
/-- A step in which every action name reads back. -/
def Step.WellFormed : Step → Prop
  | .action a => a.name.WellFormed
  | .branch _ steps => Step.AllWellFormed steps

/-- Steps that are all well formed. -/
def Step.AllWellFormed : List Step → Prop
  | [] => True
  | s :: rest => s.WellFormed ∧ Step.AllWellFormed rest
end

end TicketSync
