import TicketSync.Flow.Step
import TicketSync.Source

/-! Triggers, which name what a tracker is asked to report, and jobs, which say what to do about a
report of a trigger. -/
namespace TicketSync

/-- What a tracker is asked to report. -/
structure Trigger where
  name : String
  tracker : String
  vars : Vars := {}
  deriving DecidableEq, Inhabited

/-- What to do about the reports of a trigger. -/
structure Job where
  name : String
  triggerName : String
  steps : List Step := []
  deriving Inhabited

/-- The JSON form of a trigger. -/
def Trigger.toJson (t : Trigger) : Json :=
  .obj [("name", .str t.name), ("tracker", .str t.tracker), ("vars", t.vars.toJson)]

/-- The JSON form of a job. -/
def Job.toJson (j : Job) : Json :=
  .obj [("name", .str j.name), ("trigger", .str j.triggerName),
    ("actions", Step.sequenceToJson j.steps)]

/-- A field of a job. -/
inductive Job.Field where
  | name (s : String)
  | triggerName (s : String)
  | steps (l : List Step)

section
variable {σ : Type} [Source σ]

/-- Templates by name, from a map of texts. -/
def Vars.ofSource? (v : σ) : Decoded Vars := do
  return ⟨← Source.asTexts v, false⟩

/-- The trigger of a record. -/
def Trigger.ofSource? (v : σ) : Decoded Trigger := do
  let r ← Source.record ["name", "tracker", "vars"] v
  return ⟨← Source.required r "name" Source.asText, ← Source.required r "tracker" Source.asText,
    ← Source.optional r "vars" {} Vars.ofSource?⟩

/-- A step, which is read from the value in normal form. -/
def Step.ofSource? (v : σ) : Decoded Step := do
  Step.ofJson? (← Source.asJson v)

/-- A sequence of steps. -/
def Step.sequenceOfSource? (v : σ) : Decoded (List Step) :=
  Source.asList Step.ofSource? v

/-- The reader of a field of a job. -/
def Job.reader (name : String) : Option (σ → Decoded Job.Field) :=
  if name = "name" then some fun v => (Source.asText v).map .name
  else if name = "trigger" then some fun v => (Source.asText v).map .triggerName
  else if name = "actions" then some fun v => (Step.sequenceOfSource? v).map .steps
  else none

/-- The job of a record. -/
def Job.ofSource? (v : σ) : Decoded Job := do
  let fields ← Source.readRecord ["name", "trigger", "actions"] Job.reader v
  match fields.findSome? fun | .name s => some s | _ => none,
      fields.findSome? fun | .triggerName s => some s | _ => none with
  | some name, some triggerName =>
    return ⟨name, triggerName, (fields.findSome? fun | .steps l => some l | _ => none).getD []⟩
  | _, _ => .error .form
end

end TicketSync
