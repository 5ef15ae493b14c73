import TicketSync.Failure
import TicketSync.Template.Basic
import TicketSync.Ticket.Basic
import TicketSync.Vars.Basic

/-!
Rendering of variables and the value of conditions for an update and a ticket. Templates see both
under `.Update` and `.Ticket`. Variables that have been rendered are left as they are, so a text
that was rendered is never read as a template again.
-/
namespace TicketSync

/-- The fields of a content in a context. -/
def Content.contextFields (c : Content) : List (String × Json) :=
  [("Title", .str c.title), ("Body", .str c.body), ("Fields", .ofTexts c.fields)]

/-- The value of `.Update`. -/
def Update.context (u : Update) : Json :=
  .ofFields (u.content.contextFields ++
    [("TriggerName", .str u.triggerName), ("URL", .str u.url),
      ("ReceivedFrom",
        .ofFields [("Tracker", .str u.receivedFrom.tracker), ("ID", .str u.receivedFrom.id)])])

/-- The value of a variation in a context. -/
def Variation.context (t : Variation) : Json :=
  .ofFields (t.content.contextFields ++ [("ID", .str t.id)])

/-- The value of `.Ticket`. -/
def Ticket.context (t : Ticket) : Json :=
  .ofFields [("ID", .str t.id), ("Variations", .ofDict (t.variations.map Variation.context))]

/-- What templates see of an update and a ticket. -/
def context (u : Update) (t : Ticket) : Json :=
  .ofFields [("Update", u.context), ("Ticket", t.context)]

open Template

/-- The rendering of one variable. -/
def Vars.renderOne (fs : Functions) (ctx : Json) (name raw : String) : Outcome (String × String) :=
  match renderSource fs ctx raw with
  | .ok text => .ok (name, text)
  | .error fault => .error (.template name fault.message)

/-- The variables with every template rendered. The first that fails, in the order of the names,
gives the failure. -/
def Vars.evaluate (fs : Functions) (vars : Vars) (u : Update) (t : Ticket) : Outcome Vars :=
  if vars.evaluated then .ok vars
  else do
    let rendered ← vars.toList.mapM fun e => Vars.renderOne fs (context u t) e.1 e.2
    return ⟨.ofList rendered, true⟩

/-- The truth value of a condition. A value of another kind is a failure. -/
def evalCondition (fs : Functions) (condition : String) (u : Update) (t : Ticket) : Outcome Bool :=
  match evalSource fs (context u t) condition with
  | .ok (.bool b) => .ok b
  | .ok v => .error (.notBoolean condition v.toText)
  | .error fault => .error (.template "if" fault.message)

/-- Why a text is no template. -/
def templateFault (fs : Functions) (src : String) : Option String :=
  match parse? fs src with
  | .ok _ => none
  | .error fault => some fault.message

/-- Why a text is no condition. -/
def conditionFault (fs : Functions) (src : String) : Option String :=
  match readExpression? fs src with
  | .ok _ => none
  | .error fault => some fault.message

end TicketSync
