import TicketSync.Json.Printer

/-!
Why an operation fails: one constructor for each cause, and `Failure.message` for the wording of
all of them. Durations are whole milliseconds; `durationText` names them by their largest unit.
-/
namespace TicketSync

/-- The digits of a number of thousandths after the point, without zeros at the end. -/
def thousandths (n : Nat) : String :=
  let digits := toString (1000 + n % 1000)
  let kept := (digits.toList.drop 1).reverse.dropWhile (· = '0') |>.reverse
  if kept.isEmpty then "" else "." ++ String.ofList kept

/-- A duration in milliseconds: in seconds from one second on, else in milliseconds. -/
def durationText (milliseconds : Nat) : String :=
  if 1000 ≤ milliseconds then
    toString (milliseconds / 1000) ++ thousandths milliseconds ++ "s"
  else if milliseconds = 0 then "0ns"
  else toString milliseconds ++ "ms"

/-- Why an operation fails. -/
inductive Failure where
  | notFound (what key : String)
  | alreadyExists (what : String)
  | malformedActionName (text : String)
  | trackerNotRegistered (tracker : String)
  | unsupportedMethod (tracker method : String)
  | actionNotSupported (action : String)
  | template (key message : String)
  | notBoolean (condition got : String)
  | unexpectedRemoteStatus (status : String)
  | connectionLost
  | transport (message : String)
  | persistence (message : String)
  | invalidConfig (message : String)
  | cancelled
  | timeout (milliseconds : Nat)
  | io (message : String)
  | yaml (message : String)
  | json (message : String)
  deriving DecidableEq, Repr, Inhabited

namespace Failure

/-- The wording of a malformed action name. -/
def actionNameMessage (text : String) : String :=
  "cannot parse action name '" ++ text ++ "': expected 'tracker/method'"

/-- The message of a failure. -/
def message : Failure → String
  | notFound what key => what ++ " not found: " ++ key
  | alreadyExists what => "already exists: " ++ what
  | malformedActionName text => actionNameMessage text
  | trackerNotRegistered tracker => "tracker not registered: " ++ tracker
  | unsupportedMethod tracker method =>
    "tracker '" ++ tracker ++ "' does not support method '" ++ method ++ "'"
  | actionNotSupported action => "action not supported: " ++ action
  | template key message => "template error in '" ++ key ++ "': " ++ message
  | notBoolean condition got =>
    "if condition '" ++ condition ++ "' did not evaluate to a boolean (got " ++ got ++ ")"
  | unexpectedRemoteStatus status => "unexpected remote status: " ++ status
  | connectionLost => "transport connection is shut down"
  | transport message => "transport error: " ++ message
  | persistence message => "persistence error: " ++ message
  | invalidConfig message => "invalid configuration: " ++ message
  | cancelled => "operation cancelled"
  | timeout milliseconds => "operation timed out after " ++ durationText milliseconds
  | io message => message
  | yaml message => message
  | json message => message

/-- Whether something was looked up that is not there. -/
def isNotFound : Failure → Bool
  | notFound .. => true
  | _ => false

/-- Whether the operation was given up because its token was cancelled. -/
def isCancelled : Failure → Bool
  | cancelled => true
  | _ => false

theorem isCancelled_iff {f : Failure} : f.isCancelled = true ↔ f = .cancelled := by
  cases f <;> simp [isCancelled]

/-- Whether the connection ended before an answer came. -/
def isConnectionLost : Failure → Bool
  | connectionLost => true
  | _ => false

end Failure

/-- The outcome of an operation that can fail. -/
abbrev Outcome (α : Type) := Except Failure α

instance {α : Type} [DecidableEq α] : DecidableEq (Outcome α)
  | .ok x, .ok y => decidable_of_iff (x = y) (by simp)
  | .error f, .error g => decidable_of_iff (f = g) (by simp)
  | .ok _, .error _ => .isFalse (by simp)
  | .error _, .ok _ => .isFalse (by simp)

end TicketSync
