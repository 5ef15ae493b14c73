import TicketSync.Json.Reader
import TicketSync.Tracker.Behaviour

/-!
Trackers that follow a script of their own, for rehearsing a configuration without the real ones.
What is asked of them is done as told: wait, cancel, fail, or answer. Where nothing is told, a call
keeps the task id it was given, or gets a new one from the tracker's count.
-/
namespace TicketSync.Rehearsal

/-- What to do when asked: wait so many milliseconds, cancel the token, fail, or answer. -/
structure Conduct where
  delay : Nat := 0
  cancels : Bool := false
  failure : Option Failure := none
  answer : Option String := none
  deriving Inhabited

/-- A tracker that does what it is told. -/
structure Player where
  name : String
  methods : List (String × Conduct) := []
  subscribe : Conduct := {}
  unsubscribe : List (String × Conduct) := []
  listen : Option Conduct := none
  deriving Inhabited

/-- How many ids each tracker has given out. -/
abbrev Tally := Dict Nat

/-- The next number of a tracker. -/
def Tally.next (tally : Tally) (tracker : String) : Nat := (tally.get? tracker).getD 0 + 1

/-- An id from the count of a tracker. -/
def Tally.take (tally : Tally) (tracker before : String) : String × Tally :=
  let k := tally.next tracker
  (before ++ tracker ++ "-" ++ toString k, tally.insert tracker k)

namespace Conduct

/-- The reply of a conduct. The default is used where it tells no answer. -/
def reply {α : Type} (c : Conduct) (given : String → α) (otherwise : Tally → α × Tally) :
    Reply Tally α where
  delay := some c.delay
  cancels := c.cancels
  settle tally :=
    match c.failure, c.answer with
    | some f, _ => (.error f, tally)
    | none, some s => (.ok (given s), tally)
    | none, none =>
      let (x, tally) := otherwise tally
      (.ok x, tally)

/-- The conduct told for a key. -/
def find (l : List (String × Conduct)) (key : String) : Conduct :=
  ((l.find? (·.1 = key)).map (·.2)).getD {}

end Conduct

namespace Player

/-- A call: the default is the task id, or a new id. -/
def call (p : Player) (r : CallRequest) : Reply Tally String :=
  (Conduct.find p.methods r.method).reply id fun tally =>
    if r.taskId.isEmpty then tally.take p.name "" else (r.taskId, tally)

/-- A registration: the default is a new reference. -/
def register (p : Player) : Reply Tally String :=
  p.subscribe.reply id fun tally => tally.take p.name "ref-"

/-- A removal. -/
def remove (p : Player) (ref : String) : Reply Tally Unit :=
  (Conduct.find p.unsubscribe ref).reply (fun _ => ()) fun tally => ((), tally)

/-- What players read in a webhook: nothing in an empty body, else an update in JSON. -/
def read (r : WebhookRequest) : Outcome (Option Update) :=
  if r.body.isEmpty then .ok none
  else
    match (Json.read? r.body).map Update.ofJson? with
    | some (.ok u) => .ok (some u)
    | _ => .error (.unexpectedRemoteStatus "bad payload")

end Player

/-- Players by name. Of two of one name the last plays. -/
abbrev Cast := Dict Player

/-- The cast of a list of players. -/
def Cast.ofPlayers (players : List Player) : Cast :=
  .ofList (players.map fun p => (p.name, p))

/-- The player of a name. -/
def Cast.player (c : Cast) (name : String) : Player := (c.get? name).getD { name }

/-- The behaviour of a cast. -/
def Cast.trackers (c : Cast) : Trackers Tally where
  names := c.toList.map (·.1)
  call name r tally := ((c.player name).call r, tally)
  subscribe name _ tally := ((c.player name).register, tally)
  unsubscribe name ref tally := ((c.player name).remove ref, tally)
  handleWebhook _ _ r tally := ({ settle := fun tally => (Player.read r, tally) }, tally)

end TicketSync.Rehearsal
