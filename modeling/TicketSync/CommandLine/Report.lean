import TicketSync.CommandLine.Arguments
import TicketSync.CommandLine.Host
import TicketSync.CommandLine.Table
import TicketSync.Engine.Session

/-!
What the program does for an invocation: what it prints, whether it succeeds, and the store that it
leaves on disk. A failure is reported with what was being done, the widest frame first.
-/
namespace TicketSync.CommandLine

open Engine

/-- The result of a run of the program. -/
structure Report where
  exit : Nat := 0
  output : String := ""
  errors : String := ""
  saved : Option (String × DiskStore) := none
  deriving Inhabited

namespace Report

/-- The report of a failure. -/
def failed (reason : String) : Report := { exit := 1, errors := "error: " ++ reason ++ "\n" }

/-- The report with text printed before it. -/
def after (r : Report) (text : String) : Report := { r with output := text ++ r.output }

/-- The report with the store that is left, if it is kept on disk. -/
def leaving (r : Report) (config : StoreConfig) (store : Store) : Report :=
  match config, store with
  | .disk path, .disk s => { r with saved := some (path, s) }
  | _, _ => r

end Report

/-- A value as the program prints it. -/
def printed (v : Json) : String := v.toWideText ++ "\n"

/-- What was being done when something failed. -/
def within {α : Type} (doing : String) (r : Outcome α) : Except String α :=
  r.mapError fun f => doing ++ ": " ++ f.message

/-- The report of steps of which one may fail. -/
def reported (r : Except String Report) : Report :=
  match r with
  | .ok r => r
  | .error reason => .failed reason

variable {τ : Type}

/-- The checked configuration. -/
def loadConfig (h : Host τ) (path : String) : Except String Config :=
  within ("loading " ++ path) (Config.load path (h.file path))

/-- The store of a configuration. -/
def openStore (h : Host τ) : StoreConfig → Except String Store
  | .memory => .ok (.memory {})
  | .disk path => (within ("opening database " ++ path) (h.disk path)).map .disk

/-! ### Checking -/

/-- The words for a number of faults. -/
def faultCount (n : Nat) : String := toString n ++ " configuration error(s)"

/-- What is printed about the findings of a configuration. -/
def findingsText (path : String) (json : Bool) (c : Config) : String :=
  if json then
    printed (.obj [("valid", .bool c.faults.isEmpty), ("warnings", .arr (c.findings.map Finding.toJson))])
  else if c.findings.isEmpty then
    path ++ ": ok (" ++ toString c.trackers.length ++ " trackers, " ++ toString c.triggers.length ++
      " triggers, " ++ toString c.jobs.length ++ " jobs)\n"
  else String.join (c.findings.map fun f => f.severity.word ++ ": " ++ f.message ++ "\n")

/-- Checks the configuration and prints what is wrong with it. -/
def validate (h : Host τ) (path : String) (json : Bool) : Report := reported do
  let text ← within ("reading " ++ path) (h.file path).read
  let c ← within ("parsing " ++ path) (Config.ofYaml text)
  let r : Report := if c.faults.isEmpty then {} else .failed (faultCount c.faults.length)
  return r.after (findingsText path json c)

/-! ### Records -/

/-- The row of a subscription in a table. -/
def subscriptionRow (x : Subscription) : List String :=
  [x.id, x.trackerName, x.triggerName, x.trackerRef.getD "-",
    x.createdAt.dateText ++ " " ++ x.createdAt.clockText]

/-- What is printed about subscriptions. -/
def subscriptionsText (json : Bool) (xs : List Subscription) : String :=
  if json then printed (.arr (xs.map Subscription.toJson))
  else if xs.isEmpty then "no subscriptions\n"
  else table ["ID", "TRACKER", "TRIGGER", "REF", "CREATED"] (xs.map subscriptionRow)

/-- Prints the subscriptions of a tracker, or all when none is named. -/
def listSubscriptions (h : Host τ) (path : String) (json : Bool) (tracker : Option String) :
    Report := reported do
  let c ← loadConfig h path
  let store ← openStore h c.store
  let xs ← (store.listSubscriptions tracker).mapError Failure.message
  return ({ output := subscriptionsText json xs } : Report).leaving c.store store

/-- Prints a ticket. -/
def getTicket (h : Host τ) (path : String) (q : TicketQuery) : Report := reported do
  let c ← loadConfig h path
  let doing := "ticket " ++ q.display
  let store ← (openStore h c.store).mapError fun reason => doing ++ ": " ++ reason
  let t ← within doing (store.getTicket q)
  return ({ output := printed t.toJson } : Report).leaving c.store store

/-! ### Trackers -/

/-- A connection that can be opened, and on which nothing is sent. -/
def opening (h : Host τ) (address : String) : Responder (Plugin.Redial Unit) Unit
  | .current, s => (none, s)
  | .dial, s => (h.dial address, s)
  | .install c, s => (c, s)
  | .send .., s => (.error .connectionLost, s)
  | .invalidate _, s => ((), s)
  | .pause, s => (.ok (), s)

/-- Starts the plugin of a tracker, if it has a command, and connects to it. -/
def connectTracker (h : Host τ) (t : TrackerConfig) : Except String Unit := do
  if !t.plugin.command.isEmpty then
    within ("starting plugin for '" ++ t.name ++ "'")
      (Plugin.Launch.ofCommand t.name t.plugin.address t.plugin.command >>= h.launch)
  let policy : Plugin.RetryPolicy := ⟨t.plugin.attempts, t.plugin.delayMs⟩
  within ("connecting to '" ++ t.name ++ "' at " ++ t.plugin.address)
    ((Plugin.Redial.connect policy).run (opening h t.plugin.address) ()).1

/-- Connects to the trackers of a configuration in turn. -/
def connectTrackers (h : Host τ) (c : Config) : Except String Unit :=
  c.trackers.forM (connectTracker h)

/-- The session of a configuration. -/
def newSession (h : Host τ) (c : Config) (store : Store) : Session τ :=
  { config := c, surroundings := h.surroundings, runLimit := c.runLimitMs,
    world := { store, trackers := h.trackers } }

/-- What is printed about a removal. -/
def removalText (json : Bool) (removed total : Nat) : String :=
  if json then printed (.obj [("removed", .nat removed), ("total", .nat total)])
  else "removed " ++ toString removed ++ " of " ++ toString total ++ " subscriptions\n"

/-- Removes the subscriptions of a tracker, or all when none is named. -/
def removeWebhooks (h : Host τ) (path : String) (json : Bool) (tracker : Option String) :
    Report := reported do
  let c ← loadConfig h path
  let store ← openStore h c.store
  connectTrackers h c
  let scope := tracker.getD ""
  let (listed, s) := (newSession h c store).perform (Engine.listSubscriptions scope)
  let total := (← listed.mapError Failure.message).length
  let (removed, s) := s.remove scope
  let r : Report :=
    if removed < total then
      .failed (toString (total - removed) ++ " subscriptions could not be removed")
    else {}
  return (r.after (removalText json removed total)).leaving c.store s.world.store

/-- Registers webhooks, listens until interrupted, and removes them again. -/
def serve (h : Host τ) (path : String) : Report := reported do
  let c ← loadConfig h path
  let store ← openStore h c.store
  connectTrackers h c
  let listen := c.server.listen.display
  within ("binding " ++ listen) (h.bind c.server.listen)
  let (outcome, s) := (newSession h c store).live (.error .cancelled)
  let r : Report := match within "sync engine stopped" outcome with
    | .ok _ => {}
    | .error reason => .failed reason
  return (r.after ("tracksync listening on " ++ listen ++ " (webhooks at " ++ c.server.baseUrl ++
    ")\n")).leaving c.store s.world.store

/-! ### All commands -/

/-- The version of the program. -/
def version : String := "0.1.0"

/-- What is printed when help is asked for. -/
def helpText : String :=
  "Keep tickets in sync across task trackers\n\n" ++
  "Usage: tracksync [--config <FILE>] [--json] <COMMAND>\n\n" ++
  "Commands: serve, validate, remove-webhooks, subscriptions list, ticket get\n"

/-- The report on arguments that are no invocation. -/
def Refusal.report : Refusal → Report
  | version program => { output := program ++ " " ++ CommandLine.version ++ "\n" }
  | help => { output := helpText }
  | malformed reason => { exit := 2, errors := "error: " ++ reason ++ "\n" }

/-- The environment variable that names the file of the configuration. -/
def configVariable : String := "TRACKSYNC_CONFIG"

/-- The invocation of arguments, or the report on what is wrong with them. -/
def parse (args : List String) (configured : Option String) : Except Report Invocation :=
  (Invocation.parse args configured Config.defaultFile).mapError Refusal.report

/-- Carries out an invocation. -/
def perform (h : Host τ) (i : Invocation) : Report :=
  match i.command with
  | .serve => serve h i.config
  | .validate => validate h i.config i.json
  | .removeWebhooks tracker => removeWebhooks h i.config i.json tracker
  | .listSubscriptions tracker => listSubscriptions h i.config i.json tracker
  | .getTicket q => getTicket h i.config q

end TicketSync.CommandLine
