import TicketSync.Config.SocketAddress
import TicketSync.Flow.Job

/-!
Configurations: where to listen, which store to use, the trackers with the plugins that serve them,
the triggers and the jobs. They are read from any format of documents; the first fault in the order
of the document is reported.
-/
namespace TicketSync

/-- The webhook endpoint and the limit of a run. -/
structure ServerConfig where
  listen : SocketAddress := .v4 [0, 0, 0, 0] 8080
  baseUrl : String
  runLimitSeconds : Option Nat := none
  deriving DecidableEq, Repr, Inhabited

/-- The store to use. -/
inductive StoreConfig where
  | disk (path : String)
  | memory
  deriving DecidableEq, Repr, Inhabited

/-- Where a plugin serves a tracker, the command that starts it, and how patiently it is dialled. -/
structure PluginConfig where
  address : String
  command : List String := []
  attempts : Nat := 5
  delayMs : Nat := 500
  deriving DecidableEq, Repr, Inhabited

/-- A tracker and the plugin that serves it. -/
structure TrackerConfig where
  name : String
  plugin : PluginConfig
  deriving DecidableEq, Repr, Inhabited

/-- The path of the store where none is given. -/
def StoreConfig.defaultPath : String := "tracksync.redb"

/-- A configuration. -/
structure Config where
  server : ServerConfig
  store : StoreConfig := .disk StoreConfig.defaultPath
  trackers : List TrackerConfig := []
  triggers : List Trigger := []
  jobs : List Job := []
  deriving Inhabited

namespace Config

/-- The file that a configuration is read from where none is named. -/
def defaultFile : String := "tracksync.yaml"

/-- The limit of a run in milliseconds. -/
def runLimitMs (c : Config) : Option Nat := c.server.runLimitSeconds.map (· * 1000)

/-- The first tracker of a name. -/
def tracker? (c : Config) (name : String) : Option TrackerConfig :=
  c.trackers.find? (·.name = name)

/-- The first trigger of a name. -/
def trigger? (c : Config) (name : String) : Option Trigger :=
  c.triggers.find? (·.name = name)

/-- The names of the trackers, in order. -/
def trackerNames (c : Config) : List String := c.trackers.map (·.name)

/-- The jobs of a trigger, in order. -/
def jobsOf (c : Config) (trigger : String) : List Job :=
  c.jobs.filter (·.triggerName = trigger)

/-- The jobs of a trigger, of which there has to be one. -/
def subscribedJobs (c : Config) (trigger : String) : Outcome (List Job) :=
  match c.jobsOf trigger with
  | [] => .error (.notFound "jobs for trigger" trigger)
  | jobs => .ok jobs

end Config

/-! ### JSON form -/

/-- The JSON form of a server section. -/
def ServerConfig.toJson (s : ServerConfig) : Json :=
  .obj ([("listen", .str s.listen.display), ("base_url", .str s.baseUrl)] ++
    (s.runLimitSeconds.map fun n => ("run_timeout_secs", .nat n)).toList)

/-- The JSON form of a store section. -/
def StoreConfig.toJson : StoreConfig → Json
  | .disk path => .obj [("type", .str "redb"), ("path", .str path)]
  | .memory => .obj [("type", .str "memory")]

/-- The JSON form of a plugin. -/
def PluginConfig.toJson (p : PluginConfig) : Json :=
  .obj ([("address", .str p.address)] ++
    (if p.command.isEmpty then [] else [("command", .ofStrings p.command)]) ++
    [("attempts", .nat p.attempts), ("delay_ms", .nat p.delayMs)])

/-- The JSON form of a tracker. -/
def TrackerConfig.toJson (t : TrackerConfig) : Json :=
  .obj [("name", .str t.name), ("plugin", t.plugin.toJson)]

/-- The JSON form of a configuration. -/
def Config.toJson (c : Config) : Json :=
  .obj [("server", c.server.toJson), ("storage", c.store.toJson),
    ("trackers", .arr (c.trackers.map TrackerConfig.toJson)),
    ("triggers", .arr (c.triggers.map Trigger.toJson)),
    ("jobs", .arr (c.jobs.map Job.toJson))]

/-! ### Reading -/

section
variable {σ : Type} [Source σ]

/-- An address written as a text. -/
def SocketAddress.ofSource? (v : σ) : Decoded SocketAddress := do
  match SocketAddress.parse? (← Source.asText v) with
  | some a => return a
  | none => .error .form

/-- The server section of a record. -/
def ServerConfig.ofSource? (v : σ) : Decoded ServerConfig := do
  let r ← Source.record ["listen", "base_url", "run_timeout_secs"] v
  return ⟨← Source.optional r "listen" (.v4 [0, 0, 0, 0] 8080) SocketAddress.ofSource?,
    ← Source.required r "base_url" Source.asText,
    ← Source.optional r "run_timeout_secs" none (Source.asOption Source.asNat)⟩

/-- A text where the form of the value decides: only a string will do. -/
def asPlainText (v : σ) : Decoded String := do (← Source.asJson v).asText

/-- The store of a word for its kind. -/
def StoreConfig.ofWord (word : String) (path : Option σ) : Decoded StoreConfig := do
  if word = "memory" then return .memory
  else if word = "redb" then
    match path with
    | some v => return .disk (← asPlainText v)
    | none => return .disk StoreConfig.defaultPath
  else .error .form

/-- Whether a key names the path of a store, by its name or by its place. -/
def StoreConfig.isPathKey (key : LooseKey) : Bool :=
  key = .text "path" || key = .index 0

/-- Whether every key of a store on disk is a name or a place. -/
def StoreConfig.keysNamed (keys : List LooseKey) : Bool :=
  keys.all (· ≠ .other)

/-- The store section of a map with the kind under `type`, or of a list that starts with the kind.
All values have to be readable, also those that are passed over. -/
def StoreConfig.ofSource? (v : σ) : Decoded StoreConfig :=
  match Source.view v with
  | .entries entries => do
    let (kinds, others) := entries.partition (·.1 = .text "type")
    let _ ← others.mapM fun e => Source.asJson e.2
    match kinds with
    | [(_, kind)] =>
      let word ← Source.asText kind
      if word = "redb" && !StoreConfig.keysNamed (others.map (·.1)) then .error .form
      else
        match others.filter fun e => StoreConfig.isPathKey e.1 with
        | [] => StoreConfig.ofWord (σ := σ) word none
        | [(_, path)] => StoreConfig.ofWord word (some path)
        | _ => if word = "redb" then .error .form else StoreConfig.ofWord (σ := σ) word none
    | _ => .error .form
  | .items [] => .error .form
  | .items (kind :: others) => do
    let word ← Source.asText kind
    let _ ← others.mapM Source.asJson
    match others with
    | [] => StoreConfig.ofWord (σ := σ) word none
    | [path] => if word = "redb" then StoreConfig.ofWord word (some path) else .error .form
    | _ => .error .form
  | .other => .error .form

/-- The plugin of a record. -/
def PluginConfig.ofSource? (v : σ) : Decoded PluginConfig := do
  let r ← Source.record ["address", "command", "attempts", "delay_ms"] v
  return ⟨← Source.required r "address" Source.asText,
    ← Source.optional r "command" [] (Source.asList Source.asText),
    ← Source.optional r "attempts" 5 (Source.asBoundedNat 32),
    ← Source.optional r "delay_ms" 500 Source.asNat⟩

/-- The tracker of a record. -/
def TrackerConfig.ofSource? (v : σ) : Decoded TrackerConfig := do
  let r ← Source.record ["name", "plugin"] v
  return ⟨← Source.required r "name" Source.asText,
    ← Source.required r "plugin" PluginConfig.ofSource?⟩

end

/-- A field of a configuration. -/
inductive Config.Field where
  | server (s : ServerConfig)
  | store (s : StoreConfig)
  | trackers (l : List TrackerConfig)
  | triggers (l : List Trigger)
  | jobs (l : List Job)

section
variable {σ : Type} [Source σ]

/-- The reader of a field of a configuration. -/
def Config.reader (name : String) : Option (σ → Decoded Config.Field) :=
  if name = "server" then some fun v => (ServerConfig.ofSource? v).map .server
  else if name = "storage" then some fun v => (StoreConfig.ofSource? v).map .store
  else if name = "trackers" then
    some fun v => (Source.asList TrackerConfig.ofSource? v).map .trackers
  else if name = "triggers" then some fun v => (Source.asList Trigger.ofSource? v).map .triggers
  else if name = "jobs" then some fun v => (Source.asList Job.ofSource? v).map .jobs
  else none

/-- The names of the fields of a configuration. -/
def Config.fieldNames : List String := ["server", "storage", "trackers", "triggers", "jobs"]

/-- The configuration of these fields. Only the server section has to be among them. -/
def Config.ofFields (fields : List Config.Field) : Decoded Config :=
  match fields.findSome? fun | .server s => some s | _ => none with
  | none => .error .form
  | some server => .ok {
      server
      store := (fields.findSome? fun | .store s => some s | _ => none).getD
        (.disk StoreConfig.defaultPath)
      trackers := (fields.findSome? fun | .trackers l => some l | _ => none).getD []
      triggers := (fields.findSome? fun | .triggers l => some l | _ => none).getD []
      jobs := (fields.findSome? fun | .jobs l => some l | _ => none).getD [] }

/-- The configuration of a document. -/
def Config.ofSource? (v : σ) : Decoded Config := do
  Config.ofFields (← Source.readRecord Config.fieldNames Config.reader v)
end

end TicketSync
