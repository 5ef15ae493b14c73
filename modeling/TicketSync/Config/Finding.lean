import TicketSync.Config.Basic
import TicketSync.Vars.Evaluation

/-!
What is wrong with a configuration. `Config.findings` lists every finding in the order of the
configuration; one without a finding of level `error` is accepted by `Config.check`.
-/
namespace TicketSync

/-- Whether a finding keeps a configuration from being used. -/
inductive Severity where
  | warning
  | error
  deriving DecidableEq, Repr

/-- The word for a severity. -/
def Severity.word : Severity → String
  | warning => "warning"
  | error => "error"

/-- Something wrong with a configuration. -/
inductive Finding where
  | baseUrlNotHttp (url : String)
  | trackerNotSlug (tracker : String)
  | trackerRepeated (tracker : String)
  | noAttempts (tracker : String)
  | triggerRepeated (trigger : String)
  | triggerTrackerUnknown (trigger tracker : String)
  | triggerTemplate (trigger key fault : String)
  | jobTriggerUnknown (job trigger : String)
  | jobWithoutActions (job : String)
  | branchCondition (job condition fault : String)
  | actionTrackerUnknown (job : String) (action : ActionName)
  | actionTemplate (job : String) (action : ActionName) (key fault : String)
  | triggerUnused (trigger : String)
  deriving DecidableEq, Repr

namespace Finding

/-- The severity of a finding. -/
def severity : Finding → Severity
  | jobWithoutActions _ | triggerUnused _ => .warning
  | _ => .error

/-- The message of a finding. -/
def message : Finding → String
  | baseUrlNotHttp url => "server.base_url '" ++ url ++ "' must be an http(s) URL"
  | trackerNotSlug t => "tracker name '" ++ t ++ "' must be lowercase alphanumeric with '-' or '_'"
  | trackerRepeated t => "tracker '" ++ t ++ "' is defined more than once"
  | noAttempts t => "tracker '" ++ t ++ "' has plugin.attempts=0"
  | triggerRepeated t => "trigger '" ++ t ++ "' is defined more than once"
  | triggerTrackerUnknown t tracker =>
    "trigger '" ++ t ++ "' references unknown tracker '" ++ tracker ++ "'"
  | triggerTemplate t v fault => "trigger '" ++ t ++ "' var '" ++ v ++ "': " ++ fault
  | jobTriggerUnknown j t => "job '" ++ j ++ "' references unknown trigger '" ++ t ++ "'"
  | jobWithoutActions j => "job '" ++ j ++ "' has no actions"
  | branchCondition j c fault => "job '" ++ j ++ "' if '" ++ c ++ "': " ++ fault
  | actionTrackerUnknown j a =>
    "job '" ++ j ++ "' action '" ++ a.display ++ "' references unknown tracker '" ++ a.tracker ++ "'"
  | actionTemplate j a v fault =>
    "job '" ++ j ++ "' action '" ++ a.display ++ "' var '" ++ v ++ "': " ++ fault
  | triggerUnused t => "trigger '" ++ t ++ "' is not used by any job"

/-- The JSON form of a finding. -/
def toJson (f : Finding) : Json :=
  .obj [("level", .str f.severity.word), ("message", .str f.message)]

end Finding

/-! ### The checks -/

/-- Whether a character may start a slug: a small letter or a digit. -/
def isSlugStart (c : Char) : Bool :=
  ('a' ≤ c && c ≤ 'z') || c.isDigit

/-- Whether a text is a slug: small letters, digits, `_` and `-`, the first one of the former two. -/
def isSlug (s : String) : Bool :=
  match s.toList with
  | [] => false
  | c :: rest => isSlugStart c && rest.all fun c => isSlugStart c || c = '_' || c = '-'

/-- The functions that configurations are checked with. Only their names matter. -/
def checkFunctions : Template.Functions := .standard .empty

/-- The finding that a condition asks for. -/
def findingIf (wrong : Bool) (f : Finding) : List Finding := if wrong then [f] else []

/-- Whether an address starts with one of the two schemes of the web. -/
def isHttpUrl (url : String) : Bool :=
  "http://".toList.isPrefixOf url.toList || "https://".toList.isPrefixOf url.toList

/-- The findings on an address that webhooks are delivered to. -/
def baseUrlFindings (url : String) : List Finding :=
  findingIf (!isHttpUrl url) (.baseUrlNotHttp url)

/-- The findings on trackers, of which those named in `seen` come before. -/
def trackerFindings (seen : List String) : List TrackerConfig → List Finding
  | [] => []
  | t :: rest =>
    findingIf (!isSlug t.name) (.trackerNotSlug t.name) ++
      findingIf (t.name ∈ seen) (.trackerRepeated t.name) ++
      findingIf (t.plugin.attempts = 0) (.noAttempts t.name) ++
      trackerFindings (t.name :: seen) rest

/-- The findings on variables, each made from a name and the fault of its template. -/
def templateFindings (vars : Vars) (finding : (key fault : String) → Finding) : List Finding :=
  vars.toList.flatMap fun e => ((templateFault checkFunctions e.2).map (finding e.1)).toList

/-- The findings on triggers, of which those named in `seen` come before. -/
def triggerFindings (trackers : List String) (seen : List String) : List Trigger → List Finding
  | [] => []
  | t :: rest =>
    findingIf (t.name ∈ seen) (.triggerRepeated t.name) ++
      findingIf (t.tracker ∉ trackers) (.triggerTrackerUnknown t.name t.tracker) ++
      templateFindings t.vars (.triggerTemplate t.name) ++
      triggerFindings trackers (t.name :: seen) rest

/-- The findings on an action. -/
def actionFindings (trackers : List String) (job : String) (a : Action) : List Finding :=
  findingIf (a.name.tracker ∉ trackers) (.actionTrackerUnknown job a.name) ++
    templateFindings a.vars (.actionTemplate job a.name)

mutual
/-- The findings on a step. -/
def stepFindings (trackers : List String) (job : String) : Step → List Finding
  | .action a => actionFindings trackers job a
  | .branch condition steps =>
    ((conditionFault checkFunctions condition).map (.branchCondition job condition)).toList ++
      stepsFindings trackers job steps

/-- The findings on steps. -/
def stepsFindings (trackers : List String) (job : String) : List Step → List Finding
  | [] => []
  | s :: rest => stepFindings trackers job s ++ stepsFindings trackers job rest
end

/-- The findings on a job. -/
def jobFindings (trackers triggers : List String) (j : Job) : List Finding :=
  findingIf (j.triggerName ∉ triggers) (.jobTriggerUnknown j.name j.triggerName) ++
    findingIf j.steps.isEmpty (.jobWithoutActions j.name) ++
    stepsFindings trackers j.name j.steps

namespace Config

/-- Everything that is wrong with a configuration. -/
def findings (c : Config) : List Finding :=
  let triggerNames := c.triggers.map (·.name)
  baseUrlFindings c.server.baseUrl ++ trackerFindings [] c.trackers ++
    triggerFindings c.trackerNames [] c.triggers ++
    c.jobs.flatMap (jobFindings c.trackerNames triggerNames) ++
    c.triggers.flatMap fun t =>
      findingIf (c.jobs.all (·.triggerName ≠ t.name)) (.triggerUnused t.name)

/-- The findings that keep a configuration from being used. -/
def faults (c : Config) : List Finding :=
  c.findings.filter (·.severity = .error)

/-- The configuration, if nothing keeps it from being used. -/
def check (c : Config) : Outcome Config :=
  match c.faults with
  | [] => .ok c
  | fs => .error (.invalidConfig ("; ".intercalate (fs.map Finding.message)))

end Config
end TicketSync
