import TicketSync.Config.Finding
import TicketSync.Yaml.Resolution

/-! Loading of a configuration: the file has to be there, readable, a YAML document of the right
form, and free of faults. -/
namespace TicketSync

/-- What is found under the name of a file. -/
inductive FileContent where
  | missing
  | unreadable
  | text (s : String)
  deriving DecidableEq, Repr

/-- The text of a file. -/
def FileContent.read : FileContent → Outcome String
  | .missing => .error (.io "No such file or directory (os error 2)")
  | .unreadable => .error (.io "Is a directory (os error 21)")
  | .text s => .ok s

/-- The failure of a document that has not the form asked for. -/
def yamlFailure : Misfit → Failure
  | .form => .yaml "the document has not the form asked for"
  | .actionName text => .yaml (Failure.actionNameMessage text)

/-- The configuration of a YAML text, not yet checked. -/
def Config.ofYaml (text : String) : Outcome Config :=
  (Yaml.decode Config.ofSource? text).mapError yamlFailure

/-- The checked configuration of a file. That no file is there is told as a fault of the
configuration. -/
def Config.load (path : String) (content : FileContent) : Outcome Config :=
  if content = .missing then .error (.invalidConfig (path ++ " does not exist"))
  else do (← Config.ofYaml (← content.read)).check

end TicketSync
