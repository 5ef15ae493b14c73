import TicketSync.Failure

/-!
Plugins that the engine starts itself. The first word of the command is the program, the others are
its arguments; the plugin learns from its environment where to listen.
-/
namespace TicketSync.Plugin

/-- The environment variable that tells a plugin where to listen. -/
def addressVariable : String := "TRACKSYNC_PLUGIN_ADDR"

/-- A process to start: a program with arguments, and what is added to its environment. -/
structure Launch where
  program : String
  arguments : List String
  environment : List (String × String)
  deriving DecidableEq, Repr

/-- The process of a tracker's plugin. A command has at least one word. -/
def Launch.ofCommand (tracker address : String) : List String → Outcome Launch
  | [] => .error (.invalidConfig ("tracker '" ++ tracker ++ "' has an empty command"))
  | program :: arguments =>
    .ok { program, arguments, environment := [(addressVariable, address)] }

end TicketSync.Plugin
