import TicketSync.Store.Query

/-!
The arguments of the program. Options may stand before or after the subcommands that they belong
to. An option is named in full after two dashes or by one letter after one dash; its value follows
as the next argument or in the same one. The file of the configuration and the form of the output
may be given at every level, and the innermost file counts.
-/
namespace TicketSync.CommandLine

/-- What the program is asked to do. -/
inductive Command where
  | serve
  | validate
  | removeWebhooks (tracker : Option String)
  | listSubscriptions (tracker : Option String)
  | getTicket (q : TicketQuery)
  deriving DecidableEq, Repr

/-- A command with the file of the configuration and the form of the output. -/
structure Invocation where
  config : String
  json : Bool
  command : Command
  deriving DecidableEq, Repr

/-- Why arguments are no invocation: they ask for the version of a program or for help, or they are
malformed. -/
inductive Refusal where
  | version (program : String)
  | help
  | malformed (reason : String)
  deriving DecidableEq, Repr

/-- What an option is for. -/
inductive Opt where
  | config
  | json
  | version
  | help
  | tracker
  | id
  deriving DecidableEq, Repr

namespace Opt

/-- Whether a value follows. -/
def takesValue : Opt → Bool
  | config | tracker | id => true
  | json | version | help => false

/-- The full name of an option. -/
def long : Opt → String
  | config => "config"
  | json => "json"
  | version => "version"
  | help => "help"
  | tracker => "tracker"
  | id => "id"

/-- The letter of an option. -/
def short : Opt → Option Char
  | config => some 'c'
  | json => some 'j'
  | version => some 'V'
  | help => some 'h'
  | tracker | id => none

end Opt

/-- The subcommands that have been named so far. -/
inductive Level where
  | top
  | serve
  | validate
  | removeWebhooks
  | subscriptions
  | subscriptionsList
  | ticket
  | ticketGet
  deriving DecidableEq, Repr

namespace Level

/-- The options of a level. -/
def options (l : Level) : List Opt :=
  [.config, .json, .version, .help] ++
    match l with
    | removeWebhooks | subscriptionsList => [.tracker]
    | ticketGet => [.tracker, .id]
    | _ => []

/-- The subcommands of a level. -/
def subcommands : Level → List (String × Level)
  | top => [("serve", serve), ("validate", validate), ("remove-webhooks", removeWebhooks),
      ("subscriptions", subscriptions), ("ticket", ticket)]
  | subscriptions => [("list", subscriptionsList)]
  | ticket => [("get", ticketGet)]
  | _ => []

/-- The name of the program with the subcommands. -/
def program : Level → String
  | top => "tracksync"
  | serve => "tracksync-serve"
  | validate => "tracksync-validate"
  | removeWebhooks => "tracksync-remove-webhooks"
  | subscriptions => "tracksync-subscriptions"
  | subscriptionsList => "tracksync-subscriptions-list"
  | ticket => "tracksync-ticket"
  | ticketGet => "tracksync-ticket-get"

end Level

/-- The options given at a level, with their values. -/
abbrev Given := List (Opt × String)

/-- The value of an option. -/
def Given.value? (g : Given) (o : Opt) : Option String := (g.find? (·.1 = o)).map (·.2)

/-- Whether an option is given. -/
def Given.has (g : Given) (o : Opt) : Bool := g.any (·.1 = o)

/-- Adds an option, which may not be given twice. The file may not have an empty name. Help and
the version are asked for rather than given. -/
def Given.add (l : Level) (g : Given) (o : Opt) (value : String) : Except Refusal Given :=
  if o = .help then .error .help
  else if o = .version then .error (.version l.program)
  else if g.has o then
    .error (.malformed ("the argument '--" ++ o.long ++ "' cannot be used multiple times"))
  else if o = .config && value.isEmpty then
    .error (.malformed "a value is required for '--config' but none was supplied")
  else .ok ((o, value) :: g)

/-- Whether an argument can be the value of the option before it. -/
def isValue (arg : String) : Bool :=
  !arg.startsWith "-" || arg = "-"

/-- The failure of an option without its value. -/
def missingValue (o : Opt) : Refusal :=
  .malformed ("a value is required for '--" ++ o.long ++ "' but none was supplied")

/-- The failure of an argument that has no place. -/
def unexpected (arg : String) : Refusal :=
  .malformed ("unexpected argument '" ++ arg ++ "' found")

/-- What is left to be done after one argument: nothing, or to take the next one as a value. -/
inductive Progress where
  | complete (g : Given)
  | needsValue (o : Opt) (g : Given)

/-- An option by its full name, perhaps with a value behind an equals sign. -/
def readLong (l : Level) (g : Given) (body : List Char) : Except Refusal Progress :=
  let name := body.takeWhile (· ≠ '=')
  match l.options.find? (·.long = String.ofList name), body.dropWhile (· ≠ '=') with
  | none, _ => .error (unexpected ("--" ++ String.ofList body))
  | some o, [] =>
    if o.takesValue then .ok (.needsValue o g) else (g.add l o "").map .complete
  | some o, _ :: value =>
    if o.takesValue then (g.add l o (String.ofList value)).map .complete
    else .error (unexpected ("--" ++ String.ofList body))

/-- Options by their letters. The letters behind one that takes a value are the value. -/
def readShort (l : Level) (g : Given) : List Char → Except Refusal Progress
  | [] => .ok (.complete g)
  | c :: rest =>
    match l.options.find? (·.short = some c) with
    | none => .error (unexpected ("-" ++ String.singleton c))
    | some o =>
      if o.takesValue then
        match rest with
        | [] => .ok (.needsValue o g)
        | '=' :: value => (g.add l o (String.ofList value)).map .complete
        | value => (g.add l o (String.ofList value)).map .complete
      else do readShort l (← g.add l o "") rest

/-- The levels that were gone through, innermost first, with what was given at each. -/
abbrev Levels := List (Level × Given)

/-- The file that counts: the innermost one that is given, else the one of the environment, else
the default. The environment may not name an empty file where a level gives none. -/
def configFile (levels : Levels) (environment : Option String) (default : String) :
    Except Refusal String :=
  if environment = some "" && levels.any fun x => !x.2.has .config then
    .error (missingValue .config)
  else .ok ((levels.findSome? fun x => x.2.value? .config).getD (environment.getD default))

/-- The command of a level that can be carried out. -/
def Level.command (l : Level) (g : Given) : Except Refusal Command :=
  match l with
  | .serve => .ok .serve
  | .validate => .ok .validate
  | .removeWebhooks => .ok (.removeWebhooks (g.value? .tracker))
  | .subscriptionsList => .ok (.listSubscriptions (g.value? .tracker))
  | .ticketGet =>
    match g.value? .tracker, g.value? .id with
    | _, none => .error (.malformed "the argument '--id' was not provided")
    | some tracker, some id => .ok (.getTicket (.locator ⟨tracker, id⟩))
    | none, some id => .ok (.getTicket (.id id))
  | .top | .subscriptions | .ticket => .error (.malformed "a subcommand is required")

/-- Reads the arguments of a level and of those inside it. -/
def readLevels (outer : Levels) (l : Level) (g : Given) : List String → Except Refusal Levels
  | [] => .ok ((l, g) :: outer)
  | arg :: rest =>
    match arg.toList with
    | ['-', '-'] =>
      match rest with
      | [] => .ok ((l, g) :: outer)
      | next :: _ => .error (unexpected next)
    | '-' :: c :: cs => do
      match ← if c = '-' then readLong l g cs else readShort l g (c :: cs) with
      | .complete g => readLevels outer l g rest
      | .needsValue o g =>
        match rest with
        | [] => .error (missingValue o)
        | value :: rest =>
          if isValue value then readLevels outer l (← g.add l o value) rest
          else .error (missingValue o)
    | _ =>
      match l.subcommands.find? (·.1 = arg) with
      | some (_, inner) => readLevels ((l, g) :: outer) inner [] rest
      | none =>
        .error (if arg = "help" && !l.subcommands.isEmpty then .help else unexpected arg)

/-- The invocation that arguments and the environment stand for. -/
def Invocation.parse (args : List String) (environment : Option String) (default : String) :
    Except Refusal Invocation := do
  let levels ← readLevels [] .top [] args
  let command ← match levels with
    | (l, g) :: _ => l.command g
    | [] => .error (.malformed "a subcommand is required")
  return ⟨← configFile levels environment default, levels.any (·.2.has .json), command⟩

end TicketSync.CommandLine
