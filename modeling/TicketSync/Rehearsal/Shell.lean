import TicketSync.Dict
import TicketSync.Plugin.Launch
import TicketSync.Text.Quoted

/-!
A small command language for rehearsing plugins that are started by a command: simple commands with
quoted words, variables and redirections, one after the other, and a few programs. What a command
writes to files is its result.
-/
namespace TicketSync.Rehearsal.Shell

/-- A part of a word: text, or a variable. Parts in quotation marks are never split. -/
inductive Part where
  | text (quoted : Bool) (cs : List Char)
  | parameter (quoted : Bool) (name : String)
  deriving Repr

/-- A word or a mark between words. -/
inductive Item where
  | word (parts : List Part)
  | redirect (descriptor : Nat) (appends : Bool)
  | duplicate (descriptor target : Nat)
  | separator
  deriving Repr

/-- Whether a character can stand in the name of a variable. -/
def isNameChar (c : Char) : Bool := c.isAlphanum || c = '_'

/-- A variable behind a dollar sign, with the rest. Without a name the sign stands for itself. -/
def readVariable (quoted : Bool) (cs : List Char) : Part × List Char :=
  match cs with
  | '\x7b' :: rest =>
    (.parameter quoted (String.ofList (rest.takeWhile (· ≠ '\x7d'))),
      (rest.dropWhile (· ≠ '\x7d')).drop 1)
  | c :: rest =>
    if c.isDigit || c = '#' || c = '@' || c = '*' then (.parameter quoted (String.singleton c), rest)
    else if isNameChar c then
      (.parameter quoted (String.ofList (cs.takeWhile isNameChar)), cs.dropWhile isNameChar)
    else (.text quoted ['$'], cs)
  | [] => (.text quoted ['$'], [])

/-- The items so far, with a word that is being read, if any. -/
structure Reading where
  items : List Item := []
  word : Option (List Part) := none

namespace Reading

/-- Adds a part to the word. -/
def part (r : Reading) (p : Part) : Reading := { r with word := some (r.word.getD [] ++ [p]) }

/-- Ends the word. -/
def close (r : Reading) : Reading :=
  match r.word with
  | some parts => ⟨r.items ++ [.word parts], none⟩
  | none => r

/-- Adds a mark. -/
def mark (r : Reading) (i : Item) : Reading := ⟨r.close.items ++ [i], none⟩

/-- Ends the word before a redirection: a single digit is a descriptor. -/
def descriptor (r : Reading) : Nat × Reading :=
  match r.word with
  | some [.text false [c]] =>
    if c.isDigit then (c.toNat - 48, { r with word := none }) else (1, r.close)
  | _ => (1, r.close)

end Reading

/-- The items of a text, reading at most so many pieces. -/
def readItems : Nat → List Char → Reading → List Item
  | 0, _, r => r.close.items
  | _, [], r => r.close.items
  | n + 1, c :: rest, r =>
    match c with
    | ' ' | '\t' => readItems n rest r.close
    | '\n' | ';' => readItems n rest (r.mark .separator)
    | '&' => readItems n (rest.dropWhile (· = '&')) (r.mark .separator)
    | '\'' =>
      readItems n ((rest.dropWhile (· ≠ '\'')).drop 1)
        (r.part (.text true (rest.takeWhile (· ≠ '\''))))
    | '"' => readQuoted n rest (r.part (.text true []))
    | '\\' => readItems n (rest.drop 1) (r.part (.text true (rest.take 1)))
    | '$' =>
      let (p, rest) := readVariable false rest
      readItems n rest (r.part p)
    | '>' =>
      let (d, r) := r.descriptor
      match rest with
      | '>' :: rest => readItems n rest (r.mark (.redirect d true))
      | '&' :: t :: rest => readItems n rest (r.mark (.duplicate d (t.toNat - 48)))
      | rest => readItems n rest (r.mark (.redirect d false))
    | c =>
      match r.word with
      | some parts =>
        match parts.getLast? with
        | some (.text false cs) =>
          readItems n rest { r with word := some (parts.dropLast ++ [.text false (cs ++ [c])]) }
        | _ => readItems n rest (r.part (.text false [c]))
      | none => readItems n rest (r.part (.text false [c]))
where
  /-- The items of a text that begins between quotation marks. -/
  readQuoted : Nat → List Char → Reading → List Item
    | 0, _, r => r.close.items
    | _, [], r => r.close.items
    | n + 1, c :: rest, r =>
      match c, rest with
      | '"', rest => readItems n rest r
      | '\\', c :: rest =>
        let kept := if "\"\\$".toList.contains c || c = Char.ofNat 96 then [c] else ['\\', c]
        readQuoted n rest (r.part (.text true kept))
      | '$', rest =>
        let (p, rest) := readVariable true rest
        readQuoted n rest (r.part p)
      | c, rest => readQuoted n rest (r.part (.text true [c]))

/-- What commands see and leave: variables, arguments and files. -/
structure State where
  bindings : Dict String := .empty
  arguments : List String := []
  files : Dict String := .empty

/-- The value of a variable. -/
def State.value (s : State) (name : String) : String :=
  if name = "#" then toString (s.arguments.length - 1)
  else if name = "@" || name = "*" then " ".intercalate (s.arguments.drop 1)
  else match name.toNat? with
    | some n => s.arguments.getD n ""
    | none => (s.bindings.get? name).getD ""

/-- The fields that a word stands for, and whether the last one is still open. -/
def State.expand (s : State) (parts : List Part) : List String :=
  let add (acc : List String × Option String) (p : Part) : List String × Option String :=
    match p with
    | .text _ cs => (acc.1, some (acc.2.getD "" ++ String.ofList cs))
    | .parameter true "@" =>
      match s.arguments.drop 1 with
      | [] => acc
      | a :: rest =>
        let all := (acc.2.getD "" ++ a) :: rest
        (acc.1 ++ all.dropLast, all.getLast?)
    | .parameter true name => (acc.1, some (acc.2.getD "" ++ s.value name))
    | .parameter false name =>
      let fields := ((s.value name).splitOn " ").filter (· ≠ "")
      match fields with
      | [] => acc
      | f :: rest =>
        let all := (acc.2.getD "" ++ f) :: rest
        (acc.1 ++ all.dropLast, all.getLast?)
  let (done, last) := parts.foldl add ([], none)
  done ++ last.toList

/-- Text with the escapes of a format put in place. -/
def unescape : List Char → List Char
  | '\\' :: 'n' :: rest => '\n' :: unescape rest
  | '\\' :: 't' :: rest => '\t' :: unescape rest
  | '\\' :: '\\' :: rest => '\\' :: unescape rest
  | c :: rest => c :: unescape rest
  | [] => []

/-- A format with its arguments put in place, and the arguments that are left. -/
def fill : List Char → List String → List Char × List String
  | '%' :: '%' :: rest, args =>
    let (cs, args) := fill rest args
    ('%' :: cs, args)
  | '%' :: _ :: rest, args =>
    let (cs, left) := fill rest (args.drop 1)
    ((args.headD "").toList ++ cs, left)
  | c :: rest, args =>
    let (cs, left) := fill rest args
    (c :: cs, left)
  | [], args => ([], args)

/-- A format used as often as there are arguments for it. -/
def format (pattern : List Char) : Nat → List String → List Char
  | 0, _ => []
  | n + 1, args =>
    let (cs, left) := fill pattern args
    if left.isEmpty || left.length = args.length then cs else cs ++ format pattern n left

/-- Programs that can be started. -/
def programs : List String :=
  ["sh", "bash", "true", "false", "sleep", "cat", "echo", "printf", "env", "ls", "pwd", "touch",
   "mkdir", "rm", "cp", "mv", "tee", "test", "date", "id", "head", "tail", "sort", "wc", "yes", "kill"]

/-- What a simple command prints. -/
def printedBy : List String → List Char
  | "echo" :: "-n" :: args => unescape (" ".intercalate args).toList
  | "echo" :: args => unescape (" ".intercalate args).toList ++ ['\n']
  | "printf" :: pattern :: args => format (unescape pattern.toList) (args.length + 1) args
  | _ => []

/-- Where what is printed goes: nowhere that is kept, or to a file. -/
abbrev Target := Option (String × Bool)

/-- Runs a simple command whose output goes to a target. -/
def State.simple (s : State) (words : List String) (target : Target) : State :=
  match target with
  | none => s
  | some (path, appends) =>
    let old := if appends then (s.files.get? path).getD "" else ""
    { s with files := s.files.insert path (old ++ String.ofList (printedBy words)) }

/-- Runs commands one after the other: the words and the target of the one being read, and whether
a redirection waits for its word. -/
def State.run (s : State) : List Item → List String → Target → Option (Nat × Bool) → State
  | [], words, target, _ => s.simple words target
  | .separator :: rest, words, target, _ => (s.simple words target).run rest [] none none
  | .redirect d appends :: rest, words, target, _ => s.run rest words target (some (d, appends))
  | .duplicate 1 _ :: rest, words, _, _ => s.run rest words none none
  | .duplicate _ _ :: rest, words, target, _ => s.run rest words target none
  | .word parts :: rest, words, target, some (d, appends) =>
    let path := (s.expand parts).headD ""
    s.run rest words (if d = 1 then some (path, appends) else target) none
  | .word parts :: rest, words, target, none => s.run rest (words ++ s.expand parts) target none

/-- The name of a program without the directories in which programs are found. -/
def programName (program : String) : String :=
  let cs := program.toList
  let after (directory : String) : Option String :=
    if directory.toList.isPrefixOf cs then some (String.ofList (cs.drop directory.length)) else none
  ((after "/bin/").or (after "/usr/bin/")).getD program

/-- Whether a process can be given all its words: none of them may hold the character of code
zero. -/
def isSpeakable (l : Plugin.Launch) : Bool :=
  (l.program :: l.arguments ++ l.environment.map (·.2)).all fun w => !w.toList.contains '\x00'

/-- Runs a process: the files that it leaves. A program that is not found cannot be started. -/
def run (l : Plugin.Launch) (environment : List (String × String)) : Outcome (Dict String) :=
  let name := programName l.program
  if !isSpeakable l then .error (.io "nul byte found in provided data")
  else if name ∉ programs then .error (.io "No such file or directory (os error 2)")
  else
    match name, l.arguments with
    | "sh", "-c" :: script :: arguments | "bash", "-c" :: script :: arguments =>
      let s : State :=
        { bindings := .ofList (environment ++ l.environment),
          arguments := if arguments.isEmpty then [name] else arguments }
      let cs := script.toList
      .ok (s.run (readItems (2 * cs.length + 1) cs {}) [] none none).files
    | _, _ => .ok .empty

end TicketSync.Rehearsal.Shell
