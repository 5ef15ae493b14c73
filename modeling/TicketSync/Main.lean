import TicketSync.CommandLine.Report

/-!
The program: it reads the file of the configuration and the file that keeps the store, carries out
the invocation, prints the report and writes the store back. It runs where no network is, so no
tracker can be reached.
-/
namespace TicketSync.CommandLine

/-- What is found under the name of a file. -/
def contentOf (path : String) : IO FileContent := do
  try
    return .text (← IO.FS.readFile path)
  catch
    | .noFileOrDirectory .. => return .missing
    | _ => return .unreadable

/-- The name of the file that a configuration keeps its store in, if it is on disk. -/
def storePath (path : String) (content : FileContent) : Option String :=
  match Config.load path content with
  | .ok c =>
    match c.store with
    | .disk path => some path
    | .memory => none
  | .error _ => none

/-- A machine without a network, with two files. -/
def offlineHost (config store : FileContent) : Host Unit where
  file _ := config
  disk _ := storeIn store
  launch l := .error (.io ("cannot start " ++ l.program))
  dial := dialOffline
  bind _ := .error (.io unreachable)
  surroundings := ⟨.standard .empty, noTrackers, toString, toString, fun _ => default⟩
  trackers := ()

/-- Carries out an invocation on the machine. -/
def carryOut (i : Invocation) : IO Report := do
  let config ← contentOf i.config
  let store ← match storePath i.config config with
    | some path => contentOf path
    | none => pure .missing
  return perform (offlineHost config store) i

/-- The name of the directory that a file is in, if the file's name tells one. -/
def directoryOf (path : String) : Option String :=
  let directory := ((path.toList.reverse.dropWhile (· ≠ '/')).drop 1).reverse
  if directory.isEmpty then none else some (String.ofList directory)

/-- Keeps a store in a file, whose directory is made if it is not there. -/
def keepStore (path : String) (store : DiskStore) : IO Unit := do
  if let some directory := directoryOf path then IO.FS.createDirAll directory
  IO.FS.writeFile path store.save

/-- Prints a report and keeps the store that it leaves. -/
def publish (r : Report) : IO UInt32 := do
  if let some (path, store) := r.saved then keepStore path store
  IO.print r.output
  IO.eprint r.errors
  return r.exit.toUInt32

end TicketSync.CommandLine

open TicketSync CommandLine

/-- Carries out the invocation of the arguments, and exits as the report says. -/
def main (args : List String) : IO UInt32 := do
  match parse args (← IO.getEnv configVariable) with
  | .ok i => publish (← carryOut i)
  | .error r => publish r
