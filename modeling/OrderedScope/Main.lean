import OrderedScope.Session

/-!
# The Program

The command line of the library: lists the directions, or explains how a name is resolved among the
modules that can be referred to. Settings are read from the current directory and those above it.
-/

namespace OrderedScope

/-- The directories from the root down to a path. -/
def directoriesTo (path : List String) : List (List String) :=
  (List.range (path.length + 1)).map path.take

/-- The settings files that stand in some directories. -/
def readSettings (directories : List (List String)) : IO (List (List String × String)) := do
  let mut found := []
  for d in directories do
    for name in [Settings.fileName, Settings.localFileName] do
      let path := "/" ++ "/".intercalate (d ++ [name])
      match ← (IO.FS.readFile path).toBaseIO with
      | .ok text => found := found ++ [(d ++ [name], text)]
      | .error _ => pure ()
  return found

/-- The program in a tree of files: its outcome, or the message of an error that ends it. -/
def runProgram (files : FileTree) (args : List String) : Except String CommandLine.Outcome :=
  let start := { World.empty with files := files }
  match ((CommandLine.perform Session.runner args).outcome start).1 with
  | .ok outcome => .ok outcome
  | .error (.raised e) => .error (e.kind.className ++ ": " ++ e.message)
  | .error .exhausted => .error Session.depthError.message

end OrderedScope

/-- Runs the program with the arguments of the command line. -/
def main (args : List String) : IO UInt32 := do
  let here := OrderedScope.Build.pathParts (← IO.currentDir).toString
  let files ← OrderedScope.readSettings (OrderedScope.directoriesTo here)
  match OrderedScope.runProgram ⟨files, [], here⟩ args with
  | .ok outcome =>
    IO.print outcome.output
    IO.eprint outcome.errors
    return outcome.exit.toUInt32
  | .error message =>
    IO.eprintln message
    return 1
