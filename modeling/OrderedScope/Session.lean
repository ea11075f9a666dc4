import OrderedScope.Interpreter

/-!
# Sessions

A session builds a world and executes commands in it, one after the other. A command that fails
leaves what it has changed; the next one is executed all the same. Each entry of a session holds
what the command reported or how it failed, the trace of the code it ran, and what it logged.
-/

namespace OrderedScope

/-- The **entry** of a command: its fields, the labels of the code it ran, and what it logged if the
world keeps a log. -/
structure Entry where
  fields : List (String × Report)
  trace : List String
  logged : Option (List (LogLevel × String))

namespace Session

/-- The budget of nested calls. -/
def budget : Nat := 1000

/-- The runner of a session. -/
def runner : Runner := Interpreter.runner budget

/-- The error of a run whose budget is spent. -/
def depthError : Error := .misuse .recursion "maximum recursion depth exceeded"

/-- The fields of an error. -/
def failureFields (e : Error) : Run (List (String × Report)) := do
  match ← e.report runner with
  | .record fields => pure fields
  | _ => pure []

/-- What a command gives, as the fields of its entry. -/
def outcomeFields (c : Command) : Run (List (String × Report)) :=
  tryCatch (do pure [("ok", ← execute runner c)]) fun
    | .raised e => failureFields e
    | .exhausted => failureFields depthError

/-- The **entry** of a command, and the world after it. -/
def entry (c : Command) (w : World) : Entry × World :=
  let ⟨(fields, after), logged⟩ := outcomeFields c { w with trace := [] }
  let fields := match fields with
    | .ok fields => fields
    | .error _ => []
  (⟨fields, after.trace.reverse, after.logLevel.map fun _ => logged⟩, after)

/-- The entries of some commands, each executed in the world that the one before it left. -/
def entries : List Command → World → List Entry
  | [], _ => []
  | c :: rest, w =>
    let (e, after) := entry c w
    e :: entries rest after

/-- The **world** that a description describes. -/
def start (d : WorldDecl) : World := ((Build.world runner d).outcome World.empty).2

/-- **Runs** a session. -/
def run (d : WorldDecl) (commands : List Command) : List Entry := entries commands (start d)

end Session

end OrderedScope
