import OrderedScope.CommandLine.Invocation
import OrderedScope.Display
import OrderedScope.Reference
import OrderedScope.Settings.Layers

/-!
# Outcomes of the Program

What an invocation prints and the exit code it ends with. An explanation ends well exactly if some
context answers the name; a reference, a setting or a context that refuses to be asked is reported
as an error. What fails behind the question ends the program: a label that cannot be made, or a
console that refuses to draw.
-/

namespace OrderedScope.CommandLine

/-- The **outcome** of an invocation. -/
structure Outcome where
  exit : Nat
  output : String
  errors : String
deriving DecidableEq, Repr

/-- The mark that stands for the usage message. -/
def usageMark : String := "<usage>"

/-- The kinds of errors that an explanation reports; others end the program. -/
def reportedKinds : List Kind :=
  [.library, .value, .importing, .attr, .type, .lookup, .notImplemented]

/-- The outcome of an explanation that failed, by the words of the failure. -/
def Outcome.failed (words : String) : Outcome := ⟨1, "", "Error: " ++ words ++ "\n"⟩

/-- The outcome of an explanation that printed a text. -/
def Outcome.explained (resolved : Bool) (output : String) : Outcome :=
  ⟨if resolved then 0 else 1, output, ""⟩

/-- A text that is given and not empty. -/
def given? (s : Option String) : Option String := s.filter fun t => !t.isEmpty

/-- What a reference refers to where one is given, else something else. -/
def loadOr (run : Runner) (ref : Option String) (otherwise : Run Value) : Run Value :=
  match given? ref with
  | some text => Reference.load run text
  | none => otherwise

/-- The resolver that a request asks for. -/
def Request.resolver (run : Runner) (r : Request) : Run Resolver := do
  let settings ← Settings.resolve run (r.profile.elim .none .str) none
  let contexts ← r.contexts.mapM (Reference.load run)
  let outer ← loadOr run r.outer Closure.emptyNamespace
  let kernel ← loadOr run r.kernel (Reference.kernel run (some settings.kernel))
  let body ← Run.newFunction ⟨"_noop", none, .silent (.ret .none), [], []⟩
  let closure ← (← Closure.make run (.fn body) (some outer)).toValue
  let visibility := if r.private? then "private" else settings.visibility
  let direction := (given? r.direction).elim settings.direction.value Value.str
  resolverAt (← Resolver.ofVisibility run (.str visibility) closure
    ⟨contexts, direction, kernel, none⟩)

/-- **Explains** a name. -/
def Request.perform (run : Runner) (r : Request) : Run Outcome := do
  let prepared : Except Outcome (Resolver × List TraceStep) ←
    Run.recover (·.kind.isAny reportedKinds) (do
      let resolver ← r.resolver run
      pure (.ok (resolver, ← resolver.explain run r.name)))
    fun e => do pure (.error (.failed (← e.text run)))
  match prepared with
  | .error outcome => pure outcome
  | .ok (resolver, steps) => do
    let resolved := isResolved steps
    let output ←
      if r.json then do
        let rows ← rowsOf run steps
        pure (indentedText (explanationJson resolver r.name resolved rows) ++ "\n")
      else displayTrace run resolver r.name r.plain steps
    pure (.explained resolved output)

/-- The **outcome** of running the program with some arguments. -/
def perform (run : Runner) (args : List String) : Run Outcome :=
  match Invocation.read args with
  | .error refusal => pure ⟨2, "", refusal.message⟩
  | .ok .help => pure ⟨0, usageMark, ""⟩
  | .ok (.directions true _) => pure ⟨0, indentedText directionsJson ++ "\n", ""⟩
  | .ok (.directions false plain) => do pure ⟨0, ← displayDirections plain, ""⟩
  | .ok (.explain request) => request.perform run

end OrderedScope.CommandLine
