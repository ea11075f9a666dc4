import OrderedScope.CommandLine.Arguments
import OrderedScope.Text.Quoted

/-!
# Invocations

What the program can be asked to do on its command line: to list the directions, or to explain how a
name is resolved among contexts that are given by reference.
-/

namespace OrderedScope.CommandLine

/-- A **request** to explain a name. What is not given is taken from the settings. -/
structure Request where
  name : String
  contexts : List String
  outer : Option String
  kernel : Option String
  direction : Option String
  private? : Bool
  profile : Option String
  json : Bool
  plain : Bool
deriving DecidableEq, Repr

/-- What the program is asked to do. -/
inductive Invocation where
  | help
  | directions (json plain : Bool)
  | explain (r : Request)
deriving DecidableEq, Repr

/-- Arguments that are refused: the program or the command that refuses them, and why. -/
structure Refusal where
  program : String
  text : String
deriving DecidableEq, Repr

/-- The message of a refusal. -/
def Refusal.message (r : Refusal) : String := r.program ++ ": error: " ++ r.text

/-! ### Grammars -/

def helpSwitch : Switch := ⟨["-h", "--help"], false⟩

def verboseSwitch : Switch := ⟨["-v", "--verbose"], false⟩

def contextSwitch : Switch := ⟨["--context", "-c"], true⟩

def outerSwitch : Switch := ⟨["--outer", "-o"], true⟩

def kernelSwitch : Switch := ⟨["--kernel", "-k"], true⟩

def directionSwitch : Switch := ⟨["--direction", "-d"], true⟩

def privateSwitch : Switch := ⟨["--private"], false⟩

def profileSwitch : Switch := ⟨["--profile", "-p"], true⟩

def jsonSwitch : Switch := ⟨["--json"], false⟩

def plainSwitch : Switch := ⟨["--plain"], false⟩

/-- The name of the program. -/
def programName : String := "symbiosis"

/-- The arguments of the program: its own switches, and a command with all that follows. -/
def programGrammar : Grammar := ⟨programName, [helpSwitch, verboseSwitch], .rest⟩

/-- The arguments of the command that lists the directions. -/
def directionsGrammar : Grammar :=
  ⟨programName ++ " directions", [helpSwitch, jsonSwitch, plainSwitch], .nothing⟩

/-- The arguments of the command that explains a name. -/
def explainGrammar : Grammar :=
  ⟨programName ++ " explain", [helpSwitch, contextSwitch, outerSwitch, kernelSwitch,
    directionSwitch, privateSwitch, profileSwitch, jsonSwitch, plainSwitch], .one "name"⟩

/-! ### Reading -/

namespace Reading

/-- Whether a switch was used. -/
def has (r : Reading) (s : Switch) : Bool := r.used.any fun u => u.1 == s

/-- The texts that were given for a switch, in order. -/
def all (r : Reading) (s : Switch) : List String :=
  (r.used.filter fun u => u.1 == s).map (·.2)

/-- The text that was given last for a switch. -/
def last? (r : Reading) (s : Switch) : Option String := (r.all s).getLast?

end Reading

/-- The request that was read. -/
def Request.ofReading (r : Reading) : Request where
  name := r.operands.headD ""
  contexts := r.all contextSwitch
  outer := r.last? outerSwitch
  kernel := r.last? kernelSwitch
  direction := r.last? directionSwitch
  private? := r.has privateSwitch
  profile := r.last? profileSwitch
  json := r.has jsonSwitch
  plain := r.has plainSwitch

namespace Invocation

/-- Reads arguments by a grammar, and goes on with what was read unless help is asked for. -/
def reading (g : Grammar) (args : List String) (next : Reading → Except Refusal Invocation) :
    Except Refusal Invocation :=
  match g.read Text.quote args with
  | .ok r => next r
  | .error .help => .ok .help
  | .error (.problem text) => .error ⟨g.program, text⟩

/-- An invocation that holds only if nothing was left over. -/
def complete (extras : List String) (i : Invocation) : Except Refusal Invocation :=
  if extras.isEmpty then .ok i
  else .error ⟨programName, "unrecognized arguments: " ++ " ".intercalate extras⟩

/-- **Reads** the arguments of the program. What no command can place is refused by the program
itself. -/
def read (args : List String) : Except Refusal Invocation :=
  reading programGrammar args fun main =>
    match main.operands with
    | [] => complete main.extras .help
    | "directions" :: rest =>
      reading directionsGrammar rest fun r =>
        complete (main.extras ++ r.extras) (.directions (r.has jsonSwitch) (r.has plainSwitch))
    | "explain" :: rest =>
      reading explainGrammar rest fun r =>
        complete (main.extras ++ r.extras) (.explain (Request.ofReading r))
    | other :: _ =>
      .error ⟨programName, "argument command: invalid choice: " ++ Text.quote other
        ++ " (choose from 'directions', 'explain')"⟩

end Invocation

end OrderedScope.CommandLine
