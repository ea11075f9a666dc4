import OrderedScope.World

/-!
# Runs

A run reads and changes a world and ends with a value, with an error, or without an answer because
its budget is spent. What a failed run has changed stays changed. What a run logs is put out beside
its end and is in no world, so no run depends on what was logged before it.

Code of the world calls code of the world to any depth. The functions of this library do not
recurse into it: they take a **runner**, which does one task, and hand it everything that may run
code. What holds for every runner holds for the real one, which is built from a budget in
`OrderedScope.Interpreter`.
-/

namespace OrderedScope

/-- How a run can **fail**: by an error, or because the budget of nested calls is spent. No handler
sees the second. -/
inductive Fault where
  | raised (e : Error)
  | exhausted

/-- What a computation gives, and the messages that it **logged**, first to last. -/
structure Logging (α : Type) where
  value : α
  messages : List (LogLevel × String)

instance : Monad Logging where
  pure a := ⟨a, []⟩
  bind x f :=
    let y := f x.value
    ⟨y.value, x.messages ++ y.messages⟩

instance : LawfulMonad Logging :=
  LawfulMonad.mk' Logging (fun _ => by simp [Functor.map]) (fun _ _ => by simp [bind, pure])
    (fun _ _ _ => by simp [bind])

/-- A **run** that gives an `α`. -/
abbrev Run (α : Type) := ExceptT Fault (StateT World Logging) α

/-- A **task** that may run code of the world. -/
inductive Task where
  /-- Calls a value. -/
  | call (f : Value) (args : List Value) (named : Members)
  /-- Gives the text of a value; `active` are the objects whose text is being written. -/
  | text (active : List ObjectId) (v : Value)

/-- A **runner** of tasks. -/
abbrev Runner := Task → Run Value

namespace Run

/-- How a run **ends** from a world, and the world then. What it logged is left aside. -/
def outcome {α : Type} (x : Run α) (w : World) : Except Fault α × World := (x w).value

/-- Fails with an error. -/
def raise {α : Type} (e : Error) : Run α := throw (.raised e)

/-- Handles the errors of a run that satisfy a condition. -/
def recover {α : Type} (handled : Error → Bool) (x : Run α) (handler : Error → Run α) : Run α :=
  tryCatch x fun
    | .raised e => if handled e then handler e else throw (.raised e)
    | .exhausted => throw .exhausted

/-- Turns an error into a value. -/
def attempt {α : Type} (x : Run α) : Run (Except Error α) :=
  recover (fun _ => true) (Except.ok <$> x) fun e => pure (.error e)

/-- Turns a missing attribute into `none`. -/
def optional {α : Type} (x : Run α) : Run (Option α) :=
  recover (·.isA .attr) (some <$> x) fun _ => pure none

/-- Does something after a run however it ends. -/
def ensuring {α : Type} (x : Run α) (cleanUp : Run Unit) : Run α := do
  let a ← tryCatch x fun f => do
    cleanUp
    throw f
  cleanUp
  pure a

/-- A reading of the world. -/
def reading {α : Type} (f : World → α) : Run α := f <$> get

/-- Appends a label to the trace of the code that was run. -/
def note (label : String) : Run Unit := modify fun w => { w with trace := label :: w.trace }

/-- Whether messages of a level are logged. -/
def logs (level : LogLevel) : Run Bool :=
  reading fun w =>
    match w.logLevel, level with
    | some .debug, _ | some .warning, .warning => true
    | _, _ => false

/-- Puts out a message. -/
def tell (level : LogLevel) (text : String) : Run Unit :=
  ExceptT.mk fun w => ⟨(.ok (), w), [(level, text)]⟩

/-- Logs a message if its level is logged; only then the message is made. A message that cannot be
made is not logged. -/
def logText (level : LogLevel) (message : Unit → Run String) : Run Unit := do
  if ← logs level then
    match ← attempt (message ()) with
    | .ok text => tell level text
    | .error _ => pure ()

/-- Logs a message if its level is logged. -/
def log (level : LogLevel) (message : String) : Run Unit := logText level fun _ => pure message

/-- Adds a function to the world. -/
def newFunction (f : FunctionRec) : Run FunctionId := do
  let (i, w) := (← get).addFunction f
  set w
  pure i

/-- Adds an object to the world. -/
def newObject (o : ObjectRec) : Run Value := do
  let (v, w) := (← get).addObject o
  set w
  pure v

end Run

end OrderedScope
