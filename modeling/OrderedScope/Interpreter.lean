import OrderedScope.Session.Execute

/-!
# The Interpreter

The real runner: it calls functions, bodies, hooks, scripts and the library's own functions, and
writes texts. Every call spends one unit of a budget; a task without budget is not done, so the
runner is total, and a run that ends within its budget ends the same way within any larger one.

## Main results

* `runner_succ`: the runner with one more unit.
-/

namespace OrderedScope.Interpreter

/-! ### Bodies and hooks -/

/-- The first argument of a function that needs one. -/
def firstArg (args : List Value) : Run Value :=
  match args with
  | [] => Run.raise .noArgument
  | v :: _ => pure v

/-- Runs the **body** of a function. -/
def runBody (run : Runner) (label : String) (b : Body) (args : List Value) (named : Members) :
    Run Value :=
  match b with
  | .ret e => e.eval
  | .echo => pure (.list [.str label, .list args, .dict named])
  | .raise kind text => Run.raise (.raised kind text)
  | .incr name => do
    let v ← firstArg args
    let sum ← (← Attribute.get run v name).add (.int 1)
    Attribute.set run v name sum
    pure sum
  | .self name => do Attribute.get run (← firstArg args) name
  | .ambient name => do Attribute.get run (← Expr.ambientScope.eval) name
  | .makeFunction label b => newBody label b []

/-- What a hook does with a name that it neither answers nor allows. -/
def runOtherwise (name : String) : Otherwise → Run Value
  | .raise kind text => Run.raise (.raised kind (text.replace "\x7bname\x7d" name))
  | .ret e => e.eval
  | .name => pure (.str name)

/-- Calls a **hook**. It is traced for ordinary names only. -/
def callHook (run : Runner) (label : String) (h : Hook) (args : List Value) : Run Value := do
  match args.getLast? with
  | some (.str name) =>
    if !name.startsWith "__" then Run.note (label ++ ":" ++ name)
    match h.answers.lookup name, h.allow.contains name, args with
    | some e, _, _ => e.eval
    | none, true, v :: _ :: _ => Attribute.standardGet run v name
    | none, _, _ => runOtherwise name h.otherwise
  | _ => Run.raise .noArgument

/-! ### Scripts -/

/-- Performs an **action** with a scope. -/
def act (run : Runner) (scope : Value) : Action → Run Report
  | .get name => do Report.ofValue run (← Attribute.get run scope name)
  | .call name args named => do
    let f ← Attribute.get run scope name
    let args ← Expr.evalList args
    Report.ofValue run (← run (.call f args (← Expr.evalEntries named)))
  | .attempt a => Run.reportAttempt run (act run scope a)
  | .has name => Report.bool <$> Attribute.has run scope name
  | .default name e => do
    let otherwise ← e.eval
    Report.ofValue run ((← Attribute.get? run scope name).getD otherwise)
  | .set name e => do
    Attribute.set run scope name (← e.eval)
    pure .null
  | .delete name => do
    Attribute.delete run scope name
    pure .null
  | .dir => do Session.shownNames <$> Visible.listing run scope
  | .text => do Report.str <$> scope.quotedText run
  | .isCurrent => do
    match ← Expr.ambientScope.eval, scope with
    | .object i, .object j => pure (.bool (i == j))
    | _, _ => pure (.bool false)
  | .resolver => do Report.ofValue run (← Attribute.objectGet run scope "_Scope__trigger")
  | .const e => do Report.ofValue run (← e.eval)
  | .raise kind text => Run.raise (.raised kind text)
  | .helper name => do
    Report.ofValue run (← Attribute.get run (← Expr.ambientScope.eval) name)
  | .stash key => do
    modify fun w => { w with scopes := w.scopes.put key scope }
    pure .null
  | .perform c => Session.execute run c

/-- Calls a **script** with its scope, the last argument. -/
def callScript (run : Runner) (script : List Action) (args : List Value) : Run Value :=
  match args.getLast? with
  | none => Run.raise .noArgument
  | some scope => do
    pure (.list ((← script.mapM (act run scope)).map .report))

/-! ### Hosts -/

/-- The name and the other parameters of a host's method. -/
def hostParameters : HostMethod → List String
  | .evaluate | .evaluatePrivate => ["closure", "direction"]
  | .publicMethod | .privateMethod => ["name", "closure", "direction"]

/-- How many parameters of a host's method must be given, its object among them. -/
def hostRequired : HostMethod → Nat
  | .evaluate | .evaluatePrivate => 1
  | .publicMethod | .privateMethod => 2

/-- The arguments of a host's method by parameter. -/
def hostArguments (shown : String) (m : HostMethod) (args : List Value) (named : Members) :
    Run Members := do
  let refuse {α : Type} (text : String) : Run α :=
    Run.raise (.misuse .type (shown ++ "() " ++ text))
  let parameters := hostParameters m
  let placed : Members := parameters.zip args
  for (name, _) in named do
    if !parameters.contains name then
      refuse ("got an unexpected keyword argument " ++ Text.enclose name)
    if placed.has name then refuse ("got multiple values for argument " ++ Text.enclose name)
  if parameters.length < args.length then
    refuse ("takes from " ++ toString (hostRequired m) ++ " to "
      ++ toString (parameters.length + 1) ++ " positional arguments but "
      ++ toString (args.length + 1) ++ " were given")
  pure (placed ++ named)

/-- Calls a method of a **host**: its object is the only inner context. -/
def callHost (run : Runner) (shown : String) (m : HostMethod) (d : Direction)
    (args : List Value) (named : Members) : Run Value := do
  match args with
  | [] =>
    Run.raise (.misuse .type (shown ++ "() missing 1 required positional argument: 'self'"))
  | self :: rest =>
    let given ← hostArguments shown m rest named
    let closure := (given.find? "closure").getD .none
    let direction := match given.find? "direction" with
      | none | some .none => d.value
      | some v => v
    let evaluation ← match m, given.find? "name" with
      | .evaluate, _ => pure Evaluation.evaluate
      | .evaluatePrivate, _ => pure .evaluatePrivate
      | .publicMethod, some (.str name) => pure (.publicMethod name none)
      | .privateMethod, some (.str name) => pure (.privateMethod name none)
      | _, _ => Run.raise (.misuse .type
          (shown ++ "() missing 1 required positional argument: 'name'"))
    evaluation.inContexts run closure ⟨[self], direction, .none, none⟩

/-! ### Functions of the library -/

/-- The resolver of a scope. -/
def scopeResolver (v : Value) : Run Resolver := do
  match v with
  | .object i =>
    match ← Run.reading (·.payload? i) with
    | some (.scope r) => resolverAt r
    | _ => Run.raise .noArgument
  | _ => Run.raise .noArgument

/-- The label and the reader of a descriptor object. -/
def descriptorParts (v : Value) : Run (String × Option Body) := do
  match v with
  | .object i =>
    match ← Run.reading (·.payload? i) with
    | some (.descriptor label reader) => pure (label, reader)
    | _ => Run.raise .noArgument
  | _ => Run.raise .noArgument

/-- Calls a capsule. -/
def callCapsule (run : Runner) (id : CapsuleId) (args : List Value) (named : Members) :
    Run Value := do
  (← capsuleAt id).call run args ((named.find? "direction").getD .none)

/-- Calls a **function of the library**. -/
def callLibrary (run : Runner) (f : LibraryFunction) (args : List Value) (named : Members) :
    Run Value := do
  match f, args with
  | .scopeGet, [scope, .str name] => do (← scopeResolver scope).member run name
  | .scopeSet, _ :: .str name :: _ => Run.raise (.readOnlyScope "set" name)
  | .scopeDelete, _ :: .str name :: _ => Run.raise (.readOnlyScope "delete" name)
  | .scopeDir, [scope] => do
    pure (.list ((← (← scopeResolver scope).scopeNames run).map .str))
  | .descriptorGet, v :: rest => do
    let (label, reader) ← descriptorParts v
    Run.note label
    match reader with
    | some b => runBody run label b rest named
    | none => pure .none
  | .descriptorSet, v :: _ => do
    Run.note ((← descriptorParts v).1 ++ "!set")
    pure .none
  | .descriptorDelete, v :: _ => do
    Run.note ((← descriptorParts v).1 ++ "!delete")
    pure .none
  | .closureCall, v :: rest => do
    match Closure.parts? (← get) v with
    | some c => run (.call c.fn rest named)
    | none => Run.raise .noArgument
  | .closureWrap, [_, v] => do (← Closure.wrap run v).toValue
  | .capsuleCall, .capsule i :: rest => callCapsule run i rest named
  | .callableCall, .object i :: rest => do
    match ← Run.reading (·.payload? i) with
    | some (.callable script) => callScript run script rest
    | _ => Run.raise .noArgument
  | .scopeText, [v] | .closureText, [v] | .capsuleText, [v] | .callableText, [v]
  | .resolverText, [v] | .directionText, [v] => Value.str <$> Label.standardText run [] v
  | _, _ => Run.raise .noArgument

/-! ### Calls -/

/-- Calls a **function** of the world. -/
def callFunction (run : Runner) (i : FunctionId) (args : List Value) (named : Members) :
    Run Value := do
  match (← Run.reading (·.functions))[i]? with
  | none => Run.raise (.noKey (toString i))
  | some f =>
    match f.code with
    | .body label b => do
      Run.note label
      runBody run label b args named
    | .silent b => runBody run f.name b args named
    | .mark label => do
      Run.note label
      pure .none
    | .hook label h => callHook run label h args
    | .script script => callScript run script args
    | .host m d => callHost run f.name m d args named

/-- What an instance of a class below the texts, the tuples or the lists takes over of the arguments
that it is made with, as a text or a tuple. A list is filled when it starts. -/
def takenOver (run : Runner) (c : ClassRef) (starts : Bool) (args : List Value) :
    Run (Option Value) := do
  let w ← get
  let below (n : NativeClass) := w.isSubclass c (.native n)
  match args with
  | [] => pure (some .none)
  | [v] =>
    if below .str then do pure (some (.str (← v.plainText run)))
    else if below .tuple || below .list && !starts then do pure (some (.tuple (← v.items)))
    else pure none
  | _ => pure none

/-- What an instance carries that takes over a text or a tuple. -/
def carrying : Value → Payload
  | .str s => .text s
  | .tuple items => .items items
  | _ => .plain

/-- Makes an **instance** of a class of the world. -/
def newInstance (run : Runner) (c : ClassRef) (args : List Value) (named : Members) :
    Run Value := do
  let w ← get
  let start? := match w.typeMember? c "__init__" with
    | none | some (.nativeMember ..) => none
    | some start => some start
  let taken ← takenOver run c start?.isSome args
  let make : Run Value := Run.newObject
    ⟨none, c, if Build.isOpen w c then some [] else none, [], carrying (taken.getD .none)⟩
  match start? with
  | none =>
    if taken.isSome && named.isEmpty then make
    else Run.raise (.misuse .type (w.className c ++ "() takes no arguments"))
  | some start => do
    let v ← make
    let f ← Attribute.bind run start (some v) c
    let _ ← run (.call f args named)
    pure v

/-- A text with an upper-case letter at the start of each word and lower-case ones behind it. -/
def titled (cs : List Char) : List Char :=
  (cs.foldl (fun (done, inWord) c =>
    ((if inWord then c.toLower else c.toUpper) :: done, c.isAlpha)) ([], false)).1.reverse

/-- The item of a table under a key that need not be a text. -/
def tableItem (entries : Members) (key : Value) : Run Value := do
  match key with
  | .str name => (Value.dict entries).itemAt name
  | _ =>
    if key.isHashable then Run.raise (.noItem key)
    else Run.raise (.unhashable (← classNameOf key))

/-- Calls a method of a native class: a growing list grows, a table is asked for an item, and a text
is written in other letters. -/
def callNativeMethod (name : String) (self : Value) (args : List Value) : Run Value :=
  match name, self, args with
  | "append", .growing i, [v] => do
    modify fun w => { w with growing := w.growing.modify i (· ++ [v]) }
    pure .none
  | "__getitem__", .dict entries, [key] => tableItem entries key
  | "__len__", .object i, [] => do
    match ← Run.reading (·.heldItems? (.object i)) with
    | some items => pure (.int items.length)
    | none => Run.raise (.misuse .notImplemented name)
  | "title", .str s, [] => pure (.str (String.ofList (titled s.toList)))
  | "upper", .str s, [] => pure (.str (s.map Char.toUpper))
  | "lower", .str s, [] => pure (.str (s.map Char.toLower))
  | _, .str _, _ :: _ => Run.raise (.misuse .type
      ("str." ++ name ++ "() takes no arguments (" ++ toString args.length ++ " given)"))
  | _, _, _ => Run.raise (.misuse .notImplemented name)

/-- The error of a value that cannot be called. -/
def notCallable {α : Type} (v : Value) : Run α := do
  Run.raise (.notCallable (← classNameOf v))

/-- Calls a value through the member by which its class makes it callable. -/
def callByClass (run : Runner) (v : Value) (args : List Value) (named : Members) : Run Value := do
  let c ← Run.reading (·.classOf v)
  match ← Run.reading (·.typeMember? c "__call__") with
  | none | some (.nativeMember ..) => notCallable v
  | some member => do run (.call (← Attribute.bind run member (some v) c) args named)

/-- **Calls** a value. -/
def call (run : Runner) (f : Value) (args : List Value) (named : Members) : Run Value := do
  match f, args with
  | .fn i, _ => callFunction run i args named
  | .libFn g, _ => callLibrary run g args named
  | .bound g self, _ => run (.call g (self :: args) named)
  | .staticMethod i, _ => run (.call (.fn i) args named)
  | .nativeFn name, _ => Kernel.call run name args
  | .nativeMethod name self, _ => callNativeMethod name self args
  | .nativeMember _ _ name, self :: rest => run (.call (.nativeMethod name self) rest named)
  | .capsule i, _ => callCapsule run i args named
  | .cls c, _ =>
    match ← Run.reading fun w => w.typeMember? (w.metaclassOf c) "__call__", c with
    | none, .world _ | some (.nativeMember ..), .world _ => newInstance run c args named
    | none, .native n | some (.nativeMember ..), .native n =>
      Run.raise (.misuse .type ("cannot create " ++ Text.quote n.fullName ++ " instances"))
    | some _, _ => callByClass run f args named
  | .object i, _ =>
    match ← Run.reading (·.payload? i) with
    | some (.partialCall g) => run (.call g args named)
    | _ => callByClass run f args named
  | _, _ => callByClass run f args named

/-! ### The runner -/

/-- Does one **task**, and leaves the tasks within it to a runner. -/
def perform (run : Runner) : Task → Run Value
  | .call f args named => call run f args named
  | .text active v => Label.text run active v

/-- The **runner** of a budget. -/
def runner : Nat → Runner
  | 0 => fun _ => throw .exhausted
  | budget + 1 => fun task => perform (runner budget) task

/-- One more unit does **one task more**. -/
theorem runner_succ (budget : Nat) (task : Task) :
    runner (budget + 1) task = perform (runner budget) task := rfl

end OrderedScope.Interpreter
