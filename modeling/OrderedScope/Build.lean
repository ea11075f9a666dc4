import OrderedScope.Expression
import OrderedScope.Resolution

/-!
# Building Worlds

A world is built from its description in a fixed order: modules by name, classes, objects, the
members of the modules, additions to the kernel module, and closures. Every part may refer to what
exists already.
-/

namespace OrderedScope

namespace HostMethod

/-- All methods of a host. -/
def all : List HostMethod := [evaluate, evaluatePrivate, publicMethod, privateMethod]

/-- The name of a method of a host. -/
def name : HostMethod → String
  | evaluate => "evaluate"
  | evaluatePrivate => "evaluate_private"
  | publicMethod => "public_method"
  | privateMethod => "private_method"

end HostMethod

namespace Build

/-! ### Functions and members -/

/-- A new function of the world without attributes. -/
def function (name : String) (code : Code) : Run FunctionId :=
  Run.newFunction ⟨name, some worldHome, code, [], []⟩

/-- The object of a member that takes control of access itself. -/
def descriptor (label : String) (get : Option Body) (set delete : Bool) : Run Value :=
  Run.newObject ⟨none, .native (.descriptor get.isSome set delete), some [], [],
    .descriptor label get⟩

/-- A **member** of a class under a label. A computed member keeps the name under which it stands
when its class is made. -/
def member (run : Runner) (label : String) (firstName : Option String) (m : MemberDecl) :
    Run Value := do
  let raw ← match m.shape with
    | .value e => e.eval
    | .method b => Value.fn <$> function label (.body label b)
    | .static b => Value.staticMethod <$> function label (.body label b)
    | .classMethod b => do pure (.classMethod (.fn (← function label (.body label b))))
    | .property getter hasSetter => do
      let g ← match getter with
        | some b => some <$> function label (.body label b)
        | none => pure none
      let s ← if hasSetter then some <$> function label (.mark (label ++ "!set")) else pure none
      pure (.property g s firstName)
    | .descriptor get set delete => descriptor label get set delete
  if m.restricted then Attribute.restrict run raw
  pure raw

/-- The members of a class of a given name. -/
def members (run : Runner) (className : String) (ms : List MemberDecl) : Run Members :=
  ms.mapM fun m => do
    pure (m.name, ← member run (className ++ "." ++ m.name) (some m.name) m)

/-- A hook of a class or a module. -/
def hook (owner name : String) (wrapped : Bool) (h : Hook) : Run (String × Value) := do
  let label := owner ++ "." ++ name
  let f ← function label (.hook label h)
  pure (name, if wrapped then .staticMethod f else .fn f)

/-! ### Classes -/

/-- The class that a base stands for; a host class is made anew. -/
def hostClass (direction : Direction) : Run ClassRef := do
  let shown := "Context[" ++ direction.name ++ "]"
  let methods ← HostMethod.all.mapM fun m => do
    let qualified := "context_mixin.<locals>.ContextMixin." ++ m.name
    let f ← Run.newFunction
      ⟨qualified, some "symbiosis.context", .host m direction, [], []⟩
    pure (m.name, Value.fn f)
  let c : ClassRef := .world (← Run.reading (·.classes.size))
  modify fun w => { w with classes := w.classes.push {
    name := shown
    home := "symbiosis.context"
    metaclass := .native .type
    line := [c, .native .object]
    bases := [.native .object]
    members := [("__module__", Value.str "symbiosis.context"), ("__slots__", Value.tuple [])]
      ++ methods ++ [("default_direction", direction.value),
        ("__doc__", Value.none)]
    open? := false } }
  pure c

/-- The class that a base stands for. -/
def base (run : Runner) : BaseDecl → Run ClassRef
  | .named name => do
    match ← Run.reading (·.findClass? name) with
    | some c => pure c
    | none => Run.raise (.noKey name)
  | .classes => pure (.native .type)
  | .host direction => do hostClass (← Direction.coerce run (← direction.eval))

/-- The metaclass of a class: the given one, or one of a base that stands below it. -/
def metaclass (w : World) (given : ClassRef) (bases : List ClassRef) : ClassRef :=
  bases.foldl (fun best b =>
    let m := w.metaclassOf b
    if w.isSubclass best m then best else if w.isSubclass m best then m else best) given

/-- Whether the instances of a class hold attributes of their own. -/
def isOpen (w : World) : ClassRef → Bool
  | .native c => c == .type || c == .space
  | .world i => (w.classes[i]?).elim false (·.open?)

/-- Puts the members of a table into another, in order. -/
def merge (m more : Members) : Members := more.foldl (fun m e => m.put e.1 e.2) m

/-- Adds the members that are not held yet. -/
def complete (own more : Members) : Members := own ++ more.filter fun e => !own.has e.1

/-- What a class holds that has a say in equality and not in hashing: its instances have no hash. -/
def withoutHash (own : Members) : Members :=
  if own.has "__eq__" && !own.has "__hash__" then [("__hash__", .none)] else []

/-- Makes a **class**. -/
def addClass (run : Runner) (d : ClassDecl) : Run Unit := do
  let named ← d.bases.mapM (base run)
  let bases := if named.isEmpty then [.native .object] else named
  let given ← match d.metaclass with
    | some name => base run (.named name)
    | none => pure (.native .type)
  let own ← members run d.name d.members
  let back ← d.fallbackHook.toList.mapM (hook d.name "__getattr__" d.wrappedHook)
  let front ← d.frontHook.toList.mapM (hook d.name "__getattribute__" false)
  let text ← d.text.toList.mapM fun b => do
    pure ("__repr__", Value.fn (← function (d.name ++ ".__repr__") (.silent b)))
  let w ← get
  let i := w.classes.size
  let self : ClassRef := .world i
  let above := bases.any (isOpen w)
  let opened := above || d.slots.isNone
  let slots := (d.slots.getD []).map fun s => (s, Value.slot i s)
  let slotList := d.slots.elim [] fun names =>
    [("__slots__", Value.tuple (names.map Value.str))]
  let table := if opened && !above then
      [("__dict__", Value.nativeMember self .getset "__dict__"),
        ("__weakref__", Value.nativeMember self .getset "__weakref__")]
    else []
  set { w with classes := w.classes.push {
    name := d.name
    home := worldHome
    metaclass := metaclass w given bases
    line := (linearize self (bases.map fun b => (b, w.lineOf b))).getD [self, .native .object]
    bases := bases
    members := complete (merge [("__module__", Value.str worldHome)] (own ++ back ++ front ++ text
      ++ slotList ++ slots)) (table ++ [("__doc__", Value.none)] ++ withoutHash own)
    open? := opened } }

/-! ### Objects and modules -/

/-- Fills a slot of an object. -/
def fillSlot (v : Value) (c : ClassRef) (name : String) (x : Value) : Run Unit := do
  match ← Run.reading (·.typeMember? c name) with
  | some (.slot owner slot) => Attribute.updateSlot owner slot v (some x)
  | _ => Run.raise (.bareAttribute name)

/-- Makes an **object**. -/
def addObject (run : Runner) : ObjectDecl → Run Unit
  | .new id className attrs slots => do
    let c ← base run (.named className)
    let own ← Expr.evalEntries attrs
    let opened ← Run.reading (isOpen · c)
    let v ← Run.newObject
      ⟨some id, c, if opened then some (merge [] own) else none, [], .plain⟩
    for (name, e) in slots do
      fillSlot v c name (← e.eval)
  | .space id fields => do
    let own ← Expr.evalEntries fields
    let _ ← Run.newObject ⟨some id, .native .space, some (merge [] own), [], .plain⟩

/-- The members that every module has. -/
def moduleMembers (name : String) : Members :=
  [("__name__", .str name), ("__doc__", .none), ("__package__", .none), ("__loader__", .none),
    ("__spec__", .none)]

/-- The module of a name, made if there is none. -/
def moduleNamed (name : String) : Run ModuleId := do
  let w ← get
  match w.findModule? name with
  | some i => pure i
  | none => do
    set { w with modules := w.modules.push ⟨name, moduleMembers name⟩ }
    pure w.modules.size

/-- Fills a **module**. -/
def addModule (d : ModuleDecl) : Run Unit := do
  let i ← moduleNamed d.name
  let hooks ← d.hook.toList.mapM (hook d.name "__getattr__" false)
  let own ← Expr.evalEntries d.members
  modify fun w => { w with modules := w.modules.modify i fun m =>
    let named := if d.nameless then m.members.erase "__name__" else m.members
    { m with members := merge named (hooks ++ own) } }

/-! ### Closures -/

/-- A function with some layers of partial calls around it. -/
def partialLayers : Nat → Value → Run Value
  | 0, fn => pure fn
  | depth + 1, fn => do
    let inner ← partialLayers depth fn
    Run.newObject ⟨none, .native .partialCall, some [], [], .partialCall inner⟩

/-- What is **deferred**. -/
def deferred (run : Runner) : Deferred → Run Value
  | .plain id home script =>
    Value.fn <$> Run.newFunction ⟨id, home, .script script, [], []⟩
  | .method id home script self => do
    let f ← Run.newFunction ⟨id, home, .script script, [], []⟩
    pure (.bound (.fn f) (← self.eval))
  | .capturing id home script captured content => do
    let cell ← match content with
      | some e => some <$> e.eval
      | none => pure none
    Value.fn <$> Run.newFunction ⟨id, home, .script script, [(captured, cell)], []⟩
  | .partialCall of depth => do partialLayers depth (← deferred run of)
  | .callable home script self => do
    let receiver ← match self with
      | some e => do pure [("__self__", ← e.eval)]
      | none => pure []
    Run.newObject ⟨none, .native .callable,
      some ([("__module__", home.elim .none .str)] ++ receiver), [], .callable script⟩
  | .builtin name => pure (.nativeFn name)
  | .append => do
    let i ← Run.reading (·.growing.size)
    modify fun w => { w with growing := w.growing.push [] }
    pure (.nativeMethod "append" (.growing i))
  | .capsule id => do
    required id (← Run.reading fun w => (w.keptCapsules.lookup id).map .capsule)
  | .closure id => (Expr.closure id).eval
  | .value e => e.eval

/-- A **closure** as a value: a raw one is what is deferred, and nothing more. -/
def closureValue (run : Runner) (fn : Deferred) (outer : Option Expr) (raw : Bool) :
    Run Value := do
  let f ← deferred run fn
  if raw then pure f
  else
    let context ← match outer with
      | some e => some <$> e.eval
      | none => pure none
    (← Closure.make run f context).toValue

/-- Keeps a closure of the world under its id. -/
def addClosure (run : Runner) (d : ClosureDecl) : Run Unit := do
  let v ← closureValue run d.fn d.outer d.raw
  modify fun w => { w with closures := w.closures.put d.id v }

/-! ### Worlds -/

/-- The parts of a path. -/
def pathParts (path : String) : List String :=
  (path.splitOn "/").filter fun part => part != "" && part != "."

/-- The modules that hold the classes of this library. -/
def libraryModules : List String :=
  ["symbiosis.isolator", "symbiosis.closure", "symbiosis.context", "symbiosis.direction",
    "symbiosis.trigger.base"]

/-- Builds a **world**. -/
def world (run : Runner) (d : WorldDecl) : Run Unit := do
  for name in libraryModules do
    let _ ← moduleNamed name
  for name in d.moduleNames do
    let _ ← moduleNamed name
  for c in d.classes do addClass run c
  for o in d.objects do addObject run o
  for m in d.modules do addModule m
  let additions ← Expr.evalEntries d.builtins
  modify fun w => w.mapAttrs (.module World.kernelModule) (merge · additions)
  for c in d.closures do addClosure run c
  modify fun w => { w with
    files := ⟨d.files.map fun (path, text) => (pathParts path, text),
      d.directories.map pathParts, pathParts d.current⟩
    logLevel := d.log
    trace := [] }

end Build

end OrderedScope
