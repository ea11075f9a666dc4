import OrderedScope.Object.Collection

/-!
# The Attribute Protocol

How a value answers a name. A member of the class that takes control of reading and writing comes
first, then what the value holds itself, then the other members of the class, bound to the value. A
class answers from its own resolution line, and its metaclass plays the part of its class. A hook of
the class can stand in front of all this, or behind it for names that have no attribute.
-/

namespace OrderedScope

namespace World

/-- Whether a member takes control of being read. -/
def controlsRead (w : World) (raw : Value) : Bool :=
  (w.typeMember? (w.classOf raw) "__get__").isSome

/-- Whether a member takes control of being written or deleted. -/
def controlsWrite (w : World) (raw : Value) : Bool :=
  (w.typeMember? (w.classOf raw) "__set__").isSome
    || (w.typeMember? (w.classOf raw) "__delete__").isSome

/-- Whether a value can be called. -/
def isCallable (w : World) (v : Value) : Bool :=
  (w.typeMember? (w.classOf v) "__call__").isSome

/-- The name that a function shows. -/
def functionName (w : World) (i : FunctionId) : String := (w.functions[i]?).elim "" (·.name)

/-- The value in a slot of an object. -/
def slotValue? (w : World) (i : ObjectId) (owner : Nat) (name : String) : Option Value :=
  (w.objects[i]?).bind fun o => o.slots.lookup (owner, name)

end World

/-- The name that a function of the library shows. -/
def LibraryFunction.name : LibraryFunction → String
  | scopeGet => "Scope.__getattr__"
  | scopeSet => "Scope.__setattr__"
  | scopeDelete => "Scope.__delattr__"
  | scopeDir => "Scope.__dir__"
  | scopeText => "Scope.__repr__"
  | scopeInit => "Scope.__init__"
  | descriptorGet => "Descr.__get__"
  | descriptorSet => "Descr.__set__"
  | descriptorDelete => "Descr.__delete__"
  | closureCall => "Closure.__call__"
  | closureWrap => "Closure.wrap"
  | closureText => "Closure.__repr__"
  | capsuleCall => "Isolator.__call__"
  | capsuleText => "Isolator.__repr__"
  | callableCall => "CallableObject.__call__"
  | callableText => "CallableObject.__repr__"
  | resolverText => "Trigger.__repr__"
  | directionText => "Direction.__repr__"

/-- The part of a dotted name after its last dot. -/
def lastPart (name : String) : String := (name.splitOn ".").getLast!

namespace Attribute

/-! ### Fields of native classes -/

/-- A field of a class. -/
def classField (w : World) (c : ClassRef) (name : String) : Option Value :=
  match name with
  | "__name__" | "__qualname__" => some (.str (w.className c))
  | "__module__" => some (.str (w.homeOf c))
  | "__dict__" => some (.proxy (w.ownMembers c))
  | "__mro__" => some (.tuple ((w.lineOf c).map .cls))
  | "__bases__" => some (.tuple (match c with
      | .native n => (n.line.drop 1).take 1 |>.map fun b => .cls (.native b)
      | .world i => ((w.classes[i]?).elim [] (·.bases)).map .cls))
  | "__base__" => some (((w.lineOf c).drop 1).head?.elim .none .cls)
  | "__doc__" => some ((w.ownMember? c "__doc__").getD .none)
  | _ => none

/-- The cells of the variables that a function captures; one that captures nothing has no cells. -/
def cellsOf (i : FunctionId) (captured : List (String × Option Value)) : Value :=
  if captured.isEmpty then .none else .tuple ((List.range captured.length).map (.cell i))

/-- A field of a function that does not show what the function captures. -/
def functionField (shown : String) (home : Option String) (attrs : Members) (name : String) :
    Option Value :=
  match name with
  | "__name__" => some (.str (lastPart shown))
  | "__qualname__" => some (.str shown)
  | "__module__" => some (home.elim .none .str)
  | "__dict__" => some (.dict attrs)
  | "__doc__" | "__defaults__" | "__kwdefaults__" | "__closure__" => some .none
  | "__code__" => some (.foreign "code")
  | "__globals__" => some (.foreign "dict")
  | _ => none

/-- A field of an object of the library. -/
def resolverField (r : Resolver) (name : String) : Option Value :=
  match name with
  | "direction" => some r.direction.value
  | "inner_contexts" => some (.tuple r.inner)
  | "outer_context" => some r.outer
  | "kernel_context" => some r.kernel
  | _ => none

/-- A field of an object, by what it is beside its attributes. -/
def objectField (w : World) (i : ObjectId) (name : String) : Option Value :=
  match w.payload? i, name with
  | some (.scope r), "_Scope__trigger" => some (.resolver r)
  | some (.partialCall fn), "func" => some fn
  | some (.partialCall _), "args" => some (.tuple [])
  | some (.partialCall _), "keywords" => some (.dict [])
  | _, "__dict__" => (w.ownAttrs? (.object i)).map .dict
  | _, _ => some .none

/-- A field of a function of the world. -/
def ownFunctionField (i : FunctionId) (f : FunctionRec) (name : String) : Option Value :=
  match name with
  | "__code__" => some (.code i)
  | "__closure__" => some (cellsOf i f.captured)
  | _ => functionField f.name f.home f.attrs name

/-- A field of a capsule. -/
def capsuleField (c : Capsule) (name : String) : Value :=
  match name with
  | "visibility" => .str c.visibility
  | "default_direction" => c.direction
  | "__dict__" => .dict []
  | _ => .none

/-- A field of a value that is told by the value alone. What is not told holds nothing. -/
def plainField (v : Value) (name : String) : Value :=
  match v, name with
  | .bound f _, "__func__" => f
  | .bound _ self, "__self__" => self
  | .nativeFn s, "__name__" | .nativeFn s, "__qualname__" => .str s
  | .nativeFn _, "__self__" => .module World.kernelModule
  | .nativeFn _, "__module__" => .str "builtins"
  | .property g _ _, "fget" => g.elim .none .fn
  | .property _ s _, "fset" => s.elim .none .fn
  | .staticMethod f, "__func__" | .staticMethod f, "__wrapped__" => .fn f
  | .classMethod f, "__func__" | .classMethod f, "__wrapped__" => f
  | .int n, "real" | .int n, "numerator" => .int n
  | .int _, "imag" => .int 0
  | .int _, "denominator" => .int 1
  | .bool b, "real" | .bool b, "numerator" => .int (if b then 1 else 0)
  | .bool _, "imag" => .int 0
  | .bool _, "denominator" => .int 1
  | .float x, "real" => .float x
  | .float _, "imag" => .float 0
  | .range _, "start" => .int 0
  | .range n, "stop" => .int n
  | .range _, "step" => .int 1
  | .group g, "name" => .str g.title
  | .group g, "value" => .str g.name
  | .group g, "letter" => .str g.letter.toString
  | _, _ => .none

/-- A field of a direction. One with an entry that is no group has no name. -/
def directionField? (entries : List Value) (name : String) : Option Value :=
  match name with
  | "groups" => some (.tuple entries)
  | "name" => (Value.groups? entries).map fun groups => .str (lettersOf groups)
  | "is_valid" =>
    some (.bool ((entries.mapM Group.ofValue?).bind Direction.ofGroups?).isSome)
  | "__dict__" => some (.dict [])
  | _ => some .none

/-- A field of a method of a native value. -/
def nativeMethodField (w : World) (s : String) (self : Value) (name : String) : Value :=
  match name with
  | "__name__" => .str s
  | "__qualname__" => .str (w.className (w.classOf self) ++ "." ++ s)
  | "__self__" => self
  | _ => .none

/-- What a native field of a value holds, if it holds anything. -/
def field? (w : World) (name : String) (v : Value) : Option Value :=
  if name = "__class__" then some (.cls (w.classOf v))
  else
    match v with
    | .cls c => classField w c name
    | .fn i => (w.functions[i]?).bind (ownFunctionField i · name)
    | .libFn f => functionField f.name none [] name
    | .code i =>
      (w.functions[i]?).map fun f => .tuple (f.captured.map fun e => .str e.1)
    | .cell i place => (w.functions[i]?).bind fun f => (f.captured[place]?).bind (·.2)
    | .nativeMethod s self => some (nativeMethodField w s self name)
    | .resolver i => (w.resolvers[i]?).bind (resolverField · name)
    | .capsule i => (w.capsules[i]?).map (capsuleField · name)
    | .object i => objectField w i name
    | .direction entries => directionField? entries name
    | _ =>
      if name = "__dict__" then (w.ownAttrs? v).map .dict else some (plainField v name)

/-- The error of a native field that holds nothing. A direction without a name fails by the letter
of its first entry that is no group. -/
def fieldFailure (w : World) (owner : ClassRef) (name : String) : Value → Error
  | .cell .. => .misuse .value "Cell is empty"
  | .direction entries =>
    let c := (entries.find? (·.group?.isNone)).elim owner fun x => w.classOf x
    .noAttribute (w.fullName c) "letter"
  | _ => .noAttribute (w.fullName owner) name

/-- What a **native field** of a value holds. -/
def field (owner : ClassRef) (name : String) (v : Value) : Run Value := do
  let w ← get
  (field? w name v).elim (Run.raise (fieldFailure w owner name v)) pure

/-- What a slot of an object holds. -/
def slotField (owner : Nat) (name : String) (v : Value) : Run Value := do
  let w ← get
  let c := w.classOf v
  let failure : Error := .noAttribute (w.fullName c) name
  if w.isSubclass c (.world owner) then
    match v with
    | .object i => (w.slotValue? i owner name).elim (Run.raise failure) pure
    | _ => Run.raise failure
  else
    Run.raise (.misuse .type ("descriptor " ++ Text.enclose name ++ " for "
      ++ Text.encloseUpTo 100 (w.fullName (.world owner)) ++ " objects doesn't apply to a "
      ++ Text.encloseUpTo 100 (w.fullName c) ++ " object"))

/-! ### Binding -/

/-- **Binds** a member that was found in a class: to an instance, or without one to the class it is
asked of. A computed member is computed here. -/
def bind (run : Runner) (raw : Value) (inst : Option Value) (owner : ClassRef) : Run Value := do
  match raw, inst with
  | .fn _, none | .libFn _, none | .property .., none | .slot .., none => pure raw
  | .nativeMember _ .classMethod name, _ => pure (.nativeMethod name (.cls owner))
  | .nativeMember .., none => pure raw
  | .fn _, some v | .libFn _, some v => pure (.bound raw v)
  | .staticMethod f, _ => pure (.fn f)
  | .classMethod f, _ => pure (.bound f (.cls owner))
  | .property (some getter) _ _, some v => run (.call (.fn getter) [v] [])
  | .property none _ name, some v => do
    Run.raise (.noAccessor "getter" name (← Run.reading fun w => w.className (w.classOf v)))
  | .slot declarer name, some v => slotField declarer name v
  | .nativeMember _ .method name, some v | .nativeMember _ .wrapper name, some v =>
    pure (.nativeMethod name v)
  | .nativeMember declarer _ name, some v => field declarer name v
  | _, _ => do
    match ← Run.reading fun w => w.typeMember? (w.classOf raw) "__get__" with
    | some reader => run (.call reader [raw, inst.getD .none, .cls owner] [])
    | none => pure raw

/-! ### Standard access -/

/-- The **standard access** to a name of a value that is taken as a plain object. -/
def objectGet (run : Runner) (v : Value) (name : String) : Run Value := do
  let w ← get
  let c := w.classOf v
  let member := w.typeMember? c name
  let own := (w.ownAttrs? v).bind (·.find? name)
  match member, own with
  | some raw, some x =>
    if w.controlsRead raw && w.controlsWrite raw then bind run raw (some v) c else pure x
  | some raw, none => bind run raw (some v) c
  | none, some x => pure x
  | none, none => Run.raise (.noAttribute (w.fullName c) name)

/-- The standard access to a name of a **class**. -/
def classGet (run : Runner) (c : ClassRef) (name : String) : Run Value := do
  let w ← get
  let metaclass := w.metaclassOf c
  match w.typeMember? metaclass name, w.typeMember? c name with
  | some outside, some inside =>
    if w.controlsRead outside && w.controlsWrite outside then
      bind run outside (some (.cls c)) metaclass
    else bind run inside none c
  | some outside, none => bind run outside (some (.cls c)) metaclass
  | none, some inside => bind run inside none c
  | none, none => Run.raise (.noClassAttribute (w.fullName c) name)

/-- The standard access to a name of a **module**, which ends with the hook of the module. -/
def moduleGet (run : Runner) (v : Value) (name : String) : Run Value :=
  Run.recover (·.isA .attr) (objectGet run v name) fun _ => do
    let members := (← Run.reading (·.ownAttrs? v)).getD []
    match members.find? "__getattr__", members.find? "__name__" with
    | some hook, _ => run (.call hook [.str name] [])
    | none, some (.str shown) => Run.raise (.noModuleAttribute (some shown) name)
    | none, _ => Run.raise (.noModuleAttribute none name)

/-- The standard access to a name of a **bound method**, which passes to the function. -/
def methodGet (run : Runner) (v f : Value) (name : String) : Run Value := do
  match ← Run.reading fun w => w.typeMember? (.native .method) name with
  | some raw => bind run raw (some v) (.native .method)
  | none => objectGet run f name

/-- The **standard access** to a name of a value, by what the value is. -/
def standardGet (run : Runner) (v : Value) (name : String) : Run Value :=
  match v with
  | .cls c => classGet run c name
  | .module _ => moduleGet run v name
  | .bound f _ => methodGet run v f name
  | _ => objectGet run v name

/-! ### Access with hooks -/

/-- Calls a hook that was found in the class of a value. -/
def callHook (run : Runner) (hook v : Value) (args : List Value) : Run Value := do
  let c ← Run.reading (·.classOf v)
  let f ← bind run hook (some v) c
  run (.call f args [])

/-- **Asks** a value by the function with which its class has a say in an operation; a class without
such a function leaves the operation to the platform. -/
def ask? (run : Runner) (v : Value) (name : String) (args : List Value) : Run (Option Value) := do
  match ← Run.reading (·.ownHook? v name) with
  | none => pure none
  | some hook => some <$> callHook run hook v args

/-- Access through the hook in **front** of the standard access, if there is one. -/
def frontGet (run : Runner) (v : Value) (name : String) : Run Value := do
  match ← Run.reading fun w => w.typeMember? (w.classOf v) "__getattribute__" with
  | none | some (.nativeMember ..) => standardGet run v name
  | some hook => callHook run hook v [.str name]

/-- **Access** to a name of a value: the hook behind the standard access is asked for names that
have no attribute. -/
def get (run : Runner) (v : Value) (name : String) : Run Value := do
  match ← Run.reading fun w => w.typeMember? (w.classOf v) "__getattr__" with
  | none => frontGet run v name
  | some hook =>
    Run.recover (·.isA .attr) (frontGet run v name) fun _ => callHook run hook v [.str name]

/-- Access that gives `none` for a missing attribute. -/
def get? (run : Runner) (v : Value) (name : String) : Run (Option Value) :=
  Run.optional (get run v name)

/-- Whether access to a name finds an attribute. -/
def has (run : Runner) (v : Value) (name : String) : Run Bool := Option.isSome <$> get? run v name

/-- Whether a value passes as an **instance** of a class: it is one, or says that its class is
below the class. -/
def isInstance (run : Runner) (v : Value) (c : ClassRef) : Run Bool := do
  let w ← MonadState.get
  if w.isSubclass (w.classOf v) c then pure true
  else
    match ← get? run v "__class__" with
    | some (.cls d) =>
      if d = w.classOf v then pure false else Run.reading (·.isSubclass d c)
    | _ => pure false

end Attribute

end OrderedScope
