import OrderedScope.Object.Linearize
import OrderedScope.Object.Native
import OrderedScope.Platform
import OrderedScope.Registry

/-!
# Worlds

The state in which contexts are asked: classes, objects, modules and functions, what a session keeps
under a name, the stack of running evaluations by its top, and the record of what happened. All that
an answer can show is here; everything here can be shown by an answer.

Beside the state stand the look-ups that run no code of the world: the class of a value, the
resolution line of a class, and the first member of a name along such a line.
-/

namespace OrderedScope

/-- The name under which members are marked as restricted. -/
def restrictedMark : String := "__symbiosis_restricted__"

/-- Whether a name is **restricted**: whether it starts with an underscore. -/
def isRestrictedName (name : String) : Bool := name.startsWith "_"

/-- A method that lets an object evaluate closures in itself. -/
inductive HostMethod where
  | evaluate
  | evaluatePrivate
  | publicMethod
  | privateMethod
deriving DecidableEq, Repr

/-- The **code** of a function. -/
inductive Code where
  /-- Appends its label to the trace and runs a body. -/
  | body (label : String) (b : Body)
  /-- Runs a body without a trace. -/
  | silent (b : Body)
  /-- Appends a label to the trace, and nothing else. -/
  | mark (label : String)
  | hook (label : String) (h : Hook)
  | script (actions : List Action)
  | host (method : HostMethod) (d : Direction)

/-- A **function**: the name it shows, the module it was written in, its code, the variables it
captures (a cell may be empty) and its own attributes. -/
structure FunctionRec where
  name : String
  home : Option String
  code : Code
  captured : List (String × Option Value)
  attrs : Members

/-- A **class** of the world. `line` is its resolution line, itself first. -/
structure ClassRec where
  name : String
  home : String
  metaclass : ClassRef
  line : List ClassRef
  bases : List ClassRef
  members : Members
  /-- Whether its instances hold attributes of their own. -/
  open? : Bool

/-- What an object is beside its attributes. -/
inductive Payload where
  | plain
  /-- The characters of an object of a class below the texts. -/
  | text (s : String)
  /-- The items of an object of a class below the lists or the tuples. -/
  | items (vs : List Value)
  | descriptor (label : String) (get : Option Body)
  | scope (r : ResolverId)
  | closure (fn outer : Value)
  | partialCall (fn : Value)
  | callable (script : List Action)

/-- An **object**. `attrs` is `none` if it cannot hold attributes of its own; slots are keyed by the
class that declares them. -/
structure ObjectRec where
  id : Option String
  cls : ClassRef
  attrs : Option Members
  slots : List ((Nat × String) × Value)
  payload : Payload

/-- A **module**: the name it is registered under and its members. -/
structure ModuleRec where
  name : String
  members : Members

/-- The kinds of events. -/
inductive EventKind where
  | resolved
  | unresolved
  | evaluated
deriving DecidableEq, Repr

/-- An **event** of a resolution or an evaluation. -/
structure Event where
  kind : EventKind
  name : Option String
  payload : Members

/-- A **failure that can be held back**: a handler of ordinary failures handles it, and its message
is fixed. -/
structure Failure where
  error : Error
  heldBack : error.isHeldBack = true

/-- An **observer** of events. It records every event; then it may fail, each time with some error,
or by what it has on record, latest first, with one that can be held back, or delete an
attribute. -/
inductive Observer where
  | record
  | raise (e : Error)
  | select (fails : List Event → Option Failure)
  | delete (target : Value) (name : String)

/-- A **closure**: what is deferred and its outer context. -/
structure Closure where
  fn : Value
  outer : Value

/-- A closure as it is **kept**: one of this library by its parts, or a value of another class that
says of itself that it is one. -/
inductive KeptClosure where
  | parts (c : Closure)
  | telling (v : Value)

/-- A **resolver**: a closure bound to contexts and a direction. -/
structure Resolver where
  variant : Variant
  fn : Value
  outer : Value
  direction : Direction
  inner : List Value
  kernel : Value
  observer : Option Observer

/-- A **capsule**: a closure with its defaults, kept for many evaluations. Its direction is kept as
it was accepted. -/
structure Capsule where
  closure : KeptClosure
  direction : Value
  visibility : String
  kernel : Value
  observer : Option Observer

/-- A tree of files: paths are lists of names from the root. -/
structure FileTree where
  files : List (List String × String)
  directories : List (List String)
  current : List String

/-- The **world** of a session. -/
structure World where
  platform : Platform
  classes : Array ClassRec
  objects : Array ObjectRec
  modules : Array ModuleRec
  functions : Array FunctionRec
  growing : Array (List Value)
  resolvers : Array Resolver
  capsules : Array Capsule
  /-- What is kept under a name. -/
  closures : Members
  handles : Members
  scopes : Members
  keptResolvers : List (String × ResolverId)
  keptCapsules : List (String × CapsuleId)
  registry : Registry
  files : FileTree
  /-- The scope of the innermost running evaluation. -/
  ambient : Option ObjectId
  /-- The labels of the code run and the events observed, latest first. -/
  trace : List String
  observed : List Event
  logLevel : Option LogLevel

namespace World

/-- The place of the kernel module. -/
def kernelModule : ModuleId := 0

/-- The world of a fresh session. -/
def empty : World where
  platform := .alone
  classes := #[]
  objects := #[]
  modules := #[⟨"builtins", kernelMembers⟩]
  functions := #[]
  growing := #[]
  resolvers := #[]
  capsules := #[]
  closures := []
  handles := []
  scopes := []
  keptResolvers := []
  keptCapsules := []
  registry := .initial
  files := ⟨[], [], []⟩
  ambient := none
  trace := []
  observed := []
  logLevel := none

/-! ### Classes -/

/-- The class of which a class is an instance. -/
def metaclassOf (w : World) : ClassRef → ClassRef
  | .native c => .native c.metaclass
  | .world i => (w.classes[i]?).elim (.native .type) (·.metaclass)

/-- The **class** of a value. -/
def classOf (w : World) : Value → ClassRef
  | .none => .native .nothing
  | .bool _ => .native .bool
  | .int _ => .native .int
  | .float _ => .native .float
  | .str _ => .native .str
  | .bytes _ => .native .bytes
  | .range _ => .native .range
  | .list _ => .native .list
  | .tuple _ => .native .tuple
  | .dict _ => .native .dict
  | .proxy _ => .native .proxy
  | .group _ => .native .group
  | .direction _ => .native .direction
  | .object i => (w.objects[i]?).elim (.native .object) (·.cls)
  | .cls c => w.metaclassOf c
  | .module _ => .native .module
  | .fn _ => .native .function
  | .libFn _ => .native .function
  | .bound .. => .native .method
  | .property .. => .native .property
  | .staticMethod _ => .native .staticMethod
  | .classMethod _ => .native .classMethod
  | .slot .. => .native .slotMember
  | .nativeMember _ .method _ => .native .methodMember
  | .nativeMember _ .wrapper _ => .native .wrapper
  | .nativeMember _ .getset _ => .native .getset
  | .nativeMember _ .slot _ => .native .slotMember
  | .nativeMember _ .classMethod _ => .native .classMethodMember
  | .nativeFn _ => .native .builtin
  | .nativeMethod .. => .native .builtin
  | .growing _ => .native .list
  | .resolver i => .native (.resolver ((w.resolvers[i]?).elim "Trigger" (·.variant.className)))
  | .capsule _ => .native .capsule
  | .code _ => .native .code
  | .cell .. => .native .cell
  | .missing => .native .object
  | .foreign c => .native (.named c)
  | .report _ => .native .object

/-- The **resolution line** of a class. -/
def lineOf (w : World) : ClassRef → List ClassRef
  | .native c => c.line.map .native
  | .world i => (w.classes[i]?).elim [] (·.line)

/-- The members that a class holds itself. -/
def ownMembers (w : World) : ClassRef → Members
  | .native c => c.members
  | .world i => (w.classes[i]?).elim [] (·.members)

/-- The member that a class holds itself under a name. -/
def ownMember? (w : World) (c : ClassRef) (name : String) : Option Value :=
  match c with
  | .native c => c.member? name
  | .world i => (w.classes[i]?).bind (·.members.find? name)

/-- The **first member** of a name along the resolution line of a class. -/
def typeMember? (w : World) (c : ClassRef) (name : String) : Option Value :=
  (w.lineOf c).findSome? (w.ownMember? · name)

/-- Whether a class stands on the resolution line of another. -/
def isSubclass (w : World) (c d : ClassRef) : Bool := (w.lineOf c).contains d

/-- Whether a value is a class. -/
def isClass (w : World) (v : Value) : Bool := w.isSubclass (w.classOf v) (.native .type)

/-- Whether a value is a module. -/
def isModule (w : World) (v : Value) : Bool := w.isSubclass (w.classOf v) (.native .module)

/-- The name of a class. -/
def className (w : World) : ClassRef → String
  | .native c => c.name
  | .world i => (w.classes[i]?).elim "" (·.name)

/-- The name of a class in messages of the attribute protocol. -/
def fullName (w : World) : ClassRef → String
  | .native c => c.fullName
  | c => w.className c

/-- The module that a class belongs to. -/
def homeOf (w : World) : ClassRef → String
  | .native c => c.home
  | .world i => (w.classes[i]?).elim "" (·.home)

/-! ### Attributes held by a value itself -/

/-- The module under a name. -/
def findModule? (w : World) (name : String) : Option ModuleId :=
  w.modules.findIdx? fun m => m.name == name

/-- The class of the world of a name; of two, the later. -/
def findClass? (w : World) (name : String) : Option ClassRef :=
  (w.classes.toList.zipIdx.reverse.find? fun (c, _) => c.name == name && c.home == "world").map
    fun (_, i) => .world i

/-- The object of an id. -/
def findObject? (w : World) (id : String) : Option ObjectId :=
  w.objects.findIdx? fun o => o.id == some id

/-- The attributes that a value holds itself, if it can hold any. -/
def ownAttrs? (w : World) : Value → Option Members
  | .object i => (w.objects[i]?).bind (·.attrs)
  | .module i => (w.modules[i]?).map (·.members)
  | .fn i => (w.functions[i]?).map (·.attrs)
  | .cls c => some (w.ownMembers c)
  | .libFn _ | .staticMethod _ | .classMethod _ | .direction _ | .capsule _ | .resolver _ => some []
  | _ => none

/-- What an object is beside its attributes. -/
def payload? (w : World) (i : ObjectId) : Option Payload := (w.objects[i]?).map (·.payload)

/-- The **characters** of a value that is a text. A group is one, and so is an object of a class
below the texts. -/
def content? (w : World) : Value → Option String
  | .str s => some s
  | .group g => some g.name
  | .object i =>
    if w.isSubclass (w.classOf (.object i)) (.native .str) then
      match w.payload? i with
      | some (.text s) => some s
      | _ => some ""
    else none
  | _ => none

/-- The **items** of an object of a class below the texts, the lists or the tuples. -/
def heldItems? (w : World) (v : Value) : Option (List Value) :=
  match w.content? v, v with
  | some s, _ => some (s.toList.map fun c => .str c.toString)
  | none, .object i =>
    if w.isSubclass (w.classOf v) (.native .list) || w.isSubclass (w.classOf v) (.native .tuple)
    then
      match w.payload? i with
      | some (.items vs) => some vs
      | _ => some []
    else none
  | none, _ => none

/-- The member by which the class of a value **has a say** in an operation: the first of a name
along the resolution line, unless it is one of those that every world has. -/
def ownHook? (w : World) (v : Value) (name : String) : Option Value :=
  match w.typeMember? (w.classOf v) name with
  | none | some (.nativeMember ..) | some (.libFn _) => none
  | some hook => some hook

/-! ### Growth -/

/-- Adds an object. -/
def addObject (w : World) (o : ObjectRec) : Value × World :=
  (.object w.objects.size, { w with objects := w.objects.push o })

/-- Adds a function. -/
def addFunction (w : World) (f : FunctionRec) : FunctionId × World :=
  (w.functions.size, { w with functions := w.functions.push f })

/-- Changes the attributes that a value holds itself. -/
def mapAttrs (w : World) (v : Value) (f : Members → Members) : World :=
  match v with
  | .object i => { w with objects := w.objects.modify i fun o => { o with attrs := o.attrs.map f } }
  | .module i => { w with modules := w.modules.modify i fun m => { m with members := f m.members } }
  | .fn i => { w with functions := w.functions.modify i fun g => { g with attrs := f g.attrs } }
  | .cls (.world i) =>
      { w with classes := w.classes.modify i fun c => { c with members := f c.members } }
  | _ => w

end World

end OrderedScope
