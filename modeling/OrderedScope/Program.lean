import OrderedScope.Object.Value

/-!
# Descriptions of Worlds and Sessions

The descriptions from which worlds are built and sessions are run: expressions for values, bodies of
functions, hooks, classes, objects and modules, closures with their scripts, and commands. Names in
a description are looked up in the world when the description is used, not before.
-/

namespace OrderedScope

mutual

/-- An **expression** for a value. -/
inductive Expr where
  | none
  | bool (b : Bool)
  | int (n : Int)
  | float (x : Float)
  | str (s : String)
  | bytes (s : String)
  | range (n : Int)
  | list (items : List Expr)
  | tuple (items : List Expr)
  | dict (entries : List (String × Expr))
  | group (g : Group)
  | direction (groups : List Group)
  | object (id : String)
  | cls (name : String)
  | module (name : String)
  | function (label : String) (body : Body) (restricted : Bool)
  | ambientScope
  | keptScope (key : String)
  | closure (id : String)
  | handle (id : String)

/-- The **body** of a function of the world. -/
inductive Body where
  | ret (e : Expr)
  /-- Gives its label and its arguments back. -/
  | echo
  | raise (kind : Kind) (text : String)
  /-- Adds one to an attribute of the first argument. -/
  | incr (name : String)
  /-- Reads an attribute of the first argument. -/
  | self (name : String)
  /-- Reads a name through the scope of the running evaluation. -/
  | ambient (name : String)
  | makeFunction (label : String) (body : Body)

end

instance : Inhabited Expr := ⟨.none⟩

instance : Inhabited Body := ⟨.echo⟩

/-- What a hook does with a name that it neither answers nor allows. -/
inductive Otherwise where
  /-- Raises; the name stands in the text for `{name}`. -/
  | raise (kind : Kind) (text : String)
  | ret (e : Expr)
  | name

/-- A **hook** into attribute access: it answers some names and passes some on to the standard
access. -/
structure Hook where
  answers : List (String × Expr)
  allow : List String
  otherwise : Otherwise

/-- What a member of a class is. -/
inductive MemberShape where
  | value (e : Expr)
  | method (body : Body)
  | static (body : Body)
  | classMethod (body : Body)
  | property (getter : Option Body) (setter : Bool)
  | descriptor (get : Option Body) (set delete : Bool)

/-- A **member** of a class, which may be marked as restricted. -/
structure MemberDecl where
  name : String
  restricted : Bool
  shape : MemberShape

/-- A base of a class. -/
inductive BaseDecl where
  | named (name : String)
  /-- The class of all classes. -/
  | classes
  /-- A class that lets its instances evaluate closures in themselves. -/
  | host (direction : Expr)

/-- A **class**. A fallback hook that is wrapped belongs to no instance. -/
structure ClassDecl where
  name : String
  bases : List BaseDecl
  metaclass : Option String
  slots : Option (List String)
  members : List MemberDecl
  fallbackHook : Option Hook
  wrappedHook : Bool
  frontHook : Option Hook
  text : Option Body

/-- An **object**: an instance of a class of the world, or a namespace. -/
inductive ObjectDecl where
  | new (id className : String) (attrs slots : List (String × Expr))
  | space (id : String) (fields : List (String × Expr))

/-- A **module**. -/
structure ModuleDecl where
  name : String
  members : List (String × Expr)
  hook : Option Hook
  nameless : Bool

/-- What an **observer** does with an event after it has been recorded. -/
inductive ObserverDecl where
  | record
  | raise (kind : Kind) (text : String)
  | delete (target : Expr) (name : String)

/-- The options of an evaluation; what is not given has its default. -/
structure Options where
  inner : List Expr
  direction : Option Expr
  kernel : Option Expr
  visibility : Option Expr
  observer : Option ObserverDecl

/-- The **strategies** of asking a context for a name: by its attribute protocol, by its member
tables, or by one with the other behind it. Each either includes restricted members or refuses
them. -/
inductive Strategy where
  | dynamic (restricted : Bool)
  | static (restricted : Bool)
  | fallback (primary secondary : Strategy)
deriving DecidableEq, Repr

/-- What a new resolver is made as. -/
inductive ResolverChoice where
  | publicOne
  | privateOne
  | registered
  | abstract

/-- A question to a resolver. -/
inductive Query where
  | resolve
  | respondsTo
  | member
  | methodHandle (keep : Option String)
  | call (args : List Expr) (named : List (String × Expr))
  | run
  | info
  | explain
  | rows
  | display (plain : Bool)

/-- What is done with a closure in some contexts. -/
inductive Evaluation where
  | evaluate
  | evaluatePrivate
  | publicMethod (name : String) (keep : Option String)
  | privateMethod (name : String) (keep : Option String)

/-- What is asked of a capsule. -/
inductive CapsuleUse where
  | call
  | evaluation (e : Evaluation)
  | resolver (visibility : Option Expr) (keep : String)

/-- What is asked of a strategy. -/
inductive StrategyQuery where
  | respondsTo (target : Expr) (name : String)
  | lookup (target : Expr) (name : String)
  | member (target : Expr) (name : String)
  | names (target : Expr)
  | text

/-- A **variant** of resolver: the class name it shows, its visibility and its strategy. -/
structure Variant where
  className : String
  visibility : String
  strategy : Strategy
deriving DecidableEq, Repr

namespace Variant

/-- The variant that refuses restricted members. -/
def publicOne : Variant := ⟨"PublicTrigger", "public", .dynamic false⟩

/-- The variant that considers all members, and reads the tables of contexts that refuse the
attribute protocol. -/
def privateOne : Variant := ⟨"PrivateTrigger", "private", .fallback (.dynamic true) (.static true)⟩

end Variant

/-- What the **load** of an extension point does: it gives a variant, or raises. -/
inductive PointLoad where
  | gives (v : Variant)
  | raises (kind : Kind) (text : String)

namespace PointLoad

/-- A load that gives the variant of public resolvers. -/
def publicOne : PointLoad := .gives .publicOne

/-- A load that gives the variant of private resolvers. -/
def privateOne : PointLoad := .gives .privateOne

end PointLoad

/-- What is asked of the registry of visibilities. -/
inductive RegistryUse where
  | types
  | get (name : Expr)
  | register (name className visibility : String) (strategy : Strategy)
  | reload (points : List (String × PointLoad))

/-- A call of an emitter of events. -/
inductive Emission where
  | resolved (name : String) (context : Expr) (group : String) (position : Expr)
      (extra : List (String × Expr))
  | unresolved (name : String) (extra : List (String × Expr))
  | evaluated (extra : List (String × Expr))

mutual

/-- An **action** of a script, done with the scope of its evaluation. -/
inductive Action where
  | get (name : String)
  | call (name : String) (args : List Expr) (named : List (String × Expr))
  | attempt (a : Action)
  | has (name : String)
  | default (name : String) (e : Expr)
  | set (name : String) (e : Expr)
  | delete (name : String)
  | dir
  | text
  | isCurrent
  | resolver
  | const (e : Expr)
  | raise (kind : Kind) (text : String)
  | helper (name : String)
  | stash (key : String)
  | perform (c : Command)

/-- What is **deferred** in a closure. -/
inductive Deferred where
  | plain (id : String) (home : Option String) (script : List Action)
  | method (id : String) (home : Option String) (script : List Action) (self : Expr)
  /-- A function that captures one variable, whose cell may be empty. -/
  | capturing (id : String) (home : Option String) (script : List Action) (captured : String)
      (content : Option Expr)
  | partialCall (of : Deferred) (depth : Nat)
  | callable (home : Option String) (script : List Action) (self : Option Expr)
  | builtin (name : String)
  | append
  | capsule (id : String)
  | closure (id : String)
  | value (e : Expr)

/-- A **command** of a session. -/
inductive Command where
  | coerce (e : Expr)
  | direction (source : Expr) (isWord : Bool) (inner : List Expr) (outer kernel : Expr)
  | directions (plain : Bool)
  | merge (base override : Expr)
  | settings (main : Expr) (local? : Option Expr) (profiles : List Expr)
  | findSettings (start : Option String)
  | loadSettings (start : Option String) (profile : Expr)
  | resolveSettings (start : Option String) (profile : Expr)
  | capsuleFromSettings (closure : Expr) (start : Option String) (profile : Expr)
      (observer : Option ObserverDecl) (keep : String)
  | commandLine (argv : List String)
  | reference (text : String)
  | kernelReference (text : Option String)
  | makeResolver (choice : ResolverChoice) (closure : Expr) (options : Options) (keep : String)
  | query (resolver name : String) (q : Query)
  | invoke (handle : String) (args : List Expr) (named : List (String × Expr))
  | events
  | evaluation (closure : Expr) (e : Evaluation) (options : Options)
  | makeCapsule (closure : Option Expr) (options : Options) (keep : String)
  | useCapsule (capsule : String) (use : CapsuleUse) (inner : List Expr) (direction : Option Expr)
  | closure (id : String) (fn : Deferred) (outer : Option Expr) (raw wrap : Bool)
  | callClosure (closure : Expr) (args : List Expr) (named : List (String × Expr))
  | host (target : Expr) (e : Evaluation) (closure direction : Option Expr)
  | hostClass (direction : Option Expr)
  | strategy (s : Strategy) (q : StrategyQuery)
  | overrides (target : Expr) (name : String)
  | describe (target : Expr)
  | visible (target : Expr) (restricted : Bool)
  | markedMember (className name : String)
  | marked (target : Expr)
  | restrictedName (name : String)
  | restrictMember (member : MemberDecl)
  | restrict (target : Expr)
  | setAttr (target : Expr) (name : String) (value : Expr)
  | deleteAttr (target : Expr) (name : String)
  | getAttr (target : Expr) (name : String)
  | setMember (className : String) (member : MemberDecl)
  | setField (target : Expr) (name : String) (value : Expr)
  | raiseUnresolved (name : String) (direction visibility : Option String)
  | ambientScope
  | registry (use : RegistryUse)
  | emitter (observer : Option ObserverDecl) (calls : List Emission)

end

instance : Inhabited Action := ⟨.text⟩

instance : Inhabited Deferred := ⟨.append⟩

instance : Inhabited Command := ⟨.events⟩

/-- A **closure** of the world; a raw one is the bare deferred computation. -/
structure ClosureDecl where
  id : String
  fn : Deferred
  outer : Option Expr
  raw : Bool

/-- The levels of the log. -/
inductive LogLevel where
  | debug
  | warning
deriving DecidableEq, Repr

/-- The description of a **world**. -/
structure WorldDecl where
  moduleNames : List String
  classes : List ClassDecl
  objects : List ObjectDecl
  modules : List ModuleDecl
  builtins : List (String × Expr)
  closures : List ClosureDecl
  files : List (String × String)
  directories : List String
  current : String
  log : Option LogLevel

end OrderedScope
