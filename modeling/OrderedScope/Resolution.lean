import OrderedScope.Coercion
import OrderedScope.Closure
import OrderedScope.Label
import OrderedScope.Observation

/-!
# Resolution

A resolver asks its contexts, in the order of its direction, for a name; the first that answers
wins, and the contexts behind it are not asked. Evaluating a closure means calling it with a scope
that resolves every name through the resolver; the scopes of running evaluations form a stack.

## Main results

* `Resolver.firstAnswer_cons`: the scan of the contexts, step by step.
-/

namespace OrderedScope

/-- One step of an explanation: a context, whether it answers, and whether it is the winner. -/
structure TraceStep where
  position : Nat
  group : Group
  context : Value
  matched : Bool
  winner : Bool

namespace Resolver

/-- The contexts of a resolver, in the order in which they are asked, each beside its group. -/
def contexts (r : Resolver) : List (Group × Value) :=
  arrange r.direction.groups r.inner r.outer r.kernel

/-- The contexts numbered by position. -/
def numbered (r : Resolver) : List ((Group × Value) × Nat) := r.contexts.zipIdx

/-- The error of a name that no context answers. -/
def unanswered (r : Resolver) (name : String) : Error :=
  .unresolved name (some r.direction.name) (some r.variant.visibility)

/-- Tells that a context answers a name. -/
def matched (run : Runner) (r : Resolver) (name : String) (group : Group) (position : Nat)
    (context : Value) : Run Unit := do
  let c ← Run.reading (·.classOf context)
  let shown ← Attribute.get run (.cls c) "__qualname__"
  Run.logText .debug fun _ => do
    pure ("Resolved " ++ Text.quote name ++ " to " ++ group.name ++ " context #"
      ++ toString position ++ " (" ++ (← shown.plainText run) ++ ")")
  emit run r.observer (.resolved name context (.str group.name) (.int position) [])

/-- Tells that no context answers a name, and fails. -/
def failUnanswered {α : Type} (run : Runner) (r : Resolver) (name : String) : Run α := do
  emit run r.observer (.unresolved name
    [("direction", .str r.direction.name), ("visibility", .str r.variant.visibility)])
  Run.raise (r.unanswered name)

/-- The **first answer** of some numbered contexts to a question; the contexts behind it are not
asked. -/
def firstAnswer {α : Type} (ask : Value → Run (Option α)) :
    List ((Group × Value) × Nat) → Run (Option (Group × Nat × Value × α))
  | [] => pure none
  | ((group, context), position) :: rest => do
    match ← ask context with
    | some a => pure (some (group, position, context, a))
    | none => firstAnswer ask rest

/-- Asks the contexts of a resolver and tells the observer how it ends. -/
def search {α : Type} (run : Runner) (r : Resolver) (name : String)
    (ask : Value → Run (Option α)) : Run (Value × α) := do
  match ← firstAnswer ask r.numbered with
  | some (group, position, context, a) =>
    matched run r name group position context
    pure (context, a)
  | none => failUnanswered run r name

/-- **Asks** a context whether it answers a name. A member that is held is not computed. -/
def asking (run : Runner) (r : Resolver) (name : String) (context : Value) : Run (Option Unit) := do
  pure (if ← r.variant.strategy.respondsTo run context name then some () else none)

/-- **Fetches** what a context answers to a name. -/
def fetching (run : Runner) (r : Resolver) (name : String) (context : Value) :
    Run (Option Value) :=
  r.variant.strategy.lookup run context name

/-- The **first context** that answers a name. -/
def resolve (run : Runner) (r : Resolver) (name : String) : Run Value :=
  Prod.fst <$> search run r name (r.asking run name)

/-- The **member** under a name of the first context that answers it. It is computed once, and its
errors are its own. -/
def member (run : Runner) (r : Resolver) (name : String) : Run Value :=
  Prod.snd <$> search run r name (r.fetching run name)

/-- Whether some context answers a name. -/
def respondsTo (run : Runner) (r : Resolver) (name : String) : Run Bool :=
  Run.recover (·.isA .unresolved)
    (do
      let _ ← resolve run r name
      pure true)
    fun _ => pure false

/-- Gives a member on if it is callable. -/
def requireCallable (run : Runner) (name : String) (handle : Value) : Run Value := do
  if ← Run.reading (·.isCallable handle) then pure handle
  else
    let c ← Run.reading (·.classOf handle)
    let shown ← Attribute.get run (.cls c) "__name__"
    Run.raise (.nonCallableMember name (← shown.formatted run))

/-- The member under a name, which must be callable. -/
def methodHandle (run : Runner) (r : Resolver) (name : String) : Run Value := do
  requireCallable run name (← member run r name)

/-- **Explains** how a name is resolved: every context is asked, and the first that answers is the
winner. -/
def explain (run : Runner) (r : Resolver) (name : String) : Run (List TraceStep) :=
  go false r.numbered
where
  /-- The steps of the contexts behind some that answered or did not. -/
  go (found : Bool) : List ((Group × Value) × Nat) → Run (List TraceStep)
    | [] => pure []
    | ((group, context), position) :: rest => do
      let matched ← r.variant.strategy.respondsTo run context name
      let steps ← go (found || matched) rest
      pure (⟨position, group, context, matched, matched && !found⟩ :: steps)

/-- Runs with a scope as the innermost one; whatever happens, the one before it comes back. -/
def withScope {α : Type} (scope : ObjectId) (x : Run α) : Run α := do
  let before ← Run.reading (·.ambient)
  modify fun w => { w with ambient := some scope }
  Run.ensuring x (modify fun w => { w with ambient := before })

/-- **Evaluates** the closure of a resolver: calls it with a fresh scope. -/
def evaluate (run : Runner) (id : ResolverId) (r : Resolver) : Run Value := do
  let scope ← Run.reading (·.objects.size)
  let v ← Run.newObject ⟨none, .native .scope, none, [], .scope id⟩
  let result ← withScope scope (run (.call r.fn [v] []))
  emit run r.observer (.evaluated
    [("direction", .str r.direction.name), ("visibility", .str r.variant.visibility)])
  pure result

/-! ### Laws -/

/-- The scan stops **at** an answer and goes on **past** a context without one. -/
theorem firstAnswer_cons {α : Type} (ask : Value → Run (Option α)) (group : Group)
    (context : Value) (position : Nat) (rest : List ((Group × Value) × Nat)) :
    firstAnswer ask (((group, context), position) :: rest) = (do
      match ← ask context with
      | some a => pure (some (group, position, context, a))
      | none => firstAnswer ask rest) := rfl

end Resolver

/-! ### Making resolvers -/

/-- The options of a resolver, as values. A missing kernel is the kernel module. -/
structure Setup where
  inner : List Value
  direction : Value
  kernel : Value
  observer : Option Observer

/-- The kernel that stands for a value. -/
def kernelOf : Value → Value
  | .none => .module World.kernelModule
  | v => v

/-- Makes a resolver of a variant for a closure that is wrapped, with a value that was accepted as
its direction. Its outer context is captured now. -/
def Resolver.ofAccepted (run : Runner) (variant : Variant) (c : KeptClosure) (x : Value)
    (s : Setup) : Run ResolverId := do
  let outer ← c.outer run
  let d ← Direction.ofAccepted run x
  let r : Resolver := ⟨variant, c.fn, outer, d, s.inner, kernelOf s.kernel, s.observer⟩
  Run.log .debug ("Created " ++ variant.className ++ " (direction=" ++ d.name ++ ", inner="
    ++ toString s.inner.length ++ ")")
  let id ← Run.reading (·.resolvers.size)
  modify fun w => { w with resolvers := w.resolvers.push r }
  pure id

/-- Makes a resolver of a variant for a closure that is wrapped. -/
def Resolver.ofClosure (run : Runner) (variant : Variant) (c : KeptClosure) (s : Setup) :
    Run ResolverId := do
  ofAccepted run variant c (← Direction.accept run s.direction) s

/-- **Makes** a resolver of a variant. -/
def Resolver.make (run : Runner) (variant : Variant) (closure : Value) (s : Setup) :
    Run ResolverId := do
  ofClosure run variant (← Closure.wrap run closure) s

/-- Loads the extension points of the registry unless that has been done. -/
def loadRegistry : Run (List String) := do
  let (registry, done) := (← Run.reading (·.registry)).load
  modify fun w => { w with registry := registry }
  match done with
  | none => pure []
  | some s =>
    for name in s.failed do
      Run.log .warning ("Failed to load trigger entry point " ++ Text.quote name)
    match s.stopped with
    | some e => Run.raise e
    | none => pure s.loads

/-- The variant of a visibility. -/
def findVariant (visibility : Value) : Run (Option Variant) := do
  let _ ← loadRegistry
  match visibility with
  | .str s => Run.reading fun w => w.registry.find? s
  | v => do
    if v.isHashable then pure none else Run.raise (.unhashable (← classNameOf v))

/-- The variant of a visibility, which must be known. -/
def requireVariant (run : Runner) (visibility : Value) : Run Variant := do
  match ← findVariant visibility with
  | some variant => pure variant
  | none => do
    let names ← Run.reading (·.registry.names)
    Run.raise (.unknownVisibility (← visibility.quotedText run) names)

/-- Makes a resolver of the variant of a visibility. -/
def Resolver.ofVisibility (run : Runner) (visibility closure : Value) (s : Setup) :
    Run ResolverId := do
  let variant ← requireVariant run visibility
  make run variant closure s

/-- The resolver at a place of the world. -/
def resolverAt (id : ResolverId) : Run Resolver := do
  ((← Run.reading (·.resolvers))[id]?).elim (Run.raise (.noKey (toString id))) pure

end OrderedScope
