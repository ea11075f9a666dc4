import OrderedScope.Attribute.Tables
import OrderedScope.Attribute.Wording

/-!
# Closures

A closure is a deferred computation together with its outer context: the object that it was written
in. Where the outer context is not given it is inferred once, when the closure is made: the object a
method is bound to, else the content of a captured variable `self`, else the module of the function,
else an empty namespace. A partial call counts as the function that it calls.
-/

namespace OrderedScope

namespace Closure

/-- An empty namespace of its own. -/
def emptyNamespace : Run Value := Run.newObject ⟨none, .native .space, some [], [], .plain⟩

/-- The function that a partial call calls. -/
def partialOf? (w : World) : Value → Option Value
  | .object i =>
    match w.payload? i with
    | some (.partialCall inner) => some inner
    | _ => none
  | _ => none

/-- The function behind any number of partial calls, if their chain ends; it is no longer than the
list of all objects. -/
def unwrapPartial? (w : World) : Nat → Value → Option Value
  | 0, fn => if (partialOf? w fn).isNone then some fn else none
  | steps + 1, fn => (partialOf? w fn).elim (some fn) (unwrapPartial? w steps)

/-- What is called in the end. What is no partial call but **passes** for one is asked for its
function. -/
def callee (run : Runner) (given : Value) : Run Value := do
  let w ← get
  match unwrapPartial? w w.objects.size given with
  | none => throw .exhausted
  | some fn =>
    if ← Attribute.isInstance run fn (.native .partialCall) then Attribute.get run fn "func"
    else pure fn

/-- The object that a method is bound to. A module is none. -/
def receiver? (run : Runner) (fn : Value) : Run (Option Value) := do
  match ← Attribute.get? run fn "__self__" with
  | none | some .none => pure none
  | some receiver =>
    if ← Attribute.isInstance run receiver (.native .module) then pure none
    else pure (some receiver)

/-- The content of the variable `self` among the names that code captures and their cells. An error
of a wrong value counts as an empty cell. -/
def pairedSelf? (run : Runner) (code cells : Value) : Run (Option Value) := do
  let names ← (← Attribute.get run code "co_freevars").items
  let cells ← cells.items
  match (names.zip cells).find? fun e => e.1.isStr "self" with
  | none => pure none
  | some (_, cell) =>
    Run.recover (·.isA .value) (some <$> Attribute.get run cell "cell_contents") fun _ => pure none

/-- The content of the variable `self` that a function captures, if its cell is filled. What is no
function may still have the fields of one. -/
def capturedSelf? (run : Runner) (fn : Value) : Run (Option Value) := do
  let code := (← Attribute.get? run fn "__code__").getD .none
  let cells := (← Attribute.get? run fn "__closure__").getD .none
  match code with
  | .none => pure none
  | _ => if ← cells.truthy run then pairedSelf? run code cells else pure none

/-- The module of a function, if it is known. What counts as nothing stands for the empty name. -/
def moduleOf? (run : Runner) (fn : Value) : Run (Option Value) := do
  let home := (← Attribute.get? run fn "__module__").getD .none
  match (if ← home.truthy run then home else .str "") with
  | .str name => Run.reading fun w => (w.findModule? name).map .module
  | .group g => Run.reading fun w => (w.findModule? g.name).map .module
  | v => do if v.isHashable then pure none else Run.raise (.unhashable (← classNameOf v))

/-- **Infers** the outer context of a function. -/
def inferOuter (run : Runner) (given : Value) : Run Value := do
  let fn ← callee run given
  match ← receiver? run fn with
  | some receiver => pure receiver
  | none =>
    match ← capturedSelf? run fn with
    | some content => pure content
    | none =>
      match ← moduleOf? run fn with
      | some m => pure m
      | none => emptyNamespace

/-- The parts of a value that is a closure. -/
def parts? (w : World) : Value → Option Closure
  | .object i =>
    match w.payload? i with
    | some (.closure fn outer) => some ⟨fn, outer⟩
    | _ => none
  | _ => none

/-- Makes a closure of what is deferred, which must be callable. -/
def make (run : Runner) (fn : Value) (outer : Option Value) : Run Closure := do
  match fn with
  | .none => Run.raise .missingClosure
  | _ =>
    if ← Run.reading (·.isCallable fn) then
      match outer with
      | some o => pure ⟨fn, o⟩
      | none => do pure ⟨fn, ← inferOuter run fn⟩
    else
      let c ← Run.reading (·.classOf fn)
      let name ← Attribute.get run (.cls c) "__name__"
      Run.raise (.nonCallableClosure (← name.formatted run))

/-- The closure that a value is, or that is made of it. What is none but **says** that it is one is
kept as it is. -/
def wrap (run : Runner) (v : Value) : Run KeptClosure := do
  match v with
  | .none => Run.raise .missingClosure
  | _ =>
    let known ← Attribute.isInstance run v (.native .closure)
    match known, parts? (← get) v with
    | true, some c => pure (.parts c)
    | true, none => pure (.telling v)
    | false, _ => KeptClosure.parts <$> make run v none

/-- A closure as an object of the world. -/
def toValue (c : Closure) : Run Value :=
  Run.newObject ⟨none, .native .closure, some [("fn", c.fn), ("outer", c.outer)], [],
    .closure c.fn c.outer⟩

end Closure

namespace KeptClosure

/-- What is called when a kept closure is run. -/
def fn : KeptClosure → Value
  | parts c => c.fn
  | telling v => v

/-- The **outer context** of a kept closure. What only says that it is a closure is asked for it. -/
def outer (run : Runner) : KeptClosure → Run Value
  | parts c => pure c.outer
  | telling v => Attribute.get run v "outer"

/-- A kept closure **wrapped again**. What only says that it is a closure has to say so anew. -/
def again (run : Runner) : KeptClosure → Run KeptClosure
  | parts c => pure (.parts c)
  | telling v => Closure.wrap run v

/-- A kept closure as a value. -/
def toValue : KeptClosure → Run Value
  | parts c => c.toValue
  | telling v => pure v

end KeptClosure

end OrderedScope
