import OrderedScope.Attribute.Access

/-!
# Truth

Whether a value counts as true. Plain data is empty or not, and zero or not. An object or a class is
asked through the truth function of its class, else through the length function of its class; code
of the world answers, so the question may run anything, and it may fail. Without either an object
counts as true.
-/

namespace OrderedScope.Value

open Attribute (callHook)

/-- Whether plain data **counts as true**: everything does but `none`, `false`, zero and what is
empty. -/
def plainTruth (v : Value) : Run Bool :=
  match v with
  | .none => pure false
  | .bool b => pure b
  | .int n => pure (n != 0)
  | .float x => pure (x != 0)
  | .str s | .bytes s => pure (!s.isEmpty)
  | .range n => pure (decide (0 < n))
  | .list items | .tuple items => pure (!items.isEmpty)
  | .dict entries | .proxy entries => pure (!entries.isEmpty)
  | .direction entries => pure (!entries.isEmpty)
  | .growing i => Run.reading fun w => !((w.growing[i]?).getD []).isEmpty
  | _ => pure true

/-- What a truth function gives, which must be a truth value. -/
def truthOf (answer : Value) : Run Bool := do
  match answer with
  | .bool b => pure b
  | other => do
    Run.raise (.misuse .type ("__bool__ should return bool, returned " ++ (← classNameOf other)))

/-- The **number** that a value stands for where a number is needed. -/
def numberOf (run : Runner) (v : Value) : Run Int := do
  match v with
  | .int n => pure n
  | .bool b => pure (if b then 1 else 0)
  | _ =>
    match ← Run.reading fun w => w.typeMember? (w.classOf v) "__index__" with
    | .none => do
      Run.raise (.misuse .type (Text.encloseUpTo 200 (← classNameOf v)
        ++ " object cannot be interpreted as an integer"))
    | some hook =>
      match ← callHook run hook v [] with
      | .int n => pure n
      | .bool b => pure (if b then 1 else 0)
      | other => do
        Run.raise (.misuse .type ("__index__ returned non-int (type " ++ (← classNameOf other)
          ++ ")"))

/-- The greatest length that there can be: `2 ^ 63 - 1`. -/
def lengthLimit : Int := 9223372036854775807

/-- What a length function gives, as a **length**. -/
def lengthOf (run : Runner) (answer : Value) : Run Int := do
  let n ← numberOf run answer
  if n < 0 then Run.raise (.misuse .value "__len__() should return >= 0")
  else if lengthLimit < n then
    Run.raise (.misuse .overflow "cannot fit 'int' into an index-sized integer")
  else pure n

/-- Whether an object or a class counts as true, by the functions of its class. -/
def truthByClass (run : Runner) (v : Value) : Run Bool := do
  let w ← get
  match w.typeMember? (w.classOf v) "__bool__", w.typeMember? (w.classOf v) "__len__" with
  | some hook, _ => do truthOf (← callHook run hook v [])
  | .none, some hook => do pure ((← lengthOf run (← callHook run hook v [])) != 0)
  | .none, .none => pure true

/-- Whether a value **counts as true**. -/
def truthy (run : Runner) (v : Value) : Run Bool :=
  match v with
  | .object _ | .cls _ => truthByClass run v
  | _ => plainTruth v

end OrderedScope.Value
