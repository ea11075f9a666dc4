import OrderedScope.Attribute.Equality
import OrderedScope.Reference

/-!
# Kernel Functions

The functions of the kernel module that contexts answer with: lengths, sums, orders and the like.
They work on plain data, and refuse everything else with an error of its own.
-/

namespace OrderedScope

namespace Value

/-- A truth value counts as a whole number. -/
def asInt? : Value → Option Int
  | .int n => some n
  | .bool b => some (if b then 1 else 0)
  | _ => Option.none

/-- A number as a floating-point one. -/
def asFloat? : Value → Option Float
  | .float x => some x
  | v => v.asInt?.map Float.ofInt

/-- The **sum** of two values: of numbers, or of two texts, lists or tuples. -/
def add (v more : Value) : Run Value :=
  match v.asInt?, more.asInt? with
  | some m, some n => pure (.int (m + n))
  | _, _ =>
    match v.asFloat?, more.asFloat? with
    | some x, some y => pure (.float (x + y))
    | _, _ => v.joinTuple more

/-- Whether a value is less than another, for values that can be compared. -/
def less? (v w : Value) : Option Bool :=
  match v.asInt?, w.asInt? with
  | some m, some n => some (decide (m < n))
  | _, _ =>
    match v.asFloat?, w.asFloat?, v, w with
    | some x, some y, _, _ => some (decide (x < y))
    | _, _, .str s, .str t => some (decide (s < t))
    | _, _, _, _ => Option.none

end Value

namespace Kernel

/-- The **length** of a value. -/
def length (run : Runner) (v : Value) : Run Value := do
  match ← Run.reading fun w => w.typeMember? (w.classOf v) "__len__" with
  | none => do
    Run.raise (.misuse .type
      ("object of type " ++ Text.encloseUpTo 200 (← classNameOf v) ++ " has no len()"))
  | some (.nativeMember ..) => do
    match ← Run.reading (·.heldItems? v) with
    | some items => pure (.int items.length)
    | none => do pure (.int (← v.items).length)
  | some hook => do
    pure (.int (← Value.lengthOf run (← Attribute.callHook run hook v [])))

/-- The **absolute value** of a number. -/
def absolute (v : Value) : Run Value :=
  match v.asInt?, v with
  | some n, _ => pure (.int n.natAbs)
  | none, .float x => pure (.float x.abs)
  | none, _ => do
    Run.raise (.misuse .type
      ("bad operand type for abs(): " ++ Text.encloseUpTo 200 (← classNameOf v)))

/-- The error of two values that cannot be compared. -/
def incomparable {α : Type} (operator : String) (v w : Value) : Run α := do
  Run.raise (.misuse .type (Text.enclose operator ++ " not supported between instances of "
    ++ Text.encloseUpTo 100 (← classNameOf v) ++ " and "
    ++ Text.encloseUpTo 100 (← classNameOf w)))

/-- The greater of two values; of equal ones the first. -/
def greater (v w : Value) : Run Value :=
  match v.less? w with
  | some true => pure w
  | some false => pure v
  | none => incomparable ">" w v

/-- The **greatest** of some values. -/
def maximum : List Value → Run Value
  | [] => Run.raise (.misuse .value "max() arg is an empty sequence")
  | v :: rest => rest.foldlM greater v

/-- Puts a value into a sorted list, behind those that are not greater. -/
def insertSorted (v : Value) : List Value → Run (List Value)
  | [] => pure [v]
  | x :: rest =>
    match v.less? x with
    | some true => pure (v :: x :: rest)
    | some false => do pure (x :: (← insertSorted v rest))
    | none => incomparable "<" v x

/-- Some values in increasing **order**. -/
def sorted (vs : List Value) : Run Value :=
  Value.list <$> vs.foldlM (fun done v => insertSorted v done) []

/-- The module that is imported under a dotted name: the one of its first part. -/
def importNamed (run : Runner) (name : String) : Run Value := do
  let whole ← Reference.moduleNamed run name
  match name.splitOn "." with
  | first :: _ :: _ => Reference.moduleNamed run first
  | _ => pure whole

/-- **Calls** a function of the kernel module. -/
def call (run : Runner) (name : String) (args : List Value) : Run Value :=
  match name, args with
  | "len", [v] => length run v
  | "abs", [v] => absolute v
  | "max", [v] => do maximum (← v.items)
  | "max", v :: rest => maximum (v :: rest)
  | "max", [] => Run.raise (.misuse .type "max expected at least 1 argument, got 0")
  | "sum", [v] => do (← v.items).foldlM Value.add (.int 0)
  | "sum", [v, start] => do (← v.items).foldlM Value.add start
  | "sorted", [v] => do sorted (← v.items)
  | "hash", [v] => Value.int <$> v.hashOf run
  | "repr", [v] => run (.text [] v)
  | "__import__", .str s :: _ => importNamed run s
  | "sum", [] => Run.raise (.misuse .type "sum() takes at least 1 positional argument (0 given)")
  | "sorted", _ => Run.raise (.misuse .type
      ("sorted expected 1 argument, got " ++ toString args.length))
  | _, _ => Run.raise (.misuse .type
      (name ++ "() takes exactly one argument (" ++ toString args.length ++ " given)"))

end Kernel

end OrderedScope
