import OrderedScope.Machine

/-!
# Expressions

The value of an expression in a world. Names are looked up when the expression is evaluated; a
function expression makes a new function each time.
-/

namespace OrderedScope

/-- The attributes of a new function: marked as restricted, or none. -/
def functionAttrs (restricted : Bool) : Members :=
  if restricted then [(restrictedMark, .bool true)] else []

/-- The home of the code that a world describes. -/
def worldHome : String := "world"

/-- A new function with a traced body. -/
def newBody (label : String) (b : Body) (attrs : Members) : Run Value :=
  Value.fn <$> Run.newFunction ⟨label, some worldHome, .body label b, [], attrs⟩

/-- What is found under a key, or the error of a missing key. -/
def required (key : String) (found : Option Value) : Run Value :=
  found.elim (Run.raise (.noKey key)) pure

namespace Expr

mutual

/-- The **value** of an expression. -/
def eval : Expr → Run Value
  | none => pure .none
  | bool b => pure (.bool b)
  | int n => pure (.int n)
  | float x => pure (.float x)
  | str s => pure (.str s)
  | bytes s => pure (.bytes s)
  | range n => pure (.range n)
  | list items => Value.list <$> evalList items
  | tuple items => Value.tuple <$> evalList items
  | dict entries => Value.dict <$> evalEntries entries
  | group g => pure (.group g)
  | direction groups => pure (.ofGroups groups)
  | object id => do required id (← Run.reading fun w => (w.findObject? id).map .object)
  | cls name => do required name (← Run.reading fun w => (w.findClass? name).map .cls)
  | module name => do required name (← Run.reading fun w => (w.findModule? name).map .module)
  | function label body restricted =>
    newBody label body (functionAttrs restricted)
  | ambientScope => do
    match ← Run.reading (·.ambient) with
    | some i => pure (.object i)
    | .none => Run.raise .noScope
  | keptScope key => do required key (← Run.reading (·.scopes.find? key))
  | closure id => do required id (← Run.reading (·.closures.find? id))
  | handle id => do required id (← Run.reading (·.handles.find? id))

/-- The values of some expressions, in order. -/
def evalList : List Expr → Run (List Value)
  | [] => pure []
  | e :: rest => do
    let v ← eval e
    pure (v :: (← evalList rest))

/-- The values of named expressions, in order; of two under a name the later counts. -/
def evalEntries : List (String × Expr) → Run Members
  | [] => pure []
  | (name, e) :: rest => do
    let v ← eval e
    pure ((name, v) :: (← evalEntries rest))

end

end Expr

end OrderedScope
