import OrderedScope.Machine

/-!
# Collections

What a value does when it is asked for its items, for a key, for the item of a key, or to be joined
with a tuple. The values that code of the world puts where a table is
expected need not be tables; each misuse has its own error. Items that a class of the world gives
one by one are not followed.
-/

namespace OrderedScope

/-- The name of the class of a value in messages. -/
def classNameOf (v : Value) : Run String := Run.reading fun w => w.fullName (w.classOf v)

namespace Value

/-- The items of an object or a class: those that it holds, unless its class has a say in going
through them. -/
def itemsByClass (v : Value) : Run (List Value) := do
  let iter ← Run.reading (·.ownHook? v "__iter__")
  let held ← Run.reading (·.heldItems? v)
  let item ← Run.reading (·.ownHook? v "__getitem__")
  match iter, held, item with
  | some .none, _, _ | .none, .none, .none => do Run.raise (.notIterable (← classNameOf v))
  | some _, _, _ | .none, .none, some _ => throw .exhausted
  | .none, some items, _ => pure items

/-- The **items** of a value. -/
def items (v : Value) : Run (List Value) :=
  match v with
  | .list items | .tuple items => pure items
  | .dict entries | .proxy entries => pure (entries.map fun e => .str e.1)
  | .str s => pure (s.toList.map fun c => .str c.toString)
  | .bytes s => pure (s.toUTF8.toList.map fun b => .int b.toNat)
  | .range n => pure ((List.range n.toNat).map fun (i : Nat) => .int i)
  | .group g => pure (g.name.toList.map fun c => .str c.toString)
  | .direction entries => pure entries
  | .growing i => Run.reading fun w => (w.growing[i]?).getD []
  | .object _ | .cls _ => itemsByClass v
  | _ => do Run.raise (.notIterable (← classNameOf v))

/-- Whether a value is a text. -/
def isStr (s : String) : Value → Bool
  | .str t => s == t
  | _ => false

/-- Whether one text stands within another. -/
def hasInfix (s : List Char) : List Char → Bool
  | [] => s.isEmpty
  | c :: rest => s.isPrefixOf (c :: rest) || hasInfix s rest

/-- Whether a value holds a **key**. -/
def hasKey (v : Value) (key : String) : Run Bool :=
  match v with
  | .dict entries | .proxy entries => pure (Members.has entries key)
  | .list items | .tuple items => pure (items.any (isStr key))
  | .str s => pure (hasInfix key.toList s.toList)
  | .range _ => pure false
  | .direction entries => pure (entries.any (isStr key))
  | .bytes _ => Run.raise (.misuse .type "a bytes-like object is required, not 'str'")
  | .growing i => Run.reading fun w => ((w.growing[i]?).getD []).any (isStr key)
  | _ => do
    Run.raise (.misuse .type
      ("argument of type " ++ Text.encloseUpTo 200 (← classNameOf v) ++ " is not iterable"))

/-- The **item** of a value under a key. -/
def itemAt (v : Value) (key : String) : Run Value :=
  match v with
  | .dict entries | .proxy entries =>
    match Members.find? entries key with
    | some x => pure x
    | .none => Run.raise (.noKey key)
  | .list _ | .growing _ =>
    Run.raise (.misuse .type "list indices must be integers or slices, not str")
  | .tuple _ => Run.raise (.misuse .type "tuple indices must be integers or slices, not str")
  | .range _ => Run.raise (.misuse .type "range indices must be integers or slices, not str")
  | .str _ => Run.raise (.misuse .type "string indices must be integers, not 'str'")
  | .bytes _ => Run.raise (.misuse .type "byte indices must be integers or slices, not str")
  | .cls c => do
    let name ← Run.reading fun w => w.fullName c
    Run.raise (.misuse .type ("type " ++ Text.encloseUpTo 200 name ++ " is not subscriptable"))
  | _ => do Run.raise (.notSubscriptable (← classNameOf v))

/-- A value **joined** with a tuple. -/
def joinTuple (v : Value) (more : Value) : Run Value :=
  match v, more with
  | .tuple xs, .tuple ys => pure (.tuple (xs ++ ys))
  | .list xs, .list ys => pure (.list (xs ++ ys))
  | .str s, .str t => pure (.str (s ++ t))
  | .list _, _ => do
    Run.raise (.misuse .type ("can only concatenate list (not \"" ++ (← classNameOf more)
      ++ "\") to list"))
  | .tuple _, _ => do
    Run.raise (.misuse .type ("can only concatenate tuple (not \"" ++ (← classNameOf more)
      ++ "\") to tuple"))
  | .str _, _ => do
    Run.raise (.misuse .type ("can only concatenate str (not \"" ++ (← classNameOf more)
      ++ "\") to str"))
  | _, _ => do
    Run.raise (.misuse .type ("unsupported operand type(s) for +: "
      ++ Text.encloseUpTo 100 (← classNameOf v) ++ " and "
      ++ Text.encloseUpTo 100 (← classNameOf more)))

/-- Whether a value can be a key of a table. -/
def isHashable : Value → Bool
  | .list _ | .dict _ | .growing _ => false
  | .tuple items | .direction items => items.attach.all fun ⟨x, _⟩ => x.isHashable
  | _ => true

end Value

end OrderedScope
