import OrderedScope.Resolution

/-!
# Visible Names

The names that a context shows when it is asked for all of them: those it holds itself and those of
its class and the classes above it, each read through the attribute protocol. A scope shows the
names of all contexts of its resolver.
-/

namespace OrderedScope

/-- The names in increasing order, each once. -/
def sortNames (names : List String) : List String :=
  names.eraseDups.mergeSort fun a b => decide (a ≤ b)

/-- Whether a name belongs to the attribute protocol itself. -/
def isProtocolName (name : String) : Bool := name.startsWith "__" && name.endsWith "__"

namespace Visible

/-- The names in a table. A value that is none is asked for its keys, and for the item of each. -/
def tableKeys (run : Runner) (table : Value) : Run (List String) :=
  match table with
  | .dict entries | .proxy entries => pure (Members.names entries)
  | _ => do
    let keys ← run (.call (← Attribute.get run table "keys") [] [])
    let names := (← keys.items).filterMap fun
      | .str s => some s
      | _ => none
    for name in names do
      let _ ← table.itemAt name
    pure names

/-- The names of a class and the classes above it, to a given height. -/
def classNames (run : Runner) : Nat → Value → Run (List String)
  | 0, _ => pure []
  | height + 1, c => do
    let own ← match ← Attribute.get? run c "__dict__" with
      | some table => tableKeys run table
      | none => pure []
    let bases ← match ← Attribute.get? run c "__bases__" with
      | some (.tuple bases) | some (.list bases) => pure bases
      | _ => pure []
    let above ← bases.mapM (classNames run height)
    pure (own ++ above.flatten)

/-- The greatest height of a class above another. -/
def heightLimit : Run Nat := Run.reading fun w => w.classes.size + 8

/-- The names of a plain object: its own, and those of the class that it says it has. -/
def objectNames (run : Runner) (v : Value) : Run (List String) := do
  let own ← match ← Attribute.get? run v "__dict__" with
    | some (.dict entries) => pure (Members.names entries)
    | _ => pure []
  match ← Attribute.get? run v "__class__" with
  | some c => do pure (own ++ (← classNames run (← heightLimit) c))
  | none => pure own

/-- The names of a module. -/
def moduleNames (run : Runner) (v : Value) : Run (List String) := do
  match ← Attribute.get run v "__dict__" with
  | .dict entries =>
    match Members.find? entries "__dir__" with
    | some f => do
      let found ← (← run (.call f [] [])).items
      pure (found.filterMap fun
        | .str s => some s
        | _ => none)
    | none => pure (Members.names entries)
  | _ => do
    let name ← Attribute.get run v "__name__"
    Run.raise (.misuse .type ((← name.plainText run) ++ ".__dict__ is not a dictionary"))

/-- The names that a value **lists**, by the listing function of its class. -/
def listing (run : Runner) (v : Value) : Run (List String) := do
  match ← Run.reading fun w => w.typeMember? (w.classOf v) "__dir__", v with
  | some (.nativeMember (.native .type) ..), _ => do classNames run (← heightLimit) v
  | some (.nativeMember (.native .module) ..), _ => moduleNames run v
  | some (.nativeMember ..), _ | none, _ => objectNames run v
  | some f, _ => do
    let found ← (← Attribute.callHook run f v []).items
    pure (found.filterMap fun
      | .str s => some s
      | _ => none)

end Visible

/-- The names that a context shows under a visibility. A context that refuses to list them is read
from its tables. -/
def visibleNames (run : Runner) (context : Value) (restricted : Bool) : Run (List String) := do
  let names ← Run.recover (·.kind.isAny Kind.refusals) (Visible.listing run context)
    fun _ => Attribute.tableNames run context
  pure (if restricted then names.eraseDups
    else names.eraseDups.filter fun name => !isRestrictedName name)

/-- The names that the scope of a resolver shows. -/
def Resolver.scopeNames (run : Runner) (r : Resolver) : Run (List String) := do
  let names ← r.contexts.mapM fun (_, context) =>
    visibleNames run context r.variant.strategy.includesRestricted
  pure (sortNames names.flatten)

end OrderedScope
