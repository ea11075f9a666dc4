import OrderedScope.Attribute.Access

/-!
# Member Tables

What a value holds under a name, read from the tables without asking the value: its own attributes
and the members along resolution lines. Two walks are here. `held?` decides whether a name is held
at all; `walk?` goes through the tables of a value in the order of the attribute protocol and binds
what it finds by hand. A walk reads the table of each class through the metaclass, so a metaclass
with hooks is noticed; the hooks of the value itself are not.

Both tell by an object of their own, `Value.missing`, that a name is not held. A table that holds
this very object under a name thus counts as one that does not hold the name.
-/

namespace OrderedScope

namespace World

/-- The member by which a class replaces the table of its instances, if it does: the first entry
under the table's name that is not the standard field of the class that holds it. -/
def tableOverride? (w : World) (c : ClassRef) : Option Value :=
  (w.lineOf c).findSome? fun d =>
    match w.ownMember? d "__dict__" with
    | some raw =>
      match raw with
      | .nativeMember owner .getset "__dict__" => if owner = d then none else some raw
      | _ => some raw
    | none => none

end World

namespace Attribute

/-! ### What a value holds -/

/-- The attribute that an instance holds itself, unless its class replaces the table. -/
def heldByInstance? (run : Runner) (v : Value) (name : String) : Run (Option Value) := do
  let w ← MonadState.get
  let readable : Bool :=
    match w.tableOverride? (w.classOf v) with
    | none => true
    | some raw => w.classOf raw == .native .slotMember
  if readable then
    match ← Run.optional (objectGet run v "__dict__") with
    | none => pure none
    | some (.dict entries) => pure (Members.find? entries name)
    | some other => do
      Run.raise (.misuse .type ("descriptor 'get' for 'dict' objects doesn't apply to a "
        ++ Text.encloseUpTo 100 (← classNameOf other) ++ " object"))
  else pure none

/-- The member that a class holds itself, read through its metaclass; a missing key, from whatever
source, counts as no member. -/
def heldByClass? (run : Runner) (c : ClassRef) (name : String) : Run (Option Value) := do
  let w ← MonadState.get
  if (w.tableOverride? (w.metaclassOf c)).isSome then pure none
  else
    Run.recover (·.isA .key) (do some <$> (← get run (.cls c) "__dict__").itemAt name)
      fun _ => pure none

/-- The first member of a name along a line of classes. -/
def heldAlong? (run : Runner) (name : String) : List ClassRef → Run (Option Value)
  | [] => pure none
  | c :: rest => do
    match ← heldByClass? run c name with
    | some raw => pure (some raw)
    | none => heldAlong? run name rest

/-- What a class or a class above it holds. -/
def heldInLine? (run : Runner) (c : ClassRef) (name : String) : Run (Option Value) := do
  heldAlong? run name (← Run.reading (·.lineOf c))

/-- The entry that is **selected** from the tables of a value. Of an attribute of the instance and a
member of its class, the member is taken if it takes control of reading and writing. A class is
followed by its metaclass. -/
def selected? (run : Runner) (v : Value) (name : String) : Run (Option Value) := do
  match v with
  | .cls c =>
    match ← heldInLine? run c name with
    | some raw => pure (some raw)
    | none => do heldInLine? run (← Run.reading (·.metaclassOf c)) name
  | _ =>
    let own ← heldByInstance? run v name
    let c ← Run.reading (·.classOf v)
    let member ← heldInLine? run c name
    match own, member with
    | some x, some raw => do
      let d ← Run.reading (·.classOf raw)
      if (← heldInLine? run d "__get__").isSome then
        if (← heldInLine? run d "__set__").isSome then pure (some raw) else pure (some x)
      else pure (some x)
    | some x, none => pure (some x)
    | none, _ => pure member

/-- What a value **holds** under a name: the entry that is selected, unless it is the object that
tells that there is nothing. -/
def held? (run : Runner) (v : Value) (name : String) : Run (Option Value) :=
  (·.bind Value.known?) <$> selected? run v name

/-- What a **slot** gives for an instance. What only passes for a slot is asked for its reader. -/
def readSlot (run : Runner) (raw v : Value) : Run Value := do
  let w ← MonadState.get
  if w.classOf raw = .native .slotMember then bind run raw (some v) (w.classOf v)
  else run (.call (← get run raw "__get__") [v, .cls (w.classOf v)] [])

/-- Whether what a value holds is a **slot** that the value never filled. -/
def isEmptySlot (run : Runner) (raw v : Value) : Run Bool := do
  if ← isInstance run raw (.native .slotMember) then
    if ← Run.reading (·.isClass v) then pure false
    else pure (Option.isNone (← Run.optional (readSlot run raw v)))
  else pure false

/-! ### Hooks -/

/-- The first entry of a name in a line of tables that is itself read through the metaclass, and
whether it is a plain function. -/
def hasPlainHook (run : Runner) (hook : String) : List Value → Run Bool
  | [] => pure false
  | klass :: rest => do
    let table ← get run klass "__dict__"
    if ← table.hasKey hook then
      let again ← get run klass "__dict__"
      isInstance run (← again.itemAt hook) (.native .function)
    else hasPlainHook run hook rest

/-- Whether a class is given a hook by a plain function. -/
def classHasPlainHook (run : Runner) (c : ClassRef) (hook : String) : Run Bool := do
  hasPlainHook run hook (← (← get run (.cls c) "__mro__").items)

/-- Whether asking a value for a name goes **through hooks**: one in front of every access, or one
behind it for a name that the value does not hold. -/
def overridesProtocol (run : Runner) (v : Value) (name : String) : Run Bool := do
  let c ← Run.reading (·.classOf v)
  if ← classHasPlainHook run c "__getattribute__" then pure true
  else if ← classHasPlainHook run c "__getattr__" then
    pure (Option.isNone (← held? run v name))
  else pure false

/-! ### The walk -/

/-- The tables behind a value: those of its class; a class is its own first table. -/
def typeChain (run : Runner) (v : Value) : Run (List Value) := do
  let w ← MonadState.get
  let c := w.classOf v
  if w.isClass v then
    let own ← get run v "__mro__"
    (← own.joinTuple (← get run (.cls c) "__mro__")).items
  else (← get run (.cls c) "__mro__").items

/-- The first entry of a name in a line of tables. -/
def entryAlong? (run : Runner) (name : String) : List Value → Run (Option Value)
  | [] => pure none
  | klass :: rest => do
    let table ← get run klass "__dict__"
    if ← table.hasKey name then some <$> table.itemAt name else entryAlong? run name rest

/-- Whether the class of an entry lets it take control of reading, and of writing or deleting. -/
def controlsBoth (run : Runner) (raw : Value) : Run Bool := do
  let kind := Value.cls (← Run.reading (·.classOf raw))
  if ← has run kind "__get__" then
    if ← has run kind "__set__" then pure true else has run kind "__delete__"
  else pure false

/-- The own attributes of a value as a table, if it has one. -/
def ownTable? (run : Runner) (v : Value) : Run (Option Members) := do
  let found ← Run.recover (fun e => e.isA .attr || e.isA .type)
    (some <$> objectGet run v "__dict__") fun _ => pure none
  match found with
  | some (.dict entries) | some (.proxy entries) => pure (some entries)
  | some other => do
    let _ ← get run other "__class__"
    pure none
  | none => pure none

/-- The entry of a walk where no member takes control: an own attribute of an instance, else the
member. An own attribute stands in front of the member even where it tells that there is nothing. -/
def uncontrolled? (run : Runner) (v : Value) (name : String) (member : Option Value) :
    Run (Option (Value × Bool)) := do
  let own ← ownTable? run v
  let isClass ← Run.reading (·.isClass v)
  match own.bind (·.find? name), isClass, member with
  | some x, false, _ => pure (x.known?.map (·, false))
  | _, _, some raw => pure (some (raw, true))
  | _, _, none => pure none

/-- The entry that a **walk** through the tables of a value finds, and whether it is still to be
bound: a member that takes control of reading and writing, then an own attribute, then another
member. -/
def walk? (run : Runner) (v : Value) (name : String) : Run (Option (Value × Bool)) := do
  let member := (← entryAlong? run name (← typeChain run v)).bind Value.known?
  let controlled ← match member with
    | some raw => controlsBoth run raw
    | none => pure false
  match member, controlled with
  | some raw, true => pure (some (raw, true))
  | _, _ => uncontrolled? run v name member

/-- Binds an entry by hand, through the reader that its class gives it. -/
def bindEntry (run : Runner) (raw v : Value) : Run Value := do
  let w ← MonadState.get
  let owner := w.classOf v
  let (inst, at_) : Option Value × ClassRef :=
    match v with
    | .cls c => (none, c)
    | _ => (some v, owner)
  match ← get? run (.cls (w.classOf raw)) "__get__" with
  | none => pure raw
  | some (.nativeMember _ .wrapper _) => bind run raw inst at_
  | some reader => run (.call reader [raw, inst.getD .none, .cls at_] [])

/-- The names in the tables of a value. -/
def tableNames (run : Runner) (v : Value) : Run (List String) := do
  let own := ((← ownTable? run v).getD []).names
  let tables ← (← typeChain run v).mapM fun klass => do
    let table ← get run klass "__dict__"
    pure ((← table.items).filterMap fun
      | .str s => some s
      | _ => none)
  pure (own ++ tables.flatten).eraseDups

end Attribute

end OrderedScope
