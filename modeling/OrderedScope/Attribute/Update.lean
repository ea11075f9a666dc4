import OrderedScope.Attribute.Access

/-!
# Setting and Deleting Attributes

A member of the class that takes control of writing is asked first; otherwise the value itself is
changed, if it can hold attributes of its own. Native classes cannot be changed, and scopes refuse
every change.
-/

namespace OrderedScope.Attribute

/-- Writes a slot of an object: a new value, or none to empty it. -/
def updateSlot (owner : Nat) (name : String) (v : Value) (new : Option Value) : Run Unit := do
  let w ← MonadState.get
  match v, new with
  | .object i, some x =>
    modify fun w => { w with objects := w.objects.modify i fun o =>
      { o with slots := ((owner, name), x) :: o.slots.filter fun s => s.1 != (owner, name) } }
  | .object i, none =>
    if (w.slotValue? i owner name).isNone then Run.raise (.bareAttribute name)
    else modify fun w => { w with objects := w.objects.modify i fun o =>
      { o with slots := o.slots.filter fun s => s.1 != (owner, name) } }
  | _, _ => Run.raise (.bareAttribute name)

/-- Asks a member that takes control of writing to write or, without a new value, to delete. -/
def updateMember (run : Runner) (raw v : Value) (new : Option Value) : Run Unit := do
  let w ← MonadState.get
  let className := w.fullName (w.classOf v)
  match raw, new with
  | .property _ (some setter) _, some x => let _ ← run (.call (.fn setter) [v, x] [])
  | .property _ none name, some _ => Run.raise (.noAccessor "setter" name className)
  | .property _ _ name, none => Run.raise (.noAccessor "deleter" name className)
  | .slot owner name, _ => updateSlot owner name v new
  | .nativeMember _ .slot _, _ => Run.raise (.misuse .attr "readonly attribute")
  | .nativeMember owner _ name, _ =>
    Run.raise (.misuse .attr ("attribute " ++ Text.enclose name ++ " of "
      ++ Text.encloseUpTo 100 (w.fullName owner) ++ " objects is not writable"))
  | _, some x =>
    match w.typeMember? (w.classOf raw) "__set__" with
    | some writer => let _ ← run (.call writer [raw, v, x] [])
    | none => Run.raise (.bareAttribute "__set__")
  | _, none =>
    match w.typeMember? (w.classOf raw) "__delete__" with
    | some remover => let _ ← run (.call remover [raw, v] [])
    | none => Run.raise (.bareAttribute "__delete__")

/-- The **standard update** of a value that is taken as a plain object. -/
def objectUpdate (run : Runner) (v : Value) (name : String) (new : Option Value) : Run Unit := do
  let w ← MonadState.get
  let c := w.classOf v
  let member := w.typeMember? c name
  let store : Run Unit := do
    match w.ownAttrs? v, new with
    | some _, some x => modify (·.mapAttrs v (·.put name x))
    | some own, none =>
      if own.has name then modify (·.mapAttrs v (·.erase name))
      else Run.raise (.noPlace (w.fullName c) name)
    | none, _ =>
      if member.isSome then Run.raise (.fixedAttribute (w.fullName c) name)
      else Run.raise (.noPlace (w.fullName c) name)
  match member with
  | some raw => if w.controlsWrite raw then updateMember run raw v new else store
  | none => store

/-- The standard update of a class. -/
def classUpdate (run : Runner) (c : ClassRef) (name : String) (new : Option Value) : Run Unit := do
  let w ← MonadState.get
  match c with
  | .native n => Run.raise (.immutableClass n.fullName name)
  | .world _ =>
    let store : Run Unit := do
      match new with
      | some x => modify (·.mapAttrs (.cls c) (·.put name x))
      | none =>
        if (w.ownMembers c).has name then modify (·.mapAttrs (.cls c) (·.erase name))
        else Run.raise (.noClassAttribute (w.fullName c) name)
    match w.typeMember? (w.metaclassOf c) name with
    | some raw => if w.controlsWrite raw then updateMember run raw (.cls c) new else store
    | none => store

/-- Updates an attribute: to a new value, or without one deletes it. -/
def update (run : Runner) (v : Value) (name : String) (new : Option Value) : Run Unit := do
  let hook := if new.isSome then "__setattr__" else "__delattr__"
  let args := Value.str name :: new.toList
  match ← Run.reading fun w => w.typeMember? (w.classOf v) hook, v with
  | some (.nativeMember ..), .cls c | none, .cls c => classUpdate run c name new
  | some (.nativeMember ..), _ | none, _ => objectUpdate run v name new
  | some f, _ => let _ ← callHook run f v args

/-- **Sets** an attribute. -/
def set (run : Runner) (v : Value) (name : String) (x : Value) : Run Unit :=
  update run v name (some x)

/-- **Deletes** an attribute. -/
def delete (run : Runner) (v : Value) (name : String) : Run Unit := update run v name none

end OrderedScope.Attribute
