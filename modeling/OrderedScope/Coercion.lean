import OrderedScope.Attribute.Equality

/-!
# Taking a Value for a Direction

Where a direction is needed any value can be given. A direction is taken if it equals one of the
six; a word, if it spells one; a sequence, if its items stand for the groups of one. Anything else
is rejected with an error that carries it.

Items are looked up in a table of groups, by their hash and by equality, and a word is asked for its
upper-case letters. So a class of the world has a say in what an item, a word or a direction is
taken for. What equals a direction is taken as it stands, though it need not be made of groups: such
a value is asked for its name, and what becomes of one that has a name is not followed.
-/

namespace OrderedScope

namespace Direction

/-! ### Sequences -/

/-- The groups that the items of a sequence stand for. The first item that stands for none is put
into words, for the message of an error that is not shown. -/
def groupsOf? (run : Runner) : List Value → Run (Option (List Group))
  | [] => pure (some [])
  | v :: rest => do
    match ← Group.ofItem? run v with
    | some g => (Option.map (g :: ·)) <$> groupsOf? run rest
    | none => do
      let _ ← run (.text [] v)
      pure none

/-- The direction that the items of a sequence stand for. An error of a wrong value counts as an
item that stands for no group. -/
def ofItems? (run : Runner) (items : Run (List Value)) : Run (Option Direction) :=
  Run.recover (·.isA .value) (do pure ((← groupsOf? run (← items)).bind ofGroups?))
    fun _ => pure none

/-- Whether the instances of a class are sequences. -/
def isSequence (w : World) (c : ClassRef) : Bool :=
  [.list, .tuple, .str, .range, .bytes].any fun d => w.isSubclass c (.native d)

/-- Whether a value **passes as a sequence**: whether it tells a class of sequences, or is of
one. -/
def passesAsSequence (run : Runner) (v : Value) : Run Bool := do
  match ← Attribute.get run v "__class__" with
  | .cls c => Run.reading fun w => isSequence w c || isSequence w (w.classOf v)
  | _ => Run.raise (.misuse .type "issubclass() arg 1 must be a class")

/-! ### Words -/

/-- The groups under some letters in the table of all groups by letter. -/
def groupsUnder? (run : Runner) : List Value → Run (Option (List Group))
  | [] => pure (some [])
  | v :: rest => do
    match ← Group.keyed run (·.letter.toString) v with
    | some g => (Option.map (g :: ·)) <$> groupsUnder? run rest
    | none => pure none

/-- The direction that the upper-case letters spell which a function gives. The function of the
texts gives those of a text. -/
def spelledBy? (run : Runner) (upper : Value) : Run (Option Direction) := do
  match upper with
  | .nativeMethod "upper" (.str s) => pure (ofWord? s)
  | .nativeMethod "upper" (.object i) =>
    Run.reading fun w => (w.content? (.object i)).bind ofWord?
  | _ => do
    let word ← run (.call upper [] [])
    pure ((← groupsUnder? run (← word.items)).bind ofGroups?)

/-- The direction that a text spells. An error of a missing key counts as a letter of no group. -/
def ofText? (run : Runner) (v : Value) : Run (Option Direction) :=
  Run.recover (·.isA .key) (do spelledBy? run (← Attribute.get run v "upper")) fun _ => pure none

/-! ### Directions -/

/-- Whether the value under the groups of a direction **equals** the groups of another. -/
def equalsEntries (run : Runner) (d : Direction) (x : Value) : Run Bool := do
  match ← x.asksEqual run (.tuple (d.groups.map .group)) with
  | some answer => pure answer
  | none =>
    match x with
    | .tuple entries => Value.equalGroups run d.groups entries
    | _ => do
      let w ← get
      if w.isSubclass (w.classOf x) (.native .tuple) then
        Value.equalGroups run d.groups ((w.heldItems? x).getD [])
      else pure false

/-- Whether a value equals a direction by its groups, if it tells the class of directions. -/
def equalsFields (run : Runner) (d : Direction) (v : Value) : Run (Option Bool) := do
  match ← Attribute.get run v "__class__" with
  | .cls (.native .direction) => do
    some <$> equalsEntries run d (← Attribute.get run v "groups")
  | _ => pure none

/-- Whether an object or a class **equals** a direction. One of a class below the directions is
asked first. -/
def equals (run : Runner) (d : Direction) (v : Value) : Run Bool := do
  let w ← get
  let byFields := equalsFields run d v
  let byClass := v.asksEqual run d.value
  let below := w.isSubclass (w.classOf v) (.native .direction)
  let asked := below && (w.ownHook? v "__eq__").isSome
  match ← (if asked then byClass else byFields) with
  | some answer => pure answer
  | none => do pure ((← (if below then byFields else byClass)).getD false)

/-! ### Values -/

/-- What an object or a class is **taken** for: it is asked whether it is a direction, a word or a
sequence. -/
def takeByClass (run : Runner) (v : Value) : Run (Option Value) := do
  if ← Attribute.isInstance run v (.native .direction) then
    pure (if ← all.anyM (equals run · v) then some v else none)
  else if ← Attribute.isInstance run v (.native .str) then
    (Option.map value) <$> ofText? run v
  else if ← passesAsSequence run v then
    (Option.map value) <$> ofItems? run v.items
  else pure none

/-- What a value is **taken** for where a direction is needed, if it is. -/
def take? (run : Runner) (v : Value) : Run (Option Value) := do
  match v with
  | .direction entries => do
    pure (if ← all.anyM (Value.equalGroups run ·.groups entries) then some v else none)
  | .str s => pure ((ofWord? s).map value)
  | .group g => pure ((ofWord? g.name).map value)
  | .list _ | .tuple _ | .growing _ => (Option.map value) <$> ofItems? run v.items
  | .object _ | .cls _ => takeByClass run v
  | _ => pure none

/-- **Rejects** a value that is no direction. -/
def reject {α : Type} (run : Runner) (v : Value) : Run α := do
  Run.raise (.badDirection v (← v.quotedText run))

/-- **Accepts** a value where a direction is needed, or rejects it. -/
def accept (run : Runner) (v : Value) : Run Value := do
  match ← take? run v with
  | some x => pure x
  | none => reject run v

/-- The direction that an accepted value is. What only equals one is asked for its name, and is not
followed further. -/
def ofAccepted (run : Runner) (x : Value) : Run Direction := do
  match x.direction? with
  | some d => pure d
  | none =>
    let _ ← x.directionName run
    throw .exhausted

/-- The **direction** that a value stands for; anything else is rejected. -/
def coerce (run : Runner) (v : Value) : Run Direction := do ofAccepted run (← accept run v)

end Direction

end OrderedScope
