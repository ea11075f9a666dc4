import OrderedScope.Direction
import OrderedScope.Kind

/-!
# Values

What a context can be and what a look-up can give: plain data, the entities of an object world, and
what the library itself makes (scopes, resolvers, capsules). Entities are named by their place in
the world; only growing lists, objects, classes, modules and functions can change.

A `Report` is a value as it looks from outside, with every entity replaced by its description.
-/

namespace OrderedScope

abbrev ObjectId := Nat
abbrev ModuleId := Nat
abbrev FunctionId := Nat
abbrev ResolverId := Nat
abbrev CapsuleId := Nat
abbrev GrowingId := Nat

/-- The **native classes**: those that exist in every world and never change. -/
inductive NativeClass where
  | object
  | type
  | nothing
  | bool
  | int
  | float
  | str
  | bytes
  | range
  | list
  | tuple
  | dict
  | proxy
  | function
  | method
  | builtin
  | module
  | property
  | staticMethod
  | classMethod
  | slotMember
  | getset
  | methodMember
  | wrapper
  | classMethodMember
  | space
  | partialCall
  | group
  | groupType
  | direction
  | scope
  | resolverType
  | resolverBase
  | resolver (name : String)
  | capsule
  | closure
  | callable
  | code
  | cell
  | descriptor (get set delete : Bool)
  | named (name : String)
deriving DecidableEq, Repr

/-- A **class**: a native one, or one of the world by its place there. -/
inductive ClassRef where
  | native (c : NativeClass)
  | world (i : Nat)
deriving DecidableEq, Repr

/-- How a member of a native class that is no function behaves. -/
inductive NativeKind where
  | method
  | wrapper
  | getset
  | slot
  | classMethod
deriving DecidableEq, Repr

/-- The functions that the classes of this library hold. -/
inductive LibraryFunction where
  | scopeGet
  | scopeSet
  | scopeDelete
  | scopeDir
  | scopeText
  | scopeInit
  | descriptorGet
  | descriptorSet
  | descriptorDelete
  | closureCall
  | closureWrap
  | closureText
  | capsuleCall
  | capsuleText
  | callableCall
  | callableText
  | resolverText
  | directionText
deriving DecidableEq, Repr

/-- A **report**: a value as it looks from outside. -/
inductive Report where
  | null
  | bool (b : Bool)
  | int (n : Int)
  | float (x : Float)
  /-- A number of a plain document, which is shown as it stands. -/
  | number (x : Float)
  | str (s : String)
  | bytes (s : String)
  | list (items : List Report)
  | tuple (items : List Report)
  | dict (entries : List (String × Report))
  | record (fields : List (String × Report))
  | object (id : String)
  | worldClass (name : String)
  | module (name : String)
  | function (name : String)
  | bound (name : String) (self : Report)
  | builtin (name : String)
  | property (getter : Option String)
  | slot (name : String)
  | descriptor (label : String)
  | group (g : Group)
  | direction (name : String)
  | scope (text : String)
  | resolver (text : String)
  | capsule (text : String)
  | space (fields : List (String × Report))
  | missing
  | otherClass (name : String)
  | other (className : String)

/-- The **values**. -/
inductive Value where
  | none
  | bool (b : Bool)
  | int (n : Int)
  | float (x : Float)
  | str (s : String)
  | bytes (s : String)
  | range (n : Int)
  | list (items : List Value)
  | tuple (items : List Value)
  | dict (entries : List (String × Value))
  /-- A read-only view of the members of a class. -/
  | proxy (entries : List (String × Value))
  | group (g : Group)
  /-- Anything in the guise of a direction: its entries need not be groups, and if they are it need
  not be one of the six. -/
  | direction (entries : List Value)
  | object (i : ObjectId)
  | cls (c : ClassRef)
  | module (i : ModuleId)
  | fn (i : FunctionId)
  | libFn (f : LibraryFunction)
  | bound (f self : Value)
  /-- A computed member; `name` is the name it was first given in a class. -/
  | property (getter setter : Option FunctionId) (name : Option String)
  | staticMethod (f : FunctionId)
  | classMethod (f : Value)
  /-- The storage of a named slot of the instances of a class of the world. -/
  | slot (owner : Nat) (name : String)
  | nativeMember (owner : ClassRef) (kind : NativeKind) (name : String)
  | nativeFn (name : String)
  | nativeMethod (name : String) (self : Value)
  | growing (i : GrowingId)
  | resolver (i : ResolverId)
  | capsule (i : CapsuleId)
  /-- The code of a function of the world. -/
  | code (i : FunctionId)
  /-- The cell of a variable that a function of the world captures, by its place. -/
  | cell (i : FunctionId) (place : Nat)
  /-- The object by which a look-up tells that there is nothing. -/
  | missing
  /-- An object of a class into which nothing here looks, by the name of the class. It is neither a
  text nor a sequence, and its class has a say in nothing. -/
  | foreign (className : String)
  /-- What was reported by a step of a script, kept as it looked then. -/
  | report (r : Report)
deriving Inhabited

/-- A value, unless it is the object that **tells that there is nothing**. -/
def Value.known? : Value → Option Value
  | .missing => .none
  | v => some v

/-- Nothing but that object **is none**. -/
theorem Value.known?_eq_none {v : Value} : v.known? = .none ↔ v = .missing := by
  cases v <;> simp [known?]

/-- Any other value is itself. -/
theorem Value.known?_eq_some {v x : Value} : v.known? = some x ↔ v = x ∧ v ≠ .missing := by
  cases v <;> simp [known?]

/-! ### Groups as values -/

/-- Some groups in the guise of a direction. -/
def Value.ofGroups (groups : List Group) : Value := .direction (groups.map .group)

/-- A direction as a value. -/
def Direction.value (d : Direction) : Value := .ofGroups d.groups

/-- The group that a value is. -/
def Value.group? : Value → Option Group
  | .group g => some g
  | _ => .none

/-- The group that a value **stands for**: the group itself, or the one of a name. -/
def Group.ofValue? : Value → Option Group
  | .group g => some g
  | .str s => ofName? s
  | _ => none

/-- The groups that some values are, if they all are groups. -/
def Value.groups? (entries : List Value) : Option (List Group) := entries.mapM group?

/-- A value is a group **exactly if** it is that group. -/
theorem Value.group?_eq_some {v : Value} {g : Group} : v.group? = some g ↔ v = .group g := by
  cases v <;> simp [group?]

/-- Some values are groups **exactly if** they are these groups as values. -/
theorem Value.groups?_eq_some {entries : List Value} {groups : List Group} :
    groups? entries = some groups ↔ entries = groups.map .group := by
  induction entries generalizing groups with
  | nil => cases groups <;> simp [groups?]
  | cons v rest ih =>
    rw [groups?] at ih ⊢
    simp only [List.mapM_cons, Option.bind_eq_bind, Option.bind_eq_some_iff, group?_eq_some, ih,
      Option.pure_def, Option.some.injEq]
    cases groups with
    | nil => simp
    | cons g groups =>
      simp only [List.cons.injEq, List.map_cons]
      exact ⟨fun ⟨_, first, _, others, same⟩ => same.1 ▸ same.2 ▸ ⟨first, others⟩,
        fun ⟨first, others⟩ => ⟨g, first, groups, others, rfl, rfl⟩⟩

/-- The direction that a value **is**. -/
def Value.direction? : Value → Option Direction
  | .direction entries => (groups? entries).bind Direction.ofGroups?
  | _ => .none

/-- A direction as a value is **that direction**. -/
theorem Direction.direction?_value (d : Direction) : d.value.direction? = some d := by
  rw [value, Value.ofGroups, Value.direction?, Value.groups?_eq_some.2 rfl]
  exact ofGroups?_eq_some_iff.2 rfl

/-- A table of named values in the order of insertion. -/
abbrev Members := List (String × Value)

namespace Members

/-- The value under a name. -/
def find? (m : Members) (name : String) : Option Value := m.lookup name

/-- The names of a table, in order. -/
def names (m : Members) : List String := m.map (·.1)

/-- Whether a table holds a name. -/
def has (m : Members) (name : String) : Bool := m.any fun e => e.1 == name

/-- Puts a value under a name: in the place of the old value, or last. -/
def put (m : Members) (name : String) (v : Value) : Members :=
  if m.has name then m.map fun e => if e.1 == name then (name, v) else e
  else m ++ [(name, v)]

/-- Removes a name. -/
def erase (m : Members) (name : String) : Members := m.filter fun e => e.1 != name

/-! ### Laws -/

/-- A name has no value exactly if the table does not hold it. -/
theorem find?_eq_none_iff {m : Members} {name : String} :
    m.find? name = none ↔ m.has name = false := by
  induction m with
  | nil => simp [find?, has]
  | cons e rest ih =>
    obtain ⟨key, w⟩ := e
    by_cases h : key = name
    · subst h; simp [find?, has]
    · simp_all [find?, has, List.lookup_cons, beq_false_of_ne (Ne.symm h)]

/-- What a table gives for a name is **an entry** of it. -/
theorem mem_of_find? {m : Members} {name : String} {v : Value} (h : m.find? name = some v) :
    (name, v) ∈ m := by
  obtain ⟨before, rest, rfl, -⟩ := List.lookup_eq_some_iff.1 h
  exact List.mem_append_right before List.mem_cons_self

/-- What is put under a name is found there. -/
theorem find?_put_self (m : Members) (name : String) (v : Value) :
    (m.put name v).find? name = some v := by
  unfold put
  split
  · next h =>
    induction m with
    | nil => simp [has] at h
    | cons e rest ih =>
      obtain ⟨key, w⟩ := e
      by_cases he : key = name
      · simp [find?, he]
      · have : has rest name = true := by simpa [has, he] using h
        simpa [find?, he, List.lookup_cons, beq_false_of_ne (Ne.symm he)] using ih this
  · next h =>
    induction m with
    | nil => simp [find?]
    | cons e rest ih =>
      obtain ⟨key, w⟩ := e
      have he : key ≠ name := fun he => h (by simp [has, he])
      have : ¬ has rest name = true := by simpa [has, he] using h
      simpa [find?, List.lookup_cons, beq_false_of_ne (Ne.symm he)] using ih this

/-- What is put under a name changes no other name. -/
theorem find?_put_of_ne (m : Members) {name other : String} (v : Value)
    (h : other ≠ name) : (m.put name v).find? other = m.find? other := by
  unfold put
  split
  · rename_i present
    clear present
    induction m with
    | nil => rfl
    | cons e rest ih =>
        obtain ⟨key, x⟩ := e
        simp only [find?, List.map_cons] at ih ⊢
        by_cases hit : key = name
        · simp only [hit, beq_self_eq_true, ↓reduceIte, List.lookup_cons, beq_false_of_ne h]
          exact ih
        · simp only [beq_false_of_ne hit, Bool.false_eq_true, ↓reduceIte, List.lookup_cons, ih]
  · simp [find?, List.lookup_append, List.lookup_cons, beq_false_of_ne h]

end Members

end OrderedScope
