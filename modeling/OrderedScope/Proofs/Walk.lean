import OrderedScope.Proofs.Tables

/-!
# Walking the Tables

The static strategy walks through the tables of a context in the order of the attribute protocol and
asks none of the hooks of the context. The tables of classes are still read by access, and so are
the hooks by which a member takes control of being read and written. Where no metaclass stands in
between, the walk runs no code and leaves the world as it is, and finds the entry that standard
access uses. A class is walked as an instance would be: what its metaclass holds comes behind its
own line, whether it takes control or not. Where this entry is the object that tells that there is
nothing, nothing is found.

## Main results

* `Attribute.outcome_walk?`: what a walk finds.
* `Lookup.outcome_staticFound?`: what the static strategy sees, up to empty slots.
-/

namespace OrderedScope

namespace World

/-- A member **is no slot**: it tells its class, and that is none of the classes of slots. -/
structure NoSlot (w : World) (raw : Value) : Prop where
  tells : w.TellsClass raw
  apart : w.isSubclass (w.classOf raw) (.native .slotMember) = false

/-- A member **controls plainly**: the hooks by which it takes control of being read and written
are found in its class without running code. -/
structure ControlsPlainly (w : World) (raw : Value) : Prop where
  metaclass : w.metaclassOf (w.classOf raw) = .native .type
  quiet : ∀ hook ∈ ["__get__", "__set__", "__delete__"], ∀ f,
    w.typeMember? (w.classOf raw) hook = some f → w.bindTask? f none (w.classOf raw) = none

/-- The class of an entry **tells its hooks**: under the names of the hooks by which the entry takes
control, access to the class uses the entries on its own line, and these are given without running
code. -/
structure TellsHooks (w : World) (raw : Value) : Prop where
  front : w.frontHook? (.cls (w.classOf raw)) = none
  back : w.backHook? (.cls (w.classOf raw)) = none
  own : ∀ hook ∈ ["__get__", "__set__", "__delete__"], w.classUsed? (w.classOf raw) hook =
    (w.typeMember? (w.classOf raw) hook).map fun f => .member f none (w.classOf raw)
  quiet : ∀ hook ∈ ["__get__", "__set__", "__delete__"], ∀ f,
    w.typeMember? (w.classOf raw) hook = some f → w.bindTask? f none (w.classOf raw) = none

/-- With the native metaclass, access to the hooks of a class uses **the entries on its line**. -/
theorem ControlsPlainly.tellsHooks {w : World} {raw : Value} (h : w.ControlsPlainly raw) :
    w.TellsHooks raw where
  front := (readsPlainly_of_metaclass h.metaclass).front
  back := (readsPlainly_of_metaclass h.metaclass).back
  own := by
    intro hook hh
    have outside : w.typeMember? (w.metaclassOf (w.classOf raw)) hook = none := by
      rw [h.metaclass, w.typeMember?_native]
      simp only [List.mem_cons, List.not_mem_nil, or_false] at hh
      rcases hh with rfl | rfl | rfl <;> rfl
    rw [classUsed?, outside]
  quiet := h.quiet

/-- What the tables behind a value **list** under a name: for a class the first entry on its own
line or on that of its metaclass, for an instance the entry that standard access uses. An own
attribute is not to be bound. -/
def listed? (w : World) (v : Value) (name : String) : Option (Value × Bool) :=
  match v with
  | .cls c => ((w.typeMember? c name).or (w.typeMember? (w.metaclassOf c) name)).map (·, true)
  | _ => (w.objectUsed? v name).map fun
    | .own x => (x, false)
    | .member raw _ _ => (raw, true)

/-- What a walk **finds** under a name: the entry that is listed, unless it tells that there is
nothing. -/
def walked? (w : World) (v : Value) (name : String) : Option (Value × Bool) :=
  (w.listed? v name).bind fun e => e.1.known?.map (·, e.2)

/-- An entry that a walk finds is **listed**, and does not tell that there is nothing. -/
theorem walked?_eq_some_iff {w : World} {v : Value} {name : String} {e : Value × Bool} :
    w.walked? v name = some e ↔ w.listed? v name = some e ∧ e.1 ≠ .missing := by
  rw [walked?, Option.bind_eq_some_iff]
  constructor
  · rintro ⟨⟨raw, loose⟩, listed, known⟩
    obtain ⟨x, found, rfl⟩ := Option.map_eq_some_iff.1 known
    obtain ⟨same, something⟩ := Value.known?_eq_some.1 found
    obtain rfl : raw = x := same
    exact ⟨listed, something⟩
  · rintro ⟨listed, something⟩
    exact ⟨e, listed, Option.map_eq_some_iff.2 ⟨e.1, Value.known?_eq_some.2 ⟨rfl, something⟩, rfl⟩⟩

/-- The object that tells that there is nothing takes **no control** of being read. -/
theorem controlsRead_missing (w : World) : w.controlsRead .missing = false := rfl

/-- The tables through which a walk goes are **accessible**, and the member that it finds controls
plainly. -/
inductive Walkable (w : World) (name : String) : Value → Prop
  | cls (c : ClassRef) : w.isClass (.cls c) = true → w.Accessible c →
      (∀ d ∈ w.lineOf c ++ w.lineOf (w.metaclassOf c), w.Accessible d) →
      w.Accessible (w.metaclassOf c) →
      (∀ raw, (w.typeMember? c name).or (w.typeMember? (w.metaclassOf c) name) = some raw →
        w.ControlsPlainly raw) → Walkable w name (.cls c)
  | instance_ (v : Value) : w.isClass v = false → (∀ c, v ≠ .cls c) → w.ShowsTable v →
      w.Accessible (w.classOf v) → (∀ d ∈ w.lineOf (w.classOf v), w.Accessible d) →
      (∀ raw, w.typeMember? (w.classOf v) name = some raw → w.ControlsPlainly raw) →
      Walkable w name v

end World

namespace Attribute

variable {run : Runner} {raw v : Value} {c : ClassRef} {name : String} {w : World}

/-- A member that is no slot is **no empty slot**. -/
theorem outcome_isEmptySlot (h : w.NoSlot raw) (v : Value) :
    (isEmptySlot run raw v).outcome w = (.ok false, w) := by
  rw [isEmptySlot, Run.outcome_bind_of_ok (outcome_isInstance h.tells _), h.apart]
  rfl

/-- A member that is computed by no task is **bound** to a value, and no code runs. -/
theorem outcome_bind_of_no_task (run : Runner) (h : w.bindTask? raw none c = none) :
    ∃ x, (bind run raw none c).outcome w = (.ok x, w) := by
  have reader (next : Option Value → Run Value)
      (asked : (w.typeMember? (w.classOf raw) "__get__").map
        (fun f => Task.call f [raw, Value.none, .cls c] []) = none)
      (goes : next none = pure raw) :
      ∃ x, (Run.reading (fun w => w.typeMember? (w.classOf raw) "__get__") >>= next).outcome w =
        (.ok x, w) := by
    rw [Run.outcome_bind_of_ok (Run.outcome_reading _ w), Option.map_eq_none_iff.1 asked, goes]
    exact ⟨raw, rfl⟩
  cases raw with
  | fn i => exact ⟨_, rfl⟩
  | libFn f => exact ⟨_, rfl⟩
  | staticMethod f => exact ⟨_, rfl⟩
  | classMethod f => exact ⟨_, rfl⟩
  | nativeMember o kind name => cases kind <;> exact ⟨_, rfl⟩
  | slot o name => exact ⟨_, rfl⟩
  | property getter setter name => exact ⟨_, rfl⟩
  | _ => exact reader _ h rfl

/-- What the class of an entry gives as one of its hooks is **read from its line**. -/
theorem outcome_get?_hook (run : Runner) (h : w.TellsHooks raw) {hook : String}
    (hh : hook ∈ ["__get__", "__set__", "__delete__"]) :
    match w.typeMember? (w.classOf raw) hook with
    | none => (get? run (.cls (w.classOf raw)) hook).outcome w = (.ok none, w)
    | some f => ∃ x, (bind run f none (w.classOf raw)).outcome w = (.ok x, w) ∧
        (get? run (.cls (w.classOf raw)) hook).outcome w = (.ok (some x), w) := by
  have standard : (get run (.cls (w.classOf raw)) hook).outcome w =
      (classGet run (w.classOf raw) hook).outcome w := outcome_get_of_unhooked h.front h.back
  rw [get?, Run.outcome_optional, standard, outcome_classGet, h.own hook hh]
  rcases hm : w.typeMember? (w.classOf raw) hook with _ | f
  · rfl
  · obtain ⟨x, hx⟩ := outcome_bind_of_no_task run (h.quiet hook hh f hm)
    have given : (TableEntry.give run (.member f none (w.classOf raw))).outcome w = (.ok x, w) := hx
    simp only [Option.map_some, given]
    exact ⟨x, hx, rfl⟩

/-- Whether the class of an entry has a hook is **read from its line**. -/
theorem outcome_has_hook (h : w.TellsHooks raw) {hook : String}
    (hh : hook ∈ ["__get__", "__set__", "__delete__"]) :
    (has run (.cls (w.classOf raw)) hook).outcome w =
      (.ok (w.typeMember? (w.classOf raw) hook).isSome, w) := by
  have told := outcome_get?_hook run h hh
  rw [has, Run.outcome_map]
  rcases hm : w.typeMember? (w.classOf raw) hook with _ | f <;> rw [hm] at told
  · rw [told]
  · obtain ⟨x, -, hx⟩ := told
    rw [hx]
    rfl

/-- Whether a member takes control of reading and writing is read, and **no code runs**. -/
theorem outcome_controlsBoth (h : w.TellsHooks raw) :
    (controlsBoth run raw).outcome w = (.ok (w.controlsRead raw && w.controlsWrite raw), w) := by
  have hook {name : String} (hn : name ∈ ["__get__", "__set__", "__delete__"]) :
      (has run (.cls (w.classOf raw)) name).outcome w = _ := outcome_has_hook h hn
  rw [controlsBoth, Run.outcome_bind_of_ok (Run.outcome_reading _ w),
    Run.outcome_bind_of_ok (hook (by simp)), World.controlsRead, World.controlsWrite]
  cases (w.typeMember? (w.classOf raw) "__get__").isSome with
  | false => rfl
  | true =>
      simp only [↓reduceIte, Bool.true_and]
      rw [Run.outcome_bind_of_ok (hook (by simp))]
      cases (w.typeMember? (w.classOf raw) "__set__").isSome with
      | true => rfl
      | false => exact hook (by simp)

/-- Without a member in control, the own attribute of an instance comes **before the member**. -/
theorem outcome_uncontrolled?_instance (apart : w.isClass v = false) (instance_ : ∀ c, v ≠ .cls c)
    (table : w.ShowsTable v) (member : Option Value) :
    (uncontrolled? run v name member).outcome w =
      (.ok (match (w.ownAttrs? v).bind (·.find? name) with
        | some x => x.known?.map (·, false)
        | none => member.map (·, true)), w) := by
  obtain ⟨own, shown, names⟩ := outcome_ownTable? run instance_ table
  rw [uncontrolled?, Run.outcome_bind_of_ok shown,
    Run.outcome_bind_of_ok (Run.outcome_reading _ w), apart, names]
  rcases (w.ownAttrs? v).bind (·.find? name) with _ | x <;> rcases member with _ | raw <;> rfl

/-- A walk through the tables of an **instance** finds the entry that standard access uses. -/
theorem outcome_walk?_instance (apart : w.isClass v = false) (instance_ : ∀ c, v ≠ .cls c)
    (table : w.ShowsTable v) (accessible : w.Accessible (w.classOf v))
    (line : ∀ d ∈ w.lineOf (w.classOf v), w.Accessible d)
    (plain : ∀ raw, w.typeMember? (w.classOf v) name = some raw → w.TellsHooks raw) :
    (walk? run v name).outcome w = (.ok (w.walked? v name), w) := by
  have entry : (entryAlong? run name ((w.lineOf (w.classOf v)).map .cls)).outcome w =
      (.ok (w.typeMember? (w.classOf v) name), w) := outcome_entryAlong? line
  have uncontrolled (member : Option Value) :
      (uncontrolled? run v name member).outcome w = _ :=
    outcome_uncontrolled?_instance apart instance_ table member
  rw [walk?, Run.outcome_bind_of_ok (outcome_typeChain apart accessible),
    Run.outcome_bind_of_ok entry, World.walked?, World.listed?, World.objectUsed?]
  case x_1 => exact instance_
  rcases hm : w.typeMember? (w.classOf v) name with _ | raw
  · simp only [Option.bind_none, pure_bind]
    refine (uncontrolled none).trans ?_
    rcases (w.ownAttrs? v).bind (·.find? name) with _ | x <;> rfl
  by_cases known : raw = .missing
  · -- A member that tells that there is nothing is passed over.
    subst known
    simp only [Option.bind_some, Value.known?, pure_bind]
    refine (uncontrolled none).trans ?_
    rcases (w.ownAttrs? v).bind (·.find? name) with _ | x <;>
      simp [w.controlsRead_missing, Value.known?]
  · simp only [Option.bind_some, Value.known?_eq_some.2 ⟨rfl, known⟩]
    rw [Run.outcome_bind_of_ok (outcome_controlsBoth (plain raw hm))]
    cases controls : w.controlsRead raw && w.controlsWrite raw with
    | true =>
        rcases (w.ownAttrs? v).bind (·.find? name) with _ | x <;>
          simp [controls, Value.known?_eq_some.2 ⟨rfl, known⟩]
    | false =>
        refine (uncontrolled (some raw)).trans ?_
        rcases (w.ownAttrs? v).bind (·.find? name) with _ | x <;>
          simp [controls, Value.known?_eq_some.2 ⟨rfl, known⟩]

/-- Behind a class stand its own line and **that of its metaclass**. -/
theorem outcome_typeChain_class (isClass : w.isClass (.cls c) = true) (own : w.Accessible c)
    (outside : w.Accessible (w.metaclassOf c)) :
    (typeChain run (.cls c)).outcome w =
      (.ok ((w.lineOf c ++ w.lineOf (w.metaclassOf c)).map .cls), w) := by
  rw [typeChain, Run.outcome_bind_of_ok (Run.outcome_get w)]
  simp only [isClass, ↓reduceIte]
  rw [Run.outcome_bind_of_ok (outcome_get_line own)]
  have outer : (get run (.cls (w.classOf (.cls c))) "__mro__").outcome w = _ :=
    outcome_get_line outside
  rw [Run.outcome_bind_of_ok outer, List.map_append]
  rfl

/-- The own table of a class is the one that **its metaclass shows**. -/
theorem outcome_ownTable?_class (run : Runner) (own : w.Accessible c) :
    (ownTable? run (.cls c)).outcome w = (.ok (some (w.ownMembers c)), w) := by
  have shown : (objectGet run (.cls c) "__dict__").outcome w =
      (.ok (.proxy (w.ownMembers c)), w) :=
    (outcome_objectGet_native (Or.inl rfl) own.table).trans rfl
  rw [ownTable?, Run.outcome_bind, Run.outcome_recover, Run.outcome_map, shown]
  rfl

/-- A walk through the tables of a **class** finds the first entry on its own line or on that of its
metaclass. -/
theorem outcome_walk?_class (isClass : w.isClass (.cls c) = true) (own : w.Accessible c)
    (line : ∀ d ∈ w.lineOf c ++ w.lineOf (w.metaclassOf c), w.Accessible d)
    (outside : w.Accessible (w.metaclassOf c))
    (plain : ∀ raw, (w.typeMember? c name).or (w.typeMember? (w.metaclassOf c) name) = some raw →
      w.TellsHooks raw) :
    (walk? run (.cls c) name).outcome w = (.ok (w.walked? (.cls c) name), w) := by
  have entry :
      (entryAlong? run name ((w.lineOf c ++ w.lineOf (w.metaclassOf c)).map .cls)).outcome w =
      (.ok ((w.typeMember? c name).or (w.typeMember? (w.metaclassOf c) name)), w) := by
    rw [outcome_entryAlong? line, List.findSome?_append]
    rfl
  have uncontrolled (member : Option Value) :
      (uncontrolled? run (.cls c) name member).outcome w = (.ok (member.map (·, true)), w) := by
    rw [uncontrolled?, Run.outcome_bind_of_ok (outcome_ownTable?_class run own),
      Run.outcome_bind_of_ok (Run.outcome_reading _ w), isClass]
    rcases (some (w.ownMembers c)).bind (·.find? name) with _ | x <;>
      rcases member with _ | raw <;> rfl
  rw [walk?, Run.outcome_bind_of_ok (outcome_typeChain_class isClass own outside),
    Run.outcome_bind_of_ok entry, World.walked?, World.listed?]
  rcases hm : (w.typeMember? c name).or (w.typeMember? (w.metaclassOf c) name) with _ | raw
  · simp only [Option.bind_none, pure_bind]
    exact uncontrolled none
  by_cases known : raw = .missing
  · subst known
    simp only [Option.bind_some, Value.known?, pure_bind]
    exact uncontrolled none
  · simp only [Option.bind_some, Option.map_some, Value.known?_eq_some.2 ⟨rfl, known⟩]
    rw [Run.outcome_bind_of_ok (outcome_controlsBoth (plain raw hm))]
    cases w.controlsRead raw && w.controlsWrite raw with
    | true => rfl
    | false => exact uncontrolled (some raw)

/-- A walk finds the entry that the tables list, and **runs no code**. -/
theorem outcome_walk? (h : w.Walkable name v) :
    (walk? run v name).outcome w = (.ok (w.walked? v name), w) := by
  cases h with
  | cls c isClass own line outside plain =>
      exact outcome_walk?_class isClass own line outside fun raw h => (plain raw h).tellsHooks
  | instance_ _ apart instance_ table accessible line plain =>
      exact outcome_walk?_instance apart instance_ table accessible line
        fun raw h => (plain raw h).tellsHooks

end Attribute

namespace Lookup

open Attribute

variable {run : Runner} {context : Value} {name : String} {w : World}

/-- The static strategy that includes restricted members sees **what a walk finds**, if that is no
slot. -/
theorem outcome_staticFound? (h : w.Walkable name context)
    (filled : ∀ raw loose, w.walked? context name = some (raw, loose) → w.NoSlot raw) :
    (staticFound? run true context name).outcome w = (.ok (w.walked? context name), w) := by
  rw [staticFound?]
  simp only [Strategy.refuses, Bool.not_true, Bool.false_and, Bool.false_eq_true, ↓reduceIte]
  rw [Run.outcome_bind_of_ok (outcome_walk? h)]
  rcases hw : w.walked? context name with _ | ⟨raw, loose⟩
  · rfl
  · simp only
    rw [Run.outcome_bind_of_ok (outcome_isEmptySlot (filled raw loose hw) context)]
    rfl

end Lookup

end OrderedScope
