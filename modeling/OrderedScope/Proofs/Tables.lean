import OrderedScope.Lookup
import OrderedScope.Proofs.Access

/-!
# Reading the Tables

What a value holds under a name is read from its own table and from those of the classes on its
line. The tables of classes are read through their metaclasses; where these are plain, the reading
runs no code, leaves the world as it is, and finds what the tables of the world list.

## Main results

* `Attribute.outcome_heldInLine?`: what a legible line of classes holds.
* `Attribute.outcome_held?`: what a value holds, where the tables that decide it are legible.
* `Attribute.outcome_overridesProtocol`: which hooks are blamed for an answer.
-/

namespace OrderedScope

namespace World

/-- A class is **legible**: its table is accessible, and its metaclass does not replace it. -/
structure Legible (w : World) (c : ClassRef) : Prop extends w.Accessible c where
  unreplaced : w.tableOverride? (w.metaclassOf c) = none

/-- A class is legible if its **metaclass** is the native one. -/
theorem legible_of_metaclass {w : World} {c : ClassRef} (h : w.metaclassOf c = .native .type) :
    w.Legible c where
  toAccessible := (readsPlainly_of_metaclass h).accessible
  unreplaced := by
    rw [h]
    rfl

/-- The tables of a value are **shown**: it has none of its own, or its class has the standard field
by which it shows it. -/
inductive ShowsTable (w : World) (v : Value) : Prop
  | bare : w.typeMember? (w.classOf v) "__dict__" = none → w.ownAttrs? v = none → ShowsTable w v
  | field (o : ClassRef) (own : Members) : w.typeMember? (w.classOf v) "__dict__" =
      some (.nativeMember o .getset "__dict__") → w.tableOverride? (w.classOf v) = none →
      w.ownAttrs? v = some own → ShowsTable w v
  | slot (o : ClassRef) (own : Members) : w.typeMember? (w.classOf v) "__dict__" =
      some (.nativeMember o .slot "__dict__") → w.ownAttrs? v = some own → ShowsTable w v

/-- A class without a member of the table's name replaces no table. -/
theorem tableOverride?_of_none {w : World} {c : ClassRef}
    (h : w.typeMember? c "__dict__" = none) : w.tableOverride? c = none := by
  rw [typeMember?, List.findSome?_eq_none_iff] at h
  rw [tableOverride?, List.findSome?_eq_none_iff]
  intro d hd
  rw [h d hd]

/-- A storage slot for the table is an entry that **replaces** the standard field. -/
theorem tableOverride?_of_slot {w : World} {c o : ClassRef}
    (h : w.typeMember? c "__dict__" = some (.nativeMember o .slot "__dict__")) :
    w.tableOverride? c = some (.nativeMember o .slot "__dict__") := by
  obtain ⟨before, d, after, hl, hd, hnone⟩ := List.findSome?_eq_some_iff.1 h
  rw [tableOverride?, List.findSome?_eq_some_iff]
  refine ⟨before, d, after, hl, ?_, fun a ha => ?_⟩
  · rw [hd]
  · rw [hnone a ha]

/-- A value that shows its table has nothing, or a slot, in the place of the standard field. -/
theorem ShowsTable.override {w : World} {v : Value} (h : w.ShowsTable v) :
    w.tableOverride? (w.classOf v) = none ∨
      ∃ o, w.tableOverride? (w.classOf v) = some (.nativeMember o .slot "__dict__") := by
  cases h with
  | bare hm _ => exact Or.inl (tableOverride?_of_none hm)
  | field _ _ _ plain _ => exact Or.inl plain
  | slot o _ hm _ => exact Or.inr ⟨o, tableOverride?_of_slot hm⟩

end World

namespace Attribute

variable {run : Runner} {v : Value} {c : ClassRef} {name : String} {w : World}

/-! ### Classes -/

/-- What a legible class holds itself is read off **its table**. -/
theorem outcome_heldByClass? (h : w.Legible c) :
    (heldByClass? run c name).outcome w = (.ok (w.ownMember? c name), w) := by
  rw [heldByClass?, Run.outcome_bind_of_ok (Run.outcome_get w)]
  simp only [h.unreplaced, Option.isSome_none, Bool.false_eq_true, ↓reduceIte]
  rw [Run.outcome_recover, Run.outcome_bind_of_ok (outcome_get_table h.1), Run.outcome_map,
    w.ownMember?_eq_find?, Value.itemAt]
  rcases (w.ownMembers c).find? name with _ | x <;> rfl

/-- What a line of legible classes holds is read off their tables. -/
theorem outcome_heldAlong? {l : List ClassRef} (h : ∀ d ∈ l, w.Legible d) :
    (heldAlong? run name l).outcome w = (.ok (l.findSome? (w.ownMember? · name)), w) := by
  induction l with
  | nil => rfl
  | cons d rest ih =>
      rw [List.forall_mem_cons] at h
      rw [heldAlong?, Run.outcome_bind_of_ok (outcome_heldByClass? h.1), List.findSome?_cons]
      rcases w.ownMember? d name with _ | raw
      · exact ih h.2
      · rfl

/-- A class with a legible line holds **the first member** on its line. -/
theorem outcome_heldInLine? (h : ∀ d ∈ w.lineOf c, w.Legible d) :
    (heldInLine? run c name).outcome w = (.ok (w.typeMember? c name), w) := by
  rw [heldInLine?, Run.outcome_bind_of_ok (Run.outcome_reading _ w)]
  exact outcome_heldAlong? h

/-- A walk along a line of accessible tables finds the first member on it. -/
theorem outcome_entryAlong? {l : List ClassRef} (h : ∀ d ∈ l, w.Accessible d) :
    (entryAlong? run name (l.map .cls)).outcome w =
      (.ok (l.findSome? (w.ownMember? · name)), w) := by
  induction l with
  | nil => rfl
  | cons d rest ih =>
      rw [List.forall_mem_cons] at h
      rw [List.map_cons, entryAlong?, Run.outcome_bind_of_ok (outcome_get_table h.1)]
      have key : (Value.hasKey (.proxy (w.ownMembers d)) name).outcome w =
          (.ok ((w.ownMembers d).has name), w) := rfl
      rw [Run.outcome_bind_of_ok key, List.findSome?_cons, w.ownMember?_eq_find?]
      rcases hf : (w.ownMembers d).find? name with _ | raw
      · rw [Members.find?_eq_none_iff.1 hf]
        exact ih h.2
      · simp only [World.has_of_find?_eq_some hf, ↓reduceIte]
        rw [Run.outcome_map, Value.itemAt]
        simp only [hf]
        rfl

/-- The tables behind an instance are those of **the line** of its class. -/
theorem outcome_typeChain (instance_ : w.isClass v = false) (h : w.Accessible (w.classOf v)) :
    (typeChain run v).outcome w = (.ok ((w.lineOf (w.classOf v)).map .cls), w) := by
  rw [typeChain, Run.outcome_bind_of_ok (Run.outcome_get w)]
  simp only [instance_, Bool.false_eq_true, ↓reduceIte]
  rw [Run.outcome_bind_of_ok (outcome_get_line h)]
  rfl

/-! ### The own table of an instance -/

/-- Without a member for it in its class and without attributes of its own, a value has **no
table**. -/
theorem outcome_objectGet_bare (h : w.typeMember? (w.classOf v) name = none)
    (own : w.ownAttrs? v = none) :
    (objectGet run v name).outcome w =
      (.error (.raised (.noAttribute (w.fullName (w.classOf v)) name)), w) := by
  rw [outcome_objectGet, World.objectUsed?, h, own]
  rfl

/-- The field for the table of an instance **shows** its own attributes, if it has any. -/
theorem outcome_field_table (o : ClassRef) {own : Members} (h : w.ownAttrs? v = some own)
    (instance_ : ∀ c, v ≠ .cls c) :
    (field o "__dict__" v).outcome w = (.ok (.dict own), w) ∨
      own = [] ∧ (field o "__dict__" v).outcome w =
        (.error (.raised (.noAttribute (w.fullName o) "__dict__")), w) := by
  cases v with
  | cls c => exact absurd rfl (instance_ c)
  | resolver i =>
      refine Or.inr ⟨(Option.some.inj h).symm, ?_⟩
      show (((w.resolvers[i]?).bind fun r => resolverField r "__dict__").elim
        (Run.raise (.noAttribute (w.fullName o) "__dict__")) pure : Run Value).outcome w = _
      rcases w.resolvers[i]? with _ | r <;> rfl
  | object i =>
      left
      show ((objectField w i "__dict__").elim
        (Run.raise (.noAttribute (w.fullName o) "__dict__")) pure : Run Value).outcome w = _
      rw [objectField, h]
      rcases w.payload? i with _ | _ | _ | _ | _ | _ | _ <;> rfl
  | module i =>
      left
      show (((w.ownAttrs? (.module i)).map Value.dict).elim
        (Run.raise (.noAttribute (w.fullName o) "__dict__")) pure : Run Value).outcome w = _
      rw [h]
      rfl
  | fn i =>
      left
      obtain ⟨f, hf, rfl⟩ := Option.map_eq_some_iff.1 h
      show (((w.functions[i]?).bind fun f => functionField f.name f.home f.attrs "__dict__").elim
        (Run.raise (.noAttribute (w.fullName o) "__dict__")) pure : Run Value).outcome w = _
      rw [hf]
      rfl
  | libFn _ =>
      obtain rfl := Option.some.inj h
      exact Or.inl rfl
  | staticMethod _ =>
      obtain rfl := Option.some.inj h
      exact Or.inl rfl
  | classMethod _ =>
      obtain rfl := Option.some.inj h
      exact Or.inl rfl
  | direction _ =>
      obtain rfl := Option.some.inj h
      exact Or.inl rfl
  | capsule i =>
      obtain rfl := Option.some.inj h
      show (((w.capsules[i]?).map fun c => capsuleField c "__dict__").elim
        (Run.raise (.noAttribute (w.fullName o) "__dict__")) pure : Run Value).outcome w = _ ∨ _
      rcases found : w.capsules[i]? with _ | c
      · refine Or.inr ⟨rfl, ?_⟩
        show (((w.capsules[i]?).map fun c => capsuleField c "__dict__").elim
          (Run.raise (.noAttribute (w.fullName o) "__dict__")) pure : Run Value).outcome w = _
        rw [found]
        rfl
      · exact Or.inl rfl
  | _ => cases h

/-- The table of an instance that shows it is **its own attributes**, or missing if it has none. -/
theorem outcome_table (run : Runner) (instance_ : ∀ c, v ≠ .cls c) (h : w.ShowsTable v) :
    (∃ e, e.isA .attr = true ∧
        (objectGet run v "__dict__").outcome w = (.error (.raised e), w) ∧
        ∀ name, (w.ownAttrs? v).bind (·.find? name) = none) ∨
      ∃ own, w.ownAttrs? v = some own ∧
        (objectGet run v "__dict__").outcome w = (.ok (.dict own), w) := by
  cases h with
  | bare hm own =>
      rw [outcome_objectGet_bare hm own, own]
      exact Or.inl ⟨_, rfl, rfl, fun _ => rfl⟩
  | field o own hm _ ho =>
      rw [outcome_objectGet_native (Or.inl rfl) hm, ho]
      rcases outcome_field_table o ho instance_ with hf | ⟨rfl, hf⟩
      · exact Or.inr ⟨own, rfl, hf⟩
      · exact Or.inl ⟨_, rfl, hf, fun _ => rfl⟩
  | slot o own hm ho =>
      rw [outcome_objectGet_native (Or.inr rfl) hm, ho]
      rcases outcome_field_table o ho instance_ with hf | ⟨rfl, hf⟩
      · exact Or.inr ⟨own, rfl, hf⟩
      · exact Or.inl ⟨_, rfl, hf, fun _ => rfl⟩

/-- An instance that shows its table holds its **own attributes**. -/
theorem outcome_heldByInstance? (instance_ : ∀ c, v ≠ .cls c) (h : w.ShowsTable v) :
    (heldByInstance? run v name).outcome w =
      (.ok ((w.ownAttrs? v).bind (·.find? name)), w) := by
  have readable (o : ClassRef) :
      (w.classOf (.nativeMember o .slot "__dict__") == .native .slotMember) = true := rfl
  rw [heldByInstance?, Run.outcome_bind_of_ok (Run.outcome_get w)]
  rcases h.override with plain | ⟨o, plain⟩ <;> simp only [plain, readable, ↓reduceIte]
  all_goals
    rw [Run.outcome_bind, Run.outcome_optional]
    rcases outcome_table run instance_ h with ⟨e, he, table, missing⟩ | ⟨own, ho, table⟩
    · simp only [table, he, ↓reduceIte, missing]
      rfl
    · simp only [table, ho]
      rfl

/-- The own table of an instance that shows its table is read. -/
theorem outcome_ownTable? (run : Runner) (instance_ : ∀ c, v ≠ .cls c) (h : w.ShowsTable v) :
    ∃ own, (ownTable? run v).outcome w = (.ok own, w) ∧
      ∀ name, own.bind (·.find? name) = (w.ownAttrs? v).bind (·.find? name) := by
  rw [ownTable?, Run.outcome_bind, Run.outcome_recover, Run.outcome_map]
  rcases outcome_table run instance_ h with ⟨e, he, table, missing⟩ | ⟨own, ho, table⟩
  · simp only [table, he, Bool.true_or, ↓reduceIte, missing]
    exact ⟨none, rfl, fun _ => rfl⟩
  · simp only [table, ho]
    exact ⟨some own, rfl, fun _ => rfl⟩

end Attribute

namespace World

/-- Of an own attribute and a member of the class, the entry that is **selected**: the member if it
has a reader and a writer, else the attribute. -/
def selectedOf? (w : World) : Option Value → Option Value → Option Value
  | some x, some raw =>
    if w.controlsRead raw && (w.typeMember? (w.classOf raw) "__set__").isSome then some raw
    else some x
  | some x, none => some x
  | none, member => member

/-- The entry that is **selected** under a name when the tables of a value are looked up. That of a
class is on its line, else on the line of its metaclass. -/
def selected? (w : World) (v : Value) (name : String) : Option Value :=
  match v with
  | .cls c => (w.typeMember? c name).or (w.typeMember? (w.metaclassOf c) name)
  | _ => w.selectedOf? ((w.ownAttrs? v).bind (·.find? name)) (w.typeMember? (w.classOf v) name)

/-- The entry that is **seen** under a name: the one that is selected, unless it tells that there is
nothing. -/
def seen? (w : World) (v : Value) (name : String) : Option Value :=
  (w.selected? v name).bind Value.known?

/-- What is selected for an instance is one of its own attribute and the member of its class. -/
theorem selected?_of_instance {w : World} {v : Value} (instance_ : ∀ c, v ≠ .cls c)
    (name : String) :
    w.selected? v name =
      w.selectedOf? ((w.ownAttrs? v).bind (·.find? name)) (w.typeMember? (w.classOf v) name) := by
  cases v with
  | cls c => exact absurd rfl (instance_ c)
  | _ => rfl

/-- The tables that decide what is seen under a name are **legible**: for a class those on its own
line and on that of its metaclass; for an instance its own, those on the line of its class, and
those on the line of the class of the member that is found there. -/
inductive Readable (w : World) (name : String) : Value → Prop
  | cls (c : ClassRef) : (∀ d ∈ w.lineOf c, w.Legible d) →
      (∀ d ∈ w.lineOf (w.metaclassOf c), w.Legible d) → Readable w name (.cls c)
  | instance_ (v : Value) : (∀ c, v ≠ .cls c) → w.ShowsTable v →
      (∀ d ∈ w.lineOf (w.classOf v), w.Legible d) →
      (∀ raw, w.typeMember? (w.classOf v) name = some raw →
        ∀ d ∈ w.lineOf (w.classOf raw), w.Legible d) → Readable w name v

end World

namespace Attribute

variable {run : Runner} {v : Value} {name : String} {w : World}

/-- For an instance its own table, the line of its class and the line of the class of the member
that is found there are **looked up in turn**. -/
theorem selected?_of_instance (run : Runner) (apart : ∀ c, v ≠ .cls c) (name : String) :
    selected? run v name = (do
      let own ← heldByInstance? run v name
      let c ← Run.reading (·.classOf v)
      let member ← heldInLine? run c name
      match own, member with
      | some x, some raw => do
        let d ← Run.reading (·.classOf raw)
        if (← heldInLine? run d "__get__").isSome then
          if (← heldInLine? run d "__set__").isSome then pure (some raw) else pure (some x)
        else pure (some x)
      | some x, none => pure (some x)
      | none, _ => pure member) := by
  cases v with
  | cls c => exact absurd rfl (apart c)
  | _ => rfl

/-- What a look-up of the tables **selects**, where the tables that decide it are legible. -/
theorem outcome_selected? (h : w.Readable name v) :
    (selected? run v name).outcome w = (.ok (w.selected? v name), w) := by
  cases h with
  | cls c own outside =>
      rw [selected?, Run.outcome_bind_of_ok (outcome_heldInLine? own), World.selected?]
      rcases w.typeMember? c name with _ | raw
      · exact outcome_heldInLine? outside
      · rfl
  | instance_ _ apart table line member =>
      rw [World.selected?_of_instance apart, selected?_of_instance run apart,
        Run.outcome_bind_of_ok (outcome_heldByInstance? apart table),
        Run.outcome_bind_of_ok (Run.outcome_reading _ w),
        Run.outcome_bind_of_ok (outcome_heldInLine? line)]
      rcases (w.ownAttrs? v).bind (·.find? name) with _ | x
      · rfl
      rcases hm : w.typeMember? (w.classOf v) name with _ | raw
      · rfl
      -- Whether the member takes control is read from the line of its own class.
      have control (hook : String) : (heldInLine? run (w.classOf raw) hook).outcome w =
          (.ok (w.typeMember? (w.classOf raw) hook), w) := outcome_heldInLine? (member raw hm)
      simp only [World.selectedOf?]
      rw [Run.outcome_bind_of_ok (Run.outcome_reading _ w),
        Run.outcome_bind_of_ok (control "__get__"), World.controlsRead]
      cases (w.typeMember? (w.classOf raw) "__get__").isSome with
      | false => rfl
      | true =>
          simp only [↓reduceIte, Bool.true_and]
          rw [Run.outcome_bind_of_ok (control "__set__")]
          cases (w.typeMember? (w.classOf raw) "__set__").isSome <;> rfl

/-- What a value **holds** is what is seen under the name, where the tables that decide it are
legible. -/
theorem outcome_held? (h : w.Readable name v) :
    (held? run v name).outcome w = (.ok (w.seen? v name), w) := by
  rw [held?, Run.outcome_map, outcome_selected? h]
  rfl

end Attribute

/-! ### Hooks that are to blame -/

namespace World

/-- Whether the class of a value is given a hook by a **plain function**. -/
def plainHook (w : World) (v : Value) (hook : String) : Bool :=
  (w.typeMember? (w.classOf v) hook).any fun f => w.isSubclass (w.classOf f) (.native .function)

/-- Whether the hooks of a value are **to blame** for its answer to a name: a plain function stands
in front of every access, or one stands behind it and the name is not seen. -/
def blames (w : World) (v : Value) (name : String) : Bool :=
  w.plainHook v "__getattribute__" || (w.plainHook v "__getattr__" && (w.seen? v name).isNone)

/-- The hooks of a value are **in sight**: its classes are read plainly, the hooks tell their class,
and the tables are legible where it depends on them which hook is to blame. -/
structure ShowsHooks (w : World) (v : Value) (name : String) : Prop where
  plain : w.ClassesPlain v
  tells : ∀ hook ∈ ["__getattribute__", "__getattr__"], ∀ f,
    w.typeMember? (w.classOf v) hook = some f → w.TellsClass f
  readable : w.plainHook v "__getattribute__" = false → w.plainHook v "__getattr__" = true →
    w.Readable name v

end World

namespace Attribute

variable {run : Runner} {v : Value} {name : String} {w : World}

/-- Whether the class of a value gives a hook is read off its tables. -/
theorem outcome_classHasPlainHook_of_shows (h : w.ShowsHooks v name) {hook : String}
    (hh : hook ∈ ["__getattribute__", "__getattr__"]) :
    (classHasPlainHook run (w.classOf v) hook).outcome w = (.ok (w.plainHook v hook), w) := by
  rw [outcome_classHasPlainHook _ h.plain.accessible.1 h.plain.accessible.2, World.plainHook]
  rcases hm : w.typeMember? (w.classOf v) hook with _ | f
  · rfl
  · exact outcome_isInstance (h.tells hook hh f hm) _

/-- Hooks that are in sight are **blamed** exactly if they are to blame. -/
theorem outcome_overridesProtocol (run : Runner) (h : w.ShowsHooks v name) :
    (overridesProtocol run v name).outcome w = (.ok (w.blames v name), w) := by
  have given {hook : String} (hh : hook ∈ ["__getattribute__", "__getattr__"]) :
      (classHasPlainHook run (w.classOf v) hook).outcome w = _ :=
    outcome_classHasPlainHook_of_shows h hh
  rw [overridesProtocol, Run.outcome_bind_of_ok (Run.outcome_reading _ w),
    Run.outcome_bind_of_ok (given (by simp)), World.blames]
  cases front : w.plainHook v "__getattribute__" with
  | true => rfl
  | false =>
      simp only [Bool.false_eq_true, ↓reduceIte, Bool.false_or]
      rw [Run.outcome_bind_of_ok (given (by simp))]
      cases back : w.plainHook v "__getattr__" with
      | false => rfl
      | true =>
          simp only [↓reduceIte, Bool.true_and]
          rw [Run.outcome_bind_of_ok (outcome_held? (h.readable front back))]
          rfl

end Attribute

end OrderedScope
