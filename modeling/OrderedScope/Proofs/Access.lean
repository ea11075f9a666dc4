import OrderedScope.Attribute.Tables
import OrderedScope.Proofs.Entry

/-!
# Computed Members and Hooks

What access to a computed member runs. Standard access that finds one runs **one task** and ends as
it does; a hook in front of the access takes its place, and a hook behind it is asked where the
attribute is missing, whoever says so. Whether a context has such hooks is read from the tables of
its classes; where no metaclass interferes the reading runs no code.

## Main results

* `Attribute.outcome_standardGet_of_task`: standard access to a computed member is its task.
* `Attribute.outcome_get_of_task`: so is access, up to the hook behind it.
* `Attribute.overridesProtocol_of_front`, `Attribute.overridesProtocol_of_hookless`: a function in
  front of every access is noticed, and a context without hooks is told from one with them.
-/

namespace OrderedScope

namespace NativeClass

/-- The names that a native class lists with members of a kind. -/
def namesOf (c : NativeClass) : NativeKind → List String
  | .method => c.methods
  | .wrapper => c.wrappers
  | .getset => c.fields
  | .slot => c.slots
  | .classMethod => c.classMethods

/-- What a native class lists is a value of its own or **a member given by name**. -/
theorem member?_cases {c : NativeClass} {name : String} {raw : Value}
    (h : c.member? name = some raw) :
    c.values.find? name = some raw ∨
      ∃ k, raw = .nativeMember (.native c) k name ∧ name ∈ namesOf c k := by
  rw [NativeClass.member?] at h
  rcases hv : c.values.find? name with _ | x
  · rw [hv] at h
    simp only at h
    right
    split at h
    · rename_i listed
      exact ⟨.method, (Option.some.inj h).symm, List.contains_iff_mem.1 listed⟩
    split at h
    · rename_i listed
      exact ⟨.wrapper, (Option.some.inj h).symm, List.contains_iff_mem.1 listed⟩
    split at h
    · rename_i listed
      exact ⟨.getset, (Option.some.inj h).symm, List.contains_iff_mem.1 listed⟩
    split at h
    · rename_i listed
      exact ⟨.slot, (Option.some.inj h).symm, List.contains_iff_mem.1 listed⟩
    split at h
    · rename_i listed
      exact ⟨.classMethod, (Option.some.inj h).symm, List.contains_iff_mem.1 listed⟩
    · cases h
  · rw [hv] at h
    exact Or.inl h

end NativeClass

namespace World

/-! ### Native tables -/

/-- The member of a native class is the first that its **fixed line** holds. -/
theorem typeMember?_native (w : World) (c : NativeClass) (name : String) :
    w.typeMember? (.native c) name = c.line.findSome? (·.member? name) := by
  rw [typeMember?, lineOf, List.findSome?_map]
  rfl

/-- The operations in which no native class has a **say of its own**. -/
def leftOperations : List String :=
  ["__repr__", "__str__", "__format__", "__eq__", "__len__", "__iter__", "__getitem__", "__add__"]

/-- What a native class holds for an operation in which it has no say is a function of the
library. -/
theorem values_of_leftOperation {c : NativeClass} {name : String} {raw : Value}
    (left : name ∈ leftOperations) (h : c.values.find? name = some raw) : ∃ f, raw = .libFn f := by
  simp only [leftOperations, List.mem_cons, List.not_mem_nil, or_false] at left
  cases c with
  | descriptor get set delete =>
    obtain rfl | rfl | rfl | rfl | rfl | rfl | rfl | rfl := left <;> cases get <;> cases set <;>
      cases delete <;> cases h
  | _ =>
    obtain rfl | rfl | rfl | rfl | rfl | rfl | rfl | rfl := left <;> cases h <;> exact ⟨_, rfl⟩

/-- The native classes have **no say** in the texts of their instances, nor in how these are
compared and gone through. -/
theorem ownHook?_native {w : World} {v : Value} {c : NativeClass} {name : String}
    (h : w.classOf v = .native c) (left : name ∈ leftOperations) : w.ownHook? v name = none := by
  rw [ownHook?, h, typeMember?_native]
  rcases found : c.line.findSome? (·.member? name) with _ | raw <;> rw [found]
  · obtain ⟨d, -, held⟩ := List.exists_of_findSome?_eq_some found
    obtain value | ⟨k, rfl, -⟩ := NativeClass.member?_cases held
    · obtain ⟨f, rfl⟩ := values_of_leftOperation left value
      rfl
    · rfl

/-- A table made of names holds exactly these names. -/
theorem lookup_map_named (f : String → Value) (names : List String) (name : String) :
    (names.map fun n => (n, f n)).lookup name =
      if names.contains name then some (f name) else none := by
  induction names with
  | nil => rfl
  | cons n rest ih =>
      rw [List.map_cons, List.lookup_cons, List.contains_cons, ih]
      by_cases h : name = n
      · subst h
        simp
      · rw [beq_false_of_ne h]
        simp

/-- A native class has under a name the **first** member that its table lists under it. -/
theorem member?_eq_find? (c : NativeClass) (name : String) :
    c.member? name = c.members.find? name := by
  simp only [NativeClass.member?, NativeClass.members, Members.find?, List.lookup_append,
    lookup_map_named]
  rcases c.values.lookup name with _ | v
  · by_cases h₁ : name ∈ c.methods <;> by_cases h₂ : name ∈ c.wrappers <;>
      by_cases h₃ : name ∈ c.fields <;> by_cases h₄ : name ∈ c.slots <;>
      by_cases h₅ : name ∈ c.classMethods <;> simp [h₁, h₂, h₃, h₄, h₅]
  · simp

/-- A class holds under a name **what its table lists** under it. -/
theorem ownMember?_eq_find? (w : World) (c : ClassRef) (name : String) :
    w.ownMember? c name = (w.ownMembers c).find? name := by
  cases c with
  | native c => exact member?_eq_find? c name
  | world i =>
      rw [ownMember?, ownMembers]
      rcases w.classes[i]? with _ | r <;> rfl

/-- A table holds the names that it has a value for. -/
theorem has_of_find?_eq_some {m : Members} {name : String} {v : Value} (h : m.find? name = some v) :
    m.has name = true := by
  by_cases held : m.has name = true
  · exact held
  · rw [Members.find?_eq_none_iff.2 (Bool.eq_false_iff.2 held)] at h
    cases h

/-- A native class with nothing but restricted names on its line has **no member**
under any other. -/
theorem typeMember?_of_restricted {c : NativeClass} {name : String}
    (restricted : (c.line.all fun d => d.members.all fun e => isRestrictedName e.1) = true)
    (h : isRestrictedName name = false) (w : World) : w.typeMember? (.native c) name = none := by
  rw [w.typeMember?_native, List.findSome?_eq_none_iff]
  intro d hd
  have members := List.all_eq_true.1 restricted d hd
  rw [member?_eq_find?, Members.find?_eq_none_iff, Members.has, List.any_eq_false]
  intro e he same
  have named := List.all_eq_true.1 members e he
  rw [eq_of_beq same, h] at named
  cases named

/-! ### Tasks of computed members -/

/-- The **task** by which a member of a class is computed when it is bound, if it is computed by
code. -/
def bindTask? (w : World) (raw : Value) (inst : Option Value) (owner : ClassRef) : Option Task :=
  match raw, inst with
  | .fn _, _ | .libFn _, _ | .staticMethod _, _ | .classMethod _, _ | .nativeMember .., _
  | .slot .., _ | .property .., none | .property none _ _, some _ => none
  | .property (some getter) _ _, some v => some (.call (.fn getter) [v] [])
  | _, _ => (w.typeMember? (w.classOf raw) "__get__").map fun reader =>
      .call reader [raw, inst.getD .none, .cls owner] []

/-- The task of standard access to a name of a value that is taken as a plain object. -/
def objectTask? (w : World) (v : Value) (name : String) : Option Task :=
  let c := w.classOf v
  match w.typeMember? c name, (w.ownAttrs? v).bind (·.find? name) with
  | some raw, some _ =>
    if w.controlsRead raw && w.controlsWrite raw then w.bindTask? raw (some v) c else none
  | some raw, none => w.bindTask? raw (some v) c
  | none, _ => none

/-- The task of standard access to a name of a class. -/
def classTask? (w : World) (c : ClassRef) (name : String) : Option Task :=
  let metaclass := w.metaclassOf c
  match w.typeMember? metaclass name, w.typeMember? c name with
  | some outside, some inside =>
    if w.controlsRead outside && w.controlsWrite outside then
      w.bindTask? outside (some (.cls c)) metaclass
    else w.bindTask? inside none c
  | some outside, none => w.bindTask? outside (some (.cls c)) metaclass
  | none, some inside => w.bindTask? inside none c
  | none, none => none

/-- The **task** of standard access to a name of a value: the code by which the member is computed.
Modules and bound methods have no computed members of this kind. -/
def accessTask? (w : World) (v : Value) (name : String) : Option Task :=
  match v with
  | .cls c => w.classTask? c name
  | .module _ | .bound .. => none
  | _ => w.objectTask? v name

/-- The task of an **entry**: an own attribute has none, and a member that by which it is bound. -/
def entryTask? (w : World) : TableEntry → Option Task
  | .own _ => none
  | .member raw inst owner => w.bindTask? raw inst owner

/-- The task of an access to an object is that of **the entry it uses**. -/
theorem objectTask?_eq (w : World) (v : Value) (name : String) :
    w.objectTask? v name = (w.objectUsed? v name).bind w.entryTask? := by
  simp only [objectTask?, objectUsed?]
  rcases w.typeMember? (w.classOf v) name with _ | raw <;>
    rcases (w.ownAttrs? v).bind (·.find? name) with _ | x
  · rfl
  · rfl
  · rfl
  · simp only
    split <;> rfl

/-- The task of an access to a class is that of the entry it uses. -/
theorem classTask?_eq (w : World) (c : ClassRef) (name : String) :
    w.classTask? c name = (w.classUsed? c name).bind w.entryTask? := by
  simp only [classTask?, classUsed?]
  rcases w.typeMember? (w.metaclassOf c) name with _ | outside <;>
    rcases w.typeMember? c name with _ | inside
  · rfl
  · rfl
  · rfl
  · simp only
    split <;> rfl

/-- The task of an access is that of **the entry that it uses**; no module has one. -/
theorem accessTask?_eq_some {w : World} {v : Value} {name : String} {t : Task}
    (h : w.accessTask? v name = some t) : (∀ i, v ≠ .module i) ∧
      ∃ entry, w.used? v name = some entry ∧ w.entryTask? entry = some t := by
  cases v with
  | cls c => exact ⟨nofun, Option.bind_eq_some_iff.1 ((w.classTask?_eq c name).symm.trans h)⟩
  | module i => cases h
  | bound f self => cases h
  | _ => exact ⟨nofun, Option.bind_eq_some_iff.1 ((w.objectTask?_eq _ name).symm.trans h)⟩

/-! ### Hooks of a value -/

/-- The hook in **front** of every access to a value, if its class has one that is not native. -/
def frontHook? (w : World) (v : Value) : Option Value :=
  match w.typeMember? (w.classOf v) "__getattribute__" with
  | none | some (.nativeMember ..) => none
  | some hook => some hook

/-- The hook **behind** access to a value. -/
def backHook? (w : World) (v : Value) : Option Value := w.typeMember? (w.classOf v) "__getattr__"

/-- The table, the line and the name of a class are **read plainly**: no hook of its metaclass
stands in front of them or behind them, and no member of its metaclass in their place. -/
structure ReadsPlainly (w : World) (c : ClassRef) : Prop where
  front : w.frontHook? (.cls c) = none
  back : w.backHook? (.cls c) = none
  line : w.typeMember? (w.metaclassOf c) "__mro__" =
    some (.nativeMember (.native .type) .slot "__mro__")
  table : w.typeMember? (w.metaclassOf c) "__dict__" =
    some (.nativeMember (.native .type) .getset "__dict__")
  name : w.typeMember? (w.metaclassOf c) "__qualname__" =
    some (.nativeMember (.native .type) .getset "__qualname__")

/-- The line and the table of a class are **accessible**: no hook of its metaclass stands in front
of the access to them, and no member of its metaclass in their place. A hook behind the access does
not matter for what is found. -/
structure Accessible (w : World) (c : ClassRef) : Prop where
  front : w.frontHook? (.cls c) = none
  line : w.typeMember? (w.metaclassOf c) "__mro__" =
    some (.nativeMember (.native .type) .slot "__mro__")
  table : w.typeMember? (w.metaclassOf c) "__dict__" =
    some (.nativeMember (.native .type) .getset "__dict__")

/-- A class that reads plainly is accessible. -/
theorem ReadsPlainly.accessible {w : World} {c : ClassRef} (h : w.ReadsPlainly c) :
    w.Accessible c := ⟨h.front, h.line, h.table⟩

/-- A class is read plainly if its **metaclass** is the native one. -/
theorem readsPlainly_of_metaclass {w : World} {c : ClassRef}
    (h : w.metaclassOf c = .native .type) : w.ReadsPlainly c := by
  have cls : w.classOf (.cls c) = .native .type := h
  constructor
  · rw [frontHook?, cls, typeMember?_native]
    rfl
  · rw [backHook?, cls, typeMember?_native]
    rfl
  · rw [h, typeMember?_native]
    rfl
  · rw [h, typeMember?_native]
    rfl
  · rw [h, typeMember?_native]
    rfl

/-- All classes of a value are read plainly. -/
def ClassesPlain (w : World) (v : Value) : Prop :=
  w.ReadsPlainly (w.classOf v) ∧ ∀ d ∈ w.lineOf (w.classOf v), w.ReadsPlainly d

/-- A value **without hooks**, whose classes are read plainly. -/
structure Hookless (w : World) (v : Value) : Prop where
  plain : w.ClassesPlain v
  front : w.frontHook? v = none
  back : w.backHook? v = none

/-- A value **tells its class**: no hook stands in front of the access to it or behind it, and no
member in the place of the field that tells the class. -/
structure TellsClass (w : World) (v : Value) : Prop where
  front : w.frontHook? v = none
  back : w.backHook? v = none
  field : w.typeMember? (w.classOf v) "__class__" =
    some (.nativeMember (.native .object) .getset "__class__")

/-- Of a value with plain classes all the classes are accessible. -/
theorem ClassesPlain.accessible {w : World} {v : Value} (h : w.ClassesPlain v) :
    w.Accessible (w.classOf v) ∧ ∀ d ∈ w.lineOf (w.classOf v), w.Accessible d :=
  ⟨h.1.accessible, fun d hd => (h.2 d hd).accessible⟩

/-- Without metaclasses of its own making, the classes of a value are read plainly. -/
theorem classesPlain_of_metaclasses {w : World} {v : Value}
    (h : ∀ d ∈ w.classOf v :: w.lineOf (w.classOf v), w.metaclassOf d = .native .type) :
    w.ClassesPlain v := by
  rw [List.forall_mem_cons] at h
  exact ⟨readsPlainly_of_metaclass h.1, fun d hd => readsPlainly_of_metaclass (h.2 d hd)⟩

/-- The classes of a native value have the native metaclass, where its line tells so. -/
theorem metaclasses_of_native {w : World} {v : Value} {c : NativeClass}
    (hv : w.classOf v = .native c) (line : ∀ d ∈ c :: c.line, d.metaclass = .type) :
    ∀ d ∈ w.classOf v :: w.lineOf (w.classOf v), w.metaclassOf d = .native .type := by
  intro d hd
  rw [hv] at hd
  have : d ∈ (c :: c.line).map ClassRef.native := hd
  obtain ⟨n, hn, rfl⟩ := List.mem_map.1 this
  rw [metaclassOf, line n hn]

end World

namespace Attribute

variable {run : Runner} {raw v : Value} {inst : Option Value} {owner c : ClassRef} {name : String}
  {t : Task} {w w₁ : World}

/-! ### Functions of a class -/

/-- A class without a function for an operation **is not asked**. -/
theorem outcome_ask? (h : w.ownHook? v name = none) (args : List Value) :
    (ask? run v name args).outcome w = (.ok none, w) := by
  rw [ask?, Run.outcome_bind_of_ok (Run.outcome_reading _ w), h]
  rfl

/-! ### Access to computed members -/

/-- A member whose binding is a task is bound by **doing the task**. -/
theorem outcome_bind_of_task (h : w.bindTask? raw inst owner = some t) :
    (bind run raw inst owner).outcome w = (run t).outcome w := by
  -- What is neither a function nor a field is computed by the reader that its class gives it.
  have reader (next : Option Value → Run Value)
      (asked : (w.typeMember? (w.classOf raw) "__get__").map
        (fun f => Task.call f [raw, inst.getD .none, .cls owner] []) = some t)
      (goes : ∀ f, next (some f) = run (.call f [raw, inst.getD .none, .cls owner] [])) :
      (Run.reading (fun w => w.typeMember? (w.classOf raw) "__get__") >>= next).outcome w =
        (run t).outcome w := by
    obtain ⟨f, hf, rfl⟩ := Option.map_eq_some_iff.1 asked
    rw [Run.outcome_bind_of_ok (Run.outcome_reading _ w), hf, goes]
  cases raw with
  | fn i => cases h
  | libFn f => cases h
  | staticMethod f => cases h
  | classMethod f => cases h
  | nativeMember o kind name => cases h
  | slot o name => cases h
  | property getter setter name =>
      cases inst with
      | none => cases h
      | some v =>
          cases getter with
          | none => cases h
          | some getter =>
              cases h
              rfl
  | _ => exact reader _ h fun _ => rfl

/-- Standard access to a computed member **is its task**. -/
theorem outcome_standardGet_of_task (h : w.accessTask? v name = some t) :
    (standardGet run v name).outcome w = (run t).outcome w := by
  obtain ⟨apart, entry, used, computed⟩ := World.accessTask?_eq_some h
  rw [outcome_standardGet run apart, used]
  cases entry with
  | own x => cases computed
  | member raw inst owner => exact outcome_bind_of_task computed

/-- Without a hook in front, access begins with **standard access**. -/
theorem outcome_frontGet (h : w.frontHook? v = none) :
    (frontGet run v name).outcome w = (standardGet run v name).outcome w := by
  rcases hm : w.typeMember? (w.classOf v) "__getattribute__" with _ | raw
  · rw [frontGet, Run.outcome_bind_of_ok (Run.outcome_reading _ w), hm]
  · cases raw with
    | nativeMember o k field =>
        rw [frontGet, Run.outcome_bind_of_ok (Run.outcome_reading _ w), hm]
    | _ => simp only [World.frontHook?, hm, reduceCtorEq] at h

/-- Access to a computed member of a context without a hook in front is **its task**, up to the hook
behind it: that is asked if the task says that an attribute is missing. -/
theorem outcome_get_of_task (front : w.frontHook? v = none) (h : w.accessTask? v name = some t) :
    (get run v name).outcome w =
      match (run t).outcome w, w.backHook? v with
      | (.error (.raised e), w₁), some hook =>
        if e.isA .attr then (callHook run hook v [.str name]).outcome w₁
        else (.error (.raised e), w₁)
      | o, _ => o := by
  have standard : (frontGet run v name).outcome w = (run t).outcome w := by
    rw [outcome_frontGet front, outcome_standardGet_of_task h]
  rw [get, Run.outcome_bind_of_ok (Run.outcome_reading _ w)]
  have hb : w.typeMember? (w.classOf v) "__getattr__" = w.backHook? v := rfl
  rw [hb]
  rcases w.backHook? v with _ | hook
  · simp only
    rw [standard]
    rcases (run t).outcome w with ⟨(_ | _) | _, _⟩ <;> rfl
  · simp only
    rw [Run.outcome_recover, standard]
    rcases (run t).outcome w with ⟨(_ | _) | _, _⟩ <;> rfl

section Computed

variable (front : w.frontHook? v = none) (ht : w.accessTask? v name = some t)
include front ht

/-- What the task of an access gives **the access gives**. -/
theorem get_of_task_gives {m : Value} (h : (run t).outcome w = (.ok m, w₁)) :
    (get run v name).outcome w = (.ok m, w₁) := by
  rw [outcome_get_of_task front ht, h]

/-- An error of the task is the error of the access, **unless** the hook behind it is asked. -/
theorem get_of_task_fails {e : Error} (h : (run t).outcome w = (.error (.raised e), w₁))
    (own : e.isA .attr = false ∨ w.backHook? v = none) :
    (get run v name).outcome w = (.error (.raised e), w₁) := by
  rw [outcome_get_of_task front ht, h]
  rcases own with own | own
  · rcases w.backHook? v with _ | hook
    · rfl
    · simp only [own, Bool.false_eq_true, ↓reduceIte]
  · rw [own]

/-- Where the task misses the attribute the hook behind is asked. -/
theorem get_of_task_misses {e : Error} {hook : Value}
    (h : (run t).outcome w = (.error (.raised e), w₁)) (missing : e.isA .attr = true)
    (back : w.backHook? v = some hook) :
    (get run v name).outcome w = (callHook run hook v [.str name]).outcome w₁ := by
  rw [outcome_get_of_task front ht, h, back]
  exact if_pos missing

end Computed

/-- Without hooks access is **the standard one**. -/
theorem outcome_get_of_unhooked (front : w.frontHook? v = none) (back : w.backHook? v = none) :
    (get run v name).outcome w = (standardGet run v name).outcome w := by
  rw [get, Run.outcome_bind_of_ok (Run.outcome_reading _ w)]
  have hb : w.typeMember? (w.classOf v) "__getattr__" = none := back
  rw [hb]
  exact outcome_frontGet front

/-- What standard access finds is found by access **without a hook in front**; a hook behind is not
asked. -/
theorem get_of_standardGet {m : Value} (front : w.frontHook? v = none)
    (h : (standardGet run v name).outcome w = (.ok m, w₁)) :
    (get run v name).outcome w = (.ok m, w₁) := by
  have found : (frontGet run v name).outcome w = (.ok m, w₁) := (outcome_frontGet front).trans h
  rw [get, Run.outcome_bind_of_ok (Run.outcome_reading _ w)]
  rcases w.typeMember? (w.classOf v) "__getattr__" with _ | hook
  · exact found
  · exact Run.outcome_recover_ok found

/-! ### Modules -/

/-- The name by which messages mention a module, if it is a text. -/
def shownName? (m : ModuleRec) : Option String :=
  match m.members.find? "__name__" with
  | some (.str name) => some name
  | _ => none

/-- No module has a hook in front. -/
theorem frontHook?_module (w : World) (i : ModuleId) : w.frontHook? (.module i) = none := by
  rw [World.frontHook?, World.classOf, World.typeMember?_native]
  rfl

/-- No module has a hook behind by its class. -/
theorem backHook?_module (w : World) (i : ModuleId) : w.backHook? (.module i) = none := by
  rw [World.backHook?, World.classOf, World.typeMember?_native]
  rfl

/-- A module has under a name that is no member of all modules **what it holds**; then the hook of
the module is asked. -/
theorem outcome_get_module {i : ModuleId} {m : ModuleRec} (known : w.modules[i]? = some m)
    (free : w.typeMember? (.native .module) name = none) :
    (get run (.module i) name).outcome w =
      match m.members.find? name, m.members.find? "__getattr__" with
      | some x, _ => (.ok x, w)
      | none, some hook => (run (.call hook [.str name] [])).outcome w
      | none, none => (.error (.raised (.noModuleAttribute (shownName? m) name)), w) := by
  have own : w.ownAttrs? (.module i) = some m.members := by
    rw [World.ownAttrs?, known]
    rfl
  have plain : (objectGet run (.module i) name).outcome w =
      (m.members.find? name).elim
        (.error (.raised (.noAttribute (w.fullName (.native .module)) name)), w)
        fun x => (.ok x, w) := by
    rw [outcome_objectGet, World.objectUsed?, World.classOf, free, own, Option.bind_some]
    cases m.members.find? name <;> rfl
  rw [outcome_get_of_unhooked (frontHook?_module w i) (backHook?_module w i), standardGet,
    moduleGet, Run.outcome_recover, plain]
  rcases m.members.find? name with _ | x
  · have missing : (Error.noAttribute (w.fullName (.native .module)) name).isA .attr = true := rfl
    simp only [Option.elim, missing, ↓reduceIte]
    rw [Run.outcome_bind_of_ok (Run.outcome_reading _ w), own, Option.getD_some, shownName?]
    rcases m.members.find? "__getattr__" with _ | hook
    · rcases m.members.find? "__name__" with _ | shown
      · rfl
      · cases shown <;> rfl
    · rfl
  · rfl

/-! ### Reading classes -/

/-- A slot takes control of reading and writing. -/
theorem controls_slot (w : World) (o : ClassRef) (name : String) :
    (w.controlsRead (.nativeMember o .slot name) &&
      w.controlsWrite (.nativeMember o .slot name)) = true := by
  simp only [World.controlsRead, World.controlsWrite, World.classOf, World.typeMember?_native]
  rfl

/-- A computed field takes control of reading and writing. -/
theorem controls_getset (w : World) (o : ClassRef) (name : String) :
    (w.controlsRead (.nativeMember o .getset name) &&
      w.controlsWrite (.nativeMember o .getset name)) = true := by
  simp only [World.controlsRead, World.controlsWrite, World.classOf, World.typeMember?_native]
  rfl

/-- A member of the metaclass that takes control of reading and writing stands **before** the
members of the class. -/
theorem outcome_classGet_of_outside (h : w.typeMember? (w.metaclassOf c) name = some raw)
    (controls : (w.controlsRead raw && w.controlsWrite raw) = true) :
    (classGet run c name).outcome w =
      (bind run raw (some (.cls c)) (w.metaclassOf c)).outcome w := by
  rw [outcome_classGet, World.classUsed?, h]
  rcases w.typeMember? c name with _ | inside
  · rfl
  · simp only [controls, ↓reduceIte]
    rfl

/-- A native field or slot of the class takes control of the access to it. -/
theorem outcome_objectGet_native {o : ClassRef} {k : NativeKind} {field_ : String}
    (hk : k = .getset ∨ k = .slot)
    (h : w.typeMember? (w.classOf v) name = some (.nativeMember o k field_)) :
    (objectGet run v name).outcome w = (field o field_ v).outcome w := by
  have controls : (w.controlsRead (.nativeMember o k field_) &&
      w.controlsWrite (.nativeMember o k field_)) = true := by
    rcases hk with rfl | rfl
    · exact controls_getset w o field_
    · exact controls_slot w o field_
  have bound : bind run (.nativeMember o k field_) (some v) (w.classOf v) = field o field_ v := by
    rcases hk with rfl | rfl <;> rfl
  rw [outcome_objectGet, World.objectUsed?, h]
  rcases (w.ownAttrs? v).bind (·.find? name) with _ | x
  · simp only [TableEntry.give, bound]
  · simp only [controls, ↓reduceIte, TableEntry.give, bound]

/-- An accessible class **shows its line**. -/
theorem outcome_get_line (h : w.Accessible c) :
    (get run (.cls c) "__mro__").outcome w = (.ok (.tuple ((w.lineOf c).map .cls)), w) := by
  apply get_of_standardGet h.front
  rw [standardGet, outcome_classGet_of_outside h.line (controls_slot w _ _)]
  rfl

/-- An accessible class shows its table. -/
theorem outcome_get_table (h : w.Accessible c) :
    (get run (.cls c) "__dict__").outcome w = (.ok (.proxy (w.ownMembers c)), w) := by
  apply get_of_standardGet h.front
  rw [standardGet, outcome_classGet_of_outside h.table (controls_getset w _ _)]
  rfl

/-- A class that reads plainly shows its name. -/
theorem outcome_get_name (h : w.ReadsPlainly c) :
    (get run (.cls c) "__qualname__").outcome w = (.ok (.str (w.className c)), w) := by
  rw [outcome_get_of_unhooked h.front h.back, standardGet,
    outcome_classGet_of_outside h.name (controls_getset w _ _)]
  rfl

/-- The first hook of a line of classes with accessible tables decides whether a **plain function**
is given as the hook. -/
theorem outcome_hasPlainHook {hook : String} {l : List ClassRef}
    (plain : ∀ d ∈ l, w.Accessible d) :
    (hasPlainHook run hook (l.map .cls)).outcome w =
      match l.findSome? (w.ownMember? · hook) with
      | none => (.ok false, w)
      | some raw => (isInstance run raw (.native .function)).outcome w := by
  induction l with
  | nil => rfl
  | cons d rest ih =>
      rw [List.forall_mem_cons] at plain
      rw [List.map_cons, hasPlainHook, Run.outcome_bind_of_ok (outcome_get_table plain.1)]
      have key : (Value.hasKey (.proxy (w.ownMembers d)) hook).outcome w =
          (.ok ((w.ownMembers d).has hook), w) := rfl
      rw [Run.outcome_bind_of_ok key, List.findSome?_cons, w.ownMember?_eq_find?]
      rcases hf : (w.ownMembers d).find? hook with _ | raw
      · rw [Members.find?_eq_none_iff.1 hf]
        exact ih plain.2
      · simp only [World.has_of_find?_eq_some hf, ↓reduceIte]
        rw [Run.outcome_bind_of_ok (outcome_get_table plain.1)]
        have item : (Value.itemAt (.proxy (w.ownMembers d)) hook).outcome w = (.ok raw, w) := by
          simp only [Value.itemAt, hf, Run.outcome_pure]
        rw [Run.outcome_bind_of_ok item]

/-! ### Telling the class -/

/-- Without a hook in front, a value whose field for the class stands in its place **tells its
class**, whatever hook stands behind. -/
theorem outcome_get_class_of_field (front : w.frontHook? v = none)
    (field_ : w.typeMember? (w.classOf v) "__class__" =
      some (.nativeMember (.native .object) .getset "__class__")) :
    (get run v "__class__").outcome w = (.ok (.cls (w.classOf v)), w) := by
  have told : (field (.native .object) "__class__" v).outcome w = (.ok (.cls (w.classOf v)), w) :=
    rfl
  have plain : (objectGet run v "__class__").outcome w = (.ok (.cls (w.classOf v)), w) :=
    (outcome_objectGet_native (Or.inl rfl) field_).trans told
  apply get_of_standardGet front
  cases v with
  | cls c => exact (outcome_classGet_of_outside field_ (controls_getset w _ _)).trans told
  | module i => exact Run.outcome_recover_ok plain
  | bound f self =>
      rw [standardGet, methodGet, Run.outcome_bind_of_ok (Run.outcome_reading _ w)]
      have member : w.typeMember? (.native .method) "__class__" = _ := field_
      rw [member]
      exact told
  | _ => exact plain

/-- Where the class of a value is told by the field of all objects, a value passes exactly as what
it is. -/
theorem outcome_isInstance_of_field (front : w.frontHook? v = none)
    (field_ : w.typeMember? (w.classOf v) "__class__" =
      some (.nativeMember (.native .object) .getset "__class__")) (d : ClassRef) :
    (isInstance run v d).outcome w = (.ok (w.isSubclass (w.classOf v) d), w) := by
  rw [isInstance, Run.outcome_bind_of_ok (Run.outcome_get w)]
  rcases w.isSubclass (w.classOf v) d with _ | _
  · simp only [Bool.false_eq_true, ↓reduceIte]
    rw [get?, Run.outcome_bind, Run.outcome_optional, outcome_get_class_of_field front field_]
    simp
  · rfl

/-- A value that tells its class **gives it**. -/
theorem outcome_get_class (h : w.TellsClass v) :
    (get run v "__class__").outcome w = (.ok (.cls (w.classOf v)), w) :=
  outcome_get_class_of_field h.front h.field

/-- A value that tells its class **passes as an instance** of the classes on the line
of that class. -/
theorem outcome_isInstance (h : w.TellsClass v) (d : ClassRef) :
    (isInstance run v d).outcome w = (.ok (w.isSubclass (w.classOf v) d), w) :=
  outcome_isInstance_of_field h.front h.field d

/-- A function **passes** as one, and a native member does not. -/
theorem outcome_isInstance_function (i : FunctionId) :
    (isInstance run (.fn i) (.native .function)).outcome w = (.ok true, w) := rfl

/-- A value of a native class **tells its class**: of these only that of scopes has a hook. -/
theorem tellsClass_of_native {d : NativeClass} (hv : w.classOf v = .native d) (h : d ≠ .scope) :
    w.TellsClass v := by
  constructor
  · rw [World.frontHook?, hv, World.typeMember?_native]
    cases d with
    | descriptor get set delete => cases get <;> cases set <;> cases delete <;> rfl
    | _ => rfl
  · rw [World.backHook?, hv, World.typeMember?_native]
    cases d with
    | descriptor get set delete => cases get <;> cases set <;> cases delete <;> rfl
    | scope => exact absurd rfl h
    | _ => rfl
  · rw [hv, World.typeMember?_native]
    cases d with
    | descriptor get set delete => cases get <;> cases set <;> cases delete <;> rfl
    | _ => rfl

/-- A member of a native class tells its class. -/
theorem tellsClass_nativeMember (w : World) (o : ClassRef) (k : NativeKind) (name : String) :
    w.TellsClass (.nativeMember o k name) := by
  cases k <;> exact tellsClass_of_native rfl (by decide)

/-- A member of a native class passes as no function of a world. -/
theorem outcome_isInstance_nativeMember (o : ClassRef) (k : NativeKind) (name : String) :
    (isInstance run (.nativeMember o k name) (.native .function)).outcome w = (.ok false, w) := by
  rw [outcome_isInstance (tellsClass_nativeMember w o k name)]
  cases k <;> rfl

/-! ### Noticing hooks -/

/-- Whether plain classes give a hook is read off **their tables**. -/
theorem outcome_classHasPlainHook (hook : String) (plain : w.Accessible c)
    (line : ∀ d ∈ w.lineOf c, w.Accessible d) :
    (classHasPlainHook run c hook).outcome w =
      match w.typeMember? c hook with
      | none => (.ok false, w)
      | some raw => (isInstance run raw (.native .function)).outcome w := by
  rw [classHasPlainHook, Run.outcome_bind_of_ok (outcome_get_line plain)]
  exact outcome_hasPlainHook line

/-- A plain function in front of every access is **noticed**, whatever it does with the name. -/
theorem overridesProtocol_of_front {i : FunctionId} (plain : w.ClassesPlain v)
    (front : w.frontHook? v = some (.fn i)) :
    (overridesProtocol run v name).outcome w = (.ok true, w) := by
  have member : w.typeMember? (w.classOf v) "__getattribute__" = some (.fn i) := by
    rw [World.frontHook?] at front
    split at front
    · cases front
    · cases front
    · rename_i hm
      rw [hm, front]
  have hooked : (classHasPlainHook run (w.classOf v) "__getattribute__").outcome w =
      (.ok true, w) := by
    rw [outcome_classHasPlainHook _ plain.accessible.1 plain.accessible.2, member]
    exact outcome_isInstance_function i
  rw [overridesProtocol, Run.outcome_bind_of_ok (Run.outcome_reading _ w),
    Run.outcome_bind_of_ok hooked]
  rfl

/-- A value without hooks is **told** from one with them. -/
theorem overridesProtocol_of_hookless (h : w.Hookless v) :
    (overridesProtocol run v name).outcome w = (.ok false, w) := by
  have front : (classHasPlainHook run (w.classOf v) "__getattribute__").outcome w =
      (.ok false, w) := by
    rw [outcome_classHasPlainHook _ h.plain.accessible.1 h.plain.accessible.2]
    have := h.front
    rw [World.frontHook?] at this
    split at this
    · rename_i hm
      rw [hm]
    · rename_i hm
      rw [hm]
      exact outcome_isInstance_nativeMember _ _ _
    · cases this
  have back : (classHasPlainHook run (w.classOf v) "__getattr__").outcome w = (.ok false, w) := by
    have hm : w.typeMember? (w.classOf v) "__getattr__" = none := h.back
    rw [outcome_classHasPlainHook _ h.plain.accessible.1 h.plain.accessible.2, hm]
  rw [overridesProtocol, Run.outcome_bind_of_ok (Run.outcome_reading _ w),
    Run.outcome_bind_of_ok front]
  simp only [Bool.false_eq_true, ↓reduceIte]
  rw [Run.outcome_bind_of_ok back]
  rfl

end Attribute

end OrderedScope
