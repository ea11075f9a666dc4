import OrderedScope.Capsule
import OrderedScope.Proofs.Outcome

/-!
# What is Heard of the Events

Two runs can be compared with all their events, or **deaf** to the events that only watchers are
told, or as **mute** ones that tell no event of their own. A watcher is an observer that changes
nothing and fails, if it fails, in the ordinary way and with a fixed message, so its failures are
held back and no code runs to put them into words. Deaf to events, two worlds are alike if they
differ in nothing but the record of events and the watchers that their resolvers and capsules tell.

A script can ask for the record itself, and then the events are no longer beside the matter. Code is
**discreet** if it does not; deaf worlds hold discreet code only.

## Main results

* `Hearing.view_classOf`, `Hearing.view_typeMember?` and others: what is read of a world, apart from
  its record, is heard whatever is left of the observers.
* `Alike.resolver`, `Alike.capsule`: resolvers and capsules of alike worlds differ in watchers only.
-/

namespace OrderedScope

/-! ### Discreet code -/

mutual

/-- Whether an action is **discreet**: whether no script in it asks for the record of events. -/
def Action.discreet : Action → Bool
  | .attempt a => a.discreet
  | .perform c => c.discreet
  | _ => true

/-- Whether what is deferred is discreet. -/
def Deferred.discreet : Deferred → Bool
  | .plain _ _ script => discreetScript script
  | .method _ _ script _ => discreetScript script
  | .capturing _ _ script _ _ => discreetScript script
  | .partialCall of _ => of.discreet
  | .callable _ script _ => discreetScript script
  | _ => true

/-- Whether a command is discreet. -/
def Command.discreet : Command → Bool
  | .events => false
  | .closure _ fn _ _ _ => fn.discreet
  | _ => true

/-- Whether a script is discreet. -/
def discreetScript : List Action → Bool
  | [] => true
  | a :: rest => a.discreet && discreetScript rest

end

/-- Whether the code of a function is discreet. -/
def Code.discreet : Code → Bool
  | .script actions => discreetScript actions
  | _ => true

/-- Whether an object is discreet when it is called. -/
def Payload.discreet : Payload → Bool
  | .callable script => discreetScript script
  | _ => true

/-- A world is **discreet** if all its code is. -/
structure World.Discreet (w : World) : Prop where
  functions : ∀ f ∈ w.functions, f.code.discreet = true
  objects : ∀ o ∈ w.objects, o.payload.discreet = true

namespace World.Discreet

variable {w : World}

/-- A change that leaves functions and objects alone keeps a world discreet. -/
theorem of_eq {w₁ : World} (h : w.Discreet) (hf : w₁.functions = w.functions)
    (ho : w₁.objects = w.objects) : w₁.Discreet :=
  ⟨hf ▸ h.functions, ho ▸ h.objects⟩

/-- A discreet world **stays** so with one more discreet function. -/
theorem pushFunction (h : w.Discreet) {f : FunctionRec} (hf : f.code.discreet = true) :
    World.Discreet { w with functions := w.functions.push f } := by
  refine ⟨fun g hg => ?_, h.objects⟩
  rcases Array.mem_push.1 hg with hg | rfl
  · exact h.functions g hg
  · exact hf

/-- A discreet world stays so with one more object that carries nothing indiscreet. -/
theorem pushObject (h : w.Discreet) {o : ObjectRec} (ho : o.payload.discreet = true) :
    World.Discreet { w with objects := w.objects.push o } := by
  refine ⟨h.functions, fun p hp => ?_⟩
  rcases Array.mem_push.1 hp with hp | rfl
  · exact h.objects p hp
  · exact ho

/-- A discreet world stays so where an object keeps what it carries. -/
theorem modifyObject (h : w.Discreet) (i : ObjectId) {f : ObjectRec → ObjectRec}
    (hf : ∀ o, (f o).payload = o.payload) :
    World.Discreet { w with objects := w.objects.modify i f } := by
  refine ⟨h.functions, fun p hp => ?_⟩
  obtain ⟨k, hk, rfl⟩ := Array.mem_iff_getElem.1 hp
  have inside : k < w.objects.size := by simpa using hk
  have key := h.objects w.objects[k] (Array.getElem_mem inside)
  simp only [Array.getElem_modify]
  split
  · rwa [hf]
  · exact key

/-- A discreet world stays so where a function keeps its code. -/
theorem modifyFunction (h : w.Discreet) (i : FunctionId) {f : FunctionRec → FunctionRec}
    (hf : ∀ g, (f g).code = g.code) :
    World.Discreet { w with functions := w.functions.modify i f } := by
  refine ⟨fun g hg => ?_, h.objects⟩
  obtain ⟨k, hk, rfl⟩ := Array.mem_iff_getElem.1 hg
  have inside : k < w.functions.size := by simpa using hk
  have key := h.functions w.functions[k] (Array.getElem_mem inside)
  simp only [Array.getElem_modify]
  split
  · rwa [hf]
  · exact key

/-- A discreet world stays so whatever attributes change. -/
theorem mapAttrs (h : w.Discreet) (v : Value) (f : Members → Members) :
    (w.mapAttrs v f).Discreet := by
  unfold World.mapAttrs
  split
  · exact h.modifyObject _ fun _ => rfl
  · exact h.of_eq rfl rfl
  · exact h.modifyFunction _ fun _ => rfl
  · exact h.of_eq rfl rfl
  · exact h

end World.Discreet

/-! ### Watchers -/

/-- Whether an observer only **watches**: it changes nothing, and if it fails, its failures can be
held back. -/
def Observer.watches : Observer → Bool
  | .record | .select _ => true
  | .raise x => x.isHeldBack
  | .delete .. => false

section Watches

variable {run : Runner} {o : Observer} {e : Event} {w w₁ : World}

/-- An ordinary failure is **put into words**, and telling the event ends as that does. -/
theorem emit_of_ordinary {x : Error} (hears : (o.hear run e).outcome w = (.error (.raised x), w₁))
    (ordinary : x.isA .failure = true) :
    (emit run (some o) e).outcome w = ((fun _ => ()) <$> x.text run : Run Unit).outcome w₁ := by
  rw [emit, Run.outcome_recover, hears]
  simp only [ordinary, ↓reduceIte, Run.outcome_bind, Run.outcome_map, Run.outcome_log]

/-- A failure that can be held back **is held back**: it is logged, and nothing else happens. -/
theorem emit_of_heldBack {x : Error} (hears : (o.hear run e).outcome w = (.error (.raised x), w₁))
    (held : x.isHeldBack = true) : (emit run (some o) e).outcome w = (.ok (), w₁) := by
  obtain ⟨ordinary, worded⟩ := Bool.and_eq_true_iff.1 held
  rw [emit_of_ordinary hears ordinary, Error.text_of_isWorded worded, map_pure, Run.outcome_pure]

/-- An event that a watcher is told **changes the record alone**. -/
theorem outcome_emit_of_watches (run : Runner) (h : o.watches = true) (e : Event) (w : World) :
    (emit run (some o) e).outcome w = (.ok (), { w with observed := e :: w.observed }) := by
  have recorded (x : Run Unit) : (do
      modify fun w : World => { w with observed := e :: w.observed }
      x).outcome w = x.outcome { w with observed := e :: w.observed } :=
    Run.outcome_bind_of_ok (Run.outcome_modify _ w)
  cases o with
  | record => rfl
  | raise x => exact emit_of_heldBack (recorded _) h
  | select fails =>
    have hears {o : Except Fault Unit × World} (reacts : ((Observer.select fails).react run).outcome
        { w with observed := e :: w.observed } = o) :
        (Observer.hear run (.select fails) e).outcome w = o := (recorded _).trans reacts
    cases failing : fails (e :: w.observed) with
    | none =>
      have reacts : ((Observer.select fails).react run).outcome
          { w with observed := e :: w.observed } =
          (.ok (), { w with observed := e :: w.observed }) := by
        rw [Observer.react, Run.outcome_bind_of_ok (Run.outcome_reading _ _), failing]
        rfl
      rw [emit, Run.outcome_recover, hears reacts]
    | some f =>
      refine emit_of_heldBack (hears ?_) f.heldBack
      rw [Observer.react, Run.outcome_bind_of_ok (Run.outcome_reading _ _), failing]
      rfl
  | delete target name => cases h

end Watches

/-- What a comparison of runs **hears** of the events. -/
inductive Hearing where
  /-- All events. -/
  | all
  /-- No event that only a watcher is told. -/
  | deaf
  /-- All events, but the runs tell none themselves. -/
  | mute
deriving DecidableEq

namespace Hearing

/-- The observer that is left under a hearing. -/
def ear : Hearing → Option Observer → Option Observer
  | all, o | mute, o => o
  | deaf, o => o.filter fun o => !o.watches

/-- Whether it is heard what an observer does with an event. -/
def heeds (m : Hearing) (o : Observer) : Prop := m.ear (some o) = some o

/-- A resolver with the observer that is left of its own. -/
def resolver (m : Hearing) (r : Resolver) : Resolver := { r with observer := m.ear r.observer }

/-- A capsule with the observer that is left of its own. -/
def capsule (m : Hearing) (c : Capsule) : Capsule := { c with observer := m.ear c.observer }

/-- What is left of a world under a hearing. -/
def view : Hearing → World → World
  | all, w | mute, w => w
  | deaf, w => { w with
      resolvers := w.resolvers.map deaf.resolver
      capsules := w.capsules.map deaf.capsule
      observed := [] }

/-- Under a hearing of events runs may **tell** them. -/
class Tells (m : Hearing) : Prop where
  not_mute : m ≠ .mute

instance : Tells all := ⟨nofun⟩

instance : Tells deaf := ⟨nofun⟩

/-- What is left under a hearing is left again under it. -/
@[simp] theorem ear_ear (m : Hearing) (o : Option Observer) : m.ear (m.ear o) = m.ear o := by
  cases m with
  | deaf => simp [ear, Option.filter_filter]
  | _ => rfl

/-! ### What is heard of a world -/

variable (m : Hearing) (w : World)

@[simp, grind =] theorem view_platform : (m.view w).platform = w.platform := by cases m <;> rfl

@[simp, grind =] theorem view_classes : (m.view w).classes = w.classes := by cases m <;> rfl

@[simp, grind =] theorem view_objects : (m.view w).objects = w.objects := by cases m <;> rfl

@[simp, grind =] theorem view_modules : (m.view w).modules = w.modules := by cases m <;> rfl

@[simp, grind =] theorem view_functions : (m.view w).functions = w.functions := by cases m <;> rfl

@[simp, grind =] theorem view_growing : (m.view w).growing = w.growing := by cases m <;> rfl

@[simp, grind =] theorem view_closures : (m.view w).closures = w.closures := by cases m <;> rfl

@[simp, grind =] theorem view_handles : (m.view w).handles = w.handles := by cases m <;> rfl

@[simp, grind =] theorem view_scopes : (m.view w).scopes = w.scopes := by cases m <;> rfl

@[simp, grind =] theorem view_keptResolvers : (m.view w).keptResolvers = w.keptResolvers := by
  cases m <;> rfl

@[simp, grind =] theorem view_keptCapsules : (m.view w).keptCapsules = w.keptCapsules := by
  cases m <;> rfl

@[simp, grind =] theorem view_registry : (m.view w).registry = w.registry := by cases m <;> rfl

@[simp, grind =] theorem view_files : (m.view w).files = w.files := by cases m <;> rfl

@[simp, grind =] theorem view_ambient : (m.view w).ambient = w.ambient := by cases m <;> rfl

@[simp, grind =] theorem view_logLevel : (m.view w).logLevel = w.logLevel := by cases m <;> rfl

/-- The **resolvers** of a world are heard without the watchers that they tell. -/
theorem view_resolvers : (m.view w).resolvers = w.resolvers.map m.resolver := by
  have whole (m : Hearing) (h : m.resolver = id) : w.resolvers = w.resolvers.map m.resolver := by
    rw [h, Array.map_id]
  cases m with
  | all => exact whole all rfl
  | deaf => rfl
  | mute => exact whole mute rfl

/-- Of a capsule all but the observer is **heard**. -/
theorem view_capsules : (m.view w).capsules = w.capsules.map m.capsule := by
  have whole (m : Hearing) (h : m.capsule = id) : w.capsules = w.capsules.map m.capsule := by
    rw [h, Array.map_id]
  cases m with
  | all => exact whole all rfl
  | deaf => rfl
  | mute => exact whole mute rfl

/-- A reading of a resolver is heard if it does not look at the observer. -/
@[simp] theorem view_resolver_bind {α : Type} (i : ResolverId) {f : Resolver → Option α}
    (h : ∀ r, f (m.resolver r) = f r) :
    ((m.view w).resolvers[i]?).bind f = (w.resolvers[i]?).bind f := by
  rw [view_resolvers, Array.getElem?_map]
  cases w.resolvers[i]? <;> simp [h]

/-- What does not look at the observer of a resolver is the same in what is heard. -/
@[simp] theorem view_resolver_map {α : Type} (i : ResolverId) {f : Resolver → α}
    (h : ∀ r, f (m.resolver r) = f r) :
    ((m.view w).resolvers[i]?).map f = (w.resolvers[i]?).map f := by
  rw [view_resolvers, Array.getElem?_map]
  cases w.resolvers[i]? <;> simp [h]

/-- What does not look at the observer of a resolver is the same in what is heard, with a default
where there is none. -/
@[simp] theorem view_resolver_elim {α : Type} (i : ResolverId) (a : α) {f : Resolver → α}
    (h : ∀ r, f (m.resolver r) = f r) :
    ((m.view w).resolvers[i]?).elim a f = (w.resolvers[i]?).elim a f := by
  rw [view_resolvers, Array.getElem?_map]
  cases w.resolvers[i]? <;> simp [h]

/-- What does not look at the observer of a capsule is the same in what is heard. -/
@[simp] theorem view_capsule_map {α : Type} (i : CapsuleId) {f : Capsule → α}
    (h : ∀ c, f (m.capsule c) = f c) :
    ((m.view w).capsules[i]?).map f = (w.capsules[i]?).map f := by
  rw [view_capsules, Array.getElem?_map]
  cases w.capsules[i]? <;> simp [h]

@[simp, grind =] theorem view_resolvers_size : (m.view w).resolvers.size = w.resolvers.size := by
  rw [view_resolvers, Array.size_map]

@[simp, grind =] theorem view_capsules_size : (m.view w).capsules.size = w.capsules.size := by
  rw [view_capsules, Array.size_map]

/-! ### Classes and attributes -/

@[simp, grind =] theorem view_metaclassOf (c : ClassRef) :
    (m.view w).metaclassOf c = w.metaclassOf c := by
  cases m <;> rfl

/-- The class of a value does not depend on what is heard. -/
@[simp, grind =] theorem view_classOf (v : Value) : (m.view w).classOf v = w.classOf v := by
  cases v with
  | resolver i =>
    have h : ((m.view w).resolvers[i]?).elim "Trigger" (·.variant.className)
        = (w.resolvers[i]?).elim "Trigger" (·.variant.className) :=
      view_resolver_elim m w i _ fun _ => rfl
    simp only [World.classOf, h]
  | nativeMember _ kind _ => cases kind <;> rfl
  | _ => cases m <;> rfl

@[simp, grind =] theorem view_lineOf (c : ClassRef) : (m.view w).lineOf c = w.lineOf c := by
  cases m <;> rfl

@[simp, grind =] theorem view_ownMembers (c : ClassRef) :
    (m.view w).ownMembers c = w.ownMembers c := by
  cases m <;> rfl

@[simp, grind =] theorem view_ownMember? (c : ClassRef) (name : String) :
    (m.view w).ownMember? c name = w.ownMember? c name := by
  cases m <;> rfl

@[simp, grind =] theorem view_typeMember? (c : ClassRef) (name : String) :
    (m.view w).typeMember? c name = w.typeMember? c name := by
  cases m <;> rfl

@[simp, grind =] theorem view_isSubclass (c d : ClassRef) :
    (m.view w).isSubclass c d = w.isSubclass c d := by
  cases m <;> rfl

@[simp, grind =] theorem view_isClass (v : Value) : (m.view w).isClass v = w.isClass v := by
  simp [World.isClass]

@[simp, grind =] theorem view_isModule (v : Value) : (m.view w).isModule v = w.isModule v := by
  simp [World.isModule]

@[simp, grind =] theorem view_className (c : ClassRef) :
    (m.view w).className c = w.className c := by
  cases m <;> rfl

@[simp, grind =] theorem view_fullName (c : ClassRef) : (m.view w).fullName c = w.fullName c := by
  cases m <;> cases c <;> rfl

@[simp, grind =] theorem view_homeOf (c : ClassRef) : (m.view w).homeOf c = w.homeOf c := by
  cases m <;> rfl

@[simp, grind =] theorem view_findModule? (name : String) :
    (m.view w).findModule? name = w.findModule? name := by
  cases m <;> rfl

@[simp, grind =] theorem view_findClass? (name : String) :
    (m.view w).findClass? name = w.findClass? name := by
  cases m <;> rfl

@[simp, grind =] theorem view_findObject? (id : String) :
    (m.view w).findObject? id = w.findObject? id := by
  cases m <;> rfl

@[simp, grind =] theorem view_ownAttrs? (v : Value) : (m.view w).ownAttrs? v = w.ownAttrs? v := by
  cases m <;> cases v <;> rfl

@[simp, grind =] theorem view_payload? (i : ObjectId) : (m.view w).payload? i = w.payload? i := by
  cases m <;> rfl

@[simp, grind =] theorem view_content? (v : Value) : (m.view w).content? v = w.content? v := by
  cases v <;> simp [World.content?]

@[simp, grind =] theorem view_heldItems? (v : Value) :
    (m.view w).heldItems? v = w.heldItems? v := by
  simp [World.heldItems?]

@[simp, grind =] theorem view_ownHook? (v : Value) (name : String) :
    (m.view w).ownHook? v name = w.ownHook? v name := by
  simp [World.ownHook?]

@[simp, grind =] theorem view_hashedParts (v : Value) :
    Value.hashedParts (m.view w) v = Value.hashedParts w v := by
  cases v <;> simp [Value.hashedParts]

@[simp, grind =] theorem view_refusesHash (v : Value) :
    Value.refusesHash (m.view w) v = Value.refusesHash w v := by
  cases v <;> simp [Value.refusesHash]

@[simp, grind =] theorem view_controlsRead (raw : Value) :
    (m.view w).controlsRead raw = w.controlsRead raw := by
  simp [World.controlsRead]

@[simp, grind =] theorem view_controlsWrite (raw : Value) :
    (m.view w).controlsWrite raw = w.controlsWrite raw := by
  simp [World.controlsWrite]

@[simp, grind =] theorem view_isCallable (v : Value) :
    (m.view w).isCallable v = w.isCallable v := by
  simp [World.isCallable]

@[simp, grind =] theorem view_functionName (i : FunctionId) :
    (m.view w).functionName i = w.functionName i := by
  cases m <;> rfl

@[simp, grind =] theorem view_slotValue? (i : ObjectId) (owner : Nat) (name : String) :
    (m.view w).slotValue? i owner name = w.slotValue? i owner name := by
  cases m <;> rfl

@[simp] theorem view_classField (c : ClassRef) (name : String) :
    Attribute.classField (m.view w) c name = Attribute.classField w c name := by
  cases m <;> rfl

@[simp] theorem view_objectField (i : ObjectId) (name : String) :
    Attribute.objectField (m.view w) i name = Attribute.objectField w i name := by
  cases m <;> rfl

/-- What a native field holds is heard **without the watchers** of resolvers and capsules. -/
@[simp] theorem view_field? (name : String) (v : Value) :
    Attribute.field? (m.view w) name v = Attribute.field? w name v := by
  simp only [Attribute.field?, view_classOf]
  refine ite_congr rfl (fun _ => rfl) fun _ => ?_
  cases v with
  | resolver i => exact view_resolver_bind m w i fun _ => rfl
  | capsule i => exact view_capsule_map m w i fun _ => rfl
  | object i => exact view_objectField m w i name
  | cls c => exact view_classField m w c name
  | nativeMethod s self => simp [Attribute.nativeMethodField]
  | _ => cases m <;> rfl

@[simp] theorem view_fieldFailure (owner : ClassRef) (name : String) (v : Value) :
    Attribute.fieldFailure (m.view w) owner name v = Attribute.fieldFailure w owner name v := by
  cases v <;> simp [Attribute.fieldFailure]

@[simp, grind =] theorem view_tableOverride? (c : ClassRef) :
    (m.view w).tableOverride? c = w.tableOverride? c := by
  cases m <;> rfl

@[simp, grind =] theorem view_partialOf? (fn : Value) :
    Closure.partialOf? (m.view w) fn = Closure.partialOf? w fn := by
  cases m <;> cases fn <;> rfl

@[simp, grind =] theorem view_unwrapPartial? (steps : Nat) (fn : Value) :
    Closure.unwrapPartial? (m.view w) steps fn = Closure.unwrapPartial? w steps fn := by
  induction steps generalizing fn with
  | zero => rw [Closure.unwrapPartial?, Closure.unwrapPartial?, view_partialOf?]
  | succ steps ih =>
    rw [Closure.unwrapPartial?, Closure.unwrapPartial?, view_partialOf?]
    cases Closure.partialOf? w fn with
    | none => rfl
    | some inner => exact ih inner

@[simp, grind =] theorem view_isSequence (c : ClassRef) :
    Direction.isSequence (m.view w) c = Direction.isSequence w c := by
  cases m <;> rfl

@[simp, grind =] theorem view_parts? (v : Value) :
    Closure.parts? (m.view w) v = Closure.parts? w v := by
  cases m <;> cases v <;> rfl

@[simp, grind =] theorem view_anonymous (v : Value) :
    Label.anonymous (m.view w) v = Label.anonymous w v := by
  simp [Label.anonymous]

@[simp, grind =] theorem view_classText (c : ClassRef) :
    Label.classText (m.view w) c = Label.classText w c := by
  simp [Label.classText]

@[simp, grind =] theorem view_moduleText (i : ModuleId) :
    Label.moduleText (m.view w) i = Label.moduleText w i := by
  cases m <;> rfl

@[simp, grind =] theorem view_nativeText (owner : ClassRef) (kind : NativeKind) (name : String) :
    Label.nativeText (m.view w) owner kind name = Label.nativeText w owner kind name := by
  cases kind <;> simp [Label.nativeText]

@[simp, grind =] theorem view_boundName (v : Value) :
    Label.boundName (m.view w) v = Label.boundName w v := by
  cases v <;> simp [Label.boundName]

/-- Attributes are changed alike in a world and in what is heard of it. -/
@[simp] theorem view_mapAttrs (v : Value) (f : Members → Members) :
    m.view (w.mapAttrs v f) = (m.view w).mapAttrs v f := by
  unfold World.mapAttrs
  cases m <;> split <;> rfl

/-- A resolver that is added is added to what is heard, but for its observer. -/
theorem view_pushResolver (r : Resolver) :
    m.view { w with resolvers := w.resolvers.push r }
      = { m.view w with resolvers := (m.view w).resolvers.push (m.resolver r) } := by
  cases m with
  | deaf => simp [view]
  | _ => rfl

/-- A capsule that is added is added to what is heard, but for its observer. -/
theorem view_pushCapsule (c : Capsule) :
    m.view { w with capsules := w.capsules.push c }
      = { m.view w with capsules := (m.view w).capsules.push (m.capsule c) } := by
  cases m with
  | deaf => simp [view]
  | _ => rfl

end Hearing

/-! ### Alike worlds -/

/-- Two worlds are **alike** under a hearing if the same is left of them. Deaf to events, their code
must be discreet. -/
structure Alike (m : Hearing) (w w' : World) : Prop where
  view_eq : m.view w = m.view w'
  discreet : m = .deaf → w.Discreet

namespace Alike

variable {m : Hearing} {w w' : World}

/-- A world is **alike** to itself. -/
theorem refl (w : World) : Alike .all w w := ⟨rfl, nofun⟩

/-- Who hears all tells worlds apart that differ. -/
theorem eq (h : Alike .all w w') : w = w' := h.view_eq

/-- A reading that is not changed by the hearing **is the same** in alike worlds. -/
theorem reads {α : Type} (h : Alike m w w') {f : World → α} (hf : ∀ w, f (m.view w) = f w) :
    f w = f w' := by
  rw [← hf w, h.view_eq, hf]

/-- Alike worlds have the same objects. -/
theorem objects_eq (h : Alike m w w') : w.objects = w'.objects := h.reads (by simp)

/-- The **resolvers** of alike worlds differ in the observers that are not heard. -/
theorem resolver (h : Alike m w w') (i : ResolverId) :
    (w.resolvers[i]? = none ∧ w'.resolvers[i]? = none) ∨
      ∃ r o, w.resolvers[i]? = some r ∧ w'.resolvers[i]? = some { r with observer := o } ∧
        m.ear r.observer = m.ear o := by
  have key := congrArg (fun w => w.resolvers[i]?) h.view_eq
  simp only [Hearing.view_resolvers, Array.getElem?_map] at key
  cases hw : w.resolvers[i]? with
  | none =>
    rw [hw] at key
    exact .inl ⟨rfl, Option.map_eq_none_iff.1 key.symm⟩
  | some r =>
    rw [hw] at key
    obtain ⟨r', hr', heq⟩ := Option.map_eq_some_iff.1 key.symm
    refine .inr ⟨r, r'.observer, rfl, ?_, ?_⟩
    · rw [hr']
      obtain ⟨⟩ := r
      obtain ⟨⟩ := r'
      simp only [Hearing.resolver, Resolver.mk.injEq] at heq
      simp [heq]
    · have := congrArg Resolver.observer heq
      exact this.symm

/-- The **capsules** of alike worlds differ in the observers that are not heard. -/
theorem capsule (h : Alike m w w') (i : CapsuleId) :
    (w.capsules[i]? = none ∧ w'.capsules[i]? = none) ∨
      ∃ c o, w.capsules[i]? = some c ∧ w'.capsules[i]? = some { c with observer := o } ∧
        m.ear c.observer = m.ear o := by
  have key := congrArg (fun w => w.capsules[i]?) h.view_eq
  simp only [Hearing.view_capsules, Array.getElem?_map] at key
  cases hw : w.capsules[i]? with
  | none =>
    rw [hw] at key
    exact .inl ⟨rfl, Option.map_eq_none_iff.1 key.symm⟩
  | some c =>
    rw [hw] at key
    obtain ⟨c', hc', heq⟩ := Option.map_eq_some_iff.1 key.symm
    refine .inr ⟨c, c'.observer, rfl, ?_, ?_⟩
    · rw [hc']
      obtain ⟨⟩ := c
      obtain ⟨⟩ := c'
      simp only [Hearing.capsule, Capsule.mk.injEq] at heq
      simp [heq]
    · have := congrArg Capsule.observer heq
      exact this.symm

/-- A new resolver keeps worlds alike, whatever watchers it tells. -/
theorem pushResolver (h : Alike m w w') {r : Resolver} {o : Option Observer}
    (ho : m.ear r.observer = m.ear o) :
    Alike m { w with resolvers := w.resolvers.push r }
      { w' with resolvers := w'.resolvers.push { r with observer := o } } := by
  refine ⟨?_, fun hm => (h.discreet hm).of_eq rfl rfl⟩
  rw [Hearing.view_pushResolver, Hearing.view_pushResolver, h.view_eq]
  simp only [Hearing.resolver, ho]

/-- A new capsule keeps worlds alike, whatever watchers it tells. -/
theorem pushCapsule (h : Alike m w w') {c : Capsule} {o : Option Observer}
    (ho : m.ear c.observer = m.ear o) :
    Alike m { w with capsules := w.capsules.push c }
      { w' with capsules := w'.capsules.push { c with observer := o } } := by
  refine ⟨?_, fun hm => (h.discreet hm).of_eq rfl rfl⟩
  rw [Hearing.view_pushCapsule, Hearing.view_pushCapsule, h.view_eq]
  simp only [Hearing.capsule, ho]

end Alike

end OrderedScope
