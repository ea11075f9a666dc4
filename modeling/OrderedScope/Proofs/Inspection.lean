import OrderedScope.Proofs.Marking

/-!
# What Asking Looks At

A question to a resolver finds out which contexts answer a name, and does not compute what they
answer. On its way it looks at the tables of the contexts, at what the entries say about themselves,
and tells its observer; and it accesses the name itself only in a context whose tables were just
found not to hold it. What code runs within these steps is up to the runner, of which nothing is
assumed.

Tables are read by access to their classes. So they hide what they list from a question where a
metaclass keeps its classes from showing it. Then the name counts as not held, and is accessed. So
it is where the entry that is selected is the object that tells that there is nothing.

## Main results

* `Resolver.Inspects`: the steps of a question, as a relation between worlds.
* `Resolver.asking_inspects`: every question takes no other steps, and accesses the name in no
  context with legible tables that list an entry for it, unless the entry tells that there is
  nothing; where the entries are plain to see, it runs no code.
* `Resolver.asking_computes`: a question that computes a member which the tables list.
-/

namespace OrderedScope

/-- The names by which asking **looks** at classes and at entries: at the lines, tables, names and
readers of classes, and at the class, the function and the mark of an entry. -/
def inspected : List String :=
  ["__mro__", "__dict__", "__qualname__", "__get__", "__set__", "__delete__", "__class__",
    "__func__", "fget", restrictedMark]

/-- Whether an entry **is a slot**, of an object or of a native class. -/
def Value.isSlot : Value → Bool
  | .slot .. => true
  | .nativeMember _ .slot _ => true
  | _ => false

namespace World

/-- The member tables of a context **list** a name: those along the line of its class, beside them
its own attributes, or for a class those along its own line. -/
def Lists (w : World) (context : Value) (name : String) : Prop :=
  match context with
  | .cls c => (w.typeMember? c name).isSome ∨ (w.typeMember? (w.metaclassOf c) name).isSome
  | v => ((w.ownAttrs? v).bind (·.find? name)).isSome ∨ (w.typeMember? (w.classOf v) name).isSome

/-- What the tables list is **selected** when they are looked up. -/
theorem isSome_selected?_iff {w : World} {context : Value} {name : String} :
    (w.selected? context name).isSome ↔ w.Lists context name := by
  cases context with
  | cls c => rw [selected?, Lists, Option.isSome_or, Bool.or_eq_true]
  | _ =>
      simp only [selected?, Lists]
      rw [selectedOf?_isSome, Bool.or_eq_true]

/-- What the tables list and is not seen **tells that there is nothing**. -/
theorem selected?_of_unseen {w : World} {context : Value} {name : String}
    (listed : w.Lists context name) (unseen : w.seen? context name = none) :
    w.selected? context name = some .missing := by
  obtain ⟨raw, selected⟩ := Option.isSome_iff_exists.1 (isSome_selected?_iff.2 listed)
  rw [seen?, selected, Option.bind_some] at unseen
  rw [selected, Value.known?_eq_none.1 unseen]

end World

namespace Resolver

open Attribute

/-! ### Steps of a question -/

/-- What a question for a name **does** from a world on: it looks at classes and entries, weighs
whether what it got for the mark of an entry counts as true, reads tables, lets what only passes for
a slot read itself, makes texts for the log, of the names of classes too, tells the observer, and
accesses the name in a context whose tables it has just looked up and found not to hold the name. -/
inductive Inspects (run : Runner) (r : Resolver) (name : String) (w : World) : World → Prop
  | start : Inspects run r name w w
  | look {w₁ : World} (v : Value) {n : String} : n ∈ inspected → Inspects run r name w w₁ →
      Inspects run r name w ((get run v n).outcome w₁).2
  | weigh {w₀ w₁ : World} {holder mark : Value} :
      (get run holder restrictedMark).outcome w₀ = (.ok mark, w₁) → Inspects run r name w w₁ →
      Inspects run r name w ((mark.truthy run).outcome w₁).2
  | table {w₁ : World} (v : Value) : Inspects run r name w w₁ →
      Inspects run r name w ((objectGet run v "__dict__").outcome w₁).2
  | posing {w₀ w₁ : World} {raw : Value} (v : Value) : raw.isSlot = false →
      (isInstance run raw (.native .slotMember)).outcome w₀ = (.ok true, w₁) →
      Inspects run r name w w₁ → Inspects run r name w ((readSlot run raw v).outcome w₁).2
  | text {w₁ : World} (v : Value) : Inspects run r name w w₁ →
      Inspects run r name w ((run (.text [] v)).outcome w₁).2
  | title {w₀ w₁ : World} {c : ClassRef} {shown : Value} :
      (get run (.cls c) "__qualname__").outcome w₀ = (.ok shown, w₁) → Inspects run r name w w₁ →
      Inspects run r name w ((shown.plainText run).outcome w₁).2
  | told {w₁ : World} (e : Event) : Inspects run r name w w₁ →
      Inspects run r name w ((emit run r.observer e).outcome w₁).2
  | unheld {w₀ w₁ : World} {context : Value} : context ∈ r.contexts.map Prod.snd →
      (held? run context name).outcome w₀ = (.ok none, w₁) → Inspects run r name w w₀ →
      Inspects run r name w w₁ → Inspects run r name w ((get run context name).outcome w₁).2

/-- A run only **inspects**: from every world it takes the steps of a question to its end. -/
structure OnlyInspects (run : Runner) (r : Resolver) (name : String) {α : Type} (x : Run α) :
    Prop where
  steps : ∀ w, Inspects run r name w (x.outcome w).2

variable {run : Runner} {r : Resolver} {name : String}

namespace Inspects

variable {α β : Type} {w w₁ w₂ : World}

/-- Steps that follow steps are **steps**. -/
theorem trans (h : Inspects run r name w w₁) (h' : Inspects run r name w₁ w₂) :
    Inspects run r name w w₂ := by
  induction h' with
  | start => exact h
  | look v hn _ ih => exact ih.look v hn
  | weigh got _ ih => exact ih.weigh got
  | table v _ ih => exact ih.table v
  | posing v apart poses _ ih => exact ih.posing v apart poses
  | text v _ ih => exact ih.text v
  | title got _ ih => exact ih.title got
  | told e _ ih => exact ih.told e
  | unheld hc missed _ _ ih₀ ih => exact .unheld hc missed ih₀ ih

/-- What follows a run takes its steps **from where that ended**, with what it gave. -/
theorem bind {x : Run α} {f : α → Run β} (hx : Inspects run r name w (x.outcome w).2)
    (hf : ∀ a w₁, x.outcome w = (.ok a, w₁) → Inspects run r name w w₁ →
      Inspects run r name w ((f a).outcome w₁).2) :
    Inspects run r name w ((x >>= f).outcome w).2 := by
  rw [Run.outcome_bind]
  rcases h : x.outcome w with ⟨_ | a, w₁⟩ <;> rw [h] at hx
  · exact hx
  · exact hf a w₁ h hx

end Inspects

namespace OnlyInspects

variable {α β : Type} {x : Run α} {f : α → Run β}

/-! ### Rules -/

/-- What keeps the world as it is **takes no step**. -/
theorem of_keeps (h : ∀ w, (x.outcome w).2 = w) : OnlyInspects run r name x :=
  ⟨fun w => by
    rw [h]
    exact .start⟩

/-- A value alone takes no step. -/
@[grind ←] theorem pure (a : α) : OnlyInspects run r name (Pure.pure a : Run α) :=
  of_keeps fun _ => rfl

/-- An error alone takes no step. -/
@[grind ←] theorem raise (e : Error) : OnlyInspects run r name (Run.raise e : Run α) :=
  of_keeps fun _ => rfl

/-- To read the world takes no step. -/
@[grind ←] theorem reading (g : World → α) : OnlyInspects run r name (Run.reading g) :=
  of_keeps fun _ => rfl

/-- What goes on with inspections from inspections **only inspects**. -/
@[grind ←] theorem bind (hx : OnlyInspects run r name x) (hf : ∀ a, OnlyInspects run r name (f a)) :
    OnlyInspects run r name (x >>= f) :=
  ⟨fun w => .bind (hx.steps w) fun a w₁ _ h => h.trans ((hf a).steps w₁)⟩

/-- What goes on with inspections from the world only inspects. -/
theorem get_bind {g : World → Run β} (hg : ∀ w, OnlyInspects run r name (g w)) :
    OnlyInspects run r name (MonadState.get >>= g) :=
  bind (of_keeps fun _ => rfl) hg

/-- What is made of the gift of inspections is given by inspections. -/
theorem map {g : α → β} (hx : OnlyInspects run r name x) : OnlyInspects run r name (g <$> x) := by
  rw [← bind_pure_comp]
  exact hx.bind fun a => pure (g a)

/-- A handler that only inspects adds nothing but inspections. -/
theorem recover {handled : Error → Bool} {handler : Error → Run α}
    (hx : OnlyInspects run r name x) (hh : ∀ e, OnlyInspects run r name (handler e)) :
    OnlyInspects run r name (Run.recover handled x handler) := by
  refine ⟨fun w => ?_⟩
  have first := hx.steps w
  rw [Run.outcome_recover]
  rcases h : x.outcome w with ⟨(e | _) | a, w₁⟩ <;> rw [h] at first
  · simp only
    split
    · exact first.trans ((hh e).steps w₁)
    · exact first
  · exact first
  · exact first

/-- Inspections only inspect where a missing attribute is none. -/
theorem optional (hx : OnlyInspects run r name x) : OnlyInspects run r name (Run.optional x) :=
  recover hx.map fun _ => pure _

/-- A choice between inspections only inspects. -/
theorem elim {o : Option α} {y : Run β} (hy : OnlyInspects run r name y)
    (hf : ∀ a, OnlyInspects run r name (f a)) : OnlyInspects run r name (o.elim y f) := by
  cases o with
  | none => exact hy
  | some a => exact hf a

/-- A message with the name of a class is logged by inspections if the rest of it is made by
inspections. -/
theorem logText {level : LogLevel} {c : ClassRef} {message : String → Run String}
    (hm : ∀ s, OnlyInspects run r name (message s)) :
    OnlyInspects run r name (do
      let shown ← Attribute.get run (.cls c) "__qualname__"
      Run.logText level fun _ => do message (← shown.plainText run)) := by
  refine ⟨fun w => .bind (Inspects.start.look _ (by simp [inspected])) fun shown w₁ got asked => ?_⟩
  rcases Run.world_logText level (fun _ => do message (← shown.plainText run)) w₁ with same | made
  · rwa [same]
  · rw [made]
    exact asked.trans <| .bind (Inspects.start.title got) fun s w₂ _ worded =>
      worded.trans ((hm s).steps w₂)

/-- Access to an inspected name is **an inspection**. -/
theorem get (v : Value) {n : String} (hn : n ∈ inspected) :
    OnlyInspects run r name (Attribute.get run v n) :=
  ⟨fun _ => Inspects.start.look v hn⟩

/-- Access to an inspected name that may be missing is an inspection. -/
theorem get? (v : Value) {n : String} (hn : n ∈ inspected) :
    OnlyInspects run r name (Attribute.get? run v n) :=
  (get v hn).optional

/-- Asking whether an inspected name has an attribute is an inspection. -/
theorem has (v : Value) {n : String} (hn : n ∈ inspected) :
    OnlyInspects run r name (Attribute.has run v n) :=
  (get? v hn).map

/-- To read the table of a value is an inspection. -/
theorem table (v : Value) : OnlyInspects run r name (objectGet run v "__dict__") :=
  ⟨fun _ => Inspects.start.table v⟩

/-- To tell an event is among the steps. -/
theorem emit (e : Event) : OnlyInspects run r name (emit run r.observer e) :=
  ⟨fun _ => Inspects.start.told e⟩

/-! ### Values -/

/-- To go through the items of a value changes nothing. -/
theorem items (v : Value) : OnlyInspects run r name v.items := by
  have byClass (v : Value) : OnlyInspects run r name v.itemsByClass := by
    refine (reading _).bind fun _ => (reading _).bind fun _ => (reading _).bind fun _ => ?_
    unfold classNameOf
    split
    · grind
    · grind
    · exact of_keeps fun _ => rfl
    · exact of_keeps fun _ => rfl
    · grind
  unfold Value.items classNameOf
  split <;> grind

/-- To look for a key changes nothing. -/
theorem hasKey (v : Value) (key : String) : OnlyInspects run r name (v.hasKey key) := by
  unfold Value.hasKey classNameOf
  split <;> grind

/-- To take the item of a key changes nothing. -/
theorem itemAt (v : Value) (key : String) : OnlyInspects run r name (v.itemAt key) := by
  unfold Value.itemAt classNameOf
  split <;> grind

/-- To join two values changes nothing. -/
theorem joinTuple (v more : Value) : OnlyInspects run r name (v.joinTuple more) := by
  unfold Value.joinTuple classNameOf
  split <;> grind

/-- To put an error into words **makes a text**, at most. -/
theorem text (e : Error) : OnlyInspects run r name (e.text run) := by
  cases e with
  | noItem key =>
      have shows : OnlyInspects run r name (run (.text [] key)) := ⟨fun _ => .text key .start⟩
      exact shows.bind fun _ => reading _
  | _ => exact pure _

/-! ### Tables -/

/-- A value is asked for its class and nothing else. -/
theorem isInstance (v : Value) (c : ClassRef) : OnlyInspects run r name (isInstance run v c) := by
  refine get_bind fun w => ?_
  split
  · exact pure true
  · refine (get? v (by simp [inspected])).bind fun told => ?_
    split
    · split
      · exact pure false
      · exact reading _
    · exact pure false

/-- What an instance holds itself is found by inspections. -/
theorem heldByInstance? (v : Value) (key : String) :
    OnlyInspects run r name (heldByInstance? run v key) := by
  refine get_bind fun w => ?_
  extract_lets readable
  split
  · refine (table v).optional.bind fun found => ?_
    split
    · exact pure none
    · exact pure _
    · exact (reading _).bind fun _ => raise _
  · exact pure none

/-- What a class holds itself is found by inspections. -/
theorem heldByClass? (c : ClassRef) (key : String) :
    OnlyInspects run r name (heldByClass? run c key) := by
  have read : OnlyInspects run r name (do
      some <$> (← Attribute.get run (.cls c) "__dict__").itemAt key) :=
    (get _ (by simp [inspected])).bind fun table => (itemAt table key).map
  refine get_bind fun w => ?_
  split
  · exact pure none
  · exact read.recover fun _ => pure none

/-- What a line of classes holds is found by inspections, class by class. -/
theorem heldAlong? (key : String) (line : List ClassRef) :
    OnlyInspects run r name (heldAlong? run key line) := by
  induction line with
  | nil => exact pure none
  | cons c rest ih =>
      refine (heldByClass? c key).bind fun found => ?_
      cases found with
      | none => exact ih
      | some raw => exact pure _

/-- What a class or a class above it holds is found by inspections. -/
theorem heldInLine? (c : ClassRef) (key : String) :
    OnlyInspects run r name (heldInLine? run c key) :=
  (reading _).bind fun line => heldAlong? key line

/-- The entry that is selected from the tables is found by inspections. -/
theorem selected? (v : Value) (key : String) :
    OnlyInspects run r name (selected? run v key) := by
  unfold Attribute.selected?
  split
  · refine (heldInLine? _ key).bind fun found => ?_
    cases found with
    | none => exact (reading _).bind fun c => heldInLine? c key
    | some raw => exact pure _
  · refine (heldByInstance? v key).bind fun own => (reading _).bind fun c =>
      (heldInLine? c key).bind fun member => ?_
    split
    · -- Of an attribute and a member, the tables of the member's class tell which one is taken.
      refine (reading _).bind fun d => (heldInLine? d _).bind fun reader => ?_
      split
      · refine (heldInLine? d _).bind fun writer => ?_
        split
        · exact pure _
        · exact pure _
      · exact pure _
    · exact pure _
    · exact pure _

/-- What a value holds is found by inspections. -/
theorem held? (v : Value) (key : String) : OnlyInspects run r name (held? run v key) :=
  (selected? v key).map

/-- The holder of a mark is found by inspections. -/
theorem markHolder (raw : Value) : OnlyInspects run r name (markHolder run raw) := by
  refine (isInstance raw _).bind fun static => ?_
  split
  · exact get raw (by simp [inspected])
  · refine (isInstance raw _).bind fun ofClass => ?_
    split
    · exact get raw (by simp [inspected])
    · refine (isInstance raw _).bind fun computed => ?_
      split
      · exact get raw (by simp [inspected])
      · exact pure raw

/-- Whether a member is marked is found by inspections, one of which asks for the mark. -/
theorem isMarked (raw : Value) : OnlyInspects run r name (isMarked run raw) := by
  unfold Attribute.isMarked
  split
  · exact pure false
  · exact pure false
  · refine (markHolder raw).bind fun holder => ⟨fun w => ?_⟩
    refine .bind ((get? holder (by simp [inspected])).steps w) fun mark w₁ got asked => ?_
    cases mark with
    | none => exact asked
    | some mark => exact asked.weigh (Run.outcome_optional_some_iff.1 got)

/-- Whether a line of tables gives a hook is found by inspections. -/
theorem hasPlainHook (hook : String) (line : List Value) :
    OnlyInspects run r name (hasPlainHook run hook line) := by
  have table (klass : Value) : OnlyInspects run r name (Attribute.get run klass "__dict__") :=
    get klass (by simp [inspected])
  induction line with
  | nil => exact pure false
  | cons klass rest ih =>
      refine (table klass).bind fun first => (hasKey first hook).bind fun here => ?_
      split
      · exact (table klass).bind fun again => (itemAt again hook).bind fun entry =>
          isInstance entry _
      · exact ih

/-- Whether a class is given a hook is found by inspections. -/
theorem classHasPlainHook (c : ClassRef) (hook : String) :
    OnlyInspects run r name (classHasPlainHook run c hook) :=
  (get _ (by simp [inspected])).bind fun line => (items line).bind fun line =>
    hasPlainHook hook line

/-- Whether a name goes through hooks is found by inspections. -/
theorem overridesProtocol (v : Value) (key : String) :
    OnlyInspects run r name (overridesProtocol run v key) := by
  refine (reading _).bind fun c => (classHasPlainHook c _).bind fun front => ?_
  split
  · exact pure true
  · refine (classHasPlainHook c _).bind fun back => ?_
    split
    · exact (held? v key).bind fun found => pure _
    · exact pure false

/-- The tables behind a value are found by inspections. -/
theorem typeChain (v : Value) : OnlyInspects run r name (typeChain run v) := by
  have line (klass : Value) : OnlyInspects run r name (Attribute.get run klass "__mro__") :=
    get klass (by simp [inspected])
  refine get_bind fun w => ?_
  extract_lets c
  split
  · exact (line v).bind fun own => (line _).bind fun outside =>
      (joinTuple own outside).bind fun both => items both
  · exact (line _).bind fun own => items own

/-- The first entry along some tables is found by inspections. -/
theorem entryAlong? (key : String) (line : List Value) :
    OnlyInspects run r name (entryAlong? run key line) := by
  induction line with
  | nil => exact pure none
  | cons klass rest ih =>
      refine (get klass (by simp [inspected])).bind fun table =>
        (hasKey table key).bind fun here => ?_
      split
      · exact (itemAt table key).map
      · exact ih

/-- Whether an entry takes control is found by inspections. -/
theorem controlsBoth (raw : Value) : OnlyInspects run r name (controlsBoth run raw) := by
  refine (reading _).bind fun kind => ?_
  extract_lets kind
  refine (has _ (by simp [inspected])).bind fun reads => ?_
  split
  · refine (has _ (by simp [inspected])).bind fun writes => ?_
    split
    · exact pure true
    · exact has _ (by simp [inspected])
  · exact pure false

/-- The own table of a value is found by inspections. -/
theorem ownTable? (v : Value) : OnlyInspects run r name (ownTable? run v) := by
  refine ((table v).map.recover fun _ => pure none).bind fun found => ?_
  split
  · exact pure _
  · exact pure _
  · exact (get _ (by simp [inspected])).bind fun _ => pure none
  · exact pure none

/-- The entry of a walk where no member takes control is found by inspections. -/
theorem uncontrolled? (v : Value) (key : String) (member : Option Value) :
    OnlyInspects run r name (uncontrolled? run v key member) := by
  refine (ownTable? v).bind fun own => (reading _).bind fun isClass => ?_
  split
  · exact pure _
  · exact pure _
  · exact pure none

/-- A **walk** through the tables of a value only inspects. -/
theorem walk? (v : Value) (key : String) : OnlyInspects run r name (walk? run v key) := by
  refine (typeChain v).bind fun line => (entryAlong? key line).bind fun found => ?_
  simp only
  generalize found.bind Value.known? = member
  cases member with
  | none => exact (pure false).bind fun _ => uncontrolled? v key none
  | some raw =>
      refine (controlsBoth raw).bind fun controlled => ?_
      cases controlled with
      | true => exact pure _
      | false => exact uncontrolled? v key (some raw)

/-! ### Slots -/

/-- What is read from a slot is **read from the world**. -/
theorem readSlot_of_isSlot {raw : Value} (slot : raw.isSlot = true) (v : Value) :
    OnlyInspects run r name (readSlot run raw v) := by
  unfold Value.isSlot at slot
  split at slot
  · have own (o : Nat) (s : String) : OnlyInspects run r name (slotField o s v) := by
      refine get_bind fun w => ?_
      extract_lets c failure
      split
      · split
        · exact elim (raise _) pure
        · exact raise _
      · exact raise _
    exact get_bind fun w => own _ _
  · have native (o : ClassRef) (s : String) : OnlyInspects run r name (field o s v) :=
      get_bind fun w => elim (raise _) pure
    exact get_bind fun w => native _ _
  · cases slot

/-- Whether a slot was never filled is found by inspections. -/
theorem isEmptySlot (raw v : Value) : OnlyInspects run r name (isEmptySlot run raw v) := by
  refine ⟨fun w => .bind ((isInstance raw _).steps w) fun poses w₁ told asked => ?_⟩
  cases poses with
  | false => exact asked
  | true =>
      have read : Inspects run r name w ((readSlot run raw v).outcome w₁).2 := by
        cases slot : raw.isSlot with
        | true => exact asked.trans ((readSlot_of_isSlot slot v).steps w₁)
        | false => exact asked.posing v slot told
      simp only [↓reduceIte]
      rw [Run.outcome_bind_of_ok (Run.outcome_reading _ w₁)]
      split
      · exact asked
      · rwa [bind_pure_comp, Run.world_map, Run.world_optional]

/-! ### Questions -/

/-- By the dynamic strategy the name is accessed **only where it is not held**. -/
theorem dynamicRespondsTo (restricted : Bool) {context : Value}
    (hc : context ∈ r.contexts.map Prod.snd) :
    OnlyInspects run r name (Lookup.dynamicRespondsTo run restricted context name) := by
  have kept (raw : Value) : OnlyInspects run r name (do
      if ← Attribute.isEmptySlot run raw context then Pure.pure false
      else if restricted then Pure.pure true
      else not <$> Attribute.isMarked run raw : Run Bool) := by
    refine (isEmptySlot raw context).bind fun empty => ?_
    split
    · exact pure false
    · split
      · exact pure true
      · exact (isMarked raw).map
  unfold Lookup.dynamicRespondsTo
  split
  · exact pure false
  · refine ⟨fun w => .bind ((held? context name).steps w) fun found w₁ missed looked => ?_⟩
    cases found with
    | none =>
        simp only
        rw [Attribute.has, Run.world_map, Attribute.get?, Run.world_optional]
        exact .unheld hc missed .start looked
    | some raw => exact looked.trans ((kept raw).steps w₁)

/-- What the static strategy finds it finds by inspections. -/
theorem staticFound? (restricted : Bool) (context : Value) (key : String) :
    OnlyInspects run r name (Lookup.staticFound? run restricted context key) := by
  unfold Lookup.staticFound?
  split
  · exact pure none
  · refine (walk? context key).bind fun found => ?_
    split
    · exact pure none
    · refine (isEmptySlot _ _).bind fun empty => ?_
      split
      · exact pure none
      · split
        · exact (pure false).bind fun hidden => pure _
        · exact (isMarked _).bind fun hidden => pure _

/-- To hand a question over to the second strategy only inspects. -/
theorem handOver (secondary : Strategy) (operation : String) (context : Value) (key : String)
    (e : Error) :
    OnlyInspects run r name (Lookup.handOver run secondary operation context key e) := by
  refine (overridesProtocol context key).bind fun hooked => ?_
  split
  · exact (reading _).bind fun c => logText fun _ => (text e).bind fun _ => pure _
  · exact raise e

/-- To ask a context of a resolver by any strategy is to **inspect**. -/
theorem respondsTo (s : Strategy) {context : Value} (hc : context ∈ r.contexts.map Prod.snd) :
    OnlyInspects run r name (s.respondsTo run context name) := by
  induction s with
  | dynamic restricted => exact dynamicRespondsTo restricted hc
  | static restricted => exact (staticFound? restricted context name).map
  | fallback primary secondary first second =>
      exact first.recover fun e => (handOver _ _ _ _ _).bind fun _ => second

/-- To tell that a context answers only inspects. -/
theorem matched (g : Group) (i : Nat) (context : Value) :
    OnlyInspects run r name (matched run r name g i context) := by
  refine (reading _).bind fun c => ?_
  rw [← bind_assoc]
  exact (logText fun _ => pure _).bind fun _ => emit _

/-- The scan of the contexts only inspects. -/
theorem firstAnswer {line : List ((Group × Value) × Nat)}
    (hl : ∀ e ∈ line, e.1.2 ∈ r.contexts.map Prod.snd) :
    OnlyInspects run r name (firstAnswer (r.asking run name) line) := by
  induction line with
  | nil => exact pure none
  | cons e rest ih =>
      rw [List.forall_mem_cons] at hl
      have asked : OnlyInspects run r name (r.asking run name e.1.2) :=
        (respondsTo _ hl.1).bind fun _ => pure _
      refine asked.bind fun answer => ?_
      cases answer with
      | none => exact ih hl.2
      | some _ => exact pure _

/-- An explanation only inspects, context by context. -/
theorem go {line : List ((Group × Value) × Nat)}
    (hl : ∀ e ∈ line, e.1.2 ∈ r.contexts.map Prod.snd) (found : Bool) :
    OnlyInspects run r name (explain.go run r name found line) := by
  induction line generalizing found with
  | nil => exact pure []
  | cons e rest ih =>
      rw [List.forall_mem_cons] at hl
      exact (respondsTo _ hl.1).bind fun _ => (ih hl.2 _).bind fun _ => pure _

/-- The contexts that are asked are those **of the resolver**. -/
theorem context_of_numbered (r : Resolver) : ∀ e ∈ r.numbered, e.1.2 ∈ r.contexts.map Prod.snd :=
  fun _ he => List.mem_map_of_mem (List.fst_mem_of_mem_zipIdx he)

/-- To **resolve** a name is to inspect. -/
theorem resolve : OnlyInspects run r name (r.resolve run name) := by
  refine ((firstAnswer (context_of_numbered r)).bind fun found => ?_).map
  cases found with
  | none => exact (emit _).bind fun _ => raise _
  | some entry => exact (matched _ _ _).bind fun _ => pure _

end OnlyInspects

/-! ### Answers that are read -/

/-- Whether a context answers a question **is plain to see**: the name is refused, or the entry that
the context holds is in sight and, where marks count, so is its mark. -/
inductive PlainFor (r : Resolver) (w : World) (name : String) (context : Value) : Prop
  | refused : r.variant = .publicOne → isRestrictedName name = true → PlainFor r w name context
  | privately (raw : Value) : r.variant = .privateOne → w.InSight context name →
      w.seen? context name = some raw → PlainFor r w name context
  | publicly (raw : Value) : r.variant = .publicOne → isRestrictedName name = false →
      w.InSight context name → w.seen? context name = some raw → w.MarksPlainly raw →
      PlainFor r w name context

variable {w : World} {context : Value}

/-- An answer that is plain to see is read from the tables, and **no code runs**, of whatever
runner. -/
theorem PlainFor.answered (h : r.PlainFor w name context) : ∃ answer, ∀ run,
    (r.variant.strategy.respondsTo run context name).outcome w = (.ok answer, w) := by
  cases h with
  | refused hv restricted =>
      rw [hv]
      exact ⟨false, fun run =>
        congrFun (congrArg Run.outcome (Strategy.refused_respondsTo run context restricted).1) w⟩
  | privately raw hv sight seen =>
      rw [hv]
      exact ⟨_, fun run => Run.outcome_recover_ok
        (Lookup.outcome_dynamicRespondsTo_inSight run sight seen rfl nofun)⟩
  | publicly raw hv unrestricted sight seen plain =>
      rw [hv]
      refine ⟨_, fun run =>
        Lookup.outcome_dynamicRespondsTo_inSight run sight seen ?_ fun _ => plain⟩
      rw [Strategy.refuses, unrestricted, Bool.and_false]

/-- A context that is plain for a name is **asked without a trace**. -/
theorem PlainFor.asked (h : r.PlainFor w name context) :
    ∃ answer, ∀ run, (r.asking run name context).outcome w = (.ok answer, w) := by
  obtain ⟨answer, answered⟩ := h.answered
  refine ⟨if answer then some () else none, fun run => ?_⟩
  rw [outcome_asking, answered run]

/-- Where all answers are plain to see, an explanation is **read**. -/
theorem outcome_explain_plain {line : List ((Group × Value) × Nat)}
    (h : ∀ e ∈ line, r.PlainFor w name e.1.2) (found : Bool) :
    ∃ steps, ∀ run, (explain.go run r name found line).outcome w = (.ok steps, w) := by
  induction line generalizing found with
  | nil => exact ⟨[], fun _ => rfl⟩
  | cons e rest ih =>
      obtain ⟨⟨g, context⟩, i⟩ := e
      rw [List.forall_mem_cons] at h
      obtain ⟨answer, answered⟩ := h.1.answered
      obtain ⟨steps, explained⟩ := ih h.2 (found || answer)
      refine ⟨⟨i, g, context, answer, answer && !found⟩ :: steps, fun run => ?_⟩
      rw [explain_go_cons, Run.outcome_bind_of_ok (answered run),
        Run.outcome_bind_of_ok (explained run)]
      rfl

/-- Where all answers are plain to see, the first is **found** without running code. -/
theorem outcome_firstAnswer_plain {line : List ((Group × Value) × Nat)}
    (h : ∀ e ∈ line, r.PlainFor w name e.1.2) :
    ∃ found, (∀ run, (firstAnswer (r.asking run name) line).outcome w = (.ok found, w)) ∧
      ∀ g i context a, found = some (g, i, context, a) → ((g, context), i) ∈ line := by
  induction line with
  | nil => exact ⟨none, fun _ => rfl, nofun⟩
  | cons e rest ih =>
      obtain ⟨⟨g, context⟩, i⟩ := e
      rw [List.forall_mem_cons] at h
      obtain ⟨answer, asked⟩ := h.1.asked
      cases answer with
      | none =>
          obtain ⟨found, scanned, listed⟩ := ih h.2
          refine ⟨found, fun run => ?_, fun g i context a hf => .tail _ (listed g i context a hf)⟩
          rw [firstAnswer_cons, Run.outcome_bind_of_ok (asked run)]
          exact scanned run
      | some a =>
          refine ⟨some (g, i, context, a), fun run => ?_, ?_⟩
          · rw [firstAnswer_cons, Run.outcome_bind_of_ok (asked run)]
            rfl
          · rintro _ _ _ _ ⟨⟩
            exact .head _

/-- Where all answers are plain to see, a question **tells the observer one event** and does nothing
else. -/
theorem resolve_tells (h : ∀ e ∈ r.contexts, r.PlainFor w name e.2)
    (named : ∀ e ∈ r.contexts, w.ReadsPlainly (w.classOf e.2)) :
    ∃ event, ∀ run, ((r.resolve run name).outcome w).2 =
      ((emit run r.observer event).outcome w).2 := by
  have plain : ∀ e ∈ r.numbered, r.PlainFor w name e.1.2 := fun e he =>
    h e.1 (List.fst_mem_of_mem_zipIdx he)
  obtain ⟨found, scanned, listed⟩ := outcome_firstAnswer_plain plain
  rcases found with _ | ⟨g, i, context, a⟩
  · refine ⟨.unresolved name [("direction", .str r.direction.name),
      ("visibility", .str r.variant.visibility)], fun run => ?_⟩
    rw [resolve, Run.world_map, search, Run.outcome_bind_of_ok (scanned run)]
    simp only [failUnanswered]
    rw [Run.outcome_bind]
    rcases (emit run r.observer _).outcome w with ⟨_ | _, w₁⟩ <;> rfl
  · refine ⟨.resolved name context (.str g.name) (.int i) [], fun run => ?_⟩
    have shown := named _ (List.fst_mem_of_mem_zipIdx (listed g i context a rfl))
    rw [resolve, Run.world_map, search, Run.outcome_bind_of_ok (scanned run)]
    simp only
    rw [outcome_matched run g i shown, bind_pure_comp, Run.world_map]

/-- A world with one object, whose class computes `x` and has a certain metaclass. The one that the
world has, `Meta`, has a member in the place of the table. -/
def ruledBy (metaclass : ClassRef) : World :=
  { World.empty with
    classes := #[plainMetaclass 0 "Meta" [("__dict__", .int 0)],
      { plainClass 1 "Odd" [("x", .property (some 0) none (some "x"))] with
        metaclass := metaclass }]
    objects := #[plainObject "odd" 1 []]
    functions := #[plainFunction "Odd.x" (.body "Odd.x" (.ret (.int 1))),
      plainFunction "closure" (.script [])] }

/-- A public resolver over the object of that world. -/
def overRuled : Resolver :=
  ⟨.publicOne, .fn 1, .none, .iok, [.object 0], .module World.kernelModule, none⟩

/-- With the native metaclass it is plain to see that the computed member answers. -/
example : overRuled.PlainFor (ruledBy (.native .type)) "x" (.object 0) := by
  have legible {d : ClassRef} (h : (ruledBy (.native .type)).metaclassOf d = .native .type) :
      (ruledBy (.native .type)).Legible d := World.legible_of_metaclass h
  have marked := World.HoldsMark.getter (w := ruledBy (.native .type)) 0 none (some "x")
  have readable : (ruledBy (.native .type)).Readable "x" (.object 0) := by
    refine .instance_ _ nofun (.field (.world 1) [] rfl rfl rfl) (fun d hd => ?_) ?_
    · have line : d ∈ [ClassRef.world 1, .native .object] := hd
      simp only [List.mem_cons, List.not_mem_nil, or_false] at line
      rcases line with rfl | rfl <;> exact legible rfl
    · rintro _ ⟨⟩ d hd
      have line : d ∈ [ClassRef.native .property, .native .object] := hd
      simp only [List.mem_cons, List.not_mem_nil, or_false] at line
      rcases line with rfl | rfl <;> exact legible rfl
  refine .publicly _ rfl (by decide +kernel) ⟨readable, ?_⟩ rfl (.held marked ?_ nofun)
  · rintro _ ⟨⟩
    exact .instance_ rfl (.whole _ marked.noSlot)
  · exact World.unhooked_of_tells (single_function _ 0).tells nofun

end Resolver

end OrderedScope
