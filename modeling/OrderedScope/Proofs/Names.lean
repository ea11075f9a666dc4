import OrderedScope.Proofs.Marking

/-!
# Names in the Tables

The static strategy tells which names the tables of a context hold, whether the context answers a
name, what it gives for it, and what its member is. The names are the union of all tables. The other
questions walk through the same tables in the order of the attribute protocol, and come to what
becomes of the entry that the walk finds.

The hooks of a context have no part in this. What can come in between is whatever else is asked: the
tables of a class are read through its metaclass, and the entry is asked for its class, to see
whether it is a slot. Where these answer plainly, the questions read the same tables. An entry that
refuses to tell its class is a member, and its name is listed, but no answer is had for it. The name
of an entry that tells that there is nothing is listed too, but the other questions pass it over.

## Main results

* `Attribute.outcome_tableNames`: the names are those for which the tables hold an entry.
* `Strategy.static_reads_tables`: what the questions come to, and how they go together.
* `Strategy.static_questions_part`: hooks of an entry and of a metaclass that come in between.
-/

namespace OrderedScope

namespace World

variable {w : World} {v : Value} {c : ClassRef} {name : String}

/-- The classes **behind** a value, whose tables are walked. A class is followed by its
metaclass. -/
def behind (w : World) : Value → List ClassRef
  | .cls c => w.lineOf c ++ w.lineOf (w.metaclassOf c)
  | v => w.lineOf (w.classOf v)

/-- The first entry under a name in the tables of the classes behind a value. -/
def inherited? (w : World) (v : Value) (name : String) : Option Value :=
  (w.behind v).findSome? (w.ownMember? · name)

/-- The tables of a value are **open to be read**, whatever hooks the value has: an instance shows
its own, no metaclass stands in front of those of the classes behind it, and a class stands on its
own line. -/
inductive Tabled (w : World) : Value → Prop
  | cls (c : ClassRef) : w.isClass (.cls c) = true → c ∈ w.lineOf c → w.Accessible c →
      w.Accessible (w.metaclassOf c) → (∀ d ∈ w.behind (.cls c), w.Accessible d) → Tabled w (.cls c)
  | instance_ (v : Value) : w.isClass v = false → (∀ c, v ≠ .cls c) → w.ShowsTable v →
      w.Accessible (w.classOf v) → (∀ d ∈ w.behind v, w.Accessible d) → Tabled w v

/-- What is asked of the entries under a name is **told**: whether the inherited one takes control,
and whether the one that a walk finds is a slot that was never filled. -/
structure Told (w : World) (context : Value) (name : String) : Prop where
  hooks : ∀ raw, w.inherited? context name = some raw → w.TellsHooks raw
  filling : ∀ entry, w.walked? context name = some entry → w.TellsFilling entry.1 context

/-- Whether the entry that is listed under a name **tells that there is nothing**. -/
def hollowName (w : World) (context : Value) (name : String) : Bool :=
  (w.listed? context name).any fun entry => entry.1.known?.isNone

/-- Whether a name is that of a slot that a context **never filled**. -/
def unsetName (w : World) (context : Value) (name : String) : Bool :=
  (w.walked? context name).any fun entry => w.unset entry.1 context

/-- Whether the entry under a name is **marked** as restricted. -/
def markedName (w : World) (context : Value) (name : String) : Bool :=
  (w.walked? context name).any fun entry => w.marked entry.1

/-- A walk finds what is listed, unless that **tells that there is nothing**. -/
theorem walked?_isSome (w : World) (context : Value) (name : String) :
    (w.walked? context name).isSome =
      ((w.listed? context name).isSome && !w.hollowName context name) := by
  rw [walked?, hollowName]
  rcases w.listed? context name with _ | entry
  · rfl
  · simp only [Option.bind_some, Option.isSome_map, Option.any_some, Option.isSome_some,
      Bool.true_and]
    cases entry.1.known? <;> rfl

/-- The classes behind an instance are those **on the line of its class**. -/
theorem behind_of_instance (apart : ∀ c, v ≠ .cls c) : w.behind v = w.lineOf (w.classOf v) := by
  cases v with
  | cls c => exact absurd rfl (apart c)
  | _ => rfl

/-- An instance inherits **the member of its class**. -/
theorem inherited?_of_instance (apart : ∀ c, v ≠ .cls c) :
    w.inherited? v name = w.typeMember? (w.classOf v) name := by
  rw [inherited?, behind_of_instance apart, typeMember?]

/-- A class inherits from its own line, **and behind it** from that of its metaclass. -/
theorem inherited?_cls : w.inherited? (.cls c) name =
    (w.typeMember? c name).or (w.typeMember? (w.metaclassOf c) name) :=
  List.findSome?_append

/-- For a class **what it inherits** is listed. -/
theorem listed?_cls : w.listed? (.cls c) name = (w.inherited? (.cls c) name).map (·, true) := by
  rw [inherited?_cls]
  rfl

/-- An entry is listed where an instance holds one itself, **or inherits one**. -/
theorem listed?_isSome_of_instance (apart : ∀ c, v ≠ .cls c) : (w.listed? v name).isSome =
    (((w.ownAttrs? v).bind (·.find? name)).isSome || (w.inherited? v name).isSome) := by
  rw [listed?_of_instance apart, Option.isSome_map, objectUsed?_isSome,
    inherited?_of_instance apart]

/-- An instance that inherits nothing lists **its own attribute**. -/
theorem listed?_own (apart : ∀ c, v ≠ .cls c) (none : w.inherited? v name = none) :
    w.listed? v name = ((w.ownAttrs? v).bind (·.find? name)).map (·, false) := by
  rw [inherited?_of_instance apart] at none
  rw [listed?_of_instance apart, objectUsed?, none]
  rcases (w.ownAttrs? v).bind (·.find? name) with _ | x <;> rfl

/-- What a class holds itself it has **on its line**. -/
theorem inherited?_isSome_of_own (first : c ∈ w.lineOf c)
    (own : ((w.ownMembers c).find? name).isSome = true) :
    (w.inherited? (.cls c) name).isSome = true := by
  rw [inherited?, List.findSome?_isSome_iff]
  exact ⟨c, List.mem_append_left _ first, by rw [ownMember?_eq_find?, own]⟩

/-- The tables of an instance that shows its own are open if its classes have **the native
metaclass**. -/
theorem tabled_of_metaclasses (instance_ : w.isClass v = false) (apart : ∀ c, v ≠ .cls c)
    (shown : w.ShowsTable v)
    (native : ∀ d ∈ w.classOf v :: w.behind v, w.metaclassOf d = .native .type) : w.Tabled v := by
  rw [List.forall_mem_cons] at native
  exact .instance_ v instance_ apart shown (readsPlainly_of_metaclass native.1).accessible
    fun d hd => (readsPlainly_of_metaclass (native.2 d hd)).accessible

/-- The tables of the classes behind a value whose tables are open are **accessible**. -/
theorem Tabled.line (h : w.Tabled v) : ∀ d ∈ w.behind v, w.Accessible d := by
  cases h with
  | cls _ _ _ _ _ line => exact line
  | instance_ _ _ _ _ _ line => exact line

end World

namespace Attribute

variable {run : Runner} {context : Value} {name : String} {w w₁ : World}

/-! ### What the tables hold -/

/-- Where the tables are open, the chain of tables is that of **the classes behind** the context. -/
theorem outcome_typeChain_tabled (h : w.Tabled context) :
    (typeChain run context).outcome w = (.ok ((w.behind context).map .cls), w) := by
  cases h with
  | cls c isClass first own outside line => exact outcome_typeChain_class isClass own outside
  | instance_ _ instance_ apart shown own line =>
      rw [World.behind_of_instance apart]
      exact outcome_typeChain instance_ own

/-- The own table of a value and those of the classes behind it hold the names **for which an entry
is listed**. -/
theorem outcome_ownTable?_tabled (run : Runner) (h : w.Tabled context) :
    ∃ own, (ownTable? run context).outcome w = (.ok own, w) ∧
      (∀ name, (w.listed? context name).isSome =
        ((own.bind (·.find? name)).isSome || (w.inherited? context name).isSome)) ∧
      (w.isClass context = false →
        ∀ name, own.bind (·.find? name) = (w.ownAttrs? context).bind (·.find? name)) := by
  cases h with
  | cls c isClass first own outside line =>
      refine ⟨_, outcome_ownTable?_class run own, fun name => ?_,
        fun apart => absurd (isClass.symm.trans apart) nofun⟩
      rw [World.listed?_cls, Option.isSome_map]
      cases inside : ((some (w.ownMembers c)).bind (·.find? name)).isSome with
      | true => rw [World.inherited?_isSome_of_own first inside, Bool.or_true]
      | false => rw [Bool.false_or]
  | instance_ _ instance_ apart shown own line =>
      obtain ⟨own, held, same⟩ := outcome_ownTable? run apart shown
      refine ⟨own, held, fun name => ?_, fun _ => same⟩
      rw [same, World.listed?_isSome_of_instance apart]

/-- The names of the tables are those **for which an entry is listed**, and no code runs to collect
them. -/
theorem outcome_tableNames (run : Runner) (h : w.Tabled context) :
    ∃ names, (tableNames run context).outcome w = (.ok names, w) ∧
      ∀ name, name ∈ names ↔ (w.listed? context name).isSome = true := by
  obtain ⟨own, held, listed, -⟩ := outcome_ownTable?_tabled run h
  refine ⟨((own.getD []).names ++
    (w.behind context).flatMap fun d => (w.ownMembers d).names).eraseDups, ?_, fun name => ?_⟩
  · rw [tableNames, Run.outcome_bind_of_ok held,
      Run.outcome_bind_of_ok (outcome_typeChain_tabled h), List.mapM_map]
    refine Run.outcome_bind_of_ok (Run.outcome_mapM fun d hd => ?_)
    rw [Function.comp_apply, Run.outcome_bind_of_ok (outcome_get_table (h.line d hd)), Value.items,
      pure_bind, List.filterMap_map, Members.names, ← List.filterMap_eq_map]
    rfl
  · rw [List.mem_eraseDups, List.mem_append, Members.mem_names_iff, World.find?_getD, listed,
      Bool.or_eq_true, World.inherited?, List.findSome?_isSome_iff, List.mem_flatMap]
    simp only [Members.mem_names_iff, World.ownMember?_eq_find?]

/-! ### What a walk finds -/

/-- Where an entry is inherited that takes no control, a walk **finds an entry**, that one or an own
attribute, unless the own attribute tells that there is nothing. -/
theorem missing_of_uncontrolled? {raw : Value}
    (h : (uncontrolled? run context name (some raw)).outcome w = (.ok none, w₁)) :
    ∃ own, (ownTable? run context).outcome w = (.ok own, w₁) ∧
      own.bind (·.find? name) = some .missing := by
  rw [uncontrolled?] at h
  obtain ⟨own, w₂, held, h⟩ := Run.outcome_bind_ok_iff.1 h
  rw [Run.outcome_bind_of_ok (Run.outcome_reading _ w₂)] at h
  rcases found : own.bind (·.find? name) with _ | x <;> rw [found] at h
  · cases h
  · cases kind : w₂.isClass context <;> rw [kind] at h
    · obtain ⟨unknown, rfl⟩ : x.known?.map (·, false) = none ∧ w₂ = w₁ := by
        simpa using h
      exact ⟨own, held, by rw [found, Value.known?_eq_none.1 (Option.map_eq_none_iff.1
        unknown)]⟩
    · cases h

/-- Where the tables are open, a walk finds **what they hold**, if the inherited entry tells whether
it takes control. -/
theorem outcome_walk?_tabled (run : Runner) (h : w.Tabled context)
    (hooks : ∀ raw, w.inherited? context name = some raw → w.TellsHooks raw) :
    (walk? run context name).outcome w = (.ok (w.walked? context name), w) := by
  cases h with
  | cls c isClass first own outside line =>
      rw [World.inherited?_cls] at hooks
      exact outcome_walk?_class isClass own line outside hooks
  | instance_ _ instance_ apart shown own line =>
      rw [World.inherited?_of_instance apart] at hooks
      rw [World.behind_of_instance apart] at line
      exact outcome_walk?_instance instance_ apart shown own line hooks

/-- A walk **passes over** what the tables hold under a name: an inherited entry that tells that
there is nothing, or an own attribute that does when the walk comes to it. -/
inductive PassesOver (run : Runner) (context : Value) (name : String) (w w₁ : World) : Prop
  | inherited : w.inherited? context name = some .missing → PassesOver run context name w w₁
  | own {w₂ : World} {own : Option Members} :
      (ownTable? run context).outcome w₂ = (.ok own, w₁) →
      own.bind (·.find? name) = some .missing → PassesOver run context name w w₁

/-- A walk through open tables that list an entry **does not miss it**, unless it passes over it. -/
theorem passesOver_of_walk? (h : w.Tabled context)
    (listed : (w.listed? context name).isSome = true)
    (missed : (walk? run context name).outcome w = (.ok none, w₁)) :
    PassesOver run context name w w₁ := by
  rcases inherits : w.inherited? context name with _ | raw
  · -- What is listed is an own attribute, and no code runs before the walk comes to it.
    rw [outcome_walk?_tabled run h (by rw [inherits]; nofun)] at missed
    simp only [Prod.mk.injEq, Except.ok.injEq] at missed
    obtain ⟨unfound, rfl⟩ := missed
    obtain ⟨own, held, -, same⟩ := outcome_ownTable?_tabled run h
    cases h with
    | cls c =>
        rw [World.listed?_cls, inherits] at listed
        cases listed
    | instance_ _ isInstance apart =>
        rw [World.listed?_own apart inherits] at listed
        rw [World.walked?, World.listed?_own apart inherits, ← same isInstance] at unfound
        rw [← same isInstance] at listed
        rcases found : own.bind (·.find? name) with _ | x <;> rw [found] at listed unfound
        · cases listed
        · have unknown : x.known?.map (·, false) = none := unfound
          exact .own held (by rw [found, Value.known?_eq_none.1 (Option.map_eq_none_iff.1 unknown)])
  by_cases nothing : raw = .missing
  · exact .inherited (nothing ▸ inherits)
  have entry : (entryAlong? run name ((w.behind context).map .cls)).outcome w =
      (.ok (some raw), w) := by
    rw [outcome_entryAlong? h.line, ← inherits]
    rfl
  rw [walk?, Run.outcome_bind_of_ok (outcome_typeChain_tabled h),
    Run.outcome_bind_of_ok entry] at missed
  simp only [Option.bind_some, Value.known?_eq_some.2 ⟨rfl, nothing⟩] at missed
  obtain ⟨controls, w₂, -, missed⟩ := Run.outcome_bind_ok_iff.1 missed
  cases controls with
  | true => cases missed
  | false =>
      obtain ⟨own, held, found⟩ := missing_of_uncontrolled? missed
      exact .own held found

/-- A walk through open tables that list no entry **finds none**, and runs no code. -/
theorem walk?_of_unlisted (h : w.Tabled context)
    (unlisted : ¬ (w.listed? context name).isSome = true) :
    (walk? run context name).outcome w = (.ok none, w) := by
  obtain ⟨own, -, listed, -⟩ := outcome_ownTable?_tabled run h
  have inherits : w.inherited? context name = none :=
    Option.not_isSome_iff_eq_none.1 fun inherits =>
      unlisted (by rw [listed, inherits, Bool.or_true])
  rw [outcome_walk?_tabled run h (by rw [inherits]; nofun), World.walked?,
    Option.not_isSome_iff_eq_none.1 unlisted]
  rfl

/-- A walk fails where the line of classes behind a context **cannot be read**. -/
theorem walk?_of_typeChain {f : Fault} (h : (typeChain run context).outcome w = (.error f, w₁)) :
    (walk? run context name).outcome w = (.error f, w₁) := by
  rw [walk?]
  exact Run.outcome_bind_of_error h

end Attribute

namespace Strategy

open Attribute Lookup

variable {run : Runner} {context : Value} {name : String} {w w₁ : World}

/-! ### What the questions come to -/

/-- Nothing is given for a name exactly where it is **not answered**, or what is fetched for it
tells that there is nothing. -/
theorem static_silent_iff (run : Runner) (restricted : Bool) (context : Value) (name : String)
    (w w₁ : World) :
    ((static restricted).lookup run context name).outcome w = (.ok none, w₁) ↔
      ((static restricted).respondsTo run context name).outcome w = (.ok false, w₁) ∨
        ((static restricted).fetch run context name).outcome w = (.ok (some .missing), w₁) := by
  constructor
  · intro given
    refine (fetch_of_lookup_none given).imp_left fun fetched => ?_
    obtain ⟨entry, w₂, found, fetched⟩ := Run.outcome_bind_ok_iff.1 fetched
    rw [respondsTo, Run.outcome_map, found]
    cases entry with
    | none =>
        cases fetched
        rfl
    | some entry =>
        obtain ⟨_, -, other⟩ := Run.outcome_map_ok_iff.1 fetched
        cases other
  · rintro (silent | missing)
    · exact ((static restricted).agrees run context name w w₁).1 silent
    · exact lookup_of_fetch_missing missing

/-- The three questions about a name **fail alike**. -/
structure FailsAlike (run : Runner) (context : Value) (name : String) (w : World) (f : Fault)
    (w₁ : World) : Prop where
  asked : ((static true).respondsTo run context name).outcome w = (.error f, w₁)
  given : ((static true).lookup run context name).outcome w = (.error f, w₁)
  member : ((static true).member run context name).outcome w = (.error f, w₁)

/-- Where the walk fails, **all questions fail** with it. -/
theorem failsAlike_of_walk {f : Fault} (h : (walk? run context name).outcome w = (.error f, w₁)) :
    FailsAlike run context name w f w₁ where
  asked := by
    rw [respondsTo, staticRespondsTo_eq run true context name rfl]
    exact Run.outcome_bind_of_error h
  given := by
    rw [lookup, staticLookup_settled run true context name rfl]
    exact Run.outcome_bind_of_error h
  member := Run.outcome_bind_of_error h

/-- Where the walk finds nothing, nothing answers, and the member is **missing by its name**. -/
theorem static_of_missing (h : (walk? run context name).outcome w = (.ok none, w₁)) :
    ((static true).respondsTo run context name).outcome w = (.ok false, w₁) ∧
      ((static true).lookup run context name).outcome w = (.ok none, w₁) ∧
      ((static true).member run context name).outcome w =
        (.error (.raised (.bareAttribute name)), w₁) := by
  rw [respondsTo, lookup, staticRespondsTo_eq run true context name rfl,
    staticLookup_settled run true context name rfl]
  exact ⟨Run.outcome_bind_of_ok h, Run.outcome_bind_of_ok h, Run.outcome_bind_of_ok h⟩

/-- The three questions about a name **go by an entry**: an answer is had, and given, where that is
no empty slot, and the member is the entry, settled. What tells that there is nothing is not
given. -/
structure GoesBy (run : Runner) (context : Value) (name : String) (w : World)
    (entry : Value × Bool) (w₁ : World) : Prop where
  asked : ((static true).respondsTo run context name).outcome w =
    (not <$> isEmptySlot run entry.1 context : Run Bool).outcome w₁
  given : ((static true).lookup run context name).outcome w = (do
    if ← isEmptySlot run entry.1 context then pure none
    else Value.known? <$> settle run context entry : Run (Option Value)).outcome w₁
  member : ((static true).member run context name).outcome w =
    (settle run context entry).outcome w₁

/-- Where the walk finds an entry, all questions **go by it**. -/
theorem goesBy_of_walk {entry : Value × Bool}
    (h : (walk? run context name).outcome w = (.ok (some entry), w₁)) :
    GoesBy run context name w entry w₁ where
  asked := by
    rw [respondsTo, staticRespondsTo_eq run true context name rfl, ← keepsBack_true]
    exact Run.outcome_bind_of_ok h
  given := by
    rw [lookup, staticLookup_settled run true context name rfl, ← keepsBack_true]
    exact Run.outcome_bind_of_ok h
  member := Run.outcome_bind_of_ok h

/-- An answered name has an entry that is no empty slot, and what is given for it is **what its
member is**, up to what telling the slot does, unless that tells that there is nothing. -/
theorem static_answers
    (h : ((static true).respondsTo run context name).outcome w = (.ok true, w₁)) :
    ∃ entry w₀, (walk? run context name).outcome w = (.ok (some entry), w₀) ∧
      (isEmptySlot run entry.1 context).outcome w₀ = (.ok false, w₁) ∧
      ((static true).lookup run context name).outcome w =
        (Value.known? <$> settle run context entry : Run (Option Value)).outcome w₁ ∧
      ((static true).member run context name).outcome w =
        (settle run context entry).outcome w₀ := by
  rcases walked : (walk? run context name).outcome w with ⟨f | _ | entry, w₀⟩
  · cases (failsAlike_of_walk walked).asked.symm.trans h
  · cases (static_of_missing walked).1.symm.trans h
  · have goes := goesBy_of_walk walked
    obtain ⟨empty, told, filled⟩ := Run.outcome_map_ok_iff.1 (goes.asked.symm.trans h)
    cases empty with
    | true => cases filled
    | false =>
        exact ⟨entry, w₀, rfl, told, goes.given.trans (Run.outcome_bind_of_ok told), goes.member⟩

/-- An entry **refuses to tell its class**, and that is none of the classes of slots. -/
structure RefusesClass (run : Runner) (w : World) (raw : Value) (e : Error) (w₁ : World) :
    Prop where
  apart : w.isSubclass (w.classOf raw) (.native .slotMember) = false
  refuses : (get run raw "__class__").outcome w = (.error (.raised e), w₁)
  other : e.isA .attr = false

/-- An entry is asked for its class, so **what it raises leaves**. -/
theorem RefusesClass.outcome_isEmptySlot {raw : Value} {e : Error}
    (h : RefusesClass run w raw e w₁) (context : Value) :
    (isEmptySlot run raw context).outcome w = (.error (.raised e), w₁) := by
  have asked : (get? run raw "__class__").outcome w = (.error (.raised e), w₁) := by
    rw [get?, Run.outcome_optional, h.refuses]
    simp only [h.other, Bool.false_eq_true, ↓reduceIte]
  have passes : (isInstance run raw (.native .slotMember)).outcome w =
      (.error (.raised e), w₁) := by
    rw [isInstance, Run.outcome_bind_of_ok (Run.outcome_get w), h.apart]
    exact Run.outcome_bind_of_error asked
  exact Run.outcome_bind_of_error passes

/-! ### Where everything is told -/

/-- Where the tables are open and the entries tell what is asked of them, a name that is not refused
is answered if it is held, **unless** by a slot that was never filled, or by a marked entry where
marks count. -/
theorem outcome_static_respondsTo_told (run : Runner) (restricted : Bool)
    (tabled : w.Tabled context) (told : w.Told context name)
    (seen : refuses restricted name = false)
    (marks : restricted = false →
      ∀ entry, w.walked? context name = some entry → w.MarksPlainly entry.1) :
    ((static restricted).respondsTo run context name).outcome w =
      (.ok ((w.walked? context name).isSome &&
        !(w.unsetName context name || !restricted && w.markedName context name)), w) := by
  rw [respondsTo, staticRespondsTo_eq run restricted context name seen,
    Run.outcome_bind_of_ok (outcome_walk?_tabled run tabled told.hooks), World.unsetName,
    World.markedName]
  rcases found : w.walked? context name with _ | entry
  · rfl
  · simp only
    rw [Run.outcome_map, outcome_keepsBack_told run (told.filling entry found) fun counts =>
      marks counts entry found]
    rfl

/-- Where everything is told, a name is answered if it is listed and **no slot that was never
filled**, and its entry does not tell that there is nothing; what is given for it is what its member
is. -/
theorem static_of_told (run : Runner) (tabled : w.Tabled context) (told : w.Told context name) :
    ∃ b, ((static true).respondsTo run context name).outcome w = (.ok b, w) ∧
      (b = true ↔ (w.listed? context name).isSome = true ∧ w.hollowName context name = false ∧
        w.unsetName context name = false) ∧
      (b = true → ((static true).lookup run context name).outcome w =
        (Value.known? <$> (static true).member run context name :
          Run (Option Value)).outcome w) := by
  have asked := outcome_static_respondsTo_told run true tabled told rfl nofun
  refine ⟨_, asked, by simp [World.walked?_isSome, and_assoc], fun answers => ?_⟩
  rw [answers] at asked
  obtain ⟨entry, w₀, walked, -, given, member⟩ := static_answers asked
  have still : w₀ = w :=
    congrArg Prod.snd (walked.symm.trans (outcome_walk?_tabled run tabled told.hooks))
  rw [given, Run.outcome_map, Run.outcome_map, member, still]

/-- Where marks are plain to see as well, a public question is answered for the names **without a
leading underscore and without a mark** among these. -/
theorem static_publicly_of_told (run : Runner) (tabled : w.Tabled context)
    (told : w.Told context name)
    (marks : ∀ entry, w.walked? context name = some entry → w.MarksPlainly entry.1) :
    ∃ b, ((static false).respondsTo run context name).outcome w = (.ok b, w) ∧
      (b = true ↔ (w.listed? context name).isSome = true ∧ w.hollowName context name = false ∧
        w.unsetName context name = false ∧ isRestrictedName name = false ∧
        w.markedName context name = false) := by
  cases underscored : isRestrictedName name with
  | true =>
      refine ⟨false, ?_, by simp⟩
      rw [(refused_respondsTo run context underscored).2]
      rfl
  | false =>
      have unrefused : refuses false name = false := by rw [refuses, underscored, Bool.and_false]
      have asked :=
        outcome_static_respondsTo_told run false tabled told unrefused fun _ => marks
      exact ⟨_, asked, by simp [World.walked?_isSome, and_assoc]⟩

/-- For an entry that refuses to tell its class **no answer is had**. It is the member. -/
theorem static_of_refusal {entry : Value × Bool} {e : Error} (tabled : w.Tabled context)
    (held : w.walked? context name = some entry)
    (hooks : ∀ raw, w.inherited? context name = some raw → w.TellsHooks raw)
    (refuses : RefusesClass run w entry.1 e w₁) :
    ((static true).respondsTo run context name).outcome w = (.error (.raised e), w₁) ∧
      ((static true).lookup run context name).outcome w = (.error (.raised e), w₁) ∧
      ((static true).member run context name).outcome w = (settle run context entry).outcome w := by
  have walked := outcome_walk?_tabled run tabled hooks
  rw [held] at walked
  have goes := goesBy_of_walk walked
  have untold := refuses.outcome_isEmptySlot context
  exact ⟨goes.asked.trans (Run.outcome_map_error_iff.2 untold),
    goes.given.trans (Run.outcome_bind_of_error untold), goes.member⟩

/-- Where everything is told, the member under a name whose entry tells that there is nothing is
**missing by its name**. -/
theorem static_member_of_hollow (run : Runner) (tabled : w.Tabled context)
    (told : w.Told context name) (hollow : w.hollowName context name = true) :
    ((static true).member run context name).outcome w =
      (.error (.raised (.bareAttribute name)), w) := by
  have unfound : w.walked? context name = none :=
    Option.not_isSome_iff_eq_none.1 (by simp [World.walked?_isSome, hollow])
  have walked := outcome_walk?_tabled run tabled told.hooks
  rw [unfound] at walked
  exact (static_of_missing walked).2.2

/-- A world with one object, whose class refuses every access to it. The class has a number, a slot
that the object never filled, and a function that is marked. -/
def guarded : World :=
  { World.empty with
    classes := #[plainClass 0 "Guarded" [("__getattribute__", .fn 0), ("size", .int 1),
      ("empty", .slot 0 "empty"), ("marked", .fn 1)]]
    objects := #[plainObject "guarded" 0 []]
    functions := #[plainFunction "Guarded.__getattribute__" (.silent (.raise .type "refused")),
      ⟨"Guarded.marked", some worldHome, .silent .echo, [], [(restrictedMark, .bool true)]⟩] }

/-- The tables of the object and those of its class are **open**. -/
theorem guarded_tabled : guarded.Tabled (.object 0) ∧ guarded.Tabled (.cls (.world 0)) := by
  have native (d : ClassRef)
      (hd : d ∈ [ClassRef.world 0, .world 0, .native .object, .native .type, .native .object]) :
      guarded.metaclassOf d = .native .type := by
    simp only [List.mem_cons, List.not_mem_nil, or_false] at hd
    rcases hd with rfl | rfl | rfl | rfl | rfl <;> rfl
  have accessible (d : ClassRef) (hd : d ∈ ClassRef.world 0 :: guarded.behind (.cls (.world 0))) :
      guarded.Accessible d := (World.readsPlainly_of_metaclass (native d hd)).accessible
  constructor
  · exact World.tabled_of_metaclasses rfl nofun (.field (.world 0) _ rfl rfl rfl) fun d hd =>
      native d (List.mem_append_left [ClassRef.native .type, .native .object] hd)
  · exact .cls _ rfl List.mem_cons_self (accessible _ (by decide)) (accessible _ (by decide))
      fun d hd => accessible d (List.mem_cons_of_mem _ hd)

/-- A member of a native class that is found there **tells what is asked of it**, if it tells
whether it is a slot that was never filled. -/
theorem guarded_told {context raw : Value} {name : String} {c : NativeClass}
    (held : guarded.inherited? context name = some raw) (cls : guarded.classOf raw = .native c)
    (walked : guarded.walked? context name = some (raw, true))
    (filling : guarded.TellsFilling raw context) : guarded.Told context name := by
  constructor
  · intro other ho
    cases held.symm.trans ho
    exact (bindsAlike_of_native (Interpreter.runner 10) cls).toTellsHooks
  · intro other ho
    cases walked.symm.trans ho
    exact filling

/-- A world with hooks beside the context. `holder` holds under `x` an object that refuses every
access to it, and `Thing`, which holds a number under `x`, is a class whose metaclass refuses every
access. -/
def refusing : World :=
  { World.empty with
    classes := #[plainClass 0 "Holder" [], plainClass 1 "Shy" [("__getattribute__", .fn 0)],
      plainMetaclass 2 "Meta" [("__getattribute__", .fn 0)],
      { plainClass 3 "Thing" [("x", .int 1)] with metaclass := .world 2 }]
    objects := #[plainObject "holder" 0 [("x", .object 1)], plainObject "shy" 1 []]
    functions := #[plainFunction "refuse" (.silent (.raise .type "refused"))] }

end Strategy

end OrderedScope
