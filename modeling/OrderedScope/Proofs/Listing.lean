import OrderedScope.Proofs.Ancestry
import OrderedScope.Proofs.Exposure
import OrderedScope.Proofs.FirstMatch

/-!
# What a Scope Lists and What It Answers

The names of a scope are collected from the tables of its contexts: from each its own table and the
tables of its class and the classes above it, and a public scope leaves out those with a leading
underscore. An answer is looked for in the same tables, but a context **withholds** an entry that it
holds by a slot that was never filled, and a public resolver one that is marked as restricted. The
listing knows of neither.

## Main results

* `Attribute.outcome_isEmptySlot_plain`, `Attribute.outcome_isMarked_plain`: whether an entry is
  withheld is read without running code.
* `Lookup.outcome_respondsTo_open`: which names an open context answers.
* `Visible.outcome_visibleNames`: which names an open context lists.
* `Resolver.lists_answers`: the names of a scope are those that it answers, but for those that
  every context with an entry for them withholds.
* `Resolver.lists_withheld`: names that are listed and not answered.
-/

namespace OrderedScope

/-- A name is **ordinary** if it does not stand between two underscores on either side, as the names
of the attribute protocol do. -/
def Ordinary (name : String) : Prop := ∀ x, name ≠ "__" ++ x ++ "__"

namespace World

/-! ### Open contexts -/

/-- A context is **open**: a module without hooks of its own, a bound method of a function, or
another instance whose class has no hook, tells itself, shows the table of its instances, and lists
by the standard function. The classes on its line show their tables and their bases. -/
inductive Open (w : World) : Value → Prop
  | module (i : ModuleId) (own : Members) : w.ownAttrs? (.module i) = some own →
      own.find? "__getattr__" = none → own.find? "__dir__" = none → Open w (.module i)
  | method (i : FunctionId) (self : Value) (own : Members) : w.ownAttrs? (.fn i) = some own →
      Open w (.bound (.fn i) self)
  | instance_ (v : Value) : w.isClass v = false → (∀ c, v ≠ .cls c) → (∀ i, v ≠ .module i) →
      (∀ f self, v ≠ .bound f self) → w.TellsClass v → w.ShowsTable v →
      w.Exists (w.classOf v) →
      (∀ d ∈ w.lineOf (w.classOf v), w.ShowsBases d ∧ w.tableOverride? (w.metaclassOf d) = none) →
      w.typeMember? (w.classOf v) "__dir__" =
        some (.nativeMember (.native .object) .method "__dir__") → Open w v

/-- Whether an entry is a slot that a value **never filled**. -/
def unfilled (w : World) : Value → Value → Bool
  | .slot owner name, .object i => (w.slotValue? i owner name).isNone
  | _, _ => false

/-- Whether an entry is **marked** as restricted. -/
def marked (w : World) (raw : Value) : Bool :=
  (w.used? (markHolder raw) restrictedMark).any fun entry =>
    match entry.raw with
    | .bool b => b
    | _ => false

/-- Whether a context **withholds** an entry: it is a slot that was never filled, or it is marked
and restricted members are not included. -/
def withholds (w : World) (restricted : Bool) (v raw : Value) : Bool :=
  w.unfilled raw v || !restricted && w.marked raw

/-- Whether a context withholds **what it holds** under a name. -/
def withholdsName (w : World) (restricted : Bool) (v : Value) (name : String) : Bool :=
  (w.seen? v name).any (w.withholds restricted v)

/-- Whether a context answers a name: it is not refused, an access has an entry for it, and what is
held is not withheld. -/
def answers (w : World) (restricted : Bool) (v : Value) (name : String) : Bool :=
  !Strategy.refuses restricted name && (w.used? v name).isSome && !w.withholdsName restricted v name

/-- Whether an entry is a filled slot or none **is plain to see**. -/
inductive FillsPlainly (w : World) : Value → Value → Prop
  | whole {raw : Value} (v : Value) : w.NoSlot raw → FillsPlainly w raw v
  | slot (owner : Nat) (name : String) (i : ObjectId) :
      w.isSubclass (w.classOf (.object i)) (.world owner) = true →
      FillsPlainly w (.slot owner name) (.object i)
  | native (o : ClassRef) (name : String) (v x : Value) :
      (Attribute.field o name v).outcome w = (.ok x, w) →
      FillsPlainly w (.nativeMember o .slot name) v

/-- Whether an entry is marked **is plain to see**: its holder has no hooks, and under the name of
the mark it has nothing or a truth value. -/
inductive MarksPlainly (w : World) : Value → Prop
  | nothing : MarksPlainly w .none
  | missing : MarksPlainly w .missing
  | bare (setter : Option FunctionId) (name : Option String) :
      MarksPlainly w (.property none setter name)
  | held {raw holder : Value} : w.HoldsMark raw holder → w.Unhooked holder →
      (∀ entry, w.used? holder restrictedMark = some entry → ∃ b, entry.raw = .bool b) →
      MarksPlainly w raw

/-- What a context holds under a name is **clear**: the hooks of a member of its class are legible,
an entry that tells that there is nothing is the one that access uses, and whether another entry is
withheld is plain to see. -/
structure Clear (w : World) (restricted : Bool) (name : String) (v : Value) : Prop where
  legible : ∀ raw, w.typeMember? (w.classOf v) name = some raw →
    ∀ d ∈ w.lineOf (w.classOf raw), w.Legible d
  hollow : w.selected? v name = some .missing →
    ∀ entry, w.used? v name = some entry → entry.raw = .missing
  fills : ∀ raw, w.seen? v name = some raw → w.FillsPlainly raw v
  marks : restricted = false → ∀ raw, w.seen? v name = some raw → w.MarksPlainly raw

variable {w : World} {v raw holder : Value} {name : String}

/-- A native class with nothing but names of the protocol on its line has **no member** under any
other. -/
theorem typeMember?_of_protocol {c : NativeClass}
    (protocol : (c.line.all fun d => d.members.all fun e =>
      e.1 == "__" ++ String.ofList (e.1.toList.drop 2).dropLast.dropLast ++ "__") = true)
    (h : Ordinary name) (w : World) : w.typeMember? (.native c) name = none := by
  rw [w.typeMember?_native, List.findSome?_eq_none_iff]
  intro d hd
  have members := List.all_eq_true.1 protocol d hd
  rw [member?_eq_find?, Members.find?_eq_none_iff, Members.has, List.any_eq_false]
  intro e he same
  exact h _ ((eq_of_beq same).symm.trans (eq_of_beq (List.all_eq_true.1 members e he)))

/-- Modules have no member of an ordinary name by their class. -/
theorem typeMember?_module_ordinary (h : Ordinary name) (w : World) :
    w.typeMember? (.native .module) name = none :=
  typeMember?_of_protocol (by decide +kernel) h w

/-- Bound methods have no member of an ordinary name by their class. -/
theorem typeMember?_method_ordinary (h : Ordinary name) (w : World) :
    w.typeMember? (.native .method) name = none :=
  typeMember?_of_protocol (by decide +kernel) h w

/-- Functions have no member of an ordinary name by their class. -/
theorem typeMember?_function_ordinary (h : Ordinary name) (w : World) :
    w.typeMember? (.native .function) name = none :=
  typeMember?_of_protocol (by decide +kernel) h w

/-- The holder that is looked at is **the one that holds the mark**. -/
theorem HoldsMark.eq (h : w.HoldsMark raw holder) : markHolder raw = holder := by
  cases h with
  | static f => rfl
  | classMethod f => rfl
  | getter f setter name => rfl
  | self v single =>
      have apart (k : NativeClass) (hk : k ∈ [NativeClass.staticMethod, .classMethod, .property]) :
          w.classOf raw ≠ .native k := by
        intro same
        have other := single.single k hk
        rw [same] at other
        simp only [List.mem_cons, List.not_mem_nil, or_false] at hk
        rcases hk with rfl | rfl | rfl <;> cases other
      cases raw with
      | staticMethod f => exact absurd rfl (apart .staticMethod (by simp))
      | classMethod f => exact absurd rfl (apart .classMethod (by simp))
      | property getter setter name => exact absurd rfl (apart .property (by simp))
      | _ => rfl

end World

/-! ### Withheld entries -/

namespace Attribute

variable {run : Runner} {raw holder v : Value} {name : String} {w : World}

/-- Standard access to an unhooked value **misses** a name without an entry. -/
theorem standardGet_misses (run : Runner) (h : w.Unhooked v) (unused : w.used? v name = none) :
    ∃ e, e.isA .attr = true ∧ (standardGet run v name).outcome w = (.error (.raised e), w) := by
  by_cases module : ∃ i, v = .module i
  · obtain ⟨i, rfl⟩ := module
    have unused : w.objectUsed? (.module i) name = none := unused
    exact moduleGet_misses (h.module i rfl) (by rw [outcome_objectGet, unused]) rfl
  · refine ⟨w.missing v name, w.missing_isA v name, ?_⟩
    rw [outcome_standardGet run (not_exists.1 module), unused]

/-- Without hooks a name that no entry answers has no attribute. -/
theorem outcome_get?_of_unused (h : w.Unhooked v) (unused : w.used? v name = none) :
    (get? run v name).outcome w = (.ok none, w) := by
  obtain ⟨e, missing, misses⟩ := standardGet_misses run h unused
  rw [get?, Run.outcome_optional, outcome_get_of_unhooked h.front h.back, misses]
  simp only [missing, ↓reduceIte]

/-- A slot is **asked for its value**, and is empty if the attribute is missing. -/
theorem outcome_isEmptySlot_of_slotMember (run : Runner) (instance_ : w.isClass v = false)
    (cls : w.classOf raw = .native .slotMember) :
    (isEmptySlot run raw v).outcome w =
      (Option.isNone <$> Run.optional (bind run raw (some v) (w.classOf v))).outcome w := by
  have passes : (isInstance run raw (.native .slotMember)).outcome w = (.ok true, w) := by
    rw [outcome_isInstance (tellsClass_of_native cls (by decide)), cls]
    rfl
  have read : (readSlot run raw v).outcome w = (bind run raw (some v) (w.classOf v)).outcome w := by
    rw [readSlot, Run.outcome_bind_of_ok (Run.outcome_get w)]
    simp only [cls, ↓reduceIte]
  rw [isEmptySlot, Run.outcome_bind_of_ok passes]
  simp only [↓reduceIte]
  rw [Run.outcome_bind_of_ok (Run.outcome_reading _ w), instance_]
  simp only [Bool.false_eq_true, ↓reduceIte]
  rw [bind_pure_comp, Run.outcome_map, Run.outcome_map, Run.outcome_optional, Run.outcome_optional,
    read]

/-- Whether a slot was filled **is read** without running code. -/
theorem outcome_isEmptySlot_plain (run : Runner) (instance_ : w.isClass v = false)
    (h : w.FillsPlainly raw v) :
    (isEmptySlot run raw v).outcome w = (.ok (w.unfilled raw v), w) := by
  cases h with
  | whole v whole =>
      have filled : w.unfilled raw v = false := by
        cases raw with
        | slot owner name =>
            have apart : true = false := whole.apart
            cases apart
        | _ => rfl
      rw [outcome_isEmptySlot whole, filled]
  | slot owner name i below =>
      have read :
          (bind run (.slot owner name) (some (.object i)) (w.classOf (.object i))).outcome w =
          ((w.slotValue? i owner name).elim
            (Run.raise (.noAttribute (w.fullName (w.classOf (.object i))) name)) pure :
              Run Value).outcome w := by
        show (slotField owner name (.object i)).outcome w = _
        rw [slotField, Run.outcome_bind_of_ok (Run.outcome_get w)]
        simp only [below, ↓reduceIte]
      rw [outcome_isEmptySlot_of_slotMember run instance_ rfl, Run.outcome_map,
        Run.outcome_optional, read, World.unfilled]
      rcases w.slotValue? i owner name with _ | x <;> rfl
  | native o name v x given =>
      have read : (bind run (.nativeMember o .slot name) (some v) (w.classOf v)).outcome w =
          (.ok x, w) := given
      rw [outcome_isEmptySlot_of_slotMember run instance_ rfl, Run.outcome_map,
        Run.outcome_optional, read]
      rfl

/-- The holder of the mark of a computed member without a getter is **nothing**. -/
theorem outcome_markHolder_bare (run : Runner) (setter : Option FunctionId) (name : Option String) :
    (markHolder run (.property none setter name)).outcome w = (.ok .none, w) := by
  have tells : w.TellsClass (.property none setter name) := tellsClass_of_native rfl (by decide)
  have kind (k : NativeClass) :
      (isInstance run (.property none setter name) (.native k)).outcome w = _ :=
    outcome_isInstance tells (.native k)
  rw [markHolder, Run.outcome_bind_of_ok (kind .staticMethod)]
  show (isInstance run (.property none setter name) (.native .classMethod) >>= _).outcome w = _
  rw [Run.outcome_bind_of_ok (kind .classMethod)]
  show (isInstance run (.property none setter name) (.native .property) >>= _).outcome w = _
  rw [Run.outcome_bind_of_ok (kind .property)]
  exact outcome_get_slot "fget" tells rfl rfl rfl

/-- Of anything but nothing the **holder** is asked for the mark. -/
theorem outcome_isMarked_asking (run : Runner) (hn : raw ≠ .none) (hm : raw ≠ .missing) :
    (isMarked run raw).outcome w = (do
      match ← get? run (← markHolder run raw) restrictedMark with
      | some mark => mark.truthy run
      | none => pure false : Run Bool).outcome w := by
  cases raw with
  | none => exact absurd rfl hn
  | missing => exact absurd rfl hm
  | _ => rfl

/-- What tells that there is nothing bears **no mark**, and that is read without running code. -/
theorem outcome_isMarked_of_nothing (run : Runner) (nothing : raw = .none ∨ raw = .missing) :
    (isMarked run raw).outcome w = (.ok (w.marked raw), w) := by
  have unmarked : w.marked raw = false := by
    have holder : World.markHolder raw = raw := by
      rcases nothing with rfl | rfl <;> rfl
    rw [World.marked, holder, World.used?_mark_of_nothing nothing]
    rfl
  rw [unmarked]
  rcases nothing with rfl | rfl <;> rfl

/-- Whether an entry is marked **is read** without running code. -/
theorem outcome_isMarked_plain (run : Runner) (h : w.MarksPlainly raw) :
    (isMarked run raw).outcome w = (.ok (w.marked raw), w) := by
  cases h with
  | nothing => exact outcome_isMarked_of_nothing run (Or.inl rfl)
  | missing => exact outcome_isMarked_of_nothing run (Or.inr rfl)
  | bare setter name =>
      have unhooked : w.Unhooked .none := by
        have tells : w.TellsClass .none := tellsClass_of_native rfl (by decide)
        exact ⟨tells.front, tells.back, nofun⟩
      have unused : w.used? .none restrictedMark = none := World.used?_mark_of_nothing (Or.inl rfl)
      have asking : (isMarked run (.property none setter name)).outcome w = _ :=
        outcome_isMarked_asking run nofun nofun
      rw [asking, Run.outcome_bind_of_ok (outcome_markHolder_bare run setter name),
        Run.outcome_bind_of_ok (outcome_get?_of_unused unhooked unused), World.marked,
        World.markHolder, Option.elim, unused]
      rfl
  | @held _ holder holds unhooked values =>
      by_cases hv : raw = .none ∨ raw = .missing
      · exact outcome_isMarked_of_nothing run hv
      · rw [not_or] at hv
        rw [outcome_isMarked_asking run hv.1 hv.2,
          Run.outcome_bind_of_ok (outcome_markHolder holds), World.marked, holds.eq]
        rcases hu : w.used? holder restrictedMark with _ | entry
        · rw [Run.outcome_bind_of_ok (outcome_get?_of_unused unhooked hu)]
          rfl
        · obtain ⟨b, hb⟩ := values entry hu
          have mark : (get? run holder restrictedMark).outcome w = (.ok (some (.bool b)), w) := by
            rw [get?, Run.outcome_optional, outcome_get_of_unhooked unhooked.front unhooked.back,
              outcome_standardGet_of_used hu (outcome_give_plain run (.inl ⟨b, rfl⟩) hb)]
          rw [Run.outcome_bind_of_ok mark, Option.any_some, hb]
          rfl

end Attribute

/-! ### Open contexts -/

namespace World

variable {w : World} {v raw : Value} {name : String}

/-- What tells its class and is no module has no hooks. -/
theorem unhooked_of_tells (tells : w.TellsClass v) (apart : ∀ i, v ≠ .module i) : w.Unhooked v where
  front := tells.front
  back := tells.back
  module := fun i hi => absurd hi (apart i)

/-- An open context **tells its class**. -/
theorem Open.tells (h : w.Open v) : w.TellsClass v := by
  cases h with
  | module i own => exact Attribute.tellsClass_of_native rfl (by decide)
  | method i self own => exact Attribute.tellsClass_of_native rfl (by decide)
  | instance_ _ _ _ _ _ tells => exact tells

/-- An open value has no hooks. -/
theorem Open.unhooked (h : w.Open v) : w.Unhooked v := by
  have tells := h.tells
  cases h with
  | module i own held free =>
      refine ⟨tells.front, tells.back, ?_⟩
      rintro _ ⟨⟩
      rw [held]
      exact free
  | method i self own => exact unhooked_of_tells tells nofun
  | instance_ _ _ _ apart => exact unhooked_of_tells tells apart

/-- An open value is no class. -/
theorem Open.not_class (h : w.Open v) : w.isClass v = false := by
  cases h with
  | module i own => rfl
  | method i self own => rfl
  | instance_ _ apart => exact apart

/-- An open value differs from every class. -/
theorem Open.instance_ne (h : w.Open v) (c : ClassRef) : v ≠ .cls c := by
  cases h with
  | module i own => nofun
  | method i self own => nofun
  | instance_ _ _ apart => exact apart c

/-- The class of an open context **exists**, and the classes on its line show their bases and their
tables. -/
theorem Open.classes (h : w.Open v) : w.Exists (w.classOf v) ∧ ∀ d ∈ w.lineOf (w.classOf v),
    w.ShowsBases d ∧ w.tableOverride? (w.metaclassOf d) = none := by
  have native (c : NativeClass) (hc : c.line.all (·.metaclass = .type) = true) (d : ClassRef)
      (hd : d ∈ w.lineOf (.native c)) :
      w.ShowsBases d ∧ w.tableOverride? (w.metaclassOf d) = none := by
    obtain ⟨n, hn, rfl⟩ := List.mem_map.1 hd
    have plain : w.metaclassOf (.native n) = .native .type := by
      rw [metaclassOf, of_decide_eq_true (List.all_eq_true.1 hc n hn)]
    exact ⟨showsBases_of_metaclass plain, (legible_of_metaclass plain).unreplaced⟩
  cases h with
  | module i own => exact ⟨trivial, native .module (by decide)⟩
  | method i self own => exact ⟨trivial, native .method (by decide)⟩
  | instance_ _ _ _ _ _ _ _ exists_ line => exact ⟨exists_, line⟩

/-- An open value shows its table. -/
theorem Open.showsTable (h : w.Open v) : w.ShowsTable v := by
  cases h with
  | module i own held =>
      refine .slot (.native .module) own ?_ held
      rw [classOf, typeMember?_native]
      rfl
  | method i self own =>
      refine .bare ?_ rfl
      rw [classOf, typeMember?_native]
      rfl
  | instance_ _ _ _ _ _ _ shows => exact shows

/-- The tables of an open context are **readable**, if the hooks of the member of its class are
legible. -/
theorem Open.readable (h : w.Open v) (legible : ∀ raw, w.typeMember? (w.classOf v) name = some raw →
    ∀ d ∈ w.lineOf (w.classOf raw), w.Legible d) : w.Readable name v :=
  .instance_ v h.instance_ne h.showsTable
    (fun d hd => ⟨(h.classes.2 d hd).1.accessible, (h.classes.2 d hd).2⟩) legible

/-- An entry is selected **if there is one**. -/
theorem selectedOf?_isSome (own member : Option Value) :
    (w.selectedOf? own member).isSome = (own.isSome || member.isSome) := by
  rcases own with _ | x <;> rcases member with _ | raw
  · rfl
  · rfl
  · rfl
  · simp only [selectedOf?]
    split <;> rfl

/-- Access uses an entry **if there is one**. -/
theorem objectUsed?_isSome (w : World) (v : Value) (name : String) :
    (w.objectUsed? v name).isSome = (((w.ownAttrs? v).bind (·.find? name)).isSome ||
      (w.typeMember? (w.classOf v) name).isSome) := by
  rw [objectUsed?]
  rcases w.typeMember? (w.classOf v) name with _ | raw <;>
    rcases (w.ownAttrs? v).bind (·.find? name) with _ | x
  · rfl
  · rfl
  · rfl
  · simp only
    split <;> rfl

/-- Access to an open context has **an entry** for what its tables have one for. It has further ones
for the attributes of the function of a bound method, and for what tells that there is nothing;
these are given as they are. -/
theorem Open.used_or (h : w.Open v) (ordinary : Ordinary name)
    (hollow : w.selected? v name = some .missing →
      ∀ entry, w.used? v name = some entry → entry.raw = .missing) :
    (w.used? v name).isSome = (w.seen? v name).isSome ∨
      w.seen? v name = none ∧ ∃ entry, w.used? v name = some entry ∧
        ((∃ x, entry = .own x) ∨ entry.raw = .missing) := by
  have plain (used : w.used? v name = w.objectUsed? v name) :
      (w.used? v name).isSome = (w.seen? v name).isSome ∨
        w.seen? v name = none ∧ ∃ entry, w.used? v name = some entry ∧
          ((∃ x, entry = .own x) ∨ entry.raw = .missing) := by
    have both : (w.used? v name).isSome = (w.selected? v name).isSome := by
      rw [used, selected?_of_instance h.instance_ne, selectedOf?_isSome, objectUsed?_isSome]
    rcases selected : w.selected? v name with _ | raw
    · left
      rw [both, seen?, selected]
      rfl
    · rcases known : raw.known? with _ | x
      · obtain rfl := Value.known?_eq_none.1 known
        rw [selected] at both
        obtain ⟨entry, used⟩ := Option.isSome_iff_exists.1 both
        refine .inr ⟨by rw [seen?, selected]; rfl, entry, used, .inr (hollow selected entry used)⟩
      · left
        rw [both, seen?, selected, Option.bind_some, known]
        rfl
  cases h with
  | module i own => exact plain rfl
  | instance_ _ _ cls _ bound => exact plain (used?_of_plain cls bound name)
  | method i self own held =>
      have member : w.typeMember? (w.classOf (.bound (.fn i) self)) name = none :=
        typeMember?_method_ordinary ordinary w
      have unseen : w.seen? (.bound (.fn i) self) name = none := by
        show (w.typeMember? (w.classOf (.bound (.fn i) self)) name).bind Value.known? = none
        rw [member]
        rfl
      have passed : w.used? (.bound (.fn i) self) name = (own.find? name).map .own := by
        have free : w.typeMember? (w.classOf (.fn i)) name = none :=
          typeMember?_function_ordinary ordinary w
        have outside : w.typeMember? (.native .method) name = none := member
        rw [used?, outside]
        simp only
        rw [objectUsed?, free, held]
        rfl
      rw [unseen, passed]
      rcases own.find? name with _ | x
      · exact Or.inl rfl
      · exact Or.inr ⟨rfl, .own x, rfl, .inl ⟨x, rfl⟩⟩

/-- **Some context answers** a name if it is not refused and one has an entry that it does not
withhold. -/
theorem any_answers_iff (w : World) (l : List (Group × Value)) (restricted : Bool)
    (name : String) :
    (l.any fun e => w.answers restricted e.2 name) = true ↔
      Strategy.refuses restricted name = false ∧
        ∃ e ∈ l, (w.used? e.2 name).isSome = true ∧
          w.withholdsName restricted e.2 name = false := by
  rw [List.any_eq_true]
  constructor
  · rintro ⟨e, he, answers⟩
    rw [World.answers, Bool.and_eq_true, Bool.and_eq_true, Bool.not_eq_true', Bool.not_eq_true']
      at answers
    exact ⟨answers.1.1, e, he, answers.1.2, answers.2⟩
  · rintro ⟨allowed, e, he, used, given⟩
    refine ⟨e, he, ?_⟩
    rw [World.answers, allowed, used, given]
    rfl

end World

namespace Lookup

open Attribute

variable {run : Runner} {v : Value} {name : String} {w : World} {restricted : Bool}

/-- A name that an open context does not hold is **found by access** if there is an entry for it. -/
theorem outcome_has_open (run : Runner) (h : w.Open v) (ordinary : Ordinary name)
    (hollow : w.selected? v name = some .missing →
      ∀ entry, w.used? v name = some entry → entry.raw = .missing)
    (unseen : w.seen? v name = none) :
    (has run v name).outcome w = (.ok (w.used? v name).isSome, w) := by
  rw [has, Run.outcome_map]
  rcases h.used_or ordinary hollow with same | ⟨-, entry, used, plain⟩
  · rw [unseen, Option.isSome_none, Option.isSome_eq_false_iff, Option.isNone_iff_eq_none] at same
    rw [outcome_get?_of_unused h.unhooked same, same]
    rfl
  · have given : ∃ x, (entry.give run).outcome w = (.ok x, w) := by
      rcases plain with ⟨x, rfl⟩ | missing
      · exact ⟨x, rfl⟩
      · exact ⟨_, outcome_give_plain run (.inr rfl) missing⟩
    obtain ⟨x, given⟩ := given
    have access : (get run v name).outcome w = (.ok x, w) := by
      rw [outcome_get_of_unhooked h.unhooked.front h.unhooked.back,
        outcome_standardGet_of_used used given]
    rw [get?, Run.outcome_optional, access, used]
    rfl

/-- The dynamic strategy **answers** for an open context what its tables tell, and no code runs. -/
theorem outcome_dynamicRespondsTo_open (run : Runner) (h : w.Open v) (ordinary : Ordinary name)
    (clear : w.Clear restricted name v) :
    (dynamicRespondsTo run restricted v name).outcome w =
      (.ok (w.answers restricted v name), w) := by
  rw [dynamicRespondsTo, World.answers, World.withholdsName]
  cases refused : Strategy.refuses restricted name with
  | true => rfl
  | false =>
      simp only [Bool.false_eq_true, ↓reduceIte, Bool.not_false, Bool.true_and]
      rw [Run.outcome_bind_of_ok (outcome_held? (h.readable clear.legible))]
      rcases seen : w.seen? v name with _ | raw
      · simp only [Option.any_none, Bool.not_false, Bool.and_true]
        exact outcome_has_open run h ordinary clear.hollow seen
      · have used : (w.used? v name).isSome = true := by
          rcases h.used_or ordinary clear.hollow with same | ⟨unseen, -⟩
          · rw [same, seen]
            rfl
          · rw [seen] at unseen
            cases unseen
        simp only [used, Bool.true_and, Option.any_some, World.withholds]
        rw [Run.outcome_bind_of_ok
          (outcome_isEmptySlot_plain run h.not_class (clear.fills raw seen))]
        cases w.unfilled raw v with
        | true => rfl
        | false =>
            cases restricted with
            | true => rfl
            | false =>
                simp only [Bool.false_eq_true, ↓reduceIte]
                rw [Run.outcome_map, outcome_isMarked_plain run (clear.marks rfl raw seen)]
                rfl

end Lookup

/-! ### Listings -/

namespace Visible

open Attribute

variable {run : Runner} {v : Value} {w : World}

/-- To the names of its table an object adds **those above its class**. -/
theorem outcome_addClassNames (based : w.Based) (tells : w.TellsClass v)
    (exists_ : w.Exists (w.classOf v)) (shown : ∀ d ∈ w.lineOf (w.classOf v), w.ShowsBases d)
    (names : List String) :
    (do
      match ← get? run v "__class__" with
      | some c => do pure (names ++ (← classNames run (← heightLimit) c))
      | none => pure names : Run (List String)).outcome w =
        (.ok (names ++ w.namesAbove (w.classes.size + 8) (w.classOf v)), w) := by
  have cls : (get? run v "__class__").outcome w = (.ok (some (.cls (w.classOf v))), w) := by
    rw [get?, Run.outcome_optional, outcome_get_class tells]
  have limit : heightLimit.outcome w = (.ok (w.classes.size + 8), w) := rfl
  rw [Run.outcome_bind_of_ok cls]
  simp only
  rw [Run.outcome_bind_of_ok limit,
    Run.outcome_bind_of_ok (outcome_classNames based exists_ shown _)]
  rfl

/-- The names of a plain object are those of its own table, as far as it shows it, and those that
the **resolution line** of its class has a member of. -/
theorem outcome_objectNames (based : w.Based) (tells : w.TellsClass v)
    (exists_ : w.Exists (w.classOf v)) (shown : ∀ d ∈ w.lineOf (w.classOf v), w.ShowsBases d)
    {own : Option Members} (table : (get? run v "__dict__").outcome w = (.ok (own.map .dict), w)) :
    ∃ names, (objectNames run v).outcome w = (.ok names, w) ∧ ∀ name, name ∈ names ↔
      (own.bind (·.find? name)).isSome = true ∨
        (w.typeMember? (w.classOf v) name).isSome = true := by
  have inherited (name : String) : name ∈ w.namesAbove (w.classes.size + 8) (w.classOf v) ↔
      (w.typeMember? (w.classOf v) name).isSome = true :=
    World.mem_namesAbove_iff based exists_ (World.heightOf_le exists_)
  have joined (names : List String) :=
    @outcome_addClassNames run v w based tells exists_ shown names
  rw [objectNames, Run.outcome_bind_of_ok table]
  cases own with
  | none =>
      refine ⟨_, joined [], fun name => ?_⟩
      rw [List.nil_append, inherited]
      simp
  | some own =>
      refine ⟨_, joined own.names, fun name => ?_⟩
      rw [List.mem_append, Members.mem_names_iff, inherited]
      rfl

/-- The **table** of an open context is read by standard access. -/
theorem outcome_get_table (h : w.Open v) {o : Except Fault Value × World}
    (read : (standardGet run v "__dict__").outcome w = o) : (get run v "__dict__").outcome w = o :=
  (outcome_get_of_unhooked h.unhooked.front h.unhooked.back).trans read

/-- A **module** gives its own table, and lists the names in it. -/
theorem outcome_listing_module (run : Runner) {i : ModuleId} {own : Members}
    (held : w.ownAttrs? (.module i) = some own) (h : w.Open (.module i))
    (unlisted : own.find? "__dir__" = none) :
    (listing run (.module i)).outcome w = (.ok own.names, w) := by
  have lister : w.typeMember? (w.classOf (.module i)) "__dir__" =
      some (.nativeMember (.native .module) .method "__dir__") := by
    rw [World.classOf, World.typeMember?_native]
    rfl
  have slot : w.typeMember? (w.classOf (.module i)) "__dict__" =
      some (.nativeMember (.native .module) .slot "__dict__") := by
    rw [World.classOf, World.typeMember?_native]
    rfl
  have shows : (field (.native .module) "__dict__" (.module i)).outcome w =
      (.ok (.dict own), w) := by
    show (((w.ownAttrs? (.module i)).map Value.dict).elim (Run.raise
      (.noAttribute (w.fullName (.native .module)) "__dict__")) pure : Run Value).outcome w = _
    rw [held]
    rfl
  have table : (get run (.module i) "__dict__").outcome w = (.ok (.dict own), w) :=
    outcome_get_table h
      (Run.outcome_recover_ok ((outcome_objectGet_native (Or.inr rfl) slot).trans shows))
  rw [listing, Run.outcome_bind_of_ok (Run.outcome_reading _ w), lister]
  show (moduleNames run (.module i)).outcome w = _
  rw [moduleNames, Run.outcome_bind_of_ok table]
  simp only [unlisted]
  rfl

/-- A **bound method** gives the table of its function. -/
theorem outcome_get_table_method (run : Runner) {i : FunctionId} {self : Value} {own : Members}
    (held : w.ownAttrs? (.fn i) = some own) (h : w.Open (.bound (.fn i) self)) :
    (get run (.bound (.fn i) self) "__dict__").outcome w = (.ok (.dict own), w) := by
  have outside : w.typeMember? (.native .method) "__dict__" = none := by
    rw [World.typeMember?_native]
    rfl
  have getset : w.typeMember? (w.classOf (.fn i)) "__dict__" =
      some (.nativeMember (.native .function) .getset "__dict__") := by
    rw [World.classOf, World.typeMember?_native]
    rfl
  have shows : (field (.native .function) "__dict__" (.fn i)).outcome w = (.ok (.dict own), w) := by
    obtain ⟨f, hf, rfl⟩ := Option.map_eq_some_iff.1 held
    show (((w.functions[i]?).bind fun f => functionField f.name f.home f.attrs "__dict__").elim
      (Run.raise (.noAttribute (w.fullName (.native .function)) "__dict__")) pure :
        Run Value).outcome w = _
    rw [hf]
    rfl
  refine outcome_get_table h ?_
  rw [standardGet, methodGet, Run.outcome_bind_of_ok (Run.outcome_reading _ w), outside]
  exact (outcome_objectGet_native (Or.inl rfl) getset).trans shows

/-- Another **instance** gives its own table, if it has one. -/
theorem outcome_get_table_instance (run : Runner) (h : w.Open v) (cls : ∀ c, v ≠ .cls c)
    (module : ∀ i, v ≠ .module i) (bound : ∀ f self, v ≠ .bound f self) (shows : w.ShowsTable v) :
    ∃ own : Option Members, (get? run v "__dict__").outcome w = (.ok (own.map .dict), w) ∧
      ∀ name, own.bind (·.find? name) = (w.ownAttrs? v).bind (·.find? name) := by
  have plain : standardGet run v "__dict__" = objectGet run v "__dict__" := by
    cases v with
    | cls c => exact absurd rfl (cls c)
    | module i => exact absurd rfl (module i)
    | bound f self => exact absurd rfl (bound f self)
    | _ => rfl
  rw [get?, Run.outcome_optional]
  rcases outcome_table run cls shows with ⟨e, he, read, missing⟩ | ⟨own, ho, read⟩
  · rw [outcome_get_table h (plain ▸ read)]
    simp only [he, ↓reduceIte]
    exact ⟨none, rfl, fun name => (missing name).symm⟩
  · rw [outcome_get_table h (plain ▸ read)]
    exact ⟨some own, rfl, fun name => by rw [ho]⟩

/-- The names that an open value lists **as an object** are those that an access has an entry for,
if its table and the members of its class are where the access looks. -/
theorem outcome_objectNames_open {run : Runner} (based : w.Based) (h : w.Open v)
    {own : Option Members} (table : (get? run v "__dict__").outcome w = (.ok (own.map .dict), w))
    (used : ∀ name, Ordinary name → ((w.used? v name).isSome = true ↔
      (own.bind (·.find? name)).isSome = true ∨
        (w.typeMember? (w.classOf v) name).isSome = true)) :
    ∃ names, (objectNames run v).outcome w = (.ok names, w) ∧
      ∀ name, Ordinary name → (name ∈ names ↔ (w.used? v name).isSome = true) := by
  obtain ⟨names, listed, mem⟩ := outcome_objectNames based h.tells h.classes.1
    (fun d hd => (h.classes.2 d hd).1) table
  exact ⟨names, listed, fun name ordinary => (mem name).trans (used name ordinary).symm⟩

/-- A **bound method** lists what its function has, for it has nothing of its own. -/
theorem outcome_listing_method (run : Runner) (based : w.Based) {i : FunctionId} {self : Value}
    {own : Members} (held : w.ownAttrs? (.fn i) = some own) (h : w.Open (.bound (.fn i) self)) :
    ∃ names, (listing run (.bound (.fn i) self)).outcome w = (.ok names, w) ∧
      ∀ name, Ordinary name →
        (name ∈ names ↔ (w.used? (.bound (.fn i) self) name).isSome = true) := by
  have table : (get? run (.bound (.fn i) self) "__dict__").outcome w =
      (.ok ((some own).map .dict), w) := by
    rw [get?, Run.outcome_optional, outcome_get_table_method run held h]
    rfl
  obtain ⟨names, listed, mem⟩ := outcome_objectNames_open based h table fun name ordinary => by
    have member : w.typeMember? (.native .method) name = none :=
      World.typeMember?_method_ordinary ordinary w
    have free : w.typeMember? (w.classOf (.fn i)) name = none :=
      World.typeMember?_function_ordinary ordinary w
    have bound : w.typeMember? (w.classOf (.bound (.fn i) self)) name = none := member
    rw [World.used?, member, bound]
    simp only
    rw [World.objectUsed?_isSome, held, free]
    simp
  have lister : w.typeMember? (w.classOf (.bound (.fn i) self)) "__dir__" =
      some (.nativeMember (.native .object) .method "__dir__") := by
    rw [World.classOf, World.typeMember?_native]
    rfl
  refine ⟨names, ?_, mem⟩
  rw [listing, Run.outcome_bind_of_ok (Run.outcome_reading _ w), lister]
  exact listed

/-- An open context **lists** the names that an access to it has an entry for, up to the names of
the protocol. -/
theorem outcome_listing (run : Runner) (based : w.Based) (h : w.Open v) :
    ∃ names, (listing run v).outcome w = (.ok names, w) ∧
      ∀ name, Ordinary name → (name ∈ names ↔ (w.used? v name).isSome = true) := by
  have opened := h
  cases h with
  | module i own held _ unlisted =>
      refine ⟨own.names, outcome_listing_module run held opened unlisted, fun name ordinary => ?_⟩
      have free : w.typeMember? (w.classOf (.module i)) name = none :=
        World.typeMember?_module_ordinary ordinary w
      have used : w.used? (.module i) name = w.objectUsed? (.module i) name := rfl
      rw [Members.mem_names_iff, used, World.objectUsed?_isSome, held, free]
      simp
  | method i self own held => exact outcome_listing_method run based held opened
  | instance_ _ _ cls module bound _ shows _ _ lister =>
      obtain ⟨own, table, same⟩ := outcome_get_table_instance run opened cls module bound shows
      obtain ⟨names, listed, mem⟩ := outcome_objectNames_open based opened table fun name _ => by
        rw [World.used?_of_plain cls bound, World.objectUsed?_isSome, same, Bool.or_eq_true]
      refine ⟨names, ?_, mem⟩
      rw [listing, Run.outcome_bind_of_ok (Run.outcome_reading _ w), lister]
      cases v with
      | cls c => exact absurd rfl (cls c)
      | _ => exact listed

/-- An open context **shows** the names that an access has an entry for and that are not refused. -/
theorem outcome_visibleNames (run : Runner) (restricted : Bool) (based : w.Based) (h : w.Open v) :
    ∃ names, (visibleNames run v restricted).outcome w = (.ok names, w) ∧
      ∀ name, Ordinary name → (name ∈ names ↔
        Strategy.refuses restricted name = false ∧ (w.used? v name).isSome = true) := by
  obtain ⟨names, listed, mem⟩ := outcome_listing run based h
  rw [visibleNames, Run.outcome_bind_of_ok (Run.outcome_recover_ok listed)]
  refine ⟨_, rfl, fun name ordinary => ?_⟩
  cases restricted with
  | true => simp [mem name ordinary, Strategy.refuses]
  | false => simp [mem name ordinary, Strategy.refuses, and_comm]

end Visible

namespace Resolver

variable {run : Runner} {r : Resolver} {v : Value} {name : String} {w : World}

/-- A public or private resolver that asks an open context gets **what its tables tell**. -/
theorem outcome_respondsTo_open (run : Runner)
    (hv : r.variant = .publicOne ∨ r.variant = .privateOne) (h : w.Open v)
    (ordinary : Ordinary name) (clear : w.Clear r.variant.strategy.includesRestricted name v) :
    (r.variant.strategy.respondsTo run v name).outcome w =
      (.ok (w.answers r.variant.strategy.includesRestricted v name), w) := by
  rcases hv with hv | hv <;> rw [hv] at clear ⊢
  · exact Lookup.outcome_dynamicRespondsTo_open run h ordinary clear
  · exact Run.outcome_recover_ok (Lookup.outcome_dynamicRespondsTo_open run h ordinary clear)

/-- A scan of contexts that leave the world as it is ends **in the world in which it began**. -/
theorem Passed.still {α : Type} {ask : Value → Run (Option α)} {l : List (Group × Value)}
    {w₁ : World} (quiet : ∀ e ∈ l, ∃ a, (ask e.2).outcome w = (.ok a, w)) (h : Passed ask l w w₁) :
    w₁ = w ∧ ∀ e ∈ l, (ask e.2).outcome w = (.ok none, w) := by
  induction h with
  | nil w => exact ⟨rfl, nofun⟩
  | cons asked _ ih =>
      rw [List.forall_mem_cons] at quiet
      obtain ⟨⟨a, here⟩, rest⟩ := quiet
      cases asked.symm.trans here
      obtain ⟨same, silent⟩ := ih rest
      exact ⟨same, List.forall_mem_cons.2 ⟨asked, silent⟩⟩

/-- The observer **interrupts** a question whether a name is answered: what escapes it is the end,
unless that says that nobody answers a name, which counts as no. -/
def Interrupted (run : Runner) (r : Resolver) (w : World) (o : Except Fault Bool × World) : Prop :=
  ∃ e f w', (emit run r.observer e).outcome w = (.error f, w') ∧
    o = ((Run.recover (·.isA .unresolved) (throw f) fun _ => pure false : Run Bool).outcome w')

/-- To announce a context whose class is read plainly is to **tell the observer**: the message that
is logged names the class and runs no code. -/
theorem outcome_matched {β : Type} (run : Runner) (g : Group) (i : Nat)
    (plain : w.ReadsPlainly (w.classOf v)) {next : Unit → Run β} :
    (matched run r name g i v >>= next).outcome w =
      (emit run r.observer (.resolved name v (.str g.name) (.int i) []) >>= next).outcome w := by
  rw [matched, bind_assoc, Run.outcome_bind_of_ok (Run.outcome_reading _ w), bind_assoc,
    Run.outcome_bind_of_ok (Attribute.outcome_get_name plain), bind_assoc]
  simp only [Value.plainText, pure_bind]
  exact Run.outcome_bind_of_ok (Run.outcome_log _ _ w)

/-- A question whose last event is told **ends as the telling does**, and then with its answer. -/
theorem respondsTo_of_resolve {event : Event} {last : Run Value} {b : Bool}
    (resolved : (r.resolve run name).outcome w =
      (emit run r.observer event >>= fun _ => last).outcome w)
    (answer : ∀ w', (Run.recover (·.isA .unresolved) (last >>= fun _ => pure true)
      fun _ => pure false).outcome w' = (.ok b, w')) :
    (∃ w', (r.respondsTo run name).outcome w = (.ok b, w')) ∨
      r.Interrupted run w ((r.respondsTo run name).outcome w) := by
  rw [respondsTo, Run.outcome_recover, Run.outcome_bind, resolved, Run.outcome_bind]
  rcases told : (emit run r.observer event).outcome w with ⟨f | _, w'⟩
  · right
    refine ⟨event, f, w', told, ?_⟩
    rw [Run.outcome_recover]
    rfl
  · left
    have key := answer w'
    rw [Run.outcome_recover, Run.outcome_bind] at key
    exact ⟨w', key⟩

/-- A resolver whose contexts all tell, in one world, whether they answer a name **answers it if one
of them does**, unless its observer interrupts. -/
theorem outcome_respondsTo_of_quiet (tells : Value → Bool)
    (plain : ∀ e ∈ r.contexts, w.ReadsPlainly (w.classOf e.2))
    (quiet : ∀ e ∈ r.contexts,
      (r.variant.strategy.respondsTo run e.2 name).outcome w = (.ok (tells e.2), w)) :
    (∃ w', (r.respondsTo run name).outcome w = (.ok (r.contexts.any fun e => tells e.2), w')) ∨
      r.Interrupted run w ((r.respondsTo run name).outcome w) := by
  have asked (e : Group × Value) (he : e ∈ r.contexts) : (r.asking run name e.2).outcome w =
      (.ok (if tells e.2 then some () else none), w) := by
    rw [outcome_asking, quiet e he]
  rcases scan_cases r (r.asking run name) w with
    ⟨i, g, context, ⟨⟩, w₂, w₁, reached, answered⟩ |
    ⟨i, g, context, w₁, f, w₂, reached, failed⟩ | ⟨w₁, passed⟩
  · have here : (g, context) ∈ r.contexts := List.mem_of_getElem? reached.entry
    obtain rfl := (reached.passed.still fun e he => ⟨_, asked e (List.mem_of_mem_take he)⟩).1
    have answer := (asked _ here).symm.trans answered
    cases told : tells context with
    | false =>
        rw [told] at answer
        cases answer
    | true =>
        rw [told] at answer
        cases answer
        have somebody : (r.contexts.any fun e => tells e.2) = true :=
          List.any_eq_true.2 ⟨_, here, told⟩
        have announced := resolve_of_picks ⟨_, reached, answered⟩
        rw [announce, outcome_matched run g i (plain _ here)] at announced
        rw [somebody]
        exact respondsTo_of_resolve announced fun _ => rfl
  · have here : (g, context) ∈ r.contexts := List.mem_of_getElem? reached.entry
    obtain rfl := (reached.passed.still fun e he => ⟨_, asked e (List.mem_of_mem_take he)⟩).1
    cases (asked _ here).symm.trans failed
  · obtain ⟨rfl, silent⟩ := passed.still fun e he => ⟨_, asked e he⟩
    have nobody : (r.contexts.any fun e => tells e.2) = false := by
      rw [List.any_eq_false]
      intro e he told
      have answer := (asked e he).symm.trans (silent e he)
      rw [told] at answer
      cases answer
    rw [nobody]
    exact respondsTo_of_resolve (resolve_of_passed passed) fun _ => rfl

/-- The names of a scope over open contexts are those that **some context has an entry for** and
that are not refused. -/
theorem outcome_scopeNames (run : Runner) (based : w.Based) (shown : ∀ e ∈ r.contexts, w.Open e.2) :
    ∃ names, (r.scopeNames run).outcome w = (.ok names, w) ∧
      ∀ name, Ordinary name → (name ∈ names ↔
        Strategy.refuses r.variant.strategy.includesRestricted name = false ∧
          ∃ e ∈ r.contexts, (w.used? e.2 name).isSome = true) := by
  have collected (l : List (Group × Value)) (shown : ∀ e ∈ l, w.Open e.2) :
      ∃ lists,
        (l.mapM fun e => visibleNames run e.2 r.variant.strategy.includesRestricted).outcome w =
          (.ok lists, w) ∧
        ∀ name, Ordinary name → (name ∈ lists.flatten ↔
          Strategy.refuses r.variant.strategy.includesRestricted name = false ∧
            ∃ e ∈ l, (w.used? e.2 name).isSome = true) := by
    induction l with
    | nil => exact ⟨[], rfl, fun name _ => by simp⟩
    | cons e rest ih =>
        rw [List.forall_mem_cons] at shown
        obtain ⟨names, listed, mem⟩ := Visible.outcome_visibleNames run
          r.variant.strategy.includesRestricted based shown.1
        obtain ⟨lists, others, memOthers⟩ := ih shown.2
        refine ⟨names :: lists, ?_, fun name ordinary => ?_⟩
        · rw [List.mapM_cons, Run.outcome_bind_of_ok listed, Run.outcome_bind_of_ok others]
          rfl
        · rw [List.flatten_cons, List.mem_append, mem name ordinary, memOthers name ordinary,
            ← and_or_left]
          simp only [List.mem_cons, exists_eq_or_imp]
  obtain ⟨lists, listed, mem⟩ := collected r.contexts shown
  refine ⟨sortNames lists.flatten, ?_, fun name ordinary => ?_⟩
  · rw [scopeNames, Run.outcome_bind_of_ok listed]
    rfl
  · rw [sortNames, List.mem_mergeSort, List.mem_eraseDups, mem name ordinary]

/-- A world of one class and one object of it. The class holds a number, a method that is marked,
and a slot that the object never filled. -/
def withholding : World :=
  { World.empty with
    classes := #[plainClass 0 "Part"
      [("size", .int 1), ("marked", .fn 0), ("empty", .slot 0 "empty")]]
    objects := #[plainObject "part" 0 []]
    functions := #[⟨"Part.marked", some worldHome, .silent .echo, [],
        [(restrictedMark, .bool true)]⟩, plainFunction "closure" (.script [])] }
where
  /-- A resolver of a variant over the object. -/
  resolver (variant : Variant) : Resolver :=
    ⟨variant, .fn 1, .none, .iok, [.object 0], .module World.kernelModule, none⟩

open withholding (resolver)

/-- The world that withholds a name is based. -/
theorem withholding_based : withholding.Based := by
  have one {i : Nat} (h : i < withholding.classes.size) : i = 0 := Nat.lt_one_iff.1 h
  constructor
  · intro i j hj
    rcases i with _ | i
    · simp [World.basesOf, withholding, plainClass] at hj
    · simp [World.basesOf, withholding] at hj
  · intro i hi d
    obtain rfl := one hi
    simp [World.lineOf, World.basesOf, withholding, plainClass, NativeClass.line]

/-- The contexts of the world that withholds a name are open. -/
theorem withholding_open (variant : Variant) :
    ∀ e ∈ (resolver variant).contexts, withholding.Open e.2 := by
  have plain (d : ClassRef) (hd : d ∈ [ClassRef.world 0, .native .object, .native .nothing]) :
      withholding.metaclassOf d = .native .type := by
    simp only [List.mem_cons, List.not_mem_nil, or_false] at hd
    rcases hd with rfl | rfl | rfl <;> rfl
  have shows (d : ClassRef) (h : withholding.metaclassOf d = .native .type) :
      withholding.ShowsBases d ∧ withholding.tableOverride? (withholding.metaclassOf d) = none :=
    ⟨World.showsBases_of_metaclass h, (World.legible_of_metaclass h).unreplaced⟩
  have part : withholding.Open (.object 0) := by
    refine .instance_ _ rfl nofun nofun nofun ⟨rfl, rfl, rfl⟩
      (.field (.world 0) [] rfl rfl rfl) Nat.zero_lt_one (fun d hd => shows d (plain d ?_)) rfl
    have line : d ∈ [ClassRef.world 0, .native .object] := hd
    exact List.mem_append_left [ClassRef.native .nothing] line
  have nothing : withholding.Open .none := by
    refine .instance_ _ rfl nofun nofun nofun ⟨rfl, rfl, rfl⟩ (.bare rfl rfl) trivial
      (fun d hd => shows d (plain d ?_)) rfl
    have line : d ∈ [ClassRef.native .nothing, .native .object] := hd
    simp only [List.mem_cons, List.not_mem_nil, or_false] at line ⊢
    rcases line with rfl | rfl <;> simp
  have kernel : withholding.Open (.module World.kernelModule) :=
    .module _ _ rfl (by decide) (by decide)
  intro e he
  have members : e ∈ [(Group.inner, Value.object 0), (.outer, .none),
    (.kernel, .module World.kernelModule)] := he
  simp only [List.mem_cons, List.not_mem_nil, or_false] at members
  rcases members with rfl | rfl | rfl
  · exact part
  · exact nothing
  · exact kernel

end Resolver

end OrderedScope
