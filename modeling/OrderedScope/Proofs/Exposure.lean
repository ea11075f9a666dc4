import OrderedScope.Proofs.Sample
import OrderedScope.Proofs.Visibility
import OrderedScope.Proofs.Walk

/-!
# What a Public Resolver Exposes

A public resolver looks up which entry of the tables of a context it sees under a name, refuses what
is restricted, and then has the member fetched by access. Access uses an entry as well. The two are
the same except where one **overtakes** the other, and there the mark of one entry is read and the
other is given.

A member is marked if access to its holder, the function that it wraps or it itself, finds the mark.
It bears the mark if the holder has it as an own attribute; code can then still hide it.

## Main results

* `Attribute.restrict_marks`: to restrict a member marks it.
* `World.selected_of_used`: the entry that is used is the one that is selected, unless it overtakes
  it in one of three ways.
* `World.Bears.marked_or_hides`: a member that bears the mark is marked, or hides it in one of four
  ways.
* `Resolver.exposes_unmarked`: a public resolver gives no restricted member, up to entries that
  overtake the one that is seen and members that hide their mark.
* `Resolver.exposes_marked`: marked members that are given.
-/

namespace OrderedScope

namespace World

/-! ### Access without hooks -/

/-- No hook of the class of a value, and no hook of a module, answers for it. -/
structure Unhooked (w : World) (v : Value) : Prop where
  front : w.frontHook? v = none
  back : w.backHook? v = none
  module : ∀ i, v = .module i → (w.ownAttrs? v).bind (·.find? "__getattr__") = none

/-- A name without a leading underscore is no member of modules. -/
theorem typeMember?_module {name : String} (h : isRestrictedName name = false) (w : World) :
    w.typeMember? (.native .module) name = none :=
  typeMember?_of_restricted (by decide +kernel) h w

end World

namespace Attribute

variable {run : Runner} {v m : Value} {name : String} {entry : TableEntry} {w w₁ : World}

/-- A module without a hook has under a name without a leading underscore **what
it holds itself**. -/
theorem outcome_moduleGet {i : ModuleId} (unrestricted : isRestrictedName name = false)
    (hookless : (w.ownAttrs? (.module i)).bind (·.find? "__getattr__") = none)
    (h : (moduleGet run (.module i) name).outcome w = (.ok m, w₁)) :
    (objectGet run (.module i) name).outcome w = (.ok m, w₁) := by
  have member : w.typeMember? (w.classOf (.module i)) name = none :=
    w.typeMember?_module unrestricted
  have plain : (objectGet run (.module i) name).outcome w =
      ((w.ownAttrs? (.module i)).bind (·.find? name)).elim
        (.error (.raised (.noAttribute (w.fullName (w.classOf (.module i))) name)), w)
        fun x => (.ok x, w) := by
    rw [outcome_objectGet, World.objectUsed?, member]
    rcases (w.ownAttrs? (.module i)).bind (·.find? name) with _ | x <;> rfl
  rcases ho : (w.ownAttrs? (.module i)).bind (·.find? name) with _ | x <;> rw [ho] at plain
  · obtain ⟨e, -, misses⟩ := moduleGet_misses hookless plain rfl
    cases misses.symm.trans h
  · rw [plain]
    exact (Run.outcome_recover_ok plain).symm.trans h

/-- A name without a leading underscore that standard access finds has **an entry**. -/
theorem used_of_standardGet (h : w.Unhooked v) (unrestricted : isRestrictedName name = false)
    (hg : (standardGet run v name).outcome w = (.ok m, w₁)) :
    ∃ entry, w.used? v name = some entry ∧ (entry.give run).outcome w = (.ok m, w₁) := by
  by_cases module : ∃ i, v = .module i
  · obtain ⟨i, rfl⟩ := module
    have plain := outcome_moduleGet unrestricted (h.module i rfl) hg
    rw [outcome_objectGet] at plain
    split at plain
    · rename_i entry used
      exact ⟨entry, used, plain⟩
    · cases plain
  · rw [outcome_standardGet run (not_exists.1 module)] at hg
    split at hg
    · rename_i entry used
      exact ⟨entry, used, hg⟩
    · cases hg

/-- A truth value in the place of a member, or what tells that there is nothing, is **given as it
is**. -/
theorem outcome_give_plain (run : Runner) (plain : (∃ b, m = .bool b) ∨ m = .missing)
    (h : entry.raw = m) : (entry.give run).outcome w = (.ok m, w) := by
  have free : w.typeMember? (w.classOf m) "__get__" = none := by
    rcases plain with ⟨b, rfl⟩ | rfl <;> rw [World.classOf, w.typeMember?_native] <;> rfl
  cases entry with
  | own x =>
      cases h
      rfl
  | member raw inst owner =>
      cases h
      have free : w.typeMember? (w.classOf raw) "__get__" = none := free
      have unread : (Run.reading fun w => w.typeMember? (w.classOf raw) "__get__").outcome w =
          (.ok none, w) := by rw [Run.outcome_reading, free]
      rcases plain with ⟨b, rfl⟩ | rfl <;> exact Run.outcome_bind_of_ok unread

end Attribute

/-! ### Marks -/

namespace World

/-- Who is looked at for the **mark** of an entry. -/
def markHolder : Value → Value
  | .staticMethod f => .fn f
  | .classMethod f => f
  | .property getter _ _ => getter.elim .none .fn
  | v => v

/-- A value is **of none of the kinds** that are looked into for a mark or a filling: it is no
wrapper of a function and no slot, and tells so. -/
structure Single (w : World) (v : Value) : Prop extends w.NoSlot v where
  single : ∀ k ∈ [NativeClass.staticMethod, .classMethod, .property],
    w.isSubclass (w.classOf v) (.native k) = false

/-- Who **holds the mark** of a member: the function that it wraps, or the member itself. -/
inductive HoldsMark (w : World) : Value → Value → Prop
  | static (f : FunctionId) : HoldsMark w (.staticMethod f) (.fn f)
  | classMethod (f : Value) : HoldsMark w (.classMethod f) f
  | getter (f : FunctionId) (setter : Option FunctionId) (name : Option String) :
      HoldsMark w (.property (some f) setter name) (.fn f)
  | self (v : Value) : w.Single v → HoldsMark w v v

/-- A member is **marked** as restricted: no hook stands in front of its holder, and access to the
mark uses an entry that says so. -/
def Marked (w : World) (raw : Value) : Prop :=
  ∃ holder, w.HoldsMark raw holder ∧ w.frontHook? holder = none ∧
    ∃ entry, w.used? holder restrictedMark = some entry ∧ entry.raw = .bool true

/-- A member **bears** the mark, as one does that was restricted: the mark is an own attribute of
who is looked at for it. -/
def Bears (w : World) (raw : Value) : Prop :=
  (w.ownAttrs? (markHolder raw)).bind (·.find? restrictedMark) = some (.bool true)

/-- A member that bears the mark **hides** it: code decides whether it counts as a wrapper, its
class is below one whose instances are looked into, a hook stands in front of its holder, or a
member of the class of the holder is used in the place of the mark. -/
inductive HidesMark (w : World) (raw : Value) : Prop
  | untold : ¬ w.TellsClass raw → HidesMark w raw
  | looked (k : NativeClass) :
      k ∈ [NativeClass.slotMember, .staticMethod, .classMethod, .property] →
      w.isSubclass (w.classOf raw) (.native k) = true → markHolder raw = raw → HidesMark w raw
  | hooked : w.frontHook? (markHolder raw) ≠ none → HidesMark w raw
  | covered : (∀ entry, w.used? (markHolder raw) restrictedMark = some entry →
      entry.raw ≠ .bool true) → HidesMark w raw

variable {w : World} {raw holder : Value}

/-- What has a mark or wraps what has one is **no slot** that could be empty. -/
theorem HoldsMark.noSlot (h : w.HoldsMark raw holder) : w.NoSlot raw := by
  have wrapper {v : Value} {c : NativeClass} (hv : w.classOf v = .native c)
      (hc : c = .staticMethod ∨ c = .classMethod ∨ c = .property) : w.NoSlot v := by
    refine ⟨Attribute.tellsClass_of_native hv ?_, ?_⟩
    · rcases hc with rfl | rfl | rfl <;> decide
    · rw [hv]
      rcases hc with rfl | rfl | rfl <;> rfl
  cases h with
  | static f => exact wrapper rfl (Or.inl rfl)
  | classMethod f => exact wrapper rfl (Or.inr (Or.inl rfl))
  | getter f setter name => exact wrapper rfl (Or.inr (Or.inr rfl))
  | self v single => exact single.toNoSlot

/-- Access to nothing, or to a missing value, has **no entry** under the name of the mark. -/
theorem used?_mark_of_nothing {v : Value} (h : v = .none ∨ v = .missing) :
    w.used? v restrictedMark = none := by
  rcases h with rfl | rfl
  · show w.objectUsed? .none restrictedMark = none
    rw [objectUsed?, classOf, typeMember?_native]
    rfl
  · show w.objectUsed? .missing restrictedMark = none
    rw [objectUsed?, classOf, typeMember?_native]
    rfl

/-- Nothing and a missing value hold **no mark**. -/
theorem Marked.not_nothing (h : w.Marked raw) : raw ≠ .none ∧ raw ≠ .missing := by
  obtain ⟨holder, hh, -, entry, used, -⟩ := h
  constructor <;> rintro rfl <;> cases hh with
  | self v single =>
    rw [used?_mark_of_nothing (by simp)] at used
    cases used

/-- A member that bears the mark and is not marked **hides** it. -/
theorem Bears.marked_or_hides (h : w.Bears raw) : w.Marked raw ∨ w.HidesMark raw := by
  refine Classical.byContradiction fun neither => ?_
  obtain ⟨unmarked, shown⟩ := not_or.1 neither
  refine unmarked ⟨markHolder raw, ?_, Classical.byContradiction fun hooked =>
    shown (.hooked hooked), Classical.byContradiction fun covers =>
      shown (.covered fun entry used tells => covers ⟨entry, used, tells⟩)⟩
  have single (other : markHolder raw = raw) : w.Single raw := by
    have apart (k : NativeClass)
        (hk : k ∈ [NativeClass.slotMember, .staticMethod, .classMethod, .property]) :
        w.isSubclass (w.classOf raw) (.native k) = false :=
      Bool.eq_false_iff.2 fun below => shown (.looked k hk below other)
    exact ⟨⟨Classical.byContradiction fun untold => shown (.untold untold), apart _ (by simp)⟩,
      fun k hk => apart k (List.mem_cons_of_mem _ hk)⟩
  cases raw with
  | staticMethod f => exact .static f
  | classMethod f => exact .classMethod f
  | property getter setter name =>
      cases getter with
      | none => cases h
      | some f => exact .getter f setter name
  | _ => exact .self _ (single rfl)

/-- A value **stores** attributes of its own, which can be changed. -/
inductive Stores (w : World) : Value → Members → Prop
  | object (i : ObjectId) (o : ObjectRec) (own : Members) : w.objects[i]? = some o →
      o.attrs = some own → Stores w (.object i) own
  | module (i : ModuleId) (m : ModuleRec) : w.modules[i]? = some m → Stores w (.module i) m.members
  | fn (i : FunctionId) (g : FunctionRec) : w.functions[i]? = some g → Stores w (.fn i) g.attrs
  | cls (i : Nat) (c : ClassRec) : w.classes[i]? = some c → Stores w (.cls (.world i)) c.members

/-- A value **takes a mark**: it stores attributes, and its class has neither a hook for setting
them nor an entry under the name of the mark. -/
structure TakesMark (w : World) (v : Value) : Prop where
  stores : ∃ own, w.Stores v own
  writer : ∀ f, w.typeMember? (w.classOf v) "__setattr__" = some f →
    ∃ o k name, f = .nativeMember o k name
  free : w.typeMember? (w.classOf v) restrictedMark = none

/-- What stores attributes holds them. -/
theorem Stores.ownAttrs {v : Value} {own : Members} (h : w.Stores v own) :
    w.ownAttrs? v = some own := by
  cases h with
  | object i o _ ho attrs => rw [ownAttrs?, ho, Option.bind_some, attrs]
  | module i m hm => rw [ownAttrs?, hm, Option.map_some]
  | fn i g hg => rw [ownAttrs?, hg, Option.map_some]
  | cls i c hc => rw [ownAttrs?, ownMembers, hc, Option.elim_some]

/-- What a value stores **is changed** by a change of its attributes. -/
theorem Stores.mapAttrs {v : Value} {own : Members} (h : w.Stores v own) (f : Members → Members) :
    (w.mapAttrs v f).Stores v (f own) := by
  cases h with
  | object i o _ ho attrs =>
      refine .object i { o with attrs := o.attrs.map f } _ ?_ (by rw [attrs, Option.map_some])
      rw [World.mapAttrs, Array.getElem?_modify, if_pos rfl, ho, Option.map_some]
  | module i m hm =>
      refine .module i { m with members := f m.members } ?_
      rw [World.mapAttrs, Array.getElem?_modify, if_pos rfl, hm, Option.map_some]
  | fn i g hg =>
      refine .fn i { g with attrs := f g.attrs } ?_
      rw [World.mapAttrs, Array.getElem?_modify, if_pos rfl, hg, Option.map_some]
  | cls i c hc =>
      refine .cls i { c with members := f c.members } ?_
      rw [World.mapAttrs, Array.getElem?_modify, if_pos rfl, hc, Option.map_some]

end World

namespace Attribute

variable {run : Runner} {raw holder v : Value} {w : World}

/-- A storage slot of a native class is **read** as it stands. -/
theorem outcome_get_slot {c : NativeClass} {o : ClassRef} (name : String) (h : w.TellsClass v)
    (plain : standardGet run v name = objectGet run v name) (cls : w.classOf v = .native c)
    (listed : c.line.findSome? (·.member? name) = some (.nativeMember o .slot name)) :
    (get run v name).outcome w = (field o name v).outcome w := by
  have member : w.typeMember? (w.classOf v) name = some (.nativeMember o .slot name) := by
    rw [cls, World.typeMember?_native, listed]
  rw [outcome_get_of_unhooked h.front h.back, plain, outcome_objectGet_native (Or.inr rfl) member]

/-- The **holder** of a mark is found. -/
theorem outcome_markHolder (h : w.HoldsMark raw holder) :
    (markHolder run raw).outcome w = (.ok holder, w) := by
  have tells := h.noSlot.tells
  have kind (k : NativeClass) : (isInstance run raw (.native k)).outcome w = _ :=
    outcome_isInstance tells (.native k)
  rw [markHolder, Run.outcome_bind_of_ok (kind .staticMethod)]
  cases h with
  | static f =>
      exact outcome_get_slot "__func__" tells rfl rfl rfl
  | classMethod f =>
      show (isInstance run (.classMethod holder) (.native .classMethod) >>= _).outcome w = _
      rw [Run.outcome_bind_of_ok (kind .classMethod)]
      exact outcome_get_slot "__func__" tells rfl rfl rfl
  | getter f setter name =>
      show (isInstance run (.property (some f) setter name) (.native .classMethod) >>=
        _).outcome w = _
      rw [Run.outcome_bind_of_ok (kind .classMethod)]
      show (isInstance run (.property (some f) setter name) (.native .property) >>= _).outcome w = _
      rw [Run.outcome_bind_of_ok (kind .property)]
      exact outcome_get_slot "fget" tells rfl rfl rfl
  | self v single =>
      rw [single.single _ (by simp)]
      simp only [Bool.false_eq_true, ↓reduceIte]
      rw [Run.outcome_bind_of_ok (kind .classMethod), single.single _ (by simp)]
      simp only [Bool.false_eq_true, ↓reduceIte]
      rw [Run.outcome_bind_of_ok (kind .property), single.single _ (by simp)]
      rfl

/-- The mark of a marked member is **read**, and no code runs to find it. -/
theorem outcome_isMarked (h : w.Marked raw) : (isMarked run raw).outcome w = (.ok true, w) := by
  have nothing := h.not_nothing
  obtain ⟨holder, hh, front, entry, used, tells⟩ := h
  have mark : (get? run holder restrictedMark).outcome w = (.ok (some (.bool true)), w) := by
    rw [get?, Run.outcome_optional, get_of_standardGet front
      (outcome_standardGet_of_used used (outcome_give_plain run (.inl ⟨true, rfl⟩) tells))]
  cases raw with
  | none => exact absurd rfl nothing.1
  | missing => exact absurd rfl nothing.2
  | _ =>
      rw [isMarked, Run.outcome_bind_of_ok (outcome_markHolder hh), Run.outcome_bind_of_ok mark]
      · rfl
      all_goals nofun

/-- A function is of none of the kinds that are looked into. -/
theorem single_function (w : World) (f : FunctionId) : w.Single (.fn f) where
  tells := tellsClass_of_native rfl (by decide)
  apart := rfl
  single := by
    intro k hk
    simp only [List.mem_cons, List.not_mem_nil, or_false] at hk
    rcases hk with rfl | rfl | rfl <;> rfl

/-- To **restrict** a member writes the mark into the attributes of what holds it, and runs no
code. -/
theorem outcome_restrict_takes (h : w.HoldsMark raw holder) (takes : w.TakesMark holder) :
    (restrict run raw).outcome w =
      (.ok (), w.mapAttrs holder (·.put restrictedMark (.bool true))) := by
  obtain ⟨own, stores⟩ := takes.stores
  have written : (set run holder restrictedMark (.bool true)).outcome w =
      (.ok (), w.mapAttrs holder (·.put restrictedMark (.bool true))) := by
    have object : (objectUpdate run holder restrictedMark (some (.bool true))).outcome w =
        (.ok (), w.mapAttrs holder (·.put restrictedMark (.bool true))) := by
      rw [objectUpdate, Run.outcome_bind_of_ok (Run.outcome_get w)]
      simp only [takes.free, stores.ownAttrs]
      rfl
    have class_ (i : Nat) (hc : holder = .cls (.world i)) :
        (classUpdate run (.world i) restrictedMark (some (.bool true))).outcome w =
          (.ok (), w.mapAttrs holder (·.put restrictedMark (.bool true))) := by
      subst hc
      have free : w.typeMember? (w.metaclassOf (.world i)) restrictedMark = none := takes.free
      rw [classUpdate, Run.outcome_bind_of_ok (Run.outcome_get w)]
      simp only [free]
      rfl
    -- Without a hook for setting, classes are updated as classes and all others as plain objects.
    rw [set, update, Run.outcome_bind_of_ok (Run.outcome_reading _ w)]
    simp only [Option.isSome_some, ↓reduceIte]
    rcases hw : w.typeMember? (w.classOf holder) "__setattr__" with _ | f
    · cases stores with
      | cls i => exact class_ i rfl
      | _ => exact object
    · obtain ⟨o, k, n, rfl⟩ := takes.writer f hw
      cases stores with
      | cls i => exact class_ i rfl
      | _ => exact object
  have restricted : (restrict run raw).outcome w =
      (set run holder restrictedMark (.bool true)).outcome w := by
    rw [restrict, Run.outcome_bind_of_ok (outcome_markHolder h)]
    split
    · cases stores
    · rfl
  exact restricted.trans written

/-- A function of the world **takes a mark**. -/
theorem takesMark_function {f : FunctionId} (placed : (w.functions[f]?).isSome = true) :
    w.TakesMark (.fn f) where
  stores := by
    obtain ⟨record, hf⟩ := Option.isSome_iff_exists.1 placed
    exact ⟨_, .fn f record hf⟩
  writer := by
    intro g hg
    rw [World.classOf, World.typeMember?_native] at hg
    cases hg
    exact ⟨_, _, _, rfl⟩
  free := by
    rw [World.classOf, World.typeMember?_native]
    rfl

/-- A member is **marked** then. -/
theorem restrict_marks {f : FunctionId} (h : w.HoldsMark raw (.fn f))
    (placed : (w.functions[f]?).isSome = true) :
    ∃ w', (restrict run raw).outcome w = (.ok (), w') ∧ w'.Marked raw := by
  obtain ⟨own, stores⟩ := (takesMark_function placed).stores
  have held := (stores.mapAttrs (·.put restrictedMark (.bool true))).ownAttrs
  refine ⟨_, outcome_restrict_takes h (takesMark_function placed), .fn f, ?_, ?_,
    .own (.bool true), ?_, rfl⟩
  · cases h with
    | static => exact .static f
    | classMethod => exact .classMethod _
    | getter => exact .getter f _ _
    | self => exact .self _ (single_function _ f)
  · exact (single_function _ f).tells.front
  · have cls (w : World) : w.classOf (.fn f) = .native .function := rfl
    have free (w : World) : w.typeMember? (.native .function) restrictedMark = none := by
      rw [World.typeMember?_native]
      rfl
    have plain (w : World) :
        w.used? (.fn f) restrictedMark = w.objectUsed? (.fn f) restrictedMark := rfl
    rw [plain, World.objectUsed?, held]
    simp only [cls, free, Option.bind_some, Members.find?_put_self, Option.map_some]

end Attribute

/-! ### Seen and used -/

namespace World

variable {w : World} {v : Value} {name : String} {entry : TableEntry}

/-- An entry **overtakes** the one that is seen, in one of three ways: a member of the metaclass
that takes control of reading and writing stands before the own line of a class; a member of the
class that can be read and deleted, but not written, stands before an own attribute; and a bound
method passes to the table of its function. -/
inductive Overtakes (w : World) (name : String) : Value → TableEntry → Prop
  | outside {c : ClassRef} {raw inside : Value} :
      w.typeMember? (w.metaclassOf c) name = some raw → w.typeMember? c name = some inside →
      (w.controlsRead raw && w.controlsWrite raw) = true →
      Overtakes w name (.cls c) (.member raw (some (.cls c)) (w.metaclassOf c))
  | deleter {v raw x : Value} :
      w.typeMember? (w.classOf v) name = some raw →
      (w.ownAttrs? v).bind (·.find? name) = some x → w.controlsRead raw = true →
      (w.typeMember? (w.classOf raw) "__delete__").isSome = true →
      w.typeMember? (w.classOf raw) "__set__" = none →
      Overtakes w name v (.member raw (some v) (w.classOf v))
  | passed {f self : Value} {entry : TableEntry} :
      w.typeMember? (.native .method) name = none → w.objectUsed? f name = some entry →
      Overtakes w name (.bound f self) entry

/-- The entry that is used of a plain object **is the one that is selected** of its own attribute
and the member of its class, unless it overtakes it. -/
theorem selectedOf?_of_objectUsed (h : w.objectUsed? v name = some entry) :
    w.selectedOf? ((w.ownAttrs? v).bind (·.find? name)) (w.typeMember? (w.classOf v) name) =
        some entry.raw ∨ w.Overtakes name v entry := by
  rw [objectUsed?] at h
  rcases hm : w.typeMember? (w.classOf v) name with _ | raw <;>
    rcases ho : (w.ownAttrs? v).bind (·.find? name) with _ | x <;> simp only [hm, ho] at h
  · cases h
  · cases h
    exact Or.inl rfl
  · cases h
    exact Or.inl rfl
  · rw [selectedOf?]
    split at h <;> rename_i controls <;> cases h
    · obtain ⟨reads, writes⟩ := Bool.and_eq_true_iff.1 controls
      rcases hs : w.typeMember? (w.classOf raw) "__set__" with _ | writer
      · rw [controlsWrite, hs] at writes
        exact Or.inr (.deleter hm ho reads writes hs)
      · rw [reads]
        exact Or.inl rfl
    · -- Without control of reading and writing the own attribute is used, and seen.
      rw [if_neg]
      · exact Or.inl rfl
      · intro seen
        obtain ⟨reads, writes⟩ := Bool.and_eq_true_iff.1 seen
        rw [controlsWrite, reads, writes] at controls
        exact controls rfl

/-- The entry that is used **is the one that is selected**, unless it overtakes it. -/
theorem selected_of_used (h : w.used? v name = some entry) :
    w.selected? v name = some entry.raw ∨ w.Overtakes name v entry := by
  cases v with
  | cls c =>
      have h : w.classUsed? c name = some entry := h
      rw [classUsed?] at h
      rw [selected?]
      rcases ho : w.typeMember? (w.metaclassOf c) name with _ | outside <;>
        rcases hi : w.typeMember? c name with _ | inside <;> simp only [ho, hi] at h ⊢
      · cases h
      · cases h
        exact Or.inl rfl
      · cases h
        exact Or.inl rfl
      · split at h <;> rename_i controls <;> cases h
        · exact Or.inr (.outside ho hi controls)
        · exact Or.inl rfl
  | bound f self =>
      rw [used?] at h
      rcases hm : w.typeMember? (.native .method) name with _ | raw <;> simp only [hm] at h
      · exact Or.inr (.passed hm h)
      · cases h
        left
        have seen : w.selected? (.bound f self) name = w.typeMember? (.native .method) name := rfl
        rw [seen, hm]
        rfl
  | _ => exact selectedOf?_of_objectUsed h

end World

namespace Lookup

open Attribute

variable {run : Runner} {context : Value} {name : String} {w w₁ w₂ : World}

/-- A name that is not hidden from the public variant has no leading underscore, and is **not
held**, or held by a member without a mark. -/
theorem standing_publicly {s : Standing}
    (h : (standing run false context name).outcome w = (.ok s, w₂)) (visible : s ≠ .hidden) :
    isRestrictedName name = false ∧
      ((s = .unheld ∧ (held? run context name).outcome w = (.ok none, w₂)) ∨
        s = .shown ∧ ∃ raw w₁, Holds run context name w raw w₁ ∧
          (isMarked run raw).outcome w₁ = (.ok false, w₂)) := by
  cases hn : isRestrictedName name with
  | true =>
      cases (standing_of_restricted hn).symm.trans h
      exact absurd rfl visible
  | false =>
      simp only [standing, Strategy.refuses, hn, Bool.and_false, Bool.false_eq_true,
        ↓reduceIte] at h
      obtain ⟨found, w₀, hheld, h⟩ := Run.outcome_bind_ok_iff.1 h
      refine ⟨rfl, ?_⟩
      cases found with
      | none =>
          cases h
          exact Or.inl ⟨rfl, hheld⟩
      | some raw =>
          obtain ⟨empty, w₁, hempty, h⟩ := Run.outcome_bind_ok_iff.1 h
          cases empty with
          | true =>
              cases h
              exact absurd rfl visible
          | false =>
              obtain ⟨marked, w₃, hmark, h⟩ := Run.outcome_bind_ok_iff.1 h
              cases marked <;> cases h
              · exact Or.inr ⟨rfl, raw, w₁, ⟨w₀, hheld, hempty⟩, hmark⟩
              · exact absurd rfl visible

end Lookup

namespace Resolver

open Lookup

variable {run : Runner} {r : Resolver} {name : String} {w w₁ w₂ : World} {context m : Value}

/-- What a public resolver fetches from a context is fetched by **one access**, for a name that the
context does not hold or holds without a mark. -/
theorem access_of_fetching (hv : r.variant = .publicOne)
    (h : (r.fetching run name context).outcome w = (.ok (some m), w₂)) :
    isRestrictedName name = false ∧ ∃ w₁,
      ((Attribute.held? run context name).outcome w = (.ok none, w₁) ∨
        ∃ raw w₀, Holds run context name w raw w₀ ∧
          (Attribute.isMarked run raw).outcome w₀ = (.ok false, w₁)) ∧
      (Attribute.get run context name).outcome w₁ = (.ok m, w₂) := by
  rw [fetching, hv] at h
  have first : (dynamicLookup run false context name).outcome w = (.ok (some m), w₂) := h
  rw [dynamicLookup_eq] at first
  obtain ⟨found, fetched, known⟩ := Run.outcome_map_ok_iff.1 first
  obtain ⟨v, rfl, same⟩ := Option.bind_eq_some_iff.1 known
  obtain ⟨rfl, -⟩ := Value.known?_eq_some.1 same
  obtain ⟨s, w₁, hs, given⟩ := Run.outcome_bind_ok_iff.1 fetched
  cases s with
  | hidden => cases given
  | unheld =>
      obtain ⟨unrestricted, ⟨-, unheld⟩ | ⟨other, -⟩⟩ := standing_publicly hs (by simp)
      · exact ⟨unrestricted, w₁, Or.inl unheld, Run.outcome_optional_some_iff.1 given⟩
      · cases other
  | shown =>
      obtain ⟨unrestricted, ⟨other, -⟩ | ⟨-, held⟩⟩ := standing_publicly hs (by simp)
      · cases other
      · obtain ⟨_, access, hm⟩ := Run.outcome_map_ok_iff.1 given
        cases hm
        exact ⟨unrestricted, w₁, Or.inr held, access⟩

/-- A member that was found without a mark in the world after its tables were looked up **had none
before**. -/
theorem not_marked_of_holds {raw : Value} {w₀ : World}
    (held : (Attribute.held? run context name).outcome w = (.ok (some raw), w))
    (h : Holds run context name w raw w₀)
    (unmarked : (Attribute.isMarked run raw).outcome w₀ = (.ok false, w₁)) : ¬ w.Marked raw := by
  intro marked
  obtain ⟨w', hheld, hempty⟩ := h
  cases held.symm.trans hheld
  have filled : w.NoSlot raw := by
    obtain ⟨holder, holds, -⟩ := marked
    exact holds.noSlot
  cases (Attribute.outcome_isEmptySlot filled context).symm.trans hempty
  cases (Attribute.outcome_isMarked marked).symm.trans unmarked

/-- A world in which entries overtake those that are seen. `Meta` computes a marked `x` for its
class `Thing`, which holds one of its own; `Part` holds a marked `x` that can be read and deleted;
`Odd` puts a number in the place of the tables of its objects, one of which holds a marked `x`; and
so does a function. Objects of `Coy` bear a mark and refuse to tell it, and one object holds one of
them. -/
def exposing : World :=
  { World.empty with
    classes := #[
      { plainClass 0 "Meta" [("x", .property (some 0) none (some "x"))] with
        line := [.world 0, .native .type, .native .object]
        bases := [.native .type] },
      { plainClass 1 "Thing" [("x", .int 1)] with metaclass := .world 0 },
      plainClass 2 "Part" [("x", .object 0)], plainClass 3 "Odd" [("__dict__", .int 0)],
      plainClass 4 "Plain" [], plainClass 5 "Coy" [("__getattribute__", .fn 3)]]
    objects := #[
      ⟨none, .native (.descriptor true false true), some [(restrictedMark, .bool true)], [],
        .descriptor "Part.x" (some (.ret (.int 3)))⟩,
      plainObject "part" 2 [("x", .int 1)], plainObject "odd" 3 [("x", .object 3)],
      plainObject "secret" 4 [(restrictedMark, .bool true)], plainObject "plain" 4 [("x", .int 1)],
      plainObject "coy" 5 [(restrictedMark, .bool true)],
      plainObject "holder" 4 [("x", .object 5)]]
    functions := #[⟨"Meta.x", some worldHome, .body "Meta.x" (.ret (.int 2)), [],
        [(restrictedMark, .bool true)]⟩,
      ⟨"f", some worldHome, .silent .echo, [], [("x", .object 3)]⟩,
      plainFunction "closure" (.script []),
      plainFunction "Coy.__getattribute__" (.silent (.raise .attr "hidden"))] }
where
  /-- A public resolver over one value. -/
  publicOver (context : Value) : Resolver :=
    ⟨.publicOne, .fn 2, .none, .iok, [context], .module World.kernelModule, none⟩

open exposing (publicOver)

end Resolver

end OrderedScope
