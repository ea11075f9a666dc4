import OrderedScope.Proofs.Outcome
import OrderedScope.Attribute.Access

/-!
# The Entry Behind an Access

Standard access to a name uses one entry of one table: an own attribute of the value, which is given
as it is, or a member on the line of its class, which is bound. For a class the own line and the
line of its metaclass take these parts. Which entry is used is read from the tables alone; what the
access gives is what the entry gives.

## Main results

* `Attribute.outcome_objectGet`, `Attribute.outcome_classGet`, `Attribute.outcome_standardGet`:
  standard access gives what its entry gives, and fails as it does.
* `Attribute.outcome_standardGet_of_used`: what the entry gives, standard access gives, modules
  included.
-/

namespace OrderedScope

/-- The **entry** that an access uses: an own attribute, or a member of a class and the way it is
bound. -/
inductive TableEntry where
  | own (x : Value)
  | member (raw : Value) (inst : Option Value) (owner : ClassRef)

namespace TableEntry

/-- What the table lists. -/
def raw : TableEntry → Value
  | own x => x
  | member raw _ _ => raw

/-- What an access **gives** by an entry. -/
def give (run : Runner) : TableEntry → Run Value
  | own x => pure x
  | member raw inst owner => Attribute.bind run raw inst owner

end TableEntry

namespace World

/-- The entry that standard access to a plain object **uses**: a member of its class that takes
control of reading and writing, then an own attribute, then another member. -/
def objectUsed? (w : World) (v : Value) (name : String) : Option TableEntry :=
  let c := w.classOf v
  match w.typeMember? c name, (w.ownAttrs? v).bind (·.find? name) with
  | some raw, some x =>
    if w.controlsRead raw && w.controlsWrite raw then some (.member raw (some v) c)
    else some (.own x)
  | some raw, none => some (.member raw (some v) c)
  | none, own => own.map .own

/-- The entry that standard access to a class uses: a member of its metaclass that takes control of
reading and writing, then one on its own line, then another member of its metaclass. -/
def classUsed? (w : World) (c : ClassRef) (name : String) : Option TableEntry :=
  let metaclass := w.metaclassOf c
  match w.typeMember? metaclass name, w.typeMember? c name with
  | some outside, some inside =>
    if w.controlsRead outside && w.controlsWrite outside then
      some (.member outside (some (.cls c)) metaclass)
    else some (.member inside none c)
  | some outside, none => some (.member outside (some (.cls c)) metaclass)
  | none, inside => inside.map fun raw => .member raw none c

/-- The **entry** that standard access to a name of a value uses. A bound method passes to its
function. -/
def used? (w : World) (v : Value) (name : String) : Option TableEntry :=
  match v with
  | .cls c => w.classUsed? c name
  | .bound f _ =>
    match w.typeMember? (.native .method) name with
    | some raw => some (.member raw (some v) (.native .method))
    | none => w.objectUsed? f name
  | _ => w.objectUsed? v name

/-- Values that are neither classes nor bound methods are accessed as **plain objects**. -/
theorem used?_of_plain {w : World} {v : Value} (cls : ∀ c, v ≠ .cls c)
    (bound : ∀ f self, v ≠ .bound f self) (name : String) :
    w.used? v name = w.objectUsed? v name := by
  cases v with
  | cls c => exact absurd rfl (cls c)
  | bound f self => exact absurd rfl (bound f self)
  | _ => rfl

/-- A table that may be missing holds what it holds. -/
theorem find?_getD (own : Option Members) (name : String) :
    (own.getD []).find? name = own.bind (·.find? name) := by
  cases own <;> rfl

/-- The error of standard access to a name **without an entry**. -/
def missing (w : World) (v : Value) (name : String) : Error :=
  match v with
  | .cls c => .noClassAttribute (w.fullName c) name
  | .bound f _ => .noAttribute (w.fullName (w.classOf f)) name
  | _ => .noAttribute (w.fullName (w.classOf v)) name

/-- What is raised for a missing entry is a missing attribute. -/
theorem missing_isA (w : World) (v : Value) (name : String) :
    (w.missing v name).isA .attr = true := by
  cases v <;> rfl

end World

namespace Attribute

/-- Standard access to a plain object **gives what its entry gives**; without an entry the attribute
is missing. -/
theorem outcome_objectGet (run : Runner) (v : Value) (name : String) (w : World) :
    (objectGet run v name).outcome w =
      match w.objectUsed? v name with
      | some entry => (entry.give run).outcome w
      | none => (.error (.raised (.noAttribute (w.fullName (w.classOf v)) name)), w) := by
  rw [objectGet, Run.outcome_bind_of_ok (Run.outcome_get w)]
  simp only [World.objectUsed?]
  rcases w.typeMember? (w.classOf v) name with _ | raw <;>
    rcases (w.ownAttrs? v).bind (·.find? name) with _ | x
  · rfl
  · rfl
  · rfl
  · simp only
    split <;> rfl

/-- Standard access to a class gives what its entry gives; without an entry the attribute is
missing. -/
theorem outcome_classGet (run : Runner) (c : ClassRef) (name : String) (w : World) :
    (classGet run c name).outcome w =
      match w.classUsed? c name with
      | some entry => (entry.give run).outcome w
      | none => (.error (.raised (.noClassAttribute (w.fullName c) name)), w) := by
  rw [classGet, Run.outcome_bind_of_ok (Run.outcome_get w)]
  simp only [World.classUsed?]
  rcases w.typeMember? (w.metaclassOf c) name with _ | outside <;>
    rcases w.typeMember? c name with _ | inside
  · rfl
  · rfl
  · rfl
  · simp only
    split <;> rfl

/-- Standard access to anything but a module **gives what its entry gives**, and fails as it does;
without an entry the attribute is missing. -/
theorem outcome_standardGet {v : Value} (run : Runner) (apart : ∀ i, v ≠ .module i) (name : String)
    (w : World) : (standardGet run v name).outcome w =
      match w.used? v name with
      | some entry => (entry.give run).outcome w
      | none => (.error (.raised (w.missing v name)), w) := by
  cases v with
  | module i => exact absurd rfl (apart i)
  | cls c => exact outcome_classGet run c name w
  | bound f self =>
      rw [standardGet, methodGet, Run.outcome_bind_of_ok (Run.outcome_reading _ w), World.used?]
      rcases w.typeMember? (.native .method) name with _ | raw
      · exact outcome_objectGet run f name w
      · rfl
  | _ => exact outcome_objectGet run _ name w

/-- A module without a hook of its own **misses** what it misses as a plain object. -/
theorem moduleGet_misses {run : Runner} {i : ModuleId} {name : String} {e : Error} {w w₁ : World}
    (hookless : (w₁.ownAttrs? (.module i)).bind (·.find? "__getattr__") = none)
    (misses : (objectGet run (.module i) name).outcome w = (.error (.raised e), w₁))
    (attr : e.isA .attr = true) :
    ∃ e', e'.isA .attr = true ∧
      (moduleGet run (.module i) name).outcome w = (.error (.raised e'), w₁) := by
  have hook : ((w₁.ownAttrs? (.module i)).getD []).find? "__getattr__" = none := by
    rw [World.find?_getD, hookless]
  rw [moduleGet, Run.outcome_recover, misses]
  simp only [attr, ↓reduceIte]
  rw [Run.outcome_bind_of_ok (Run.outcome_reading _ w₁), hook]
  split
  · rename_i found
    cases found
  · exact ⟨_, rfl, rfl⟩
  · exact ⟨_, rfl, rfl⟩

/-- What the entry of a name gives, standard access **gives**; the hook behind a module is not
asked. -/
theorem outcome_standardGet_of_used {run : Runner} {v m : Value} {name : String} {w w₁ : World}
    {entry : TableEntry} (used : w.used? v name = some entry)
    (gives : (entry.give run).outcome w = (.ok m, w₁)) :
    (standardGet run v name).outcome w = (.ok m, w₁) := by
  by_cases module : ∃ i, v = .module i
  · obtain ⟨i, rfl⟩ := module
    have used : w.objectUsed? (.module i) name = some entry := used
    refine Run.outcome_recover_ok ?_
    rw [outcome_objectGet, used]
    exact gives
  · rw [outcome_standardGet run (not_exists.1 module), used]
    exact gives

end Attribute

end OrderedScope
