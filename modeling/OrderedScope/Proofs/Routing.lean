import OrderedScope.Proofs.EventLog

/-!
# Names Read from Scopes

A scope hands the names that are read from it to its resolver, by a hook behind the standard access.
The hook is asked for a name only where the class of scopes has nothing under it; so the names that
every object has, and those by which a scope is one, never reach the resolver, and a scope answers
them whatever its contexts hold. No other name is kept from the resolver, however it is spelled: the
run that reads it is the run that asks for the member, down to what it logs.

## Main results

* `special_of_mem_scopeOwnNames`: the names that a scope answers itself.
* `Resolver.scope_routes`: what is read from a scope, and that it cannot be changed.
* `Resolver.scope_answers_itself`: a name that does not reach the resolver.
-/

namespace OrderedScope

open Interpreter

/-! ### The names of scopes -/

/-- The names that a scope has **itself**: those of its class, and those that every object has. -/
def scopeOwnNames : List String :=
  [NativeClass.scope, .object].flatMap fun c => c.members.map (·.1)

/-- A name is **special** if it is written between double underscores. -/
def isSpecialName (name : String) : Bool := name.startsWith "__" && name.endsWith "__"

/-- The names that a scope has itself are those of which its class **knows**. -/
theorem mem_scopeOwnNames_iff {name : String} (w : World) :
    name ∈ scopeOwnNames ↔ ∃ raw, w.typeMember? (.native .scope) name = some raw := by
  have listed (c : NativeClass) : name ∈ c.members.map (·.1) ↔ (c.member? name).isSome := by
    rw [World.member?_eq_find?, ← Option.ne_none_iff_isSome, Ne, Members.find?_eq_none_iff,
      Bool.not_eq_false, Members.has, List.any_eq_true, List.mem_map]
    simp only [beq_iff_eq]
  rw [← Option.isSome_iff_exists, World.typeMember?_native, List.isSome_findSome?,
    List.any_eq_true, scopeOwnNames, List.mem_flatMap]
  exact exists_congr fun c => and_congr_right fun _ => listed c

/-- A scope itself has **special** names only, besides the one under which it keeps its resolver. -/
theorem special_of_mem_scopeOwnNames {name : String} (h : name ∈ scopeOwnNames) :
    name = "_Scope__trigger" ∨ isSpecialName name = true := by
  have all : scopeOwnNames.all fun n => n = "_Scope__trigger" || isSpecialName n := by
    decide +kernel
  simpa using List.all_eq_true.1 all name h

namespace Resolver

/-! ### The scope of a resolver -/

/-- **A scope routes the names that are read from it**, for any resolver, any state of the world and
any name, however it is spelled.

* The scope of an evaluation is a scope of its resolver as long as anything runs.
* The run that reads a name is the run that asks the resolver for the member, with a budget that
  leaves room for the hook: it gives the same value or fails with the same error, tells and logs the
  same, runs the same code, and leaves the same world. The names of which this does not hold are
  those that the scope has itself. They are special, or the one under which the scope keeps its
  resolver, and are given by the scope, whatever its contexts hold, without running anything.
* An attempt to set or to delete a name, whichever it is, fails with an error that says that an
  attribute is missing, and leaves the world as it is. -/
theorem scope_routes (n : Nat) (r : Resolver) :
    (∀ (id : ResolverId) (w w₁ : World), w.resolvers[id]? = some r →
      Course (runner n) (w.entered id) w₁ → IsScope w₁ w.objects.size r) ∧
    ∀ w s name, IsScope w s r →
      (name ∉ scopeOwnNames →
        Attribute.get (runner (n + 2)) (.object s) name w = r.member (runner n) name w) ∧
      (name ∈ scopeOwnNames → (name = "_Scope__trigger" ∨ isSpecialName name = true) ∧
        ∃ v, ∀ run, (Attribute.get run (.object s) name).outcome w = (.ok v, w)) ∧
      (∀ x, (Attribute.set (runner (n + 2)) (.object s) name x).outcome w =
        (.error (.raised (.readOnlyScope "set" name)), w)) ∧
      (Attribute.delete (runner (n + 2)) (.object s) name).outcome w =
        (.error (.raised (.readOnlyScope "delete" name)), w) ∧
      ∀ verb, (Error.readOnlyScope verb name).isA .attr = true := by
  refine ⟨fun id w w₁ resolver hc => (IsScope.of_entered resolver).course hc, ?_⟩
  intro w s name h
  refine ⟨fun other => h.get_apply n ?_, fun own => ⟨special_of_mem_scopeOwnNames own, ?_⟩,
    h.outcome_set, h.outcome_delete, fun _ => rfl⟩
  · exact Option.eq_none_iff_forall_ne_some.2 fun raw held =>
      other ((mem_scopeOwnNames_iff w).2 ⟨raw, held⟩)
  · obtain ⟨raw, held⟩ := (mem_scopeOwnNames_iff w).1 own
    exact h.exists_outcome_get_of_held held

/-- A resolver of a variant over one object of a class of its own. -/
def overShadowed (variant : Variant) : Resolver :=
  ⟨variant, .fn 0, .none, .iok, [.object 0], .module World.kernelModule, none⟩

/-- The world of a private resolver and of a public one. -/
def shadowed : World :=
  { World.empty with
    classes := #[plainClass 0 "Shadowed" []]
    objects := #[plainObject "shadowed" 0 [("_x", .int 1)]]
    functions := #[plainFunction "closure" (.script [])]
    resolvers := #[overShadowed .privateOne, overShadowed .publicOne] }

/-- The restricted name of an attribute is read from the scope of the private resolver as it is
asked of that resolver, and the scope refuses to be changed. -/
theorem scope_routes_shadowed :
    IsScope (shadowed.entered 0) 1 (overShadowed .privateOne) ∧ "_x" ∉ scopeOwnNames ∧
    Run.gave (.int 1)
      ((Attribute.get (runner 22) (.object 1) "_x").outcome (shadowed.entered 0)) = true ∧
    (Attribute.delete (runner 22) (.object 1) "_x").outcome (shadowed.entered 0) =
      (.error (.raised (.readOnlyScope "delete" "_x")), shadowed.entered 0) := by
  have scope : IsScope (shadowed.entered 0) 1 (overShadowed .privateOne) :=
    (scope_routes 20 (overShadowed .privateOne)).1 0 shadowed _ rfl .start
  obtain ⟨routed, -, -, deleted, -⟩ := (scope_routes 20 (overShadowed .privateOne)).2 _ _ "_x" scope
  have other : "_x" ∉ scopeOwnNames := by decide +kernel
  refine ⟨scope, other, ?_, deleted⟩
  rw [Run.outcome, routed other]
  decide +kernel

/-- A name that **does not reach the resolver**: the class of a scope is read from it. The private
resolver gives the class of its context, and the public one refuses the name. -/
theorem scope_answers_itself :
    let asked (r : Resolver) (id : ResolverId) :=
      ((r.member (runner 20) "__class__").outcome (shadowed.entered id)).1
    let read (id : ResolverId) :=
      ((Attribute.get (runner 22) (.object 1) "__class__").outcome (shadowed.entered id)).1
    IsScope (shadowed.entered 0) 1 (overShadowed .privateOne) ∧
    IsScope (shadowed.entered 1) 1 (overShadowed .publicOne) ∧
    read 0 = .ok (.cls (.native .scope)) ∧ read 1 = .ok (.cls (.native .scope)) ∧
    asked (overShadowed .privateOne) 0 = .ok (.cls (.world 0)) ∧
    asked (overShadowed .publicOne) 1 =
      .error (.raised (.unresolved "__class__" "IOK" "public")) :=
  ⟨IsScope.of_entered rfl, IsScope.of_entered rfl, rfl, rfl, rfl,
    congrArg Prod.fst (Run.eq_of_failed (by decide +kernel))⟩

end Resolver

end OrderedScope
