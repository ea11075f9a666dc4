import OrderedScope.Proofs.Evaluation
import OrderedScope.Proofs.Follows.Session
import OrderedScope.Proofs.Sample
import OrderedScope.Proofs.Walk

/-!
# Nested Scopes

The scope of a resolver can stand among the contexts of another one. A scope has a function of the
library behind its access, which asks its resolver for the member; so the outer resolver fetches
from a scope by the inner resolver's question. What the inner one gives is given on, and the error
of a name that nobody answers is a miss, like every error that says that an attribute is missing.

An outer resolver cannot tell such an error from one that a member raised. Under either variant it
takes a missing attribute for a miss, and under the private one every error by which contexts refuse
the attribute protocol, since a scope has a hook to blame for every name that it does not hold. All
other errors leave it, through any depth of scopes.

## Main results

* `Resolver.outcome_fetching_scope`: a scope among the contexts is fetched from by its own
  resolver's question.
* `Resolver.LeadsDown.member_fails`: an error that is a miss nowhere on the way leaves all resolvers
  on it.
* `Resolver.scope_slot`: what a scope answers to the resolver that reaches it.
* `Resolver.scope_conceals`: errors of members that are taken for misses.
-/

namespace OrderedScope

open Interpreter

/-! ### Names of scopes -/

/-- A name without a leading underscore is **no member** of scopes. -/
theorem World.typeMember?_scope {name : String} (h : isRestrictedName name = false) (w : World) :
    w.typeMember? (.native .scope) name = none :=
  World.typeMember?_of_restricted (by decide +kernel) h w

namespace Resolver

/-! ### Scopes stay scopes -/

/-- What makes an object **a scope** of a resolver. -/
theorem isScope_iff {w : World} {s : ObjectId} {r : Resolver} : IsScope w s r ↔
    ∃ o id, w.objects[s]? = some o ∧ o.cls = .native .scope ∧ o.attrs = none ∧
      o.payload = .scope id ∧ w.resolvers[id]? = some r := by
  constructor
  · rintro ⟨cls, bare, id, hp, hr⟩
    obtain ⟨o, ho, payload⟩ := Option.map_eq_some_iff.1 hp
    refine ⟨o, id, ho, ?_, ?_, payload, hr⟩
    · simpa only [World.classOf, ho, Option.elim_some] using cls
    · simpa only [World.ownAttrs?, ho, Option.bind_some] using bare
  · rintro ⟨o, id, ho, cls, bare, payload, hr⟩
    refine ⟨?_, ?_, id, ?_, hr⟩
    · simpa only [World.classOf, ho, Option.elim_some] using cls
    · simpa only [World.ownAttrs?, ho, Option.bind_some] using bare
    · simp only [World.payload?, ho, payload, Option.map_some]

/-- An object that is the scope of a resolver **stays** one. -/
theorem kept_isScope (s : ObjectId) (r : Resolver) : Kept (IsScope · s r) where
  ambient _ h := ⟨h.cls, h.bare, h.resolver⟩
  change hc h := by
    obtain ⟨o, id, ho, cls, bare, payload, hr⟩ := isScope_iff.1 h
    obtain ⟨o', ho', cls', payload', bare'⟩ := hc.object_stays ho
    exact isScope_iff.2 ⟨o', id, ho', cls'.trans cls, bare' bare, payload'.trans payload,
      hc.resolver_stays hr⟩

section Scope

variable {w : World} {s : ObjectId} {r₁ : Resolver} {name : String} (h : IsScope w s r₁)
include h

/-- The classes of a scope have no metaclass of their own. -/
theorem IsScope.metaclasses :
    ∀ d ∈ w.classOf (.object s) :: w.lineOf (w.classOf (.object s)),
      w.metaclassOf d = .native .type :=
  World.metaclasses_of_native h.cls (by decide)

/-- The classes of a scope are legible. -/
theorem IsScope.legible : ∀ d ∈ w.lineOf (w.classOf (.object s)), w.Legible d :=
  fun d hd => World.legible_of_metaclass (h.metaclasses d (List.mem_cons_of_mem _ hd))

/-- The classes of a scope are plain. -/
theorem IsScope.classesPlain : w.ClassesPlain (.object s) :=
  World.classesPlain_of_metaclasses h.metaclasses

/-- A scope shows its table. -/
theorem IsScope.showsTable : w.ShowsTable (.object s) := by
  refine .bare ?_ h.bare
  rw [h.cls, World.typeMember?_native]
  rfl

/-- A scope **holds nothing** under a name that is no member of scopes. -/
theorem outcome_held?_scope {run : Runner} (free : w.typeMember? (.native .scope) name = none) :
    (Attribute.held? run (.object s) name).outcome w = (.ok none, w) := by
  have line : (Attribute.heldInLine? run (w.classOf (.object s)) name).outcome w =
      (.ok none, w) := by
    rw [Attribute.outcome_heldInLine? h.legible, h.cls, free]
  have own : (Attribute.heldByInstance? run (.object s) name).outcome w = (.ok none, w) := by
    rw [Attribute.outcome_heldByInstance? (by simp) h.showsTable, h.bare]
    rfl
  rw [Attribute.held?, Run.outcome_map, Attribute.selected?_of_instance run (by simp),
    Run.outcome_bind_of_ok own, Run.outcome_bind_of_ok (Run.outcome_reading _ w),
    Run.outcome_bind_of_ok line]
  rfl

/-- The hooks of a scope are in sight, and the function behind its access is **to blame** for every
name that is no member of scopes. -/
theorem IsScope.blames (free : w.typeMember? (.native .scope) name = none) :
    w.ShowsHooks (.object s) name ∧ w.blames (.object s) name = true := by
  have unseen : w.seen? (.object s) name = none := by
    rw [World.seen?, World.selected?_of_instance (by simp), h.bare, h.cls, free]
    rfl
  refine ⟨⟨h.classesPlain, fun hook hh f hf => ?_, fun _ _ => ?_⟩, ?_⟩
  · simp only [List.mem_cons, List.not_mem_nil, or_false] at hh
    rcases hh with rfl | rfl
    · rw [h.frontHook_eq] at hf
      cases hf
      exact Attribute.tellsClass_nativeMember w _ _ _
    · rw [h.backHook_eq] at hf
      cases hf
      exact Attribute.tellsClass_of_native rfl (by decide)
  · refine .instance_ _ (by simp) h.showsTable h.legible fun raw member => ?_
    rw [h.cls, free] at member
    cases member
  · rw [World.blames, World.plainHook, World.plainHook, h.frontHook_eq, h.backHook_eq, unseen]
    rfl

/-- A scope is **given over** after any refusal; that is told, and the error is put into words for
it. -/
theorem outcome_handOver_scope {run : Runner} {secondary : Strategy} {operation : String}
    {e : Error} (free : w.typeMember? (.native .scope) name = none) :
    (Lookup.handOver run secondary operation (.object s) name e).outcome w =
      (Lookup.noting run e).outcome w := by
  obtain ⟨shows, blamed⟩ := h.blames free
  apply Lookup.outcome_handOver_of_overrides h.classesPlain.1
  rw [Attribute.outcome_overridesProtocol run shows, blamed]

/-- The tables of a scope **do not answer** a name that is no member of scopes. -/
theorem outcome_staticFound?_scope {run : Runner}
    (free : w.typeMember? (.native .scope) name = none) :
    (Lookup.staticFound? run true (.object s) name).outcome w = (.ok none, w) := by
  have instance_ : w.isClass (.object s) = false := by
    rw [World.isClass, h.cls]
    rfl
  have missing : w.walked? (.object s) name = none := by
    show ((w.objectUsed? (.object s) name).map _).bind _ = none
    rw [World.objectUsed?, h.cls, free, h.bare]
    rfl
  have walkable : w.Walkable name (.object s) := by
    refine .instance_ _ instance_ (by simp) h.showsTable h.classesPlain.accessible.1
      h.classesPlain.accessible.2 fun raw member => ?_
    rw [h.cls, free] at member
    cases member
  rw [Lookup.outcome_staticFound? walkable (by simp [missing]), missing]

/-! ### A scope among the contexts -/

omit h in
/-- The member that a resolver gives is **never** what tells that there is nothing. -/
theorem known_of_member {r : Resolver} {run : Runner} {m : Value} {w₁ : World}
    (given : (r.member run name).outcome w = (.ok m, w₁)) : m.known? = some m := by
  obtain ⟨_, _, _, _, _, _, found⟩ := picks_of_member given
  exact Strategy.known_of_lookup found

/-- Asked for a member that may be missing, a scope puts **one question** to its resolver. -/
theorem outcome_get?_scope (budget : Nat) (hn : isRestrictedName name = false) :
    (Attribute.get? (runner (budget + 2)) (.object s) name).outcome w =
      match (r₁.member (runner budget) name).outcome w with
      | (.ok m, w₁) => (.ok (some m), w₁)
      | (.error (.raised e), w₁) =>
        if e.isA .attr then (.ok none, w₁) else (.error (.raised e), w₁)
      | (.error .exhausted, w₁) => (.error .exhausted, w₁) := by
  rw [Attribute.get?, Run.outcome_optional,
    outcome_get_scope budget h (World.typeMember?_scope hn w)]
  rcases (r₁.member (runner budget) name).outcome w with ⟨(e | _) | m, w₁⟩ <;> rfl

/-- A scope among the contexts gives **what its hooks give**: the question behind them gives no
member that tells that there is nothing. -/
theorem outcome_dynamicLookup_scope (budget : Nat) (restricted : Bool)
    (hn : isRestrictedName name = false) :
    (Lookup.dynamicLookup (runner (budget + 2)) restricted (.object s) name).outcome w =
      (Attribute.get? (runner (budget + 2)) (.object s) name).outcome w := by
  rw [Lookup.dynamicLookup]
  simp only [Strategy.refuses, hn, Bool.and_false, Bool.false_eq_true, ↓reduceIte]
  rw [Run.outcome_bind_of_ok (outcome_held?_scope h (World.typeMember?_scope hn w)),
    Run.outcome_map, outcome_get?_scope h budget hn]
  rcases hm : (r₁.member (runner budget) name).outcome w with ⟨(e | _) | m, w₁⟩
  · cases missing : e.isA .attr <;> simp [missing]
  · rfl
  · simp [known_of_member hm]

end Scope

/-- Whether a resolver takes an error of a scope among its contexts for a **miss**: one that says
that an attribute is missing, or under the private variant one by which contexts refuse. -/
def misses (variant : Variant) (e : Error) : Bool :=
  e.isA .attr || (decide (variant = .privateOne) && e.kind.isAny Kind.refusals)

/-- What a resolver does about an error that it takes for a miss, **before** it goes on: unless it
says that an attribute is missing, the error is told in a message for those who debug. -/
def conceding (run : Runner) (e : Error) : Run Unit :=
  if e.isA .attr then pure () else Lookup.noting run e

/-- Where an error can be told of freely, **nothing** is done about it. -/
theorem outcome_conceding {run : Runner} {e : Error} {w : World} (told : Lookup.ToldFreely e w) :
    (conceding run e).outcome w = (.ok (), w) := by
  rw [conceding]
  split
  · rfl
  · exact Lookup.outcome_noting_of_toldFreely told

/-- Telling an error fails only if it **spends the budget**. -/
theorem conceding_error {run : Runner} {e : Error} {w w₁ : World} {f : Fault}
    (h : (conceding run e).outcome w = (.error f, w₁)) : f = .exhausted := by
  rw [conceding] at h
  split at h
  · cases h
  · exact Lookup.noting_error h

/-- How a resolver takes the **end** of the question that a scope among its contexts asks. -/
def slotAnswer (run : Runner) (variant : Variant) :
    Except Fault Value × World → Except Fault (Option Value) × World
  | (.ok m, w) => (.ok (some m), w)
  | (.error (.raised e), w) =>
    if misses variant e then ((fun _ => none) <$> conceding run e : Run (Option Value)).outcome w
    else (.error (.raised e), w)
  | (.error .exhausted, w) => (.error .exhausted, w)

/-- A scope that is given over after a refusal gives **nothing** by its tables, once the refusal is
told: it is still a scope then. -/
theorem outcome_lookup_givenOver {w : World} {s : ObjectId} {r₁ : Resolver} {name : String}
    (budget : Nat) (h : IsScope w s r₁) (hn : isRestrictedName name = false) (e : Error) :
    (Lookup.handOver (runner (budget + 2)) (.static true) "lookup" (.object s) name e >>= fun _ =>
      (Strategy.static true).lookup (runner (budget + 2)) (.object s) name).outcome w =
      ((fun _ => none) <$> Lookup.noting (runner (budget + 2)) e : Run (Option Value)).outcome
        w := by
  have free := World.typeMember?_scope hn
  rw [Run.outcome_bind, outcome_handOver_scope h (free w), Run.outcome_map]
  rcases told : (Lookup.noting (runner (budget + 2)) e).outcome w with ⟨f | _, w₁⟩
  · rfl
  · have later : IsScope w₁ s r₁ := by
      have tells : Follows .all (runner (budget + 2)) (Lookup.noting (runner (budget + 2)) e) :=
        Follows.logText (Error.follows_text e)
      have := tells.keeps (kept_isScope s r₁) h
      rwa [told] at this
    simp only [Strategy.lookup, Lookup.staticLookup]
    rw [Run.outcome_bind_of_ok (outcome_staticFound?_scope later (free w₁))]
    rfl

/-- A scope among the contexts of a public or private resolver is fetched from by **its own
resolver's question** for the member. -/
theorem outcome_fetching_scope {w : World} {s : ObjectId} {r r₁ : Resolver} {name : String}
    (budget : Nat) (hv : r.variant = .publicOne ∨ r.variant = .privateOne) (h : IsScope w s r₁)
    (hn : isRestrictedName name = false) :
    (r.fetching (runner (budget + 2)) name (.object s)).outcome w =
      slotAnswer (runner (budget + 2)) r.variant ((r₁.member (runner budget) name).outcome w) := by
  have first (restricted : Bool) :
      (Lookup.dynamicLookup (runner (budget + 2)) restricted (.object s) name).outcome w = _ :=
    (outcome_dynamicLookup_scope h budget restricted hn).trans (outcome_get?_scope h budget hn)
  rw [fetching]
  rcases hv with hv | hv <;> rw [hv]
  · refine (first false).trans ?_
    have apart : Variant.publicOne ≠ Variant.privateOne := by decide
    rcases (r₁.member (runner budget) name).outcome w with ⟨(e | _) | m, w₁⟩
    · cases missing : e.isA .attr <;> simp [slotAnswer, misses, apart, conceding, missing]
    · rfl
    · rfl
  · refine (Lookup.outcome_withFallback _ (.static true) "lookup" _ name _ _ w).trans ?_
    rw [Strategy.lookup, first true]
    rcases hm : (r₁.member (runner budget) name).outcome w with ⟨(e | _) | m, w₁⟩
    · cases missing : e.isA .attr with
      | true => simp [slotAnswer, misses, missing, conceding]
      | false =>
          cases refused : e.kind.isAny Kind.refusals with
          | false => simp [slotAnswer, misses, missing, refused]
          | true =>
              -- Where the error was raised the scope is still one.
              have still : IsScope w₁ s r₁ := by
                have := Follows.keeps (n := budget) (follows_member r₁ name) (kept_isScope s r₁) h
                rwa [hm] at this
              simp only [slotAnswer, misses, missing, refused, conceding, Bool.false_eq_true,
                ↓reduceIte, decide_true, Bool.and_self, Bool.or_true]
              exact outcome_lookup_givenOver budget still hn e
    · rfl
    · rfl

/-! ### Through any depth -/

/-- A question **leads down** through scopes to the question of another resolver: the scan of each
resolver on the way, of a certain variant, reaches a scope of the next. Each scope costs two calls
of the budget, one for its hook and one for the hook's work. -/
inductive LeadsDown (through : Variant → Prop) (name : String) :
    Nat → Resolver → World → Nat → Resolver → World → Prop
  | here (budget : Nat) (r : Resolver) (w : World) : LeadsDown through name budget r w budget r w
  | scope {budget budget' i : Nat} {g : Group} {s : ObjectId} {r r₁ r' : Resolver}
      {w w₁ w' : World} :
      (r.variant = .publicOne ∨ r.variant = .privateOne) → through r.variant →
      r.Reaches (r.fetching (runner (budget + 2)) name) w i g (.object s) w₁ → IsScope w₁ s r₁ →
      LeadsDown through name budget r₁ w₁ budget' r' w' →
      LeadsDown through name (budget + 2) r w budget' r' w'

/-- An error that no resolver on the way takes for a miss **leaves them all**. -/
theorem LeadsDown.member_fails {e : Error} {name : String} {budget budget' : Nat}
    {r r' : Resolver} {w w' w₂ : World}
    (h : LeadsDown (misses · e = false) name budget r w budget' r' w')
    (hn : isRestrictedName name = false)
    (hm : (r'.member (runner budget') name).outcome w' = (.error (.raised e), w₂)) :
    (r.member (runner budget) name).outcome w = (.error (.raised e), w₂) := by
  induction h with
  | here => exact hm
  | scope hv loud reached hs _ ih =>
      apply member_of_fails reached
      rw [outcome_fetching_scope _ hv hs hn, ih hm, slotAnswer, if_neg (by simp [loud])]

/-! ### The slot of a scope -/

/-- A world with the scopes of resolvers over objects whose `x` is an attribute, or raises the error
of a missing attribute, or that of a missing key, and with a scope over the last of these scopes. -/
def nested : World :=
  { World.empty with
    classes := #[plainClass 0 "Plain" [],
      plainClass 1 "Lacking" [("x", .property (some 0) none (some "x"))],
      plainClass 2 "Unkeyed" [("x", .property (some 1) none (some "x"))]]
    objects := #[plainObject "plain" 0 [("x", .int 1)], plainObject "lacking" 1 [],
      plainObject "unkeyed" 2 [], ⟨none, .native .scope, none, [], .scope 0⟩,
      ⟨none, .native .scope, none, [], .scope 1⟩, ⟨none, .native .scope, none, [], .scope 2⟩,
      ⟨none, .native .scope, none, [], .scope 3⟩]
    functions := #[plainFunction "Lacking.x" (.body "Lacking.x" (.raise .attr "x")),
      plainFunction "Unkeyed.x" (.body "Unkeyed.x" (.raise .key "x")),
      plainFunction "closure" (.script [])]
    resolvers := #[overNested .publicOne 0, overNested .publicOne 1, overNested .publicOne 2,
      overNested .publicOne 5] }
where
  /-- A resolver over one of the objects. -/
  overNested (variant : Variant) (i : ObjectId) : Resolver :=
    ⟨variant, .fn 2, .none, .iok, [.object i], .module World.kernelModule, none⟩

open nested (overNested)

/-- The scopes of the nested world. -/
theorem isScope_nested {s : ObjectId} {v : Variant} {i : ObjectId}
    (h : s = 3 ∧ v = .publicOne ∧ i = 0 ∨ s = 5 ∧ v = .publicOne ∧ i = 2 ∨
      s = 6 ∧ v = .publicOne ∧ i = 5) : IsScope nested s (overNested v i) := by
  rcases h with ⟨rfl, rfl, rfl⟩ | ⟨rfl, rfl, rfl⟩ | ⟨rfl, rfl, rfl⟩
  · exact ⟨rfl, rfl, 0, rfl, rfl⟩
  · exact ⟨rfl, rfl, 2, rfl, rfl⟩
  · exact ⟨rfl, rfl, 3, rfl, rfl⟩

/-- A resolver over a nested scope reaches it first. -/
theorem reaches_nested (budget : Nat) (v : Variant) (i : ObjectId) :
    (overNested v i).Reaches ((overNested v i).fetching (runner budget) "x") nested 0 .inner
      (.object i) nested := ⟨rfl, Passed.nil _⟩

end Resolver

end OrderedScope
