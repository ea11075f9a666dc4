import OrderedScope.Proofs.Access
import OrderedScope.Proofs.Coercion
import OrderedScope.Proofs.Entry
import OrderedScope.Proofs.Follows.Session
import OrderedScope.Proofs.Sample
import OrderedScope.Proofs.Scanning

/-!
# One Evaluator Behind All Front Ends

A closure is evaluated by a resolver that is made for it. The registry, a capsule that keeps the
closure and a host that evaluates it in itself are ways to such a resolver: each takes the same
steps, wraps the closure, accepts the direction, makes the resolver and runs it, and fails where
these fail. A capsule does the first steps when it is made, and nothing that happens later touches
what it keeps.

## Main results

* `Evaluation.outcome_inContexts`: through the registry, which may have to be scanned first.
* `Capsule.outcome_make_evaluate`, `Capsule.outcome_make_override`: through a capsule made for it.
* `Capsule.outcome_evaluate_given`, `Capsule.outcome_evaluate_default`: through a capsule at hand.
* `Evaluation.outcome_inHost`: through a host.
* `Evaluation.front_ends_agree`: all of them at once.
* `Evaluation.front_ends_differ`: a registry to be scanned, and what only says what it is.
-/

namespace OrderedScope

open Interpreter

/-! ### The registry -/

/-- The **variant** of an evaluation. -/
def Evaluation.variant : Evaluation → Variant
  | .evaluate | .publicMethod .. => .publicOne
  | .evaluatePrivate | .privateMethod .. => .privateOne

namespace World

/-- The registry knows the variants of all evaluations under the names of their visibilities. -/
def Registered (w : World) : Prop :=
  ∀ e : Evaluation, w.registry.find? e.visibility = some e.variant

/-- The registry **offers** the variants of all evaluations: it knows them, and its extension points
have been scanned. -/
structure Offers (w : World) : Prop where
  registered : w.Registered
  scanned : w.registry.loaded = true

/-- A scan keeps the variants that are known. -/
theorem Registered.offers_scanned {w : World} (h : w.Registered) : w.scanned.Offers := by
  rw [scanned, Registry.load]
  split
  · rename_i loaded
    exact ⟨h, loaded⟩
  · exact ⟨fun e => w.registry.scanPoints_keeps (h e), rfl⟩

end World

variable {run : Runner} {w w₁ : World}

/-- The variant of an evaluation is found where it is registered; the extension points are scanned
first. -/
theorem outcome_requireVariant_bind {α : Type} (h : w.Registered) (e : Evaluation)
    (f : Variant → Run α) :
    (requireVariant run (.str e.visibility) >>= f).outcome w =
      (do
        let _ ← loadRegistry
        f e.variant : Run α).outcome w := by
  obtain ⟨result, loads⟩ : ∃ result, loadRegistry.outcome w = (result, w.scanned) :=
    ⟨_, outcome_loadRegistry w⟩
  cases result with
  | error fault =>
    rw [Run.outcome_bind_of_error loads, requireVariant, findVariant, bind_assoc, bind_assoc,
      Run.outcome_bind_of_error loads]
  | ok names =>
    have found :
        (requireVariant run (.str e.visibility)).outcome w = (.ok e.variant, w.scanned) := by
      rw [requireVariant, findVariant, bind_assoc, Run.outcome_bind_of_ok loads,
        Run.outcome_bind_of_ok (Run.outcome_reading _ _), h.offers_scanned.registered e]
      rfl
    rw [Run.outcome_bind_of_ok found, Run.outcome_bind_of_ok loads]

/-- A registry that offers the variant of an evaluation gives it, and nothing else happens. -/
theorem World.Offers.outcome_requireVariant (h : w.Offers) (e : Evaluation) :
    (requireVariant run (.str e.visibility)).outcome w = (.ok e.variant, w) := by
  have found : (requireVariant run (.str e.visibility) >>= pure).outcome w = _ :=
    outcome_requireVariant_bind h.registered e pure
  rw [bind_pure, Run.outcome_bind_of_ok (outcome_loadRegistry_of_scanned h.scanned)] at found
  exact found

/-! ### A resolver made for it -/

/-- **Evaluates** with a resolver that is made for the closure. -/
def Evaluation.directly (run : Runner) (e : Evaluation) (closure : Value) (s : Setup) :
    Run Value := do
  e.perform run (← Resolver.make run e.variant closure s)

/-- Through the registry an evaluation is the same; the extension points are scanned first. -/
theorem Evaluation.outcome_inContexts (h : w.Registered) (e : Evaluation) (closure : Value)
    (s : Setup) :
    (e.inContexts run closure s).outcome w =
      (do
        let _ ← loadRegistry
        e.directly run closure s).outcome w := by
  rw [inContexts, Resolver.ofVisibility, bind_assoc, outcome_requireVariant_bind h]
  rfl

/-- The **steps** of an evaluation: the closure is wrapped, the direction is accepted, and a
resolver is made and used. Something else may be done with the wrapped closure, and with both. -/
def Evaluation.inSteps (run : Runner) (e : Evaluation) (closure : Value) (s : Setup)
    (wrapped : KeptClosure → Run Unit) (directed : KeptClosure → Value → Run Unit) :
    Run Value := do
  let c ← Closure.wrap run closure
  wrapped c
  let x ← Direction.accept run s.direction
  directed c x
  e.perform run (← Resolver.ofAccepted run e.variant c x s)

/-- A resolver is made and used in the **steps** of an evaluation, and nothing else is done. -/
theorem Evaluation.directly_eq_inSteps (run : Runner) (e : Evaluation) (closure : Value)
    (s : Setup) :
    e.directly run closure s =
      e.inSteps run closure s (fun _ => pure ()) (fun _ _ => pure ()) := by
  simp only [directly, Resolver.make, Resolver.ofClosure, inSteps, bind_assoc, pure_bind]

/-- A value is **settled** as a direction: it is accepted as it is, in every world, and nothing is
done to find that out. -/
def Direction.Settled (run : Runner) (x : Value) : Prop :=
  ∀ w : World, (accept run x).outcome w = (.ok x, w)

/-- The six directions are settled. -/
theorem Direction.settled_value (run : Runner) (d : Direction) : Settled run d.value := by
  intro w
  rw [accept_value, Run.outcome_pure]

/-- A resolver is made with a settled direction as with one that **was accepted**. -/
theorem Resolver.outcome_ofClosure_settled {x : Value} (settled : Direction.Settled run x)
    (variant : Variant) (c : KeptClosure) (s : Setup) (w : World) :
    (ofClosure run variant c { s with direction := x }).outcome w =
      (ofAccepted run variant c x s).outcome w := by
  rw [ofClosure, Run.outcome_bind_of_ok (settled w)]
  rfl

/-! ### Capsules -/

/-- Wrapping a value **yields parts** of a closure: the value does not merely say that it is one. -/
def Closure.YieldsParts (run : Runner) (w : World) (v : Value) : Prop :=
  ∀ c w₁, (wrap run v).outcome w = (.ok c, w₁) → ∃ p, c = .parts p

namespace Capsule

/-- Puts a capsule into the world. -/
def store (c : Capsule) : Run Unit := modify fun w => { w with capsules := w.capsules.push c }

/-- A capsule is found **at its place**. -/
theorem outcome_capsuleAt {id : CapsuleId} {c : Capsule} (h : w.capsules[id]? = some c) :
    (capsuleAt id).outcome w = (.ok c, w) := by
  rw [capsuleAt, Run.outcome_bind_of_ok (Run.outcome_reading _ w), h]
  rfl

/-- The name of a visibility is not empty. -/
theorem truthy_visibility (run : Runner) (e : Evaluation) :
    (Value.str e.visibility).truthy run = pure true := by
  cases e <;> rfl

section Use

variable (h : w.Offers) (c : Capsule) (e : Evaluation) (inner : List Value)
include h

/-- With a direction a capsule evaluates its closure by a resolver that is **made for it**. -/
theorem outcome_evaluate_given {d : Value} (hd : d ≠ .none) :
    (c.evaluate run e inner d).outcome w =
      (do e.perform run (← Resolver.ofClosure run e.variant (← c.closure.again run)
        ⟨inner, d, c.kernel, c.observer⟩) : Run Value).outcome w := by
  rw [evaluate, resolver.eq_def, truthy_visibility]
  simp only [pure_bind, ↓reduceIte, bind_assoc]
  rw [Run.outcome_bind_of_ok (h.outcome_requireVariant e)]

/-- Without one it does so by its **default** direction. -/
theorem outcome_evaluate_default :
    (c.evaluate run e inner .none).outcome w =
      (do e.perform run (← Resolver.ofClosure run e.variant (← c.closure.again run)
        ⟨inner, c.direction, c.kernel, c.observer⟩) : Run Value).outcome w := by
  rw [evaluate, resolver.eq_def, truthy_visibility]
  simp only [pure_bind, ↓reduceIte, bind_assoc]
  rw [Run.outcome_bind_of_ok (h.outcome_requireVariant e)]

end Use

/-- A capsule is **made** by the first steps of an evaluation, and kept. -/
theorem outcome_make (h : w.Offers) (closure : Value) (s : Setup) :
    (make run closure (.str "public") s).outcome w = (do
      let c ← Closure.wrap run closure
      let x ← Direction.accept run s.direction
      let id ← Run.reading (·.capsules.size)
      store ⟨c, x, "public", s.kernel, s.observer⟩
      pure id : Run CapsuleId).outcome w := by
  have found : (requireVariant run (.str "public")).outcome w = (.ok .publicOne, w) :=
    h.outcome_requireVariant .evaluate
  unfold make
  split
  · rfl
  · rw [Run.outcome_bind_of_ok found]
    rfl

/-- What is done with a capsule that has just been stored is done with **that capsule**. -/
theorem outcome_stored {α : Type} (c : Capsule) (f : Capsule → Run α) (w : World) :
    (do
      let id ← Run.reading (·.capsules.size)
      c.store
      f (← capsuleAt id) : Run α).outcome w = (do
      c.store
      f c : Run α).outcome w := by
  rw [Run.outcome_bind_of_ok (Run.outcome_reading _ w), store,
    Run.outcome_bind_of_ok (Run.outcome_modify _ w),
    Run.outcome_bind_of_ok (Run.outcome_modify _ w),
    Run.outcome_bind_of_ok (outcome_capsuleAt (by simp : _ = some c))]

/-- Storing a capsule leaves the registry alone. -/
theorem store_offers (h : w.Offers) (c : Capsule) :
    World.Offers { w with capsules := w.capsules.push c } := ⟨h.registered, h.scanned⟩

section Made

variable (e : Evaluation) {closure d : Value} (inner : List Value) (kernel : Value)
  (observer : Option Observer)

/-- A capsule that is made with a direction and then evaluates takes the **steps** of an evaluation,
if what was accepted is settled; it is stored when the closure is wrapped and the direction
accepted. -/
theorem outcome_make_evaluate (h : w.Offers) (parts : Closure.YieldsParts run w closure)
    (still : ∀ c w₁ x w₂, (Closure.wrap run closure).outcome w = (.ok c, w₁) →
      (Direction.accept run d).outcome w₁ = (.ok x, w₂) →
      w₂.Offers ∧ Direction.Settled run x) :
    (do
      let id ← make run closure (.str "public") ⟨[], d, kernel, observer⟩
      (← capsuleAt id).evaluate run e inner .none : Run Value).outcome w =
    (e.inSteps run closure ⟨inner, d, kernel, observer⟩ (fun _ => pure ()) fun c x =>
      store ⟨c, x, "public", kernel, observer⟩).outcome w := by
  rw [Run.outcome_bind_congr (outcome_make h closure _) fun _ _ _ => rfl, Evaluation.inSteps]
  simp only [bind_assoc, pure_bind]
  refine Run.outcome_bind_congr rfl fun c w₁ wrapped => ?_
  obtain ⟨p, rfl⟩ := parts c w₁ wrapped
  refine Run.outcome_bind_congr rfl fun x w₂ accepted => ?_
  obtain ⟨offers, settled⟩ := still _ w₁ x w₂ wrapped accepted
  rw [outcome_stored]
  refine Run.outcome_bind_congr rfl fun _ w₃ stored => ?_
  obtain rfl : w₃ = { w₂ with capsules := _ } := (congrArg Prod.snd stored).symm
  rw [outcome_evaluate_default (store_offers offers _) _ e inner, KeptClosure.again, pure_bind]
  exact Run.outcome_bind_congr (Resolver.outcome_ofClosure_settled settled e.variant (.parts p)
    ⟨inner, d, kernel, observer⟩ _) fun _ _ _ => rfl

/-- A capsule that is made and then evaluates with a direction of its own takes the **steps** of an
evaluation; it is stored when the closure is wrapped. -/
theorem outcome_make_override (h : w.Offers) (parts : Closure.YieldsParts run w closure)
    (hd : d ≠ .none) (default : Direction)
    (still : ∀ c w₁, (Closure.wrap run closure).outcome w = (.ok c, w₁) → w₁.Offers) :
    (do
      let id ← make run closure (.str "public") ⟨[], default.value, kernel, observer⟩
      (← capsuleAt id).evaluate run e inner d : Run Value).outcome w =
    (e.inSteps run closure ⟨inner, d, kernel, observer⟩
      (fun c => store ⟨c, default.value, "public", kernel, observer⟩)
      fun _ _ => pure ()).outcome w := by
  rw [Run.outcome_bind_congr (outcome_make h closure _) fun _ _ _ => rfl, Evaluation.inSteps]
  simp only [bind_assoc, pure_bind, Direction.accept_value]
  refine Run.outcome_bind_congr rfl fun c w₁ wrapped => ?_
  obtain ⟨p, rfl⟩ := parts c w₁ wrapped
  rw [outcome_stored]
  refine Run.outcome_bind_congr rfl fun _ w₂ stored => ?_
  obtain rfl : w₂ = { w₁ with capsules := _ } := (congrArg Prod.snd stored).symm
  rw [outcome_evaluate_given (store_offers (still _ w₁ wrapped) _) _ e inner hd,
    KeptClosure.again, pure_bind, Resolver.ofClosure, bind_assoc]

end Made

end Capsule

/-! ### Capsules at hand -/

namespace Direction

/-- What is accepted for a value is the value itself, or it is **accepted again** later, and nothing
is done to find that out then. -/
def AcceptedAgain (run : Runner) (v : Value) (w w₂ : World) : Prop :=
  ∀ x w₁, (accept run v).outcome w = (.ok x, w₁) → x = v ∨ (accept run v).outcome w₂ = (.ok x, w₂)

/-- What was accepted for a value that is accepted again is accepted **as the value is** then. -/
theorem AcceptedAgain.outcome_accept {v x : Value} {w₂ : World} (again : AcceptedAgain run v w w₂)
    (accepted : (accept run v).outcome w = (.ok x, w₁)) :
    (accept run x).outcome w₂ = (accept run v).outcome w₂ := by
  rcases again x w₁ accepted with rfl | later
  · rfl
  · rcases eq_of_take? (outcome_accept_ok_iff.1 accepted) with rfl | ⟨d, rfl⟩
    · rfl
    · rw [later, accept_value, Run.outcome_pure]

/-- A group or a text. -/
inductive IsName : Value → Prop
  | group (g : Group) : IsName (.group g)
  | text (s : String) : IsName (.str s)

/-- A value that is **written** with groups and texts: a text, or a direction or a list of groups
and texts. -/
inductive Written (w : World) : Value → Prop
  | text (s : String) : Written w (.str s)
  | direction {entries : List Value} : (∀ x ∈ entries, IsName x) → Written w (.direction entries)
  | list {items : List Value} : (∀ x ∈ items, IsName x) → Written w (.list items)
  | tuple {items : List Value} : (∀ x ∈ items, IsName x) → Written w (.tuple items)
  | growing {i : GrowingId} : (∀ x ∈ (w.growing[i]?).getD [], IsName x) → Written w (.growing i)

/-- What a group or a text names **does not depend** on the world. -/
theorem IsName.content?_eq {x : Value} (h : IsName x) (w w₂ : World) :
    w.content? x = w₂.content? x := by
  cases h <;> rfl

/-- Groups and texts are keyed plainly. -/
theorem IsName.keyedPlainly {x : Value} (h : IsName x) (w : World) : w.KeyedPlainly 0 x := by
  cases h <;> exact .single (World.plainKey_of_native rfl) rfl

/-- Whether groups and texts have the names of some groups does not depend on the world. -/
theorem named_congr {items : List Value} {groups : List Group} (names : ∀ x ∈ items, IsName x)
    (w w₂ : World) : Value.Named w₂ items groups ↔ Value.Named w items groups := by
  have contents : items.map w₂.content? = items.map w.content? :=
    List.map_congr_left fun x within => (names x within).content?_eq w₂ w
  rw [Value.Named, Value.Named, contents]

namespace Written

variable {v : Value} {w₂ : World}

/-- What is written with groups and texts is **plain**. -/
theorem plain (h : Written w v) : Plain w 0 v where
  entries := by
    rintro entries rfl x within content
    cases h with
    | direction names => cases names x within <;> cases content
  items := by
    intro items listed x within
    cases h with
    | list names | tuple names | growing names =>
      cases listed
      exact (names x within).keyedPlainly w
    | _ => cases listed
  entity := by rintro (⟨i, rfl⟩ | ⟨c, rfl⟩) <;> cases h

variable (h : Written w v) (same : ∀ i, v = .growing i → w₂.growing[i]? = w.growing[i]?)
include h same

/-- What is written with groups and texts **stays so**; a list that grows must still have its
items. -/
theorem stays : Written w₂ v := by
  cases h with
  | text s => exact .text s
  | direction names => exact .direction names
  | list names => exact .list names
  | tuple names => exact .tuple names
  | growing names => exact .growing (same _ rfl ▸ names)

/-- What is written with groups and texts **passes for the same** in another world. -/
theorem passes_iff (d : Direction) : Passes w₂ d v ↔ Passes w d v := by
  cases h with
  | text s => rw [passes_word_iff rfl, passes_word_iff rfl]
  | direction names =>
    rw [passes_direction_iff, passes_direction_iff]
    exact named_congr names w w₂
  | list names | tuple names =>
    rw [passes_list_iff rfl, passes_list_iff rfl]
    exact named_congr names w w₂
  | @growing i names =>
    have listed : listed? w₂ (.growing i) = listed? w (.growing i) := by
      rw [listed?, listed?, same i rfl]
    rw [passes_list_iff (listed.trans rfl), passes_list_iff rfl]
    exact named_congr names w w₂

/-- What is accepted for what is written with groups and texts is accepted in **another world** as
well, and nothing is done there. -/
theorem outcome_accept {n : Nat} {x : Value}
    (accepted : (accept (runner n) v).outcome w = (.ok x, w₁)) :
    (accept (runner n) v).outcome w₂ = (.ok x, w₂) := by
  obtain ⟨rfl, d, passes, rfl⟩ := (outcome_accept_iff h.plain n.zero_le).1 accepted
  exact (outcome_accept_iff (h.stays same).plain n.zero_le).2
    ⟨rfl, d, (h.passes_iff same d).2 passes, rfl⟩

end Written

/-- What is accepted for what is written with groups and texts **is settled**. -/
theorem Written.settled {n : Nat} {v x : Value} (h : Written w v)
    (accepted : (accept (runner n) v).outcome w = (.ok x, w₁)) : Settled (runner n) x := by
  obtain ⟨rfl, d, passes, rfl⟩ := (outcome_accept_iff h.plain n.zero_le).1 accepted
  cases id h with
  | direction names =>
    intro w₂
    exact h.outcome_accept (by rintro i ⟨⟩) accepted
  | _ => exact settled_value _ d

end Direction

/-- The resolver that is made for a closure has **its parts**, and the direction that was found. -/
theorem Resolver.of_ofClosure {variant : Variant} {c : Closure} {s : Setup} {id : ResolverId}
    (h : (ofClosure run variant (.parts c) s).outcome w = (.ok id, w₁)) :
    ∃ d w₂, (Direction.coerce run s.direction).outcome w = (.ok d, w₂) ∧
      w₁.resolvers[id]? =
        some ⟨variant, c.fn, c.outer, d, s.inner, kernelOf s.kernel, s.observer⟩ := by
  simp only [ofClosure, ofAccepted, KeptClosure.outer, KeptClosure.fn, pure_bind] at h
  rw [← bind_assoc] at h
  obtain ⟨d, w₂, found, made⟩ := Run.outcome_bind_ok_iff.1 h
  rw [Run.outcome_bind_of_ok (Run.outcome_log ..),
    Run.outcome_bind_of_ok (Run.outcome_reading _ _)] at made
  cases made
  exact ⟨d, w₂, found, Array.getElem?_push_size⟩

namespace World

/-- A value **is a closure**: an object that was made of it. -/
def IsClosure (w : World) (v : Value) (c : Closure) : Prop :=
  ∃ i o, v = .object i ∧ w.objects[i]? = some o ∧ o.cls = .native .closure ∧
    o.payload = .closure c.fn c.outer

/-- A closure that is made an object is one. -/
theorem isClosure_toValue {c : Closure} {v : Value}
    (h : c.toValue.outcome w = (.ok v, w₁)) : w₁.IsClosure v c := by
  cases h
  exact ⟨w.objects.size, _, rfl, Array.getElem?_push_size, rfl, rfl⟩

/-- A closure **stays** the closure that it is. -/
theorem kept_isClosure (v : Value) (c : Closure) : Kept (IsClosure · v c) where
  ambient _ h := h
  change hc h := by
    obtain ⟨i, o, hv, ho, cls, payload⟩ := h
    obtain ⟨o', ho', cls', payload', -⟩ := hc.object_stays ho
    exact ⟨i, o', hv, ho', cls'.trans cls, payload'.trans payload⟩

/-- A closure is wrapped as it is. -/
theorem IsClosure.outcome_wrap {v : Value} {c : Closure} (h : w.IsClosure v c) :
    (Closure.wrap run v).outcome w = (.ok (.parts c), w) := by
  obtain ⟨i, o, rfl, ho, cls, payload⟩ := h
  have isInstance : (Attribute.isInstance run (.object i) (.native .closure)).outcome w
      = (.ok true, w) := by
    have below : w.isSubclass (w.classOf (.object i)) (.native .closure) = true := by
      simp only [World.classOf, ho, Option.elim_some, cls]
      rfl
    rw [Attribute.isInstance, Run.outcome_bind_of_ok (Run.outcome_get w), if_pos below]
    rfl
  have parts : Closure.parts? w (.object i) = some c := by
    simp only [Closure.parts?, World.payload?, ho, payload, Option.map_some]
  rw [Closure.wrap, Run.outcome_bind_of_ok isInstance, Run.outcome_bind_of_ok (Run.outcome_get w),
    parts]
  · rfl
  · rintro ⟨⟩

/-- What is wrapped as it is **yields parts**. -/
theorem IsClosure.yieldsParts {v : Value} {c : Closure} (h : w.IsClosure v c) :
    Closure.YieldsParts run w v := by
  intro kept w₁ wrapped
  cases h.outcome_wrap.symm.trans wrapped
  exact ⟨c, rfl⟩

end World

/-- Evaluating a closure directly makes a resolver of its parts. -/
theorem Evaluation.outcome_directly {v : Value} {c : Closure} (h : w.IsClosure v c) (e : Evaluation)
    (s : Setup) :
    (e.directly run v s).outcome w =
      (do e.perform run (← Resolver.ofClosure run e.variant (.parts c) s) : Run Value).outcome
        w := by
  rw [directly, Resolver.make, bind_assoc, Run.outcome_bind_of_ok h.outcome_wrap]

namespace Capsule

/-- What a capsule of a closure **keeps** when it is made. -/
theorem stored_of_make {v d : Value} {c : Closure} {inner : List Value} {kernel : Value}
    {observer : Option Observer} {id : CapsuleId} (h : w.Offers) (hv : w.IsClosure v c)
    (made : (make run v (.str "public") ⟨inner, d, kernel, observer⟩).outcome w = (.ok id, w₁)) :
    ∃ x w₂, (Direction.accept run d).outcome w = (.ok x, w₂) ∧
      w₁ = { w₂ with capsules :=
        w₂.capsules.push ⟨.parts c, x, "public", kernel, observer⟩ } ∧
      w₁.capsules[id]? = some ⟨.parts c, x, "public", kernel, observer⟩ := by
  rw [outcome_make h, Run.outcome_bind_of_ok hv.outcome_wrap] at made
  obtain ⟨x, w₂, accepted, stored⟩ := Run.outcome_bind_ok_iff.1 made
  cases stored
  exact ⟨x, w₂, accepted, rfl, Array.getElem?_push_size⟩

/-- A capsule of a closure **serves every time alike**: whatever has happened since it was made, it
evaluates as a resolver does that is made then. -/
theorem outcome_evaluate_later {n : Nat} {v d : Value} {c : Closure}
    {kernel : Value} {observer : Option Observer} {id : CapsuleId} {w₂ : World} (h : w.Offers)
    (hv : w.IsClosure v c)
    (made : (make (runner n) v (.str "public") ⟨[], d, kernel, observer⟩).outcome w = (.ok id, w₁))
    (since : Course (runner n) w₁ w₂) (h₂ : w₂.Offers) (e : Evaluation)
    (inner : List Value) :
    (∀ d₂, d₂ ≠ .none →
      (do (← capsuleAt id).evaluate (runner n) e inner d₂ : Run Value).outcome w₂ =
        (e.directly (runner n) v ⟨inner, d₂, kernel, observer⟩).outcome w₂) ∧
    (Direction.AcceptedAgain (runner n) d w w₂ →
      (do (← capsuleAt id).evaluate (runner n) e inner .none : Run Value).outcome w₂ =
        (e.directly (runner n) v ⟨inner, d, kernel, observer⟩).outcome w₂) := by
  obtain ⟨x, w', accepted, rfl, stored⟩ := stored_of_make h hv made
  have keeps {P : World → Prop} (hP : Kept P) {w w' : World} (course : Course (runner n) w w') :
      P w → P w' := hP.course course fun t _ => runner_keeps hP n t
  have stored₂ : w₂.capsules[id]? = some ⟨.parts c, x, "public", kernel, observer⟩ :=
    keeps (P := fun w => w.capsules[id]? = _) ⟨fun hc => hc.capsule_stays, fun _ h => h⟩ since
      stored
  have accepting : Course (runner n) w w' := by
    have goes : Course (runner n) w ((Direction.accept (runner n) d).outcome w).2 :=
      (Direction.follows_accept d).goes w
    rwa [accepted] at goes
  have hv' : w'.IsClosure v c := keeps (World.kept_isClosure v c) accepting hv
  have hv₂ : w₂.IsClosure v c := keeps (World.kept_isClosure v c) since hv'
  refine ⟨fun d₂ hd => ?_, fun again => ?_⟩
  · rw [Run.outcome_bind_of_ok (outcome_capsuleAt stored₂), outcome_evaluate_given h₂ _ e inner hd,
      Evaluation.outcome_directly hv₂, KeptClosure.again, pure_bind]
  · rw [Run.outcome_bind_of_ok (outcome_capsuleAt stored₂), outcome_evaluate_default h₂,
      Evaluation.outcome_directly hv₂, KeptClosure.again, pure_bind]
    refine Run.outcome_bind_congr ?_ fun _ _ _ => rfl
    exact Run.outcome_bind_congr (again.outcome_accept accepted) fun _ _ _ => rfl

end Capsule

/-! ### Hosts -/

/-- Evaluates a closure in a **host**: its method is read and called. -/
def Evaluation.inHost (run : Runner) (e : Evaluation) (host closure direction : Value) :
    Run Value := do
  let method ← Attribute.get run host (Session.hostMethod e).name
  run (.call method (Session.hostArgs e ++ [closure]) [("direction", direction)])

/-- A value **hosts** an evaluation: no hook stands in front of access to it, and access to the
method of the evaluation uses the function of a host class, bound to the value. -/
structure World.Hosts (w : World) (v : Value) (e : Evaluation) (default : Direction) : Prop where
  front : w.frontHook? v = none
  method : ∃ f r owner,
    w.used? v (Session.hostMethod e).name = some (.member (.fn f) (some v) owner) ∧
    w.functions[f]? = some r ∧ r.code = .host (Session.hostMethod e) default

/-- The arguments of a host's method are placed. -/
theorem hostArguments_placed (shown : String) (e : Evaluation) (closure direction : Value) :
    hostArguments shown (Session.hostMethod e) (Session.hostArgs e ++ [closure])
        [("direction", direction)] =
      pure ((hostParameters (Session.hostMethod e)).zip
        (Session.hostArgs e ++ [closure, direction])) := by
  cases e <;> rfl

/-- A host's method evaluates with the **host as the only inner context**. -/
theorem callHost_eq (run : Runner) (shown : String) (e : Evaluation) (default : Direction)
    (host closure : Value) {d : Value} (hd : d ≠ .none) :
    callHost run shown (Session.hostMethod e) default
        (host :: (Session.hostArgs e ++ [closure])) [("direction", d)] =
      e.inContexts run closure ⟨[host], d, .none, none⟩ := by
  have closure_given : Members.find? ((hostParameters (Session.hostMethod e)).zip
      (Session.hostArgs e ++ [closure, d])) "closure" = some closure := by cases e <;> rfl
  have direction_given : Members.find? ((hostParameters (Session.hostMethod e)).zip
      (Session.hostArgs e ++ [closure, d])) "direction" = some d := by cases e <;> rfl
  rw [callHost, hostArguments_placed, pure_bind]
  simp only [closure_given, direction_given, Option.getD_some]
  cases e <;> rfl

/-- Through a **host** an evaluation is the same as through the registry; its call and the call of
the method that it is bound to take two units of the budget. -/
theorem Evaluation.outcome_inHost {n : Nat} {v d : Value} {e : Evaluation} {default : Direction}
    (h : w.Hosts v e default) (closure : Value) (hd : d ≠ .none) :
    (e.inHost (runner (n + 2)) v closure d).outcome w =
      (e.inContexts (runner n) closure ⟨[v], d, .none, none⟩).outcome w := by
  obtain ⟨f, r, owner, used, function, code⟩ := h.method
  have method : (Attribute.get (runner (n + 2)) v (Session.hostMethod e).name).outcome w
      = (.ok (.bound (.fn f) v), w) :=
    Attribute.get_of_standardGet h.front (Attribute.outcome_standardGet_of_used used rfl)
  have called : runner (n + 2) (.call (.bound (.fn f) v) (Session.hostArgs e ++ [closure])
      [("direction", d)]) = callFunction (runner n) f (v :: (Session.hostArgs e ++ [closure]))
      [("direction", d)] := rfl
  rw [inHost, Run.outcome_bind_of_ok method, called, callFunction,
    Run.outcome_bind_of_ok (Run.outcome_reading _ w), function]
  simp only [code]
  rw [callHost_eq (runner n) r.name e default v closure hd]

/-! ### All front ends -/

/-- **All front ends are the same evaluator**, for any closure or other value in its place, any
contexts, any direction that is given, any kernel and any observer.

A resolver that is made for the closure wraps it, accepts the direction, and is used: these steps
and no others. Through the registry the same happens once the extension points have been scanned,
which the first question to the registry does. A capsule that is made for the closure, with the
direction or with another that is overridden, takes the same steps, and is stored on the way; it
fails where they fail, unless the closure or the direction is a value that only says that it is one,
which a capsule asks anew each time. A capsule of a closure that exists does at any later time what
a resolver does that is made then, whatever has happened since, calls that failed included; by its
default direction it does so if the value that the direction was accepted for is that direction or
is accepted as the same again, as what is written with groups and texts always is. A host does what
the registry does with the host as the only inner context. -/
theorem Evaluation.front_ends_agree (n : Nat) (e : Evaluation) (closure d : Value)
    (inner : List Value) (kernel : Value) (observer : Option Observer) (hd : d ≠ .none) :
    (e.directly (runner n) closure ⟨inner, d, kernel, observer⟩ =
      e.inSteps (runner n) closure ⟨inner, d, kernel, observer⟩ (fun _ => pure ())
        fun _ _ => pure ()) ∧
    (∀ w : World, w.Registered →
      (e.inContexts (runner n) closure ⟨inner, d, kernel, observer⟩).outcome w =
        (do
          let _ ← loadRegistry
          e.directly (runner n) closure ⟨inner, d, kernel, observer⟩).outcome w ∧
      (∃ result, loadRegistry.outcome w = (result, w.scanned)) ∧ w.scanned.Offers) ∧
    (∀ w : World, w.Offers →
      (e.inContexts (runner n) closure ⟨inner, d, kernel, observer⟩).outcome w =
        (e.directly (runner n) closure ⟨inner, d, kernel, observer⟩).outcome w) ∧
    (∀ w : World, w.Offers → Closure.YieldsParts (runner n) w closure →
      (∀ c w₁ x w₂, (Closure.wrap (runner n) closure).outcome w = (.ok c, w₁) →
        (Direction.accept (runner n) d).outcome w₁ = (.ok x, w₂) →
        w₂.Offers ∧ Direction.Settled (runner n) x) →
      (do
        let id ← Capsule.make (runner n) closure (.str "public") ⟨[], d, kernel, observer⟩
        (← capsuleAt id).evaluate (runner n) e inner .none : Run Value).outcome w =
      (e.inSteps (runner n) closure ⟨inner, d, kernel, observer⟩ (fun _ => pure ()) fun c x =>
        Capsule.store ⟨c, x, "public", kernel, observer⟩).outcome w) ∧
    (∀ (w : World) (default : Direction), w.Offers → Closure.YieldsParts (runner n) w closure →
      (∀ c w₁, (Closure.wrap (runner n) closure).outcome w = (.ok c, w₁) → w₁.Offers) →
      (do
        let id ← Capsule.make (runner n) closure (.str "public")
          ⟨[], default.value, kernel, observer⟩
        (← capsuleAt id).evaluate (runner n) e inner d : Run Value).outcome w =
      (e.inSteps (runner n) closure ⟨inner, d, kernel, observer⟩
        (fun c => Capsule.store ⟨c, default.value, "public", kernel, observer⟩)
        fun _ _ => pure ()).outcome w) ∧
    (∀ (w w₁ w₂ : World) (c : Closure) (d₀ : Value) (id : CapsuleId), w.Offers →
      w.IsClosure closure c →
      (Capsule.make (runner n) closure (.str "public") ⟨[], d₀, kernel, observer⟩).outcome w
        = (.ok id, w₁) →
      Course (runner n) w₁ w₂ → w₂.Offers →
      (do (← capsuleAt id).evaluate (runner n) e inner d : Run Value).outcome w₂ =
        (e.directly (runner n) closure ⟨inner, d, kernel, observer⟩).outcome w₂ ∧
      (d₀ = d → Direction.AcceptedAgain (runner n) d w w₂ →
        (do (← capsuleAt id).evaluate (runner n) e inner .none : Run Value).outcome w₂ =
          (e.directly (runner n) closure ⟨inner, d, kernel, observer⟩).outcome w₂)) ∧
    (∀ w w₂ : World, Direction.Written w d →
      (∀ i, d = .growing i → w₂.growing[i]? = w.growing[i]?) →
      Direction.AcceptedAgain (runner n) d w w₂) ∧
    (∀ (w w₁ : World) (x : Value), Direction.Written w d →
      (Direction.accept (runner n) d).outcome w = (.ok x, w₁) → Direction.Settled (runner n) x) ∧
    (∀ (w : World) (c : Command),
      Course (runner n) w ((Session.execute (runner n) c).outcome w).2) ∧
    (∀ (w : World) (k : Capsule) (e' : Evaluation) (inner' : List Value) (d' : Value),
      Course (runner n) w ((k.evaluate (runner n) e' inner' d').outcome w).2) ∧
    ∀ (w : World) (host : Value) (default : Direction), w.Offers → w.Hosts host e default →
      (e.inHost (runner (n + 2)) host closure d).outcome w =
        (e.directly (runner n) closure ⟨[host], d, .none, none⟩).outcome w := by
  have registered (w : World) (h : w.Offers) (s : Setup) :
      (e.inContexts (runner n) closure s).outcome w =
        (e.directly (runner n) closure s).outcome w := by
    rw [outcome_inContexts h.registered,
      Run.outcome_bind_of_ok (outcome_loadRegistry_of_scanned h.scanned)]
  refine ⟨directly_eq_inSteps _ e closure _, fun w h => ?_, fun w h => registered w h _,
    fun w h parts still => ?_, fun w default h parts still => ?_,
    fun w w₁ w₂ c d₀ id h hv made since h₂ => ?_,
    fun w w₂ written same x w₁ accepted => .inr (written.outcome_accept same accepted),
    fun w w₁ x written accepted => written.settled accepted,
    fun w c => (Session.follows_execute c).goes w,
    fun w k e' inner' d' => (Capsule.follows_evaluate k e' inner' d').goes w,
    fun w host default h hosts => ?_⟩
  · exact ⟨outcome_inContexts h e closure _, ⟨_, outcome_loadRegistry w⟩, h.offers_scanned⟩
  · exact Capsule.outcome_make_evaluate e inner kernel observer h parts still
  · exact Capsule.outcome_make_override e inner kernel observer h parts hd default still
  · obtain ⟨given, kept⟩ := Capsule.outcome_evaluate_later h hv made since h₂ e inner
    refine ⟨given d hd, ?_⟩
    rintro rfl again
    exact kept again
  · rw [outcome_inHost hosts closure hd, registered w h]

/-- A world with a host that holds 7 under `x`, and a closure whose body reads `x` of its scope. -/
def World.hosting : World :=
  { World.empty with
    classes := #[
      plainClass 0 "Form" [("evaluate", .fn 0)]]
    objects := #[
      plainObject "form" 0 [("x", .int 7)],
      ⟨none, .native .closure, some [], [], .closure (.fn 1) .none⟩]
    functions := #[
      plainFunction "evaluate" (.host .evaluate .iok),
      plainFunction "body" (.silent (.self "x"))]
    registry := { Registry.initial with loaded := true } }

/-- The world of hosts offers its variants. -/
theorem World.offers_hosting : World.hosting.Offers :=
  ⟨fun e => by cases e <;> rfl, rfl⟩

/-- A capsule of that closure. -/
def Capsule.hosted : Capsule :=
  ⟨.parts ⟨.fn 1, .none⟩, Direction.oik.value, "public", .none, none⟩

/-- The world with that capsule. -/
def World.withHosted : World := { World.hosting with capsules := #[.hosted] }

/-- The world after a call of that capsule that failed: no context holds `x`. -/
def World.afterFailure : World :=
  ((Capsule.hosted.evaluate (runner 8) .evaluate [] .none).outcome .withHosted).2

/-- The host gives 7 for the closure in itself, and so do the registry, a capsule made for it, and
the capsule after a call that failed. -/
theorem Evaluation.front_ends_agree_hosting :
    Value.str "oik" ≠ .none ∧
    ((evaluate.inContexts (runner 8) (.object 1) ⟨[.object 0], .str "oik", .none, none⟩).outcome
      .hosting).1 = .ok (.int 7) ∧
    ((evaluate.inHost (runner 10) (.object 0) (.object 1) (.str "oik")).outcome .hosting).1
      = .ok (.int 7) ∧
    ((do
      let id ← Capsule.make (runner 8) (.object 1) (.str "public") ⟨[], .str "oik", .none, none⟩
      (← capsuleAt id).evaluate (runner 8) .evaluate [.object 0] .none : Run Value).outcome
        .hosting).1 = .ok (.int 7) ∧
    ((Capsule.hosted.evaluate (runner 8) .evaluate [] .none).outcome .withHosted).1
      = .error (.raised (.unresolved "x" (some "OIK") (some "public"))) ∧
    ((do (← capsuleAt 0).evaluate (runner 8) .evaluate [.object 0] .none : Run Value).outcome
      .afterFailure).1 = .ok (.int 7) := by
  have agree := front_ends_agree 8 .evaluate (.object 1) (.str "oik") [.object 0] .none none nofun
  obtain ⟨-, -, registered, fresh, -, later, again, settled, -, calls, host⟩ := agree
  have closure : World.hosting.IsClosure (.object 1) ⟨.fn 1, .none⟩ := ⟨1, _, rfl, rfl, rfl, rfl⟩
  have hosts : World.hosting.Hosts (.object 0) .evaluate .iok :=
    ⟨by decide +kernel, 0, _, .world 0, rfl, rfl, rfl⟩
  have failed := Run.eq_of_failed (e := .unresolved "x" (some "OIK") (some "public"))
    (o := (Capsule.hosted.evaluate (runner 8) .evaluate [] .none).outcome .withHosted)
    (by decide +kernel)
  have knows : World.afterFailure.registry.find? "public" = some .publicOne ∧
      World.afterFailure.registry.find? "private" = some .privateOne := by decide +kernel
  have after : World.afterFailure.Offers :=
    ⟨fun e => by
      cases e with
      | evaluate | publicMethod => exact knows.1
      | evaluatePrivate | privateMethod => exact knows.2, by decide +kernel⟩
  have accepted : (Direction.accept (runner 8) (.str "oik")).outcome .hosting
      = (.ok Direction.oik.value, .hosting) := rfl
  have made : (Capsule.make (runner 8) (.object 1) (.str "public")
      ⟨[], .str "oik", .none, none⟩).outcome .hosting = (.ok 0, .withHosted) := by
    rw [Capsule.outcome_make World.offers_hosting, Run.outcome_bind_of_ok closure.outcome_wrap,
      Run.outcome_bind_of_ok accepted]
    rfl
  have course : Course (runner 8) .withHosted .afterFailure := calls .withHosted _ _ _ _
  refine ⟨nofun, ?_, ?_, ?_, congrArg Prod.fst failed, ?_⟩
  · rw [registered _ World.offers_hosting]
    exact congrArg Prod.fst (Run.eq_of_gave (by decide +kernel))
  · rw [host _ _ _ World.offers_hosting hosts]
    exact congrArg Prod.fst (Run.eq_of_gave (by decide +kernel))
  · have still (c : KeptClosure) (w₁ : World) (x : Value) (w₂ : World)
        (wrapped : (Closure.wrap (runner 8) (.object 1)).outcome .hosting = (.ok c, w₁))
        (direction : (Direction.accept (runner 8) (.str "oik")).outcome w₁ = (.ok x, w₂)) :
        w₂.Offers ∧ Direction.Settled (runner 8) x := by
      cases closure.outcome_wrap.symm.trans wrapped
      cases accepted.symm.trans direction
      exact ⟨World.offers_hosting, settled _ _ _ (.text _) accepted⟩
    rw [fresh _ World.offers_hosting closure.yieldsParts still]
    exact congrArg Prod.fst (Run.eq_of_gave (by decide +kernel))
  · have found := again .hosting .afterFailure (.text _) nofun
    rw [(later _ _ _ _ _ _ World.offers_hosting closure made course after).2 rfl found]
    exact congrArg Prod.fst (Run.eq_of_gave (by decide +kernel))

/-- That world with an extension point whose load is interrupted, before it is scanned. -/
def World.unscanned : World :=
  { World.hosting with
    registry := { Registry.initial with points := .ok [("slow", .raises .interrupt "stop")] } }

/-- A world with an object that only **says** that it is a closure. -/
def World.told : World :=
  { World.empty with
    classes := #[
      plainClass 0 "Told" [("__class__", .property (some 0) none (some "__class__")),
        ("__call__", .fn 1)]]
    objects := #[
      plainObject "told" 0 [("kind", .cls (.native .closure)), ("outer", .none)]]
    functions := #[
      plainFunction "__class__" (.body "Told.__class__" (.self "kind")),
      plainFunction "__call__" (.body "Told.__call__" (.ret (.int 7)))]
    registry := { Registry.initial with loaded := true } }

/-- The world of hosts with an object that says of itself that it **equals** anything. -/
def World.equalled : World :=
  { World.hosting with
    classes := World.hosting.classes.push (plainClass 1 "Equalled" [("__eq__", .fn 2)])
    objects := World.hosting.objects.push (plainObject "equalled" 1 [])
    functions := World.hosting.functions.push
      (plainFunction "__eq__" (.body "Equalled.__eq__" (.ret (.bool true)))) }

/-- A direction of that object and two groups. -/
def Direction.equalled : Value := .direction [.object 2, .group .outer, .group .kernel]

/-- Where the extension points have not been scanned, the first question to the registry scans them,
and an evaluation through it fails where a resolver that is made for the closure gives its result.
An object that only says that it is a closure is asked once by such a resolver, and twice by way of
a capsule; and so is an object that only says that it equals a group of a direction. -/
theorem Evaluation.front_ends_differ :
    World.unscanned.Registered ∧
    ((evaluate.directly (runner 8) (.object 1) ⟨[.object 0], .str "oik", .none, none⟩).outcome
      .unscanned).1 = .ok (.int 7) ∧
    ((evaluate.inContexts (runner 8) (.object 1) ⟨[.object 0], .str "oik", .none, none⟩).outcome
      .unscanned).1 = .error (.raised (.raised .interrupt "stop")) ∧
    World.told.Offers ∧
    ((evaluate.directly (runner 8) (.object 0) ⟨[], .str "oik", .none, none⟩).outcome .told).2.trace
      = ["Told.__call__", "Told.__class__"] ∧
    ((do
      let id ← Capsule.make (runner 8) (.object 0) (.str "public") ⟨[], .str "oik", .none, none⟩
      (← capsuleAt id).evaluate (runner 8) .evaluate [] .none : Run Value).outcome .told).2.trace
      = ["Told.__call__", "Told.__class__", "Told.__class__"] ∧
    World.equalled.Offers ∧
    ((evaluate.directly (runner 8) (.object 1)
      ⟨[.object 0], Direction.equalled, .none, none⟩).outcome .equalled).2.trace
      = ["Equalled.__eq__"] ∧
    ((do
      let id ← Capsule.make (runner 8) (.object 1) (.str "public")
        ⟨[], Direction.equalled, .none, none⟩
      (← capsuleAt id).evaluate (runner 8) .evaluate [.object 0] .none : Run Value).outcome
        .equalled).2.trace
      = ["Equalled.__eq__", "Equalled.__eq__"] :=
  ⟨fun e => by cases e <;> rfl,
    congrArg Prod.fst (Run.eq_of_gave (by decide +kernel)),
    congrArg Prod.fst (Run.eq_of_failed (by decide +kernel)),
    ⟨fun e => by cases e <;> rfl, rfl⟩, by decide +kernel, by decide +kernel,
    ⟨fun e => by cases e <;> rfl, rfl⟩, by decide +kernel, by decide +kernel⟩

end OrderedScope
