import OrderedScope.Resolution
import OrderedScope.Proofs.Outcome

/-!
# The Course of a Run

What a run can do to the world on its way. A run changes the world by single **changes**, hands
**tasks** to its runner, and lets whole **evaluations** take place, each in a world of its course;
and it does nothing else. No change touches the scope of the running evaluation: only an evaluation
sets it, for its own body, and sets it back.

## Main results

* `Change.object_stays`, `Change.resolver_stays`, `Change.capsule_stays`: what no change undoes.
* `Resolver.outcome_evaluate`: how an evaluation ends, by how its body does.
* `Course.keeps`: what every change and every task keeps, and an evaluation keeps around its body, a
  course keeps.
* `Kept.course`: what does not depend on the running evaluation is kept if changes and tasks keep
  it.
-/

namespace OrderedScope

/-- A **change** of the world: a single write of a run. A label or an event is noted, something new
is made, the attributes or slots of a value change, a list grows, the registry changes, or a session
keeps something under a name. -/
inductive Change : World → World → Prop
  | trace (w : World) (label : String) : Change w { w with trace := label :: w.trace }
  | observed (w : World) (events : List Event) : Change w { w with observed := events }
  | object (w : World) (o : ObjectRec) : Change w { w with objects := w.objects.push o }
  | function (w : World) (f : FunctionRec) : Change w { w with functions := w.functions.push f }
  | cls (w : World) (c : ClassRec) : Change w { w with classes := w.classes.push c }
  | resolver (w : World) (r : Resolver) : Change w { w with resolvers := w.resolvers.push r }
  | capsule (w : World) (c : Capsule) : Change w { w with capsules := w.capsules.push c }
  | attrs (w : World) (v : Value) (f : Members → Members) : Change w (w.mapAttrs v f)
  | slots (w : World) (i : ObjectId)
      (f : List ((Nat × String) × Value) → List ((Nat × String) × Value)) :
      Change w { w with objects := w.objects.modify i fun o => { o with slots := f o.slots } }
  | growing (w : World) (lists : Array (List Value)) : Change w { w with growing := lists }
  | registry (w : World) (registry : Registry) : Change w { w with registry := registry }
  | closures (w : World) (kept : Members) : Change w { w with closures := kept }
  | handles (w : World) (kept : Members) : Change w { w with handles := kept }
  | scopes (w : World) (kept : Members) : Change w { w with scopes := kept }
  | keptResolvers (w : World) (kept : List (String × ResolverId)) :
      Change w { w with keptResolvers := kept }
  | keptCapsules (w : World) (kept : List (String × CapsuleId)) :
      Change w { w with keptCapsules := kept }

/-- What is added leaves what stands at a place. -/
private theorem getElem?_push_of_some {α : Type} {xs : Array α} {i : Nat} {a : α} (b : α)
    (h : xs[i]? = some a) : (xs.push b)[i]? = some a := by
  obtain ⟨hi, -⟩ := Array.getElem?_eq_some_iff.1 h
  rw [Array.getElem?_push, if_neg (Nat.ne_of_lt hi), h]

namespace Change

variable {w w₁ : World} {i : Nat}

/-- A change leaves every object **in its place**, of its class and with what it is beside its
attributes; one that holds no attributes of its own still holds none. -/
theorem object_stays (hc : Change w w₁) {o : ObjectRec} (h : w.objects[i]? = some o) :
    ∃ o', w₁.objects[i]? = some o' ∧ o'.cls = o.cls ∧ o'.payload = o.payload ∧
      (o.attrs = none → o'.attrs = none) := by
  cases hc with
  | object new => exact ⟨o, getElem?_push_of_some new h, rfl, rfl, id⟩
  | attrs v f =>
      cases v with
      | object j =>
          simp only [World.mapAttrs, Array.getElem?_modify, h]
          split
          · exact ⟨_, rfl, rfl, rfl, fun none => by simp only [none, Option.map_none]⟩
          · exact ⟨o, rfl, rfl, rfl, id⟩
      | cls c => cases c <;> exact ⟨o, h, rfl, rfl, id⟩
      | _ => exact ⟨o, h, rfl, rfl, id⟩
  | slots j f =>
      simp only [Array.getElem?_modify, h]
      split
      · exact ⟨_, rfl, rfl, rfl, id⟩
      · exact ⟨o, rfl, rfl, rfl, id⟩
  | _ => exact ⟨o, h, rfl, rfl, id⟩

/-- A change leaves every resolver as it is. -/
theorem resolver_stays (hc : Change w w₁) {r : Resolver} (h : w.resolvers[i]? = some r) :
    w₁.resolvers[i]? = some r := by
  cases hc with
  | resolver new => exact getElem?_push_of_some new h
  | attrs v f =>
      unfold World.mapAttrs
      split <;> exact h
  | _ => exact h

/-- A change leaves every capsule as it is. -/
theorem capsule_stays (hc : Change w w₁) {c : Capsule} (h : w.capsules[i]? = some c) :
    w₁.capsules[i]? = some c := by
  cases hc with
  | capsule new => exact getElem?_push_of_some new h
  | attrs v f =>
      unfold World.mapAttrs
      split <;> exact h
  | _ => exact h

end Change

namespace World

/-- The world in which the body of an evaluation **begins**: its scope is the newest object, and the
scope of the running evaluation. -/
def entered (w : World) (id : ResolverId) : World :=
  { w with
    objects := w.objects.push ⟨none, .native .scope, none, [], .scope id⟩
    ambient := some w.objects.size }

/-- The task that is the **body** of an evaluation: what is deferred is called with the scope. -/
def bodyTask (w : World) (fn : Value) : Task := .call fn [.object w.objects.size] []

/-- The world **after** the body of an evaluation, in which the scope before it is back. -/
def evaluated (w : World) (run : Runner) (id : ResolverId) (fn : Value) : World :=
  { ((run (w.bodyTask fn)).outcome (w.entered id)).2 with ambient := w.ambient }

end World

/-- How an evaluation **ends**: its body runs in the world that the evaluation enters, and the scope
before it is back when the body has ended, whether it gave a value, failed or spent the budget. -/
theorem Resolver.outcome_evaluate (run : Runner) (id : ResolverId) (r : Resolver) (w : World) :
    (r.evaluate run id).outcome w =
      match (run (w.bodyTask r.fn)).outcome (w.entered id) with
      | (.ok v, _) => (do
          emit run r.observer (.evaluated [("direction", .str r.direction.name),
            ("visibility", .str r.variant.visibility)])
          pure v : Run Value).outcome (w.evaluated run id r.fn)
      | (.error f, _) => (.error f, w.evaluated run id r.fn) := by
  have body : (withScope w.objects.size (run (w.bodyTask r.fn))).outcome
      { w with objects := w.objects.push ⟨none, .native .scope, none, [], .scope id⟩ }
      = (((run (w.bodyTask r.fn)).outcome (w.entered id)).1, w.evaluated run id r.fn) :=
    Run.outcome_ensuring (run (w.bodyTask r.fn)) (fun w' => { w' with ambient := w.ambient })
      (w.entered id)
  show (withScope w.objects.size (run (w.bodyTask r.fn)) >>= _).outcome
    { w with objects := w.objects.push ⟨none, .native .scope, none, [], .scope id⟩ } = _
  rw [Run.outcome_bind, body]
  rcases (run (w.bodyTask r.fn)).outcome (w.entered id) with ⟨_ | v, w₁⟩ <;> rfl

/-- A **course** from a world to a world: changes, tasks of a runner and evaluations, each from the
world to which those before it led. -/
inductive Course (run : Runner) (w : World) : World → Prop
  | start : Course run w w
  | change {w₁ w₂ : World} : Course run w w₁ → Change w₁ w₂ → Course run w w₂
  | task {w₁ : World} (t : Task) : Course run w w₁ → Course run w ((run t).outcome w₁).2
  | evaluation {w₁ : World} (id : ResolverId) (fn : Value) :
      Course run w w₁ → Course run w (w₁.evaluated run id fn)

namespace Course

variable {run : Runner} {w w₁ w₂ : World}

/-- A course after a course is **a course**. -/
theorem trans (h : Course run w w₁) (h' : Course run w₁ w₂) : Course run w w₂ := by
  induction h' with
  | start => exact h
  | change _ hc ih => exact ih.change hc
  | task t _ ih => exact ih.task t
  | evaluation id fn _ ih => exact ih.evaluation id fn

/-- A course **keeps** what every change keeps, every task keeps, and an evaluation keeps around its
body. -/
theorem keeps {P : World → Prop} (change : ∀ w w', Change w w' → P w → P w')
    (task : ∀ t w, P w → P ((run t).outcome w).2)
    (evaluation : ∀ id fn w, P w → P (w.evaluated run id fn)) (h : Course run w w₁) (start : P w) :
    P w₁ := by
  induction h with
  | start => exact start
  | change _ hc ih => exact change _ _ hc ih
  | task t _ ih => exact task t _ ih
  | evaluation id fn _ ih => exact evaluation id fn _ ih

end Course

/-- A property of worlds is **kept** if every change keeps it, and if it does not depend on which
evaluation is running. -/
structure Kept (P : World → Prop) : Prop where
  change {w w₁ : World} : Change w w₁ → P w → P w₁
  ambient {w : World} (scope : Option ObjectId) : P w → P { w with ambient := scope }

/-- What every step and every task keeps, a course keeps. -/
theorem Kept.course {P : World → Prop} (h : Kept P) {run : Runner} {w w₁ : World}
    (hc : Course run w w₁) (task : ∀ t w, P w → P ((run t).outcome w).2) (start : P w) : P w₁ :=
  hc.keeps (fun _ _ => h.change) task
    (fun _ _ w hp => h.ambient _ (task _ _ (h.ambient _ (h.change (.object w _) hp)))) start

/-- A run **can give** a value: from some world it does. -/
def Run.CanGive {α : Type} (x : Run α) (a : α) : Prop := ∃ w w₁, x.outcome w = (.ok a, w₁)

/-- A run **goes** from a world to its end on a course of a runner. -/
def Goes (run : Runner) {α : Type} (x : Run α) (w : World) : Prop := Course run w (x.outcome w).2

namespace Goes

variable {run : Runner} {α β : Type} {x : Run α} {w : World}

/-- Runs in a row go along a course if both do. -/
theorem bind {f : α → Run β} (hx : Goes run x w)
    (hf : ∀ a w₁, x.outcome w = (.ok a, w₁) → Goes run (f a) w₁) : Goes run (x >>= f) w := by
  rw [Goes, Run.outcome_bind]
  rcases h : x.outcome w with ⟨_ | a, w₁⟩
  · rw [Goes, h] at hx
    exact hx
  · rw [Goes, h] at hx
    exact hx.trans (hf a w₁ h)

/-- What is done with a failure is on the course **from the world in which the run failed**. -/
theorem tryCatch {handler : Fault → Run α} (hx : Goes run x w)
    (hh : ∀ f w₁, Goes run (handler f) w₁) : Goes run (tryCatch x handler) w := by
  rw [Goes] at hx ⊢
  rw [Run.outcome_tryCatch]
  rcases h : x.outcome w with ⟨f | a, w₁⟩
  · rw [h] at hx
    exact hx.trans (hh f w₁)
  · rw [h] at hx
    exact hx

end Goes

end OrderedScope
