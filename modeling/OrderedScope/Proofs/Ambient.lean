import OrderedScope.Session
import OrderedScope.Proofs.Follows.Session

/-!
# The Scope of the Running Evaluation

The scope of the running evaluation is a stack that no code of the world can see below its top. An
evaluation puts its own scope there for its body; whatever the body does, asks, calls, evaluates or
raises, the scope stays while the body goes on, and the scope before it is back when the evaluation
ends.

A change of the world does not touch the scope, and an evaluation sets it back, so a course keeps
it. That every run of the library follows a course makes this an induction on the budget: the tasks
within a task are done with a smaller one.

## Main results

* `Follows.ambient_eq`: a run that follows the interpreter keeps the scope.
* `During.ambient_eq`: so does every step of the way, outside the evaluations that are begun on it.
* `Resolver.ambient_stack`: the scope of an evaluation in its body and after it.
-/

namespace OrderedScope

open Interpreter

/-! ### Steps -/

/-- A change of attributes leaves the scope. -/
@[simp] theorem World.mapAttrs_ambient (w : World) (v : Value) (f : Members → Members) :
    (w.mapAttrs v f).ambient = w.ambient := by
  unfold World.mapAttrs
  split <;> rfl

/-- No change touches the scope of the running evaluation. -/
theorem Change.ambient_eq {w w₁ : World} (h : Change w w₁) : w₁.ambient = w.ambient := by
  cases h with
  | attrs v f => exact w.mapAttrs_ambient v f
  | _ => rfl

/-- A course **keeps the scope** if the tasks on it do; an evaluation on it sets the scope back. -/
theorem Course.ambient_eq {run : Runner} {w w₁ : World} (h : Course run w w₁)
    (task : ∀ t w, ((run t).outcome w).2.ambient = w.ambient) : w₁.ambient = w.ambient :=
  h.keeps (P := fun w' => w'.ambient = w.ambient) (fun _ _ hc hp => hc.ambient_eq.trans hp)
    (fun t w' hp => (task t w').trans hp) (fun _ _ _ hp => hp) rfl

/-! ### Runs -/

/-- A task **keeps the scope**, within any budget. -/
theorem runner_ambient (n : Nat) (t : Task) (w : World) :
    ((runner n t).outcome w).2.ambient = w.ambient := by
  induction n generalizing t w with
  | zero => rfl
  | succ n ih => exact ((follows_perform t).goes w).ambient_eq ih

/-- A run that follows the interpreter **keeps the scope**, however it ends. -/
theorem Follows.ambient_eq {n : Nat} {α : Type} {x : Run α} (h : Follows .all (runner n) x)
    (w : World) : (x.outcome w).2.ambient = w.ambient :=
  Course.ambient_eq (h.goes w) (runner_ambient n)

/-- A world that is met **during** a task that begins in a given world, outside of the evaluations
that are begun on the way: where the task begins, on the course of the task, or during a task that
is begun on that course. -/
inductive During : Nat → World → World → Prop
  | start (n : Nat) (w : World) : During n w w
  | step {n : Nat} {w w₁ : World} : Course (runner n) w w₁ → During (n + 1) w w₁
  | within {n : Nat} {w w₁ w₂ : World} :
      Course (runner n) w w₁ → During n w₁ w₂ → During (n + 1) w w₂

namespace During

/-- The scope **stays** while a task goes on. -/
theorem ambient_eq {n : Nat} {w w₁ : World} (h : During n w w₁) : w₁.ambient = w.ambient := by
  induction h with
  | start => rfl
  | @step n _ _ h => exact h.ambient_eq (runner_ambient n)
  | @within n _ _ _ h _ ih => exact ih.trans (h.ambient_eq (runner_ambient n))

/-- The **end** of a task is still during it, also if the task fails or its budget is spent. -/
theorem of_task (n : Nat) (t : Task) (w : World) : During n w ((runner n t).outcome w).2 := by
  cases n with
  | zero => exact start 0 w
  | succ n => exact step ((follows_perform t).goes w)

/-- Between two actions of a **script**, and where an action fails, its task is going on. -/
theorem of_script (n : Nat) (scope : Value) (done : List Action) (w : World) :
    During (n + 1) w ((done.mapM (act (runner n) scope)).outcome w).2 :=
  step ((Follows.mapM (follows_act scope) done).goes w)

end During

/-! ### Evaluations -/

/-- What asking for the **current scope** gives: the scope of the running evaluation, or an error
where none is running. -/
def World.currentScope (w : World) : Except Fault Value := (Expr.ambientScope.eval.outcome w).1

/-- The current scope is the innermost one, if there is one. -/
theorem World.currentScope_eq (w : World) :
    w.currentScope = w.ambient.elim (.error (.raised .noScope)) fun s => .ok (.object s) := by
  unfold currentScope Expr.eval
  rw [Run.outcome_bind, Run.outcome_reading]
  cases w.ambient <;> rfl

/-- The scope of the running evaluation is a **stack**.

An evaluation calls its closure with a scope of its own, which is fresh. During that call, outside
of the evaluations begun within it, asking for the current scope gives that scope: between two
actions of a script, in the functions, getters and hooks that are called, after errors that were
caught, and again after every command that was executed there, whichever way it evaluates and
however it ends. When the evaluation ends, asking for the current scope gives what it gave before,
a lookup error if no evaluation was running. The scope of before is back as soon as the body has
ended: an error of the body has passed through unchanged, and what the body gave is given on when
the observer has been told of it. -/
theorem Resolver.ambient_stack (n : Nat) (id : ResolverId) (r : Resolver) (w : World) :
    (w.entered id).payload? w.objects.size = some (.scope id) ∧
    (∀ w₁, During n (w.entered id) w₁ →
      w₁.currentScope = .ok (.object w.objects.size) ∧
      (∀ c, ((Session.execute (runner n) c).outcome w₁).2.currentScope
        = .ok (.object w.objects.size)) ∧
      ∀ m id' r', ((evaluate (runner m) id' r').outcome w₁).2.currentScope
        = .ok (.object w.objects.size)) ∧
    During n (w.entered id)
      ((runner n (.call r.fn [.object w.objects.size] [])).outcome (w.entered id)).2 ∧
    (∀ (m : Nat) (done : List Action), n = m + 1 → During n (w.entered id)
      ((done.mapM (act (runner m) (.object w.objects.size))).outcome (w.entered id)).2) ∧
    (∀ f w₁, (runner n (.call r.fn [.object w.objects.size] [])).outcome (w.entered id)
        = (.error f, w₁) →
      (r.evaluate (runner n) id).outcome w = (.error f, { w₁ with ambient := w.ambient })) ∧
    (∀ v w₁, (runner n (.call r.fn [.object w.objects.size] [])).outcome (w.entered id)
        = (.ok v, w₁) →
      (r.evaluate (runner n) id).outcome w = (do
        emit (runner n) r.observer (.evaluated
          [("direction", .str r.direction.name), ("visibility", .str r.variant.visibility)])
        pure v : Run Value).outcome { w₁ with ambient := w.ambient }) ∧
    ((r.evaluate (runner n) id).outcome w).2.ambient = w.ambient ∧
    ((r.evaluate (runner n) id).outcome w).2.currentScope = w.currentScope ∧
    (w.ambient = none →
      ((r.evaluate (runner n) id).outcome w).2.currentScope = .error (.raised .noScope)) ∧
    Error.noScope.isA .lookup = true := by
  have ended := Follows.ambient_eq (n := n) (follows_evaluate id r) w
  have scope (w₁ : World) (h : During n (w.entered id) w₁) :
      w₁.ambient = some w.objects.size := h.ambient_eq
  refine ⟨?_, fun w₁ h => ⟨?_, fun c => ?_, fun m id' r' => ?_⟩, During.of_task n _ _, ?_, ?_, ?_,
    ended, ?_, fun h => ?_, rfl⟩
  · simp [World.entered, World.payload?]
  · rw [World.currentScope_eq, scope w₁ h]
    rfl
  · rw [World.currentScope_eq, (Session.follows_execute c).ambient_eq w₁, scope w₁ h]
    rfl
  · rw [World.currentScope_eq, (follows_evaluate id' r').ambient_eq w₁, scope w₁ h]
    rfl
  · rintro m done rfl
    exact During.of_script m _ done _
  · intro f w₁ h
    have body : (runner n (w.bodyTask r.fn)).outcome (w.entered id) = (.error f, w₁) := h
    rw [outcome_evaluate, World.evaluated, body]
  · intro v w₁ h
    have body : (runner n (w.bodyTask r.fn)).outcome (w.entered id) = (.ok v, w₁) := h
    rw [outcome_evaluate, World.evaluated, body]
  · rw [World.currentScope_eq, World.currentScope_eq, ended]
  · rw [World.currentScope_eq, ended, h]
    rfl

/-! ### Sessions -/

/-- A command of a session **keeps the scope**, also if it fails. -/
theorem Session.entry_ambient (c : Command) (w : World) : (entry c w).2.ambient = w.ambient := by
  have failing (e : Error) : Follows .all runner (failureFields e) := by
    unfold failureFields
    grind
  have fields : Follows .all runner (outcomeFields c) := by
    refine Follows.tryCatch (by grind) fun f => ?_
    cases f with
    | raised e => exact failing e
    | exhausted => exact failing depthError
  exact fields.ambient_eq { w with trace := [] }

end OrderedScope
