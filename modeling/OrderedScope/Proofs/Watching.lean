import OrderedScope.Proofs.FirstMatch
import OrderedScope.Proofs.Follows.Session

/-!
# Watchers

An observer that only watches is not noticed. It changes nothing but the record of events, and its
failures are ordinary and have a fixed message, so they are held back; whatever is asked of a
resolver or a capsule ends the same as without it, after the same code has run, in a world that
differs in the record alone. An ordinary failure whose message is to be written first is noticed:
code of the world writes it, and what that code raises takes the place of the answer.

Two runs that take the same steps, deaf to events, agree if the tasks that they hand to their runner
do. The interpreter does a task by steps, with a smaller budget for the tasks within it, so tasks
agree by induction on the budget.

## Main results

* `outcome_emit_unheard`: an event that only a watcher is told changes the record alone.
* `Twin.agree`: runs that take the same steps agree if their tasks do.
* `runner_agree`: a task agrees with itself in worlds that are alike.
* `Observer.watcher_unnoticed`: a watcher is not noticed, whatever is asked.
-/

namespace OrderedScope

open Interpreter

/-- Two runs **agree** if they end in the same way from worlds that are alike apart from the record
of events, and leave such worlds. -/
def Agree {α : Type} (x y : Run α) : Prop :=
  ∀ w w', Alike .deaf w w' →
    (x.outcome w).1 = (y.outcome w').1 ∧ Alike .deaf (x.outcome w).2 (y.outcome w').2

/-- What is **the same** in worlds that are alike apart from the record of events: the code that has
run, and everything but that record and the watchers of resolvers and capsules. -/
theorem Alike.same {w w' : World} (h : Alike .deaf w w') :
    w.trace = w'.trace ∧ w.ambient = w'.ambient ∧ w.objects = w'.objects ∧
      w.classes = w'.classes ∧ w.modules = w'.modules ∧ w.functions = w'.functions ∧
      w.growing = w'.growing ∧ w.registry = w'.registry := by
  have key {α : Type} (f : World → α) (hf : ∀ w, f (Hearing.deaf.view w) = f w) : f w = f w' :=
    h.reads hf
  exact ⟨key _ fun _ => rfl, key _ (by simp), key _ (by simp), key _ (by simp), key _ (by simp),
    key _ (by simp), key _ (by simp), key _ (by simp)⟩

namespace Agree

variable {α β : Type}

/-- A value alone agrees with itself. -/
theorem pure (a : α) : Agree (Pure.pure a) (Pure.pure a) := fun _ _ h => ⟨rfl, h⟩

/-- A fault alone agrees with itself. -/
theorem throw (f : Fault) : Agree (throw f : Run α) (throw f) := fun _ _ h => ⟨rfl, h⟩

/-- What is read beside the record of events agrees with itself. -/
theorem reading {f : World → α} (hf : ∀ w, f (Hearing.deaf.view w) = f w) :
    Agree (Run.reading f) (Run.reading f) := fun _ _ h => ⟨congrArg Except.ok (h.reads hf), h⟩

/-- Runs in a row agree if both do. -/
theorem bind {x y : Run α} {f g : α → Run β} (hx : Agree x y)
    (hf : ∀ a, x.CanGive a → Agree (f a) (g a)) : Agree (x >>= f) (y >>= g) := by
  intro w w' h
  obtain ⟨result, alike⟩ := hx w w' h
  rw [Run.outcome_bind, Run.outcome_bind]
  rcases hxw : x.outcome w with ⟨e | a, w₁⟩ <;> rcases hyw : y.outcome w' with ⟨e' | a', w₁'⟩ <;>
    rw [hxw, hyw] at result alike <;> cases result
  · exact ⟨rfl, alike⟩
  · exact hf a ⟨w, w₁, hxw⟩ w₁ w₁' alike

/-- Runs with handlers agree if both do. -/
theorem tryCatch {x y : Run α} {f g : Fault → Run α} (hx : Agree x y)
    (hf : ∀ e, Agree (f e) (g e)) : Agree (tryCatch x f) (tryCatch y g) := by
  intro w w' h
  obtain ⟨result, alike⟩ := hx w w' h
  rw [Run.outcome_tryCatch, Run.outcome_tryCatch]
  rcases hxw : x.outcome w with ⟨e | a, w₁⟩ <;> rcases hyw : y.outcome w' with ⟨e' | a', w₁'⟩ <;>
    rw [hxw, hyw] at result alike <;> cases result
  · exact hf e w₁ w₁' alike
  · exact ⟨rfl, alike⟩

end Agree

/-! ### Events -/

namespace Alike

variable {w w' : World}

/-- What stands in the record of events is beside the matter. -/
theorem observed (h : Alike .deaf w w') (events events' : List Event) :
    Alike .deaf { w with observed := events } { w' with observed := events' } :=
  ⟨h.view_eq, fun hm => (h.discreet hm).of_eq rfl rfl⟩

/-- Worlds that the deaf take for alike stay so in another scope. -/
theorem ambient (h : Alike .deaf w w') (scope : Option ObjectId) :
    Alike .deaf { w with ambient := scope } { w' with ambient := scope } :=
  ⟨congrArg (fun w => { w with ambient := scope }) h.view_eq,
    fun hm => (h.discreet hm).of_eq rfl rfl⟩

/-- Worlds that the deaf take for alike stay so with one more discreet object. -/
theorem object (h : Alike .deaf w w') {o : ObjectRec} (ho : o.payload.discreet = true) :
    Alike .deaf { w with objects := w.objects.push o } { w' with objects := w'.objects.push o } :=
  ⟨congrArg (fun w => { w with objects := w.objects.push o }) h.view_eq,
    fun hm => (h.discreet hm).pushObject ho⟩

/-- The bodies of an evaluation begin in worlds that are alike. -/
theorem entered (h : Alike .deaf w w') (id : ResolverId) :
    Alike .deaf (w.entered id) (w'.entered id) := by
  rw [World.entered, World.entered, h.objects_eq]
  have begun := (h.object (o := ⟨none, .native .scope, none, [], .scope id⟩) rfl).ambient
    (some w'.objects.size)
  rwa [h.objects_eq] at begun

end Alike

/-- An event that only a watcher is told, or nobody, **changes the record alone**: the failure of a
watcher is held back. -/
theorem outcome_emit_unheard (run : Runner) {o : Option Observer} (ho : Hearing.deaf.ear o = none)
    (e : Event) (w : World) :
    ∃ events, (emit run o e).outcome w = (.ok (), { w with observed := events }) := by
  cases o with
  | none => exact ⟨w.observed, rfl⟩
  | some o =>
    have watches : o.watches = true := by simpa [Hearing.ear, Option.filter] using ho
    exact ⟨_, outcome_emit_of_watches run watches e w⟩

/-- Putting an error into words **agrees** if the tasks do. -/
theorem Agree.errorText {run : Runner} (task : ∀ t, Agree (run t) (run t)) (x : Error) :
    Agree (x.text run) (x.text run) := by
  cases x with
  | noItem key => exact (task _).bind fun text _ => .reading fun w => by simp
  | _ => exact .pure _

/-- Telling observers that are heard alike **agrees** if the reactions that are heard do, and the
tasks by which their failures are put into words. -/
theorem Agree.emit {run : Runner} {o o' : Option Observer} (e : Event)
    (ho : Hearing.deaf.ear o = Hearing.deaf.ear o') (task : ∀ t, Agree (run t) (run t))
    (react : ∀ o : Observer, Hearing.deaf.heeds o → Agree (o.react run) (o.react run)) :
    Agree (emit run o e) (OrderedScope.emit run o' e) := by
  intro w w' h
  cases heard : Hearing.deaf.ear o with
  | none =>
    obtain ⟨events, left⟩ := outcome_emit_unheard run heard e w
    obtain ⟨events', right⟩ := outcome_emit_unheard run (ho ▸ heard) e w'
    rw [left, right]
    exact ⟨rfl, h.observed events events'⟩
  | some a =>
    obtain ⟨rfl, -⟩ := Option.filter_eq_some_iff.1 heard
    obtain ⟨rfl, -⟩ := Option.filter_eq_some_iff.1 (ho ▸ heard)
    have told : Agree (a.hear run e) (a.hear run e) :=
      .bind (fun _ _ h => ⟨rfl, h.observed _ _⟩) fun _ _ => react a heard
    refine told.tryCatch (fun f => ?_) w w' h
    cases f with
    | exhausted => exact .throw _
    | raised x =>
      simp only
      split
      · refine (Agree.errorText task x).bind fun words _ w w' h => ?_
        rw [Run.outcome_log, Run.outcome_log]
        exact ⟨rfl, h⟩
      · exact .throw _

/-! ### Runs -/

/-- Runs that take the same **steps**, deaf to events, agree if the tasks of their runner do. -/
theorem Twin.agree {run : Runner} {α : Type} {x y : Run α} (h : Twin .deaf run x y)
    (task : ∀ t, Agree (run t) (run t)) : Agree x y := by
  induction h with
  | pure a => exact .pure a
  | throw f => exact .throw f
  | tell level text => exact fun _ _ h => ⟨rfl, h⟩
  | get_bind _ ih => exact fun w w' h => ih w w' h w w' h
  | change _ _ hf => exact fun w w' h => ⟨rfl, hf w w' h⟩
  | take all => cases all
  | task t => exact task t
  | bind _ _ ih ihf => exact ih.bind ihf
  | tryCatch _ _ ih ihf => exact ih.tryCatch ihf
  | event e _ ho _ ih => exact .emit e ho task ih
  | question _ ho _ _ _ iha ihn ihr =>
    exact Resolver.search_closed (P := Agree) .pure (fun e => .throw (.raised e))
      (fun hx hf => hx.bind fun a _ => hf a) iha ihn fun e => .emit e ho task ihr
  | @evaluation r o id _ ho _ ih =>
    intro w w' h
    have sameTask : w.bodyTask r.fn = w'.bodyTask r.fn := by
      rw [World.bodyTask, World.bodyTask, h.objects_eq]
    obtain ⟨result, alike⟩ := task (w.bodyTask r.fn) _ _ (h.entered id)
    have ended : Alike .deaf (w.evaluated run id r.fn) (w'.evaluated run id r.fn) := by
      rw [World.evaluated, World.evaluated, ← sameTask, h.same.2.1]
      exact alike.ambient _
    rw [Resolver.outcome_evaluate, Resolver.outcome_evaluate]
    simp only
    rw [← sameTask]
    rcases hx : (run (w.bodyTask r.fn)).outcome (w.entered id) with ⟨f | v, w₁⟩ <;>
      rcases hy : (run (w.bodyTask r.fn)).outcome (w'.entered id) with ⟨f' | v', w₁'⟩ <;>
      rw [hx, hy] at result <;> cases result
    · exact ⟨rfl, ended⟩
    · exact (Agree.emit _ ho task ih).bind (fun _ _ => .pure v) _ _ ended

/-- A **task** agrees with itself, within any budget: the same code runs, and ends the same. -/
theorem runner_agree (n : Nat) (t : Task) : Agree (runner n t) (runner n t) := by
  induction n generalizing t with
  | zero => exact .throw _
  | succ n ih => exact (follows_perform t).twin.agree ih

/-! ### Watched and unwatched -/

/-- A world is alike to the one in which nobody is **told** anything and nothing is on record. -/
theorem Alike.of_view {w : World} (h : w.Discreet) : Alike .deaf w (Hearing.deaf.view w) := by
  refine ⟨?_, fun _ => h⟩
  have resolvers : (Hearing.deaf.resolver ∘ Hearing.deaf.resolver) = Hearing.deaf.resolver :=
    funext fun r => by simp [Hearing.resolver]
  have capsules : (Hearing.deaf.capsule ∘ Hearing.deaf.capsule) = Hearing.deaf.capsule :=
    funext fun c => by simp [Hearing.capsule]
  simp only [Hearing.view, Array.map_map, resolvers, capsules]

/-- A **watcher** is not noticed: what only looks at the events, and whose failures can be held
back, changes no result, no error, no code that runs and nothing of the world but the record of
events, whether it fails at all events, at some or at none.

The runs on the left tell it; those on the right tell nobody. They are compared from worlds that may
differ in the watchers of their other resolvers and capsules, so that evaluations within evaluations
may be watched or not.

Any ordinary failure of an observer, also one without a fixed message, ends as putting it into words
does: what this fails with is not held back. -/
theorem Observer.watcher_unnoticed (n : Nat) {o : Observer} (ho : o.watches = true) :
    (∀ (r : Resolver) (name : String),
      let watched : Resolver := { r with observer := some o }
      let alone : Resolver := { r with observer := none }
      Agree (watched.resolve (runner n) name) (alone.resolve (runner n) name) ∧
      Agree (watched.member (runner n) name) (alone.member (runner n) name) ∧
      Agree (watched.respondsTo (runner n) name) (alone.respondsTo (runner n) name) ∧
      Agree (watched.methodHandle (runner n) name) (alone.methodHandle (runner n) name) ∧
      (∀ args named, Agree
        (do runner n (.call (← watched.methodHandle (runner n) name) args named))
        (do runner n (.call (← alone.methodHandle (runner n) name) args named))) ∧
      Agree (watched.explain (runner n) name) (alone.explain (runner n) name) ∧
      Agree (watched.scopeNames (runner n)) (alone.scopeNames (runner n)) ∧
      ∀ id, Agree (watched.evaluate (runner n) id) (alone.evaluate (runner n) id)) ∧
    (∀ s : Setup,
      let watched : Setup := { s with observer := some o }
      let alone : Setup := { s with observer := none }
      (∀ variant closure, Agree (Resolver.make (runner n) variant closure watched)
        (Resolver.make (runner n) variant closure alone)) ∧
      (∀ visibility closure, Agree (Resolver.ofVisibility (runner n) visibility closure watched)
        (Resolver.ofVisibility (runner n) visibility closure alone)) ∧
      (∀ (e : Evaluation) closure, Agree (e.inContexts (runner n) closure watched)
        (e.inContexts (runner n) closure alone)) ∧
      ∀ closure visibility, Agree (Capsule.make (runner n) closure visibility watched)
        (Capsule.make (runner n) closure visibility alone)) ∧
    (∀ closure profile start, Agree (Capsule.ofSettings (runner n) closure profile start (some o))
      (Capsule.ofSettings (runner n) closure profile start none)) ∧
    (∀ (c : Capsule) inner direction,
      let watched : Capsule := { c with observer := some o }
      let alone : Capsule := { c with observer := none }
      (∀ visibility, Agree (watched.resolver (runner n) inner direction visibility)
        (alone.resolver (runner n) inner direction visibility)) ∧
      Agree (watched.call (runner n) inner direction) (alone.call (runner n) inner direction) ∧
      ∀ e, Agree (watched.evaluate (runner n) e inner direction)
        (alone.evaluate (runner n) e inner direction)) ∧
    (∀ t, Agree (runner n t) (runner n t)) ∧
    (∀ c : Command, c.discreet = true →
      Agree (Session.execute (runner n) c) (Session.execute (runner n) c)) ∧
    ∀ (o : Observer) (e : Event) (x : Error) (w w₁ : World),
      (o.hear (runner n) e).outcome w = (.error (.raised x), w₁) → x.isA .failure = true →
        (emit (runner n) (some o) e).outcome w =
          ((fun _ => ()) <$> x.text (runner n) : Run Unit).outcome w₁ := by
  have unheard : Hearing.deaf.ear (some o) = Hearing.deaf.ear none := by
    simp [Hearing.ear, Option.filter, ho]
  have agree {α : Type} {x y : Run α} (h : Twin .deaf (runner n) x y) : Agree x y :=
    h.agree (runner_agree n)
  refine ⟨fun r name => ?_, fun s => ?_, fun closure profile start => ?_,
    fun c inner direction => ?_, runner_agree n, fun c hc => ?_,
    fun o e x w w₁ => emit_of_ordinary⟩
  · have ho : Hearing.deaf.ear ({ r with observer := some o } : Resolver).observer
        = Hearing.deaf.ear none := unheard
    refine ⟨agree (Resolver.twin_resolve ho name), agree (Resolver.twin_member ho name),
      agree (Resolver.twin_respondsTo ho name), agree (Resolver.twin_methodHandle ho name),
      fun args named => ?_, ?_, agree (Resolver.follows_scopeNames r).twin,
      fun id => agree (Resolver.twin_evaluate ho id)⟩
    · exact agree ((Resolver.twin_methodHandle ho name).bind fun _ _ => .task _)
    · simp only [Resolver.explain_observer]
      exact agree (Resolver.follows_explain r name).twin
  · have ho : Hearing.deaf.ear ({ s with observer := some o } : Setup).observer
        = Hearing.deaf.ear none := unheard
    exact ⟨fun variant closure => agree (Resolver.twin_make ho variant closure),
      fun visibility closure => agree (Resolver.twin_ofVisibility ho visibility closure),
      fun e closure => agree (e.twin_inContexts ho closure),
      fun closure visibility => agree (Capsule.twin_make ho closure visibility)⟩
  · exact agree (Capsule.twin_ofSettings unheard closure profile start)
  · have ho : Hearing.deaf.ear ({ c with observer := some o } : Capsule).observer
        = Hearing.deaf.ear none := unheard
    exact ⟨fun visibility => agree (Capsule.twin_resolver ho inner direction visibility),
      agree (Capsule.twin_call ho inner direction),
      fun e => agree (Capsule.twin_evaluate ho e inner direction)⟩
  · exact agree (Session.follows_command c fun _ => hc).twin

/-- A watcher that fails at every other event. -/
def Observer.fickle : Observer :=
  .select fun events =>
    if events.length % 2 = 1 then some ⟨.raised .value "broken", by decide⟩ else none

/-- A resolver over a whole number, whose closure asks its scope for a field of the number. -/
def Resolver.watchedSample : Resolver :=
  ⟨.publicOne, .fn 0, .none, .iok, [.int 7], .none, some .fickle⟩

/-- The world of that resolver. -/
def World.watchedSample : World :=
  { World.empty with
    functions := #[plainFunction "body" (.silent (.self "real"))]
    resolvers := #[.watchedSample] }

/-- Where the watcher fails at the first of two events, the evaluation gives what it gives in the
world in which nobody is told. -/
theorem Observer.watcher_unnoticed_fickle :
    Observer.fickle.watches = true ∧
      ((Resolver.watchedSample.evaluate (runner 8) 0).outcome .watchedSample).1 = .ok (.int 7) ∧
      (({ Resolver.watchedSample with observer := none }.evaluate (runner 8) 0).outcome
        (Hearing.deaf.view .watchedSample)).1 = .ok (.int 7) := by
  have discreet : World.watchedSample.Discreet := by
    constructor
    · intro f hf
      obtain rfl : f = plainFunction "body" (.silent (.self "real")) := by
        simpa [World.watchedSample] using hf
      rfl
    · intro o ho
      simp [World.watchedSample, World.empty] at ho
  have watched := Run.eq_of_gave (v := .int 7)
    (o := (Resolver.watchedSample.evaluate (runner 8) 0).outcome .watchedSample) (by decide +kernel)
  have same := (((watcher_unnoticed 8 (o := .fickle) rfl).1 .watchedSample "real").2.2.2.2.2.2.2 0)
    _ _ (Alike.of_view discreet)
  exact ⟨rfl, congrArg Prod.fst watched, same.1.symm.trans (congrArg Prod.fst watched)⟩

/-- An observer that only looks on, but fails in the ordinary way with an error whose message code
of the world writes, and cannot write, **is noticed**: what nobody is told of is resolved, and what
it is told of is not. -/
theorem Observer.wordless_noticed :
    Error.wordless.isA .failure = true ∧
      (∃ w', (({ Resolver.overKernel .wordless with observer := none } : Resolver).resolve
        (runner 10) "len").outcome .mute = (.ok (.module World.kernelModule), w')) ∧
      ∃ w', ((Resolver.overKernel .wordless).resolve (runner 10) "len").outcome .mute =
        (.error (.raised (.raised .runtime "no text")), w') :=
  ⟨by decide, ⟨_, Run.eq_of_gave (by decide +kernel)⟩, ⟨_, Run.eq_of_failed (by decide +kernel)⟩⟩

end OrderedScope
