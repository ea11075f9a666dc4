import OrderedScope.Proofs.Course
import OrderedScope.Proofs.Hearing

/-!
# Runs Made of Steps

Every run of this library is made of few kinds of **steps**: it reads the world, changes it by
single changes, hands tasks to its runner, tells events, puts questions to the contexts of a
resolver, evaluates closures, and goes on with what these give or how they fail. `Twin` says so of
two runs at once, which take the same steps from alike worlds and differ in nothing but observers
that are not heard; `Follows` says so of a run beside itself.

What holds for each kind of step holds for every run: `Follows.goes` is one such consequence, and
the modules on ledgers and on watchers draw others. The rules here say that a composed run follows a
runner if its parts do; the modules under `OrderedScope.Proofs.Follows` apply them to every function
of the library. No rule assumes anything of the runner.

## Main results

* `Follows.bind`, `Follows.recover`, `Follows.get_bind`: rules for composed runs.
* `Twin.resolverAt_bind`, `Twin.capsuleAt_bind`: what is done with a resolver or a capsule of the
  world.
* `Follows.goes`: a run that follows a runner goes to its end on a course.
-/

namespace OrderedScope

/-- What a resolver does **before** it tells that a context answers: it names the class of the
context in the log. -/
def Resolver.announcing (run : Runner) (name : String) (group : Group) (position : Nat)
    (context : Value) : Run Unit := do
  let c ← Run.reading (·.classOf context)
  let shown ← Attribute.get run (.cls c) "__qualname__"
  Run.logText .debug fun _ => do
    pure ("Resolved " ++ Text.quote name ++ " to " ++ group.name ++ " context #"
      ++ toString position ++ " (" ++ (← shown.plainText run) ++ ")")

/-- To tell that a context answers is to **announce** it and then to emit an event. -/
theorem Resolver.matched_eq (run : Runner) (r : Resolver) (name : String) (group : Group)
    (position : Nat) (context : Value) :
    matched run r name group position context = (do
      announcing run name group position context
      emit run r.observer (.resolved name context (.str group.name) (.int position) [])) := by
  simp only [matched, announcing, bind_assoc]

/-- A change of the world that leaves the record of events alone. -/
structure Unrecorded (f : World → World) : Prop where
  change : ∀ w, Change w (f w)
  observed_eq : ∀ w, (f w).observed = w.observed

/-- Takes the record of events away, and gives it. -/
def takeEvents : Run (List Event) := do
  let events ← Run.reading (·.observed)
  modify fun w => { w with observed := [] }
  pure events

/-- Two runs take the same **steps** from alike worlds. -/
inductive Twin (m : Hearing) (run : Runner) : {α : Type} → Run α → Run α → Prop
  | pure {α : Type} (a : α) : Twin m run (Pure.pure a) (Pure.pure a)
  | throw {α : Type} (f : Fault) : Twin m run (throw f : Run α) (throw f)
  | tell (level : LogLevel) (text : String) : Twin m run (Run.tell level text) (Run.tell level text)
  | get_bind {α : Type} {f g : World → Run α} :
      (∀ w w', Alike m w w' → Twin m run (f w) (g w')) → Twin m run (get >>= f) (get >>= g)
  | change {f g : World → World} : Unrecorded f → Unrecorded g →
      (∀ w w', Alike m w w' → Alike m (f w) (g w')) →
      Twin m run (modify f : Run Unit) (modify g)
  /-- The record of events is taken away; nobody who is deaf to it does that. -/
  | take : m = .all → Twin m run takeEvents takeEvents
  | task (t : Task) : Twin m run (run t) (run t)
  | bind {α β : Type} {x y : Run α} {f g : α → Run β} : Twin m run x y →
      (∀ a, x.CanGive a → Twin m run (f a) (g a)) → Twin m run (x >>= f) (y >>= g)
  | tryCatch {α : Type} {x y : Run α} {f g : Fault → Run α} : Twin m run x y →
      (∀ e, Twin m run (f e) (g e)) → Twin m run (tryCatch x f) (tryCatch y g)
  | event {o o' : Option Observer} (e : Event) : m.Tells → m.ear o = m.ear o' →
      (∀ o : Observer, m.heeds o → Twin m run (o.react run) (o.react run)) →
      Twin m run (emit run o e) (emit run o' e)
  /-- A question: the contexts are asked one after the other, and the observer is told how it
  ends. -/
  | question {α : Type} {r : Resolver} {o : Option Observer} {name : String}
      {ask ask' : Value → Run (Option α)} : m.Tells → m.ear r.observer = m.ear o →
      (∀ context, Twin m run (ask context) (ask' context)) →
      (∀ g i context, Twin m run (Resolver.announcing run name g i context)
        (Resolver.announcing run name g i context)) →
      (∀ o : Observer, m.heeds o → Twin m run (o.react run) (o.react run)) →
      Twin m run (r.search run name ask)
        (({ r with observer := o } : Resolver).search run name ask')
  | evaluation {r : Resolver} {o : Option Observer} (id : ResolverId) : m.Tells →
      m.ear r.observer = m.ear o →
      (∀ o : Observer, m.heeds o → Twin m run (o.react run) (o.react run)) →
      Twin m run (r.evaluate run id) (({ r with observer := o } : Resolver).evaluate run id)

/-- A run **follows** a runner: it is made of steps, and takes the same from alike worlds. -/
class Follows (m : Hearing) (run : Runner) {α : Type} (x : Run α) : Prop where
  twin : Twin m run x x

namespace Follows

variable {m : Hearing} {run : Runner} {α β : Type} {x : Run α} {f : α → Run β}

/-! ### Steps -/

@[grind ←] instance pure (a : α) : Follows m run (Pure.pure a : Run α) := ⟨.pure a⟩

@[grind ←] instance throw (f : Fault) : Follows m run (throw f : Run α) := ⟨.throw f⟩

@[grind ←] instance raise (e : Error) : Follows m run (Run.raise e : Run α) := ⟨.throw _⟩

@[grind ←] instance tell (level : LogLevel) (text : String) :
    Follows m run (Run.tell level text) := ⟨.tell level text⟩

/-- To read what is heard **follows** the hearing. -/
@[grind ←] theorem reading {f : World → α} (hf : ∀ w, f (m.view w) = f w) :
    Follows m run (Run.reading f) := by
  have steps : Run.reading f = get >>= fun w => Pure.pure (f w) := (bind_pure_comp ..).symm
  refine ⟨steps ▸ .get_bind fun w w' h => ?_⟩
  rw [h.reads hf]
  exact .pure _

/-- A task follows itself. -/
theorem task (run : Runner) (t : Task) : Follows m run (run t) := ⟨.task t⟩

/-! ### Going on -/

/-- A run that goes on **follows** the runner if it does and so does what it goes on with, for
every value that it can give. -/
@[grind ←] theorem bind_of_canGive (hx : Follows m run x)
    (hf : ∀ a, x.CanGive a → Follows m run (f a)) : Follows m run (x >>= f) :=
  ⟨.bind hx.twin fun a ha => (hf a ha).twin⟩

/-- What follows a hearing may go on with what does. -/
theorem bind (hx : Follows m run x) (hf : ∀ a, Follows m run (f a)) : Follows m run (x >>= f) :=
  bind_of_canGive hx fun a _ => hf a

/-- What is made of the gift of a run that follows is given by one that follows. -/
@[grind ←] theorem map {f : α → β} (hx : Follows m run x) : Follows m run (f <$> x) := by
  rw [← bind_pure_comp]
  exact hx.bind fun a => pure (f a)

/-- What is done with the world that was just read must not be changed by the hearing. -/
@[grind ←] theorem get_bind {f : World → Run β} (hv : ∀ w, f (m.view w) = f w)
    (hf : ∀ w, Follows m run (f w)) : Follows m run (get >>= f) :=
  ⟨.get_bind fun w _ h => h.reads hv ▸ (hf w).twin⟩

/-- What follows may be caught by a handler that does. -/
theorem tryCatch {handler : Fault → Run α} (hx : Follows m run x)
    (hh : ∀ f, Follows m run (handler f)) : Follows m run (tryCatch x handler) :=
  ⟨.tryCatch hx.twin fun f => (hh f).twin⟩

/-- What follows may be handled by a handler that does. -/
@[grind ←] theorem recover {handled : Error → Bool} {handler : Error → Run α}
    (hx : Follows m run x) (hh : ∀ e, handled e = true → Follows m run (handler e)) :
    Follows m run (Run.recover handled x handler) := by
  refine hx.tryCatch fun f => ?_
  cases f with
  | exhausted => exact throw _
  | raised e =>
      simp only
      split
      · exact hh e ‹_›
      · exact throw _

/-- What follows still does where its errors are values. -/
@[grind ←] theorem attempt (hx : Follows m run x) : Follows m run (Run.attempt x) :=
  recover hx.map fun _ _ => pure _

/-- What follows still does where a missing attribute is none. -/
@[grind ←] theorem optional (hx : Follows m run x) : Follows m run (Run.optional x) :=
  recover hx.map fun _ _ => pure _

/-! ### Lists and options -/

/-- A choice between runs that follow does. -/
@[grind ←] theorem elim {o : Option α} {y : Run β} (hy : Follows m run y)
    (hf : ∀ a, o = some a → Follows m run (f a)) : Follows m run (o.elim y f) := by
  cases o with
  | none => exact hy
  | some a => exact hf a rfl

/-- Runs that follow do so **along a list**. -/
@[grind ←] theorem mapM (hf : ∀ a, Follows m run (f a)) (l : List α) :
    Follows m run (l.mapM f) := by
  induction l with
  | nil => exact pure []
  | cons a rest ih =>
      rw [List.mapM_cons]
      exact (hf a).bind fun b => ih.bind fun bs => pure (b :: bs)

/-- Runs that follow do so along a list up to the first that gives yes. -/
@[grind ←] theorem anyM {p : α → Run Bool} (hp : ∀ a, Follows m run (p a)) (l : List α) :
    Follows m run (l.anyM p) := by
  induction l with
  | nil => exact pure false
  | cons a rest ih =>
      refine (hp a).bind fun b => ?_
      cases b with
      | true => exact pure true
      | false => exact ih

/-- Runs that follow do so along a list that hands a value on. -/
@[grind ←] theorem foldlM {g : β → α → Run β} (hg : ∀ b a, Follows m run (g b a)) (b : β)
    (l : List α) : Follows m run (l.foldlM g b) := by
  induction l generalizing b with
  | nil => exact pure b
  | cons a rest ih =>
      rw [List.foldlM_cons]
      exact (hg b a).bind fun b => ih b

/-- Runs that follow do so along a list for nothing but their effects. -/
@[grind ←] theorem forM {g : α → Run PUnit} (hg : ∀ a, Follows m run (g a)) (l : List α) :
    Follows m run (l.forM g) := by
  induction l with
  | nil => exact pure PUnit.unit
  | cons a rest ih => exact (hg a).bind fun _ => ih

/-- Runs that follow do so in a loop. -/
@[grind ←] theorem forIn {g : α → β → Run (ForInStep β)} (hg : ∀ a b, Follows m run (g a b))
    (l : List α) (b : β) : Follows m run (forIn l b g) := by
  induction l generalizing b with
  | nil =>
      rw [List.forIn_nil]
      exact pure b
  | cons a rest ih =>
      rw [List.forIn_cons]
      refine (hg a b).bind fun step => ?_
      cases step with
      | done b => exact pure b
      | yield b => exact ih b

/-! ### Changes -/

/-- A change **follows** every runner if it is heard apart from the record of events and makes no
code that asks for it. -/
theorem change {f : World → World} (hc : ∀ w, Change w (f w))
    (ho : ∀ w, (f w).observed = w.observed) (hv : ∀ w, m.view (f w) = f (m.view w))
    (hd : m = .deaf → ∀ w : World, w.Discreet → (f w).Discreet) :
    Follows m run (modify f : Run Unit) :=
  ⟨.change ⟨hc, ho⟩ ⟨hc, ho⟩ fun w w' h =>
    ⟨by rw [hv, hv, h.view_eq], fun hm => hd hm w (h.discreet hm)⟩⟩

@[grind ←] instance note (label : String) : Follows m run (Run.note label) :=
  change (fun w => .trace w label) (fun _ => rfl) (fun _ => by cases m <;> rfl)
    fun _ _ h => h.of_eq rfl rfl

instance mapAttrs (v : Value) (f : Members → Members) :
    Follows m run (modify (·.mapAttrs v f) : Run Unit) :=
  change (fun w => .attrs w v f) (fun w => by unfold World.mapAttrs; split <;> rfl)
    (fun w => m.view_mapAttrs w v f) fun _ _ h => h.mapAttrs v f

instance slots (i : ObjectId) (f : List ((Nat × String) × Value) → List ((Nat × String) × Value)) :
    Follows m run (modify fun w =>
      { w with objects := w.objects.modify i fun o => { o with slots := f o.slots } } : Run Unit) :=
  change (fun w => .slots w i f) (fun _ => rfl) (fun _ => by cases m <;> rfl)
    fun _ _ h => h.modifyObject i fun _ => rfl

/-- To change the growing lists by what is heard follows. -/
theorem growing {f : World → Array (List Value)} (hf : ∀ w, f (m.view w) = f w) :
    Follows m run (modify fun w => { w with growing := f w } : Run Unit) :=
  change (fun w => .growing w _) (fun _ => rfl) (fun w => by rw [hf]; cases m <;> rfl)
    fun _ _ h => h.of_eq rfl rfl

theorem registry {f : World → Registry} (hf : ∀ w, f (m.view w) = f w) :
    Follows m run (modify fun w => { w with registry := f w } : Run Unit) :=
  change (fun w => .registry w _) (fun _ => rfl) (fun w => by rw [hf]; cases m <;> rfl)
    fun _ _ h => h.of_eq rfl rfl

theorem closures {f : World → Members} (hf : ∀ w, f (m.view w) = f w) :
    Follows m run (modify fun w => { w with closures := f w } : Run Unit) :=
  change (fun w => .closures w _) (fun _ => rfl) (fun w => by rw [hf]; cases m <;> rfl)
    fun _ _ h => h.of_eq rfl rfl

theorem handles {f : World → Members} (hf : ∀ w, f (m.view w) = f w) :
    Follows m run (modify fun w => { w with handles := f w } : Run Unit) :=
  change (fun w => .handles w _) (fun _ => rfl) (fun w => by rw [hf]; cases m <;> rfl)
    fun _ _ h => h.of_eq rfl rfl

theorem scopes {f : World → Members} (hf : ∀ w, f (m.view w) = f w) :
    Follows m run (modify fun w => { w with scopes := f w } : Run Unit) :=
  change (fun w => .scopes w _) (fun _ => rfl) (fun w => by rw [hf]; cases m <;> rfl)
    fun _ _ h => h.of_eq rfl rfl

theorem keptResolvers {f : World → List (String × ResolverId)} (hf : ∀ w, f (m.view w) = f w) :
    Follows m run (modify fun w => { w with keptResolvers := f w } : Run Unit) :=
  change (fun w => .keptResolvers w _) (fun _ => rfl) (fun w => by rw [hf]; cases m <;> rfl)
    fun _ _ h => h.of_eq rfl rfl

theorem keptCapsules {f : World → List (String × CapsuleId)} (hf : ∀ w, f (m.view w) = f w) :
    Follows m run (modify fun w => { w with keptCapsules := f w } : Run Unit) :=
  change (fun w => .keptCapsules w _) (fun _ => rfl) (fun w => by rw [hf]; cases m <;> rfl)
    fun _ _ h => h.of_eq rfl rfl

/-! ### New things -/

/-- To add a function follows, for the deaf if it is discreet. -/
theorem newFunction {f : FunctionRec} (hf : m = .deaf → f.code.discreet = true) :
    Follows m run (Run.newFunction f) := by
  have steps : Run.newFunction f = (do
      let i ← Run.reading (·.functions.size)
      modify fun w => { w with functions := w.functions.push f }
      Pure.pure i) := rfl
  rw [steps]
  refine (reading (by simp)).bind fun i => (change (fun w => .function w f) (fun _ => rfl)
    (fun _ => by cases m <;> rfl) fun hm _ h => h.pushFunction (hf hm)).bind fun _ => pure i

/-- To add an object follows, for the deaf if it carries nothing indiscreet. -/
theorem newObject {o : ObjectRec} (ho : m = .deaf → o.payload.discreet = true) :
    Follows m run (Run.newObject o) := by
  have steps : Run.newObject o = (do
      let i ← Run.reading (·.objects.size)
      modify fun w => { w with objects := w.objects.push o }
      Pure.pure (.object i)) := rfl
  rw [steps]
  refine (reading (by simp)).bind fun i => (change (fun w => .object w o) (fun _ => rfl)
    (fun _ => by cases m <;> rfl) fun hm _ h => h.pushObject (ho hm)).bind fun _ => pure _

/-! ### Logging -/

/-- To log a message that is made by what follows does. -/
@[grind ←] theorem logText {level : LogLevel} {message : Unit → Run String}
    (hm : Follows m run (message ())) : Follows m run (Run.logText level message) := by
  refine (reading (by simp)).bind fun logs => ?_
  cases logs with
  | false => exact pure ()
  | true =>
      refine hm.attempt.bind fun text => ?_
      cases text with
      | error e => exact pure ()
      | ok text => exact tell level text

@[grind ←] instance log (level : LogLevel) (message : String) :
    Follows m run (Run.log level message) :=
  logText (pure message)

end Follows

/-! ### Resolvers and capsules of the world -/

namespace Twin

variable {m : Hearing} {run : Runner} {α β : Type}

/-- Twins give twins of what is made of their gifts. -/
theorem map {x y : Run α} (h : Twin m run x y) (f : α → β) : Twin m run (f <$> x) (f <$> y) := by
  rw [← bind_pure_comp, ← bind_pure_comp]
  exact h.bind fun a _ => .pure (f a)

/-- Twins with twins as handlers are twins. -/
theorem recover {x y : Run α} {handled : Error → Bool} {f g : Error → Run α}
    (h : Twin m run x y) (hf : ∀ e, Twin m run (f e) (g e)) :
    Twin m run (Run.recover handled x f) (Run.recover handled y g) := by
  refine h.tryCatch fun e => ?_
  cases e with
  | exhausted => exact .throw _
  | raised e =>
      simp only
      split
      · exact hf e
      · exact .throw _

/-- What is done with something that was read is done in a world whose code is discreet. -/
theorem reading_bind {f : World → α} {g g' : α → Run β} (hf : ∀ w, f (m.view w) = f w)
    (h : ∀ w : World, (m = .deaf → w.Discreet) → Twin m run (g (f w)) (g' (f w))) :
    Twin m run (Run.reading f >>= g) (Run.reading f >>= g') := by
  have steps (g : α → Run β) : Run.reading f >>= g = get >>= fun w => g (f w) := by
    rw [Run.reading, bind_map_left]
  rw [steps, steps]
  refine .get_bind fun w w' hw => ?_
  rw [← hw.reads hf]
  exact h w hw.discreet

/-- To add a resolver is **twin** to adding it with an observer that is heard alike. -/
theorem pushResolver {r : Resolver} {o : Option Observer} (ho : m.ear r.observer = m.ear o) :
    Twin m run (modify fun w => { w with resolvers := w.resolvers.push r } : Run Unit)
      (modify fun w => { w with resolvers := w.resolvers.push { r with observer := o } }) :=
  .change ⟨fun w => Change.resolver w _, fun _ => rfl⟩ ⟨fun w => Change.resolver w _, fun _ => rfl⟩
    fun _ _ h => h.pushResolver ho

/-- To add a capsule is twin to adding it with an observer that is heard alike. -/
theorem pushCapsule {c : Capsule} {o : Option Observer} (ho : m.ear c.observer = m.ear o) :
    Twin m run (modify fun w => { w with capsules := w.capsules.push c } : Run Unit)
      (modify fun w => { w with capsules := w.capsules.push { c with observer := o } }) :=
  .change ⟨fun w => Change.capsule w _, fun _ => rfl⟩ ⟨fun w => Change.capsule w _, fun _ => rfl⟩
    fun _ _ h => h.pushCapsule ho

/-- What is done with a **resolver of the world** takes the same steps if it does for resolvers that
differ in watchers. -/
theorem resolverAt_bind (id : ResolverId)
    {f g : Resolver → Run β}
    (h : ∀ (r : Resolver) (o : Option Observer), m.ear r.observer = m.ear o →
      Twin m run (f r) (g { r with observer := o })) :
    Twin m run (resolverAt id >>= f) (resolverAt id >>= g) := by
  have steps (f : Resolver → Run β) : resolverAt id >>= f = get >>= fun w : World =>
      (w.resolvers[id]?).elim (Run.raise (.noKey (toString id))) f := by
    simp only [resolverAt, Run.reading, bind_assoc, bind_map_left]
    refine congrArg _ (funext fun w => ?_)
    cases w.resolvers[id]? <;> rfl
  rw [steps, steps]
  refine .get_bind fun w w' hw => ?_
  rcases hw.resolver id with ⟨h₁, h₂⟩ | ⟨r, o, h₁, h₂, ho⟩
  · rw [h₁, h₂]
    exact .throw _
  · rw [h₁, h₂]
    exact h r o ho

/-- What goes on from a capsule is twin to what goes on from it with an observer that is heard
alike. -/
theorem capsuleAt_bind (id : CapsuleId)
    {f g : Capsule → Run β}
    (h : ∀ (c : Capsule) (o : Option Observer), m.ear c.observer = m.ear o →
      Twin m run (f c) (g { c with observer := o })) :
    Twin m run (capsuleAt id >>= f) (capsuleAt id >>= g) := by
  have steps (f : Capsule → Run β) : capsuleAt id >>= f = get >>= fun w : World =>
      (w.capsules[id]?).elim (Run.raise (.noKey (toString id))) f := by
    simp only [capsuleAt, Run.reading, bind_assoc, bind_map_left]
    refine congrArg _ (funext fun w => ?_)
    cases w.capsules[id]? <;> rfl
  rw [steps, steps]
  refine .get_bind fun w w' hw => ?_
  rcases hw.capsule id with ⟨h₁, h₂⟩ | ⟨c, o, h₁, h₂, ho⟩
  · rw [h₁, h₂]
    exact .throw _
  · rw [h₁, h₂]
    exact h c o ho

end Twin

namespace Follows

variable {m : Hearing} {run : Runner} {α β : Type}

/-- What goes on from something that is heard follows if it does in each world. -/
theorem reading_bind {f : World → α} {g : α → Run β} (hf : ∀ w, f (m.view w) = f w)
    (h : ∀ w : World, (m = .deaf → w.Discreet) → Follows m run (g (f w))) :
    Follows m run (Run.reading f >>= g) :=
  ⟨.reading_bind hf fun w hw => (h w hw).twin⟩

/-- What does not look at the observer of a resolver may look at the rest of it. -/
theorem resolverAt_bind {id : ResolverId} {f : Resolver → Run β}
    (hf : ∀ r o, f { r with observer := o } = f r) (h : ∀ r, Follows m run (f r)) :
    Follows m run (resolverAt id >>= f) :=
  ⟨.resolverAt_bind id fun r o _ => by
    rw [hf r o]
    exact (h r).twin⟩

/-- What goes on from a capsule follows if its observer makes no difference. -/
theorem capsuleAt_bind {id : CapsuleId} {f : Capsule → Run β}
    (hf : ∀ c o, f { c with observer := o } = f c) (h : ∀ c, Follows m run (f c)) :
    Follows m run (capsuleAt id >>= f) :=
  ⟨.capsuleAt_bind id fun c o _ => by
    rw [hf c o]
    exact (h c).twin⟩

end Follows

/-! ### What holds of every run -/

section Closed

variable {run : Runner} {P : {α : Type} → Run α → Run α → Prop}
  (pure : ∀ {α : Type} (a : α), P (Pure.pure a : Run α) (Pure.pure a))
  (raise : ∀ {α : Type} (e : Error), P (Run.raise e : Run α) (Run.raise e))
  (bind : ∀ {α β : Type} {x y : Run α} {f g : α → Run β},
    P x y → (∀ a, P (f a) (g a)) → P (x >>= f) (y >>= g))

include pure bind in
/-- What holds for asking each context holds for **the scan**. -/
theorem Resolver.firstAnswer_closed {α : Type} {a b : Value → Run (Option α)}
    (ha : ∀ context, P (a context) (b context)) (line : List ((Group × Value) × Nat)) :
    P (firstAnswer a line) (firstAnswer b line) := by
  induction line with
  | nil => exact pure _
  | cons entry rest ih =>
    refine bind (ha entry.1.2) fun found => ?_
    cases found with
    | none => exact ih
    | some _ => exact pure _

include pure raise bind in
/-- What holds of what is asked and told in a **question**, and of what goes on from what it holds
of, holds of the question. -/
theorem Resolver.search_closed {α : Type} {r : Resolver} {o : Option Observer} {name : String}
    {a b : Value → Run (Option α)} (ha : ∀ context, P (a context) (b context))
    (announcing : ∀ g i context, P (announcing run name g i context)
      (Resolver.announcing run name g i context))
    (emit : ∀ e, P (emit run r.observer e) (OrderedScope.emit run o e)) :
    P (r.search run name a) (({ r with observer := o } : Resolver).search run name b) := by
  refine bind (firstAnswer_closed pure bind ha r.numbered) fun found => ?_
  cases found with
  | none => exact bind (emit _) fun _ => raise _
  | some entry =>
    obtain ⟨group, position, context, answer⟩ := entry
    refine bind (x := matched run r name group position context) ?_ fun _ => pure _
    rw [matched_eq, matched_eq]
    exact bind (announcing group position context) fun _ => emit _

end Closed

/-- Putting an error into words is on a course: at most one task is done. -/
theorem Goes.errorText {run : Runner} (e : Error) (w : World) : Goes run (e.text run) w := by
  cases e with
  | noItem key =>
    refine .bind (Course.start.task _) fun text w₁ _ => ?_
    cases text <;> exact .start
  | _ => exact .start

/-- Telling an event is on a course if the reaction of the observer is. -/
theorem Goes.emit {run : Runner} {o : Option Observer} (e : Event) {w : World}
    (react : ∀ (o : Observer) (w : World), Goes run (o.react run) w) :
    Goes run (emit run o e) w := by
  cases o with
  | none => exact .start
  | some o =>
    refine .tryCatch (.bind (Course.start.change (.observed w _)) fun _ w₁ _ => react o w₁)
      fun f w₁ => ?_
    cases f with
    | exhausted => exact .start
    | raised failure =>
      simp only
      split
      · refine .bind (.errorText failure w₁) fun words w₂ _ => ?_
        rw [Goes, Run.outcome_log]
        exact .start
      · exact .start

/-- A run that takes steps **goes** to its end on a course. -/
theorem Twin.goes {run : Runner} {α : Type} {x y : Run α} (h : Twin .all run x y) (w : World) :
    Goes run x w := by
  induction h generalizing w with
  | pure a => exact .start
  | throw f => exact .start
  | tell level text => exact .start
  | get_bind _ ih =>
    exact .bind .start fun w₁ w₂ h => by
      cases h
      exact ih w w (.refl w) w
  | change hf => exact Course.start.change (hf.change w)
  | take => exact Course.start.change (.observed w [])
  | task t => exact Course.start.task t
  | bind _ _ ih ihf => exact (ih w).bind fun a w₁ h => ihf a ⟨w, w₁, h⟩ w₁
  | tryCatch _ _ ih ihf => exact (ih w).tryCatch ihf
  | event e _ _ _ ih => exact .emit e fun o w₁ => ih o rfl w₁
  | @question _ r _ _ _ ask' _ _ _ _ _ iha ihn ihr =>
    exact Resolver.search_closed (P := fun x _ => ∀ w, Goes run x w) (o := r.observer) (b := ask')
      (fun _ _ => .start) (fun _ _ => .start) (fun hx hf w => (hx w).bind fun a w₁ _ => hf a w₁)
      iha ihn (fun e w => .emit e fun o w₁ => ihr o rfl w₁) w
  | @evaluation r o id _ _ _ ih =>
    have done : Course run w (w.evaluated run id r.fn) := Course.start.evaluation id r.fn
    rw [Goes, Resolver.outcome_evaluate]
    rcases (run (w.bodyTask r.fn)).outcome (w.entered id) with ⟨f | v, w₁⟩
    · exact done
    · exact done.trans (Goes.bind (.emit _ fun o w₁ => ih o rfl w₁) fun _ _ _ => .start)

/-- A run that follows a runner **goes** to its end on a course. -/
theorem Follows.goes {run : Runner} {α : Type} {x : Run α} (h : Follows .all run x) (w : World) :
    Goes run x w := h.twin.goes w

end OrderedScope
