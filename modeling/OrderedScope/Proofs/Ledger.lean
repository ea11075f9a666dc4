import OrderedScope.Proofs.FirstMatch
import OrderedScope.Proofs.Follows.Session

/-!
# The Ledger of a Run

A run is accounted for by its **deeds**: the tasks it hands to the interpreter, each with what is
done in it, the questions it puts to resolvers, the closures it evaluates, and the events that it
tells besides. A question is told to the observer of its resolver with an event of its own, if it is
answered or no context answers it, and with none if code of a context fails; an evaluation is told
with one event if its body returns. Nothing else writes into the record of events.

`Does` relates a run and a world to the deeds of the run from there. It follows the steps of the
run, and has one rule for each kind of deed.

## Main results

* `Does.observed_eq`: the record of events is what the ledger says it is.
* `Follows.does`: every run of the library has a ledger.
* `Follows.does_tasks`: the ledger of a mute run has nothing but tasks.
-/

namespace OrderedScope

open Interpreter

/-! ### Deeds and their events -/

/-- How a question **ends**: a context is found, no context answers, or code fails on the way. -/
inductive Verdict where
  | found (group : Group) (position : Nat) (context : Value)
  | unanswered
  | broken

/-- The **event** by which the end of a question is told. -/
def Verdict.event? (r : Resolver) (name : String) : Verdict → Option Event
  | found g i context => some (.resolved name context (.str g.name) (.int i) [])
  | unanswered => some (.unresolved name
      [("direction", .str r.direction.name), ("visibility", .str r.variant.visibility)])
  | broken => none

/-- The event by which the end of an evaluation is told, if its body returned. -/
def Resolver.returnEvent? (r : Resolver) (returned : Bool) : Option Event :=
  if returned then
    some (.evaluated [("direction", .str r.direction.name),
      ("visibility", .str r.variant.visibility)])
  else none

/-- Who is told what: the observer of a resolver and the event, if there are both. -/
def Resolver.telling (r : Resolver) (e? : Option Event) : Option (Observer × Event) :=
  r.observer.bind fun o => e?.map (o, ·)

/-- What **follows** when an event is on record: the observer reacts, and an ordinary failure of it
is put into words and logged. -/
def Observer.aftermath (run : Runner) (o : Observer) (e : Event) : Run Unit :=
  Run.recover (·.isA .failure) (o.react run) fun failure => do
    let words ← failure.text run
    Run.log .warning ("Event callback failed for EventKind." ++ e.kind.title ++ ": " ++ words)

/-- An event that an observer is told is on record **before** the observer reacts. -/
theorem outcome_emit_some (run : Runner) (o : Observer) (e : Event) (w : World) :
    (emit run (some o) e).outcome w =
      (o.aftermath run e).outcome { w with observed := e :: w.observed } := by
  rw [emit, Run.outcome_recover, Observer.hear, Run.outcome_bind_of_ok (Run.outcome_modify _ w),
    Observer.aftermath, Run.outcome_recover]

/-- A **deed** of a run. What is done in it stands first; what follows when an observer is told an
event stands after it. -/
inductive Deed where
  | task (t : Task) (within : List Deed)
  | question (r : Resolver) (name : String) (within : List Deed) (v : Verdict) (after : List Deed)
  | evaluation (id : ResolverId) (r : Resolver) (within : List Deed) (returned : Bool)
      (after : List Deed)
  /-- An event that is told besides. -/
  | telling (o : Observer) (e : Event) (after : List Deed)
  /-- The record of events is taken away. -/
  | taking

/-- Whether a deed is a task. -/
def Deed.isTask : Deed → Bool
  | task .. => true
  | _ => false

/-- What happens to the record of events: an event is told, by a resolver or besides, or all are
taken away. -/
inductive Notice where
  | told (teller : Option Resolver) (e : Event)
  | taken

/-- The record of events, latest first, after a notice. -/
def Notice.write : List Event → Notice → List Event
  | record, told _ e => e :: record
  | _, taken => []

/-- The notice that a resolver gives. -/
def Resolver.notices (r : Resolver) (e? : Option Event) : List Notice :=
  ((r.telling e?).map fun p => Notice.told (some r) p.2).toList

mutual

/-- The **notices** of a deed, first to last. -/
def Deed.notices : Deed → List Notice
  | .task _ within => noticesOf within
  | .question r name within v after =>
    noticesOf within ++ r.notices (v.event? r name) ++ noticesOf after
  | .evaluation _ r within returned after =>
    noticesOf within ++ r.notices (r.returnEvent? returned) ++ noticesOf after
  | .telling _ e after => .told none e :: noticesOf after
  | .taking => [.taken]

/-- The notices of some deeds. -/
def noticesOf : List Deed → List Notice
  | [] => []
  | d :: rest => d.notices ++ noticesOf rest

end

/-- The notices of two stretches of a ledger are those of **both in turn**. -/
@[simp] theorem noticesOf_append (L L' : List Deed) :
    noticesOf (L ++ L') = noticesOf L ++ noticesOf L' := by
  induction L with
  | nil => rfl
  | cons d rest ih => simp only [List.cons_append, noticesOf, ih, List.append_assoc]

/-! ### How questions end -/

namespace Resolver

variable {α : Type}

/-- What a resolver does with a question **before** it tells how it ends. -/
def probing (run : Runner) (r : Resolver) (name : String) (ask : Value → Run (Option α)) :
    Run Unit := do
  match ← firstAnswer ask r.numbered with
  | some (group, position, context, _) => announcing run name group position context
  | none => pure ()

/-- How a question **ends**, and the world in which that is told. A context is found if it is the
first that answers and the log can name its class. -/
inductive Ends (run : Runner) (r : Resolver) (name : String) (ask : Value → Run (Option α))
    (w : World) : Verdict → World → Prop
  | found {i : Nat} {g : Group} {context : Value} {a : α} {w₁ w₂ : World} :
      r.Picks ask w i g context a w₁ →
      (announcing run name g i context).outcome w₁ = (.ok (), w₂) →
      Ends run r name ask w (.found g i context) w₂
  | unnamed {i : Nat} {g : Group} {context : Value} {a : α} {f : Fault} {w₁ w₂ : World} :
      r.Picks ask w i g context a w₁ →
      (announcing run name g i context).outcome w₁ = (.error f, w₂) →
      Ends run r name ask w .broken w₂
  | unanswered {w₁ : World} : Passed ask r.contexts w w₁ → Ends run r name ask w .unanswered w₁
  | broken {i : Nat} {g : Group} {context : Value} {f : Fault} {w₁ w₂ : World} :
      r.Reaches ask w i g context w₁ → (ask context).outcome w₁ = (.error f, w₂) →
      Ends run r name ask w .broken w₂

/-- Every question ends in one of these ways. -/
theorem exists_ends (run : Runner) (r : Resolver) (name : String) (ask : Value → Run (Option α))
    (w : World) : ∃ v w₁, Ends run r name ask w v w₁ := by
  rcases scan_cases r ask w with
    ⟨i, g, context, a, w₁, picks⟩ | ⟨i, g, context, w₁, f, w₂, reaches, fails⟩ | ⟨w₁, passed⟩
  · rcases named : (announcing run name g i context).outcome w₁ with ⟨f | _, w₂⟩
    · exact ⟨_, _, .unnamed picks named⟩
    · exact ⟨_, _, .found picks named⟩
  · exact ⟨_, _, .broken reaches fails⟩
  · exact ⟨_, _, .unanswered passed⟩

end Resolver

/-! ### The ledger -/

/-- The **ledger** of a run: `Does n x w L` says that from the world `w` the run `x`, made with the
interpreter of the budget `n`, does the deeds `L`. -/
inductive Does : Nat → {α : Type} → Run α → World → List Deed → Prop
  | pure {n : Nat} {α : Type} (a : α) (w : World) : Does n (Pure.pure a : Run α) w []
  | throw {n : Nat} {α : Type} (f : Fault) (w : World) : Does n (throw f : Run α) w []
  | tell {n : Nat} (level : LogLevel) (text : String) (w : World) :
      Does n (Run.tell level text) w []
  | get_bind {n : Nat} {α : Type} {f : World → Run α} {w : World} {L : List Deed} :
      Does n (f w) w L → Does n (get >>= f) w L
  | change {n : Nat} {f : World → World} (w : World) :
      Unrecorded f → Does n (modify f : Run Unit) w []
  | take {n : Nat} (w : World) : Does n takeEvents w [.taking]
  /-- A task without budget is not done. -/
  | exhausted (t : Task) (w : World) : Does 0 (runner 0 t) w [.task t []]
  | task {n : Nat} (t : Task) {w : World} {L : List Deed} :
      Does n (perform (runner n) t) w L → Does (n + 1) (runner (n + 1) t) w [.task t L]
  | bind {n : Nat} {α β : Type} {x : Run α} {f : α → Run β} {a : α} {w w₁ : World}
      {L L' : List Deed} : Does n x w L → x.outcome w = (.ok a, w₁) → Does n (f a) w₁ L' →
      Does n (x >>= f) w (L ++ L')
  | bind_error {n : Nat} {α β : Type} {x : Run α} {f : α → Run β} {e : Fault} {w w₁ : World}
      {L : List Deed} : Does n x w L → x.outcome w = (.error e, w₁) → Does n (x >>= f) w L
  | tryCatch_ok {n : Nat} {α : Type} {x : Run α} {f : Fault → Run α} {a : α} {w w₁ : World}
      {L : List Deed} : Does n x w L → x.outcome w = (.ok a, w₁) → Does n (tryCatch x f) w L
  | tryCatch {n : Nat} {α : Type} {x : Run α} {f : Fault → Run α} {e : Fault} {w w₁ : World}
      {L L' : List Deed} : Does n x w L → x.outcome w = (.error e, w₁) → Does n (f e) w₁ L' →
      Does n (tryCatch x f) w (L ++ L')
  | unheard {n : Nat} (e : Event) (w : World) : Does n (emit (runner n) none e) w []
  | event {n : Nat} (o : Observer) (e : Event) {w : World} {after : List Deed} :
      Does n (o.aftermath (runner n) e) { w with observed := e :: w.observed } after →
      Does n (emit (runner n) (some o) e) w [.telling o e after]
  /-- The end of a question is told to the observer of its resolver. -/
  | question {n : Nat} {α : Type} {r : Resolver} {name : String} {ask : Value → Run (Option α)}
      {v : Verdict} {w w₁ : World} {within after : List Deed} :
      Does n (r.probing (runner n) name ask) w within → r.Ends (runner n) name ask w v w₁ →
      (∀ o e, r.telling (v.event? r name) = some (o, e) →
        Does n (o.aftermath (runner n) e) { w₁ with observed := e :: w₁.observed } after) →
      (r.telling (v.event? r name) = none → after = []) →
      Does n (r.search (runner n) name ask) w [.question r name within v after]
  /-- An evaluation is told to the observer of its resolver after its body. -/
  | evaluation {n : Nat} {r : Resolver} {id : ResolverId} {w : World} {within after : List Deed}
      {returned : Bool} :
      Does n (runner n (w.bodyTask r.fn)) (w.entered id) within →
      ((runner n (w.bodyTask r.fn)).outcome (w.entered id)).1.isOk = returned →
      (∀ o e, r.telling (r.returnEvent? returned) = some (o, e) →
        Does n (o.aftermath (runner n) e)
          { w.evaluated (runner n) id r.fn with
            observed := e :: (w.evaluated (runner n) id r.fn).observed } after) →
      (r.telling (r.returnEvent? returned) = none → after = []) →
      Does n (r.evaluate (runner n) id) w [.evaluation id r within returned after]

namespace Does

variable {n : Nat} {α β : Type} {w : World} {L : List Deed}

/-- To read the world is no deed. -/
theorem reading (f : World → α) (w : World) : Does n (Run.reading f) w [] := by
  have steps : Run.reading f = get >>= fun w => Pure.pure (f w) := (bind_pure_comp ..).symm
  rw [steps]
  exact .get_bind (.pure _ w)

/-- What goes on from a reading does the deeds of what follows. -/
theorem reading_bind {f : World → α} {g : α → Run β} (h : Does n (g (f w)) w L) :
    Does n (Run.reading f >>= g) w L := (reading f w).bind (Run.outcome_reading f w) h

/-- A run goes on **without further deeds**. -/
theorem bind_quiet {x : Run α} {f : α → Run β} (h : Does n x w L)
    (quiet : ∀ a w₁, Does n (f a) w₁ []) : Does n (x >>= f) w L := by
  rcases hx : x.outcome w with ⟨e | a, w₁⟩
  · exact h.bind_error hx
  · have done := h.bind hx (quiet a w₁)
    rwa [List.append_nil] at done

/-- What is made of the gift of a run does the deeds of the run. -/
theorem map {x : Run α} (f : α → β) (h : Does n x w L) : Does n (f <$> x) w L := by
  rw [← bind_pure_comp]
  exact h.bind_quiet fun a w₁ => .pure (f a) w₁

/-- A run of two does what each of them does. -/
theorem ite {x y : Run α} (b : Bool) (hx : Does n x w L) (hy : Does n y w L) :
    Does n (if b then x else y) w L := by
  cases b with
  | true => exact hx
  | false => exact hy

/-- Logging a message is no deed. -/
theorem log (level : LogLevel) (message : String) (w : World) :
    Does n (Run.log level message) w [] := by
  have made : Does n (Run.attempt (Pure.pure message : Run String)) w [] :=
    .tryCatch_ok ((Does.pure message w).map Except.ok) rfl
  exact reading_bind (.ite _ (made.bind rfl (.tell level message w)) (.pure () w))

/-- What a handler does is left out where it does **nothing**. -/
theorem tryCatch_quiet {x : Run α} {f : Fault → Run α} (h : Does n x w L)
    (quiet : ∀ e w₁, Does n (f e) w₁ []) : Does n (MonadExcept.tryCatch x f) w L := by
  rcases hx : x.outcome w with ⟨e | a, w₁⟩
  · have done := h.tryCatch hx (quiet e w₁)
    rwa [List.append_nil] at done
  · exact h.tryCatch_ok hx

/-- Errors are handled **without further deeds**. -/
theorem recover_quiet {handled : Error → Bool} {x : Run α} {handler : Error → Run α}
    (h : Does n x w L) (quiet : ∀ e w₁, Does n (handler e) w₁ []) :
    Does n (Run.recover handled x handler) w L := by
  refine h.tryCatch_quiet fun f w₁ => ?_
  rcases f with e | _
  · dsimp only
    split
    · exact quiet e w₁
    · exact .throw (.raised e) w₁
  · exact .throw .exhausted w₁

/-- A handler adds **its own deeds** to those before the error. -/
theorem recover {handled : Error → Bool} {x : Run α} {handler : Error → Run α} {e : Error}
    {w₁ : World} {L' : List Deed} (h : Does n x w L)
    (hx : x.outcome w = (.error (.raised e), w₁)) (he : handled e = true)
    (hf : Does n (handler e) w₁ L') : Does n (Run.recover handled x handler) w (L ++ L') := by
  refine h.tryCatch hx ?_
  dsimp only
  rwa [if_pos he]

end Does

/-! ### The record of events -/

namespace Resolver

variable {run : Runner} {r : Resolver}

/-- Telling the observer of a resolver what there is to tell puts its notice on record, and what the
observer does about it. -/
theorem observed_tell {e? : Option Event} {after : List Deed} {w : World}
    (reacts : ∀ o e, r.telling e? = some (o, e) →
      ((o.aftermath run e).outcome { w with observed := e :: w.observed }).2.observed =
        (noticesOf after).foldl Notice.write (e :: w.observed))
    (silent : r.telling e? = none → after = []) :
    ((e?.elim (pure ()) (emit run r.observer)).outcome w).2.observed =
      (r.notices e? ++ noticesOf after).foldl Notice.write w.observed := by
  cases e? with
  | none =>
    have none : r.telling none = none := by cases r.observer <;> simp [telling]
    rw [silent none, notices, none]
    rfl
  | some e =>
    cases ho : r.observer with
    | none =>
      have none : r.telling (some e) = none := by rw [telling, ho]; rfl
      rw [silent none, notices, none]
      rfl
    | some o =>
      have both : r.telling (some e) = some (o, e) := by rw [telling, ho]; rfl
      rw [Option.elim_some, outcome_emit_some, reacts o e both, notices, both]
      rfl

variable {α : Type} {name : String} {ask : Value → Run (Option α)} {w w₁ : World} {v : Verdict}

/-- A search that picks a context announces it, and **then tells** the observer. -/
theorem outcome_search_of_picks {i : Nat} {g : Group} {context : Value} {a : α} {w₂ : World}
    (picks : r.Picks ask w i g context a w₂) : (r.search run name ask).outcome w = (do
      announcing run name g i context
      emit run r.observer (.resolved name context (.str g.name) (.int i) [])
      pure (context, a) : Run (Value × α)).outcome w₂ := by
  rw [search_of_picks picks, matched_eq, bind_assoc]

/-- A question ends where its probing does, and **then its end is told**. -/
theorem Ends.observed_search (h : Ends run r name ask w v w₁) :
    ((r.probing run name ask).outcome w).2 = w₁ ∧
      ((r.search run name ask).outcome w).2.observed =
        (((v.event? r name).elim (pure ()) (emit run r.observer)).outcome w₁).2.observed := by
  have probed {i : Nat} {g : Group} {context : Value} {a : α} {w₂ : World}
      (picks : r.Picks ask w i g context a w₂) : (r.probing run name ask).outcome w =
        (announcing run name g i context).outcome w₂ := by
    rw [probing, Run.outcome_bind_of_ok (firstAnswer_of_picks picks)]
  cases h with
  | found picks named =>
    refine ⟨by rw [probed picks, named], ?_⟩
    rw [outcome_search_of_picks picks, Run.outcome_bind_of_ok named, Run.outcome_bind]
    simp only [Verdict.event?, Option.elim_some]
    rcases (emit run r.observer _).outcome w₁ with ⟨_ | _, _⟩ <;> rfl
  | unnamed picks named =>
    refine ⟨by rw [probed picks, named], ?_⟩
    rw [outcome_search_of_picks picks, Run.outcome_bind_of_error named]
    rfl
  | unanswered passed =>
    refine ⟨by rw [probing, Run.outcome_bind_of_ok (firstAnswer_of_passed passed)]; rfl, ?_⟩
    rw [search_of_passed passed, failUnanswered, Run.outcome_bind]
    simp only [Verdict.event?, Option.elim_some]
    rcases (emit run r.observer _).outcome w₁ with ⟨_ | _, _⟩ <;> rfl
  | broken reaches fails =>
    refine ⟨by rw [probing, Run.outcome_bind_of_error (firstAnswer_of_fails reaches fails)], ?_⟩
    rw [search_of_fails reaches fails]
    rfl

end Resolver

namespace Does

variable {n : Nat} {α : Type} {x : Run α} {w : World} {L : List Deed}

/-- The **record of events** is what the ledger says: nothing is told but by the deeds in it. -/
theorem observed_eq (h : Does n x w L) :
    (x.outcome w).2.observed = (noticesOf L).foldl Notice.write w.observed := by
  induction h with
  | pure => rfl
  | throw => rfl
  | tell => rfl
  | get_bind _ ih => exact ih
  | change w hf => exact hf.observed_eq w
  | take => rfl
  | exhausted => rfl
  | task t _ ih => simpa [noticesOf, Deed.notices, runner_succ] using ih
  | bind _ hx _ ih ihf =>
    rw [Run.outcome_bind_of_ok hx, ihf, noticesOf_append, List.foldl_append, ← ih, hx]
  | bind_error _ hx ih =>
    rw [Run.outcome_bind_of_error hx, ← ih, hx]
  | tryCatch_ok _ hx ih =>
    rw [Run.outcome_tryCatch, hx, ← ih, hx]
  | tryCatch _ hx _ ih ihf =>
    rw [Run.outcome_tryCatch, hx, noticesOf_append, List.foldl_append, ← ih, hx]
    exact ihf
  | unheard => rfl
  | event o e _ ih => simpa [noticesOf, Deed.notices, outcome_emit_some, Notice.write] using ih
  | question probed ends _ silent ih ihr =>
    obtain ⟨after, told⟩ := ends.observed_search
    rw [after] at ih
    rw [told, Resolver.observed_tell (fun o e both => ihr o e both) silent, ih]
    simp [noticesOf, Deed.notices]
  | @evaluation n r id w within after returned _ result _ silent ih ihr =>
    have body : (w.evaluated (runner n) id r.fn).observed =
        (noticesOf within).foldl Notice.write w.observed := ih
    have told := Resolver.observed_tell (fun o e both => ihr o e both) silent
    have ended : ((r.evaluate (runner n) id).outcome w).2.observed =
        (((r.returnEvent? returned).elim (Pure.pure ()) (emit (runner n) r.observer)).outcome
          (w.evaluated (runner n) id r.fn)).2.observed := by
      rw [Resolver.outcome_evaluate]
      rcases hb : (runner n (w.bodyTask r.fn)).outcome (w.entered id) with ⟨f | v, w₁⟩ <;>
        rw [hb] at result <;> subst result
      · rfl
      · simp only [Run.outcome_bind, Resolver.returnEvent?, Except.isOk, Except.toBool, ↓reduceIte,
          Option.elim_some]
        rcases (emit (runner n) r.observer _).outcome _ with ⟨_ | _, _⟩ <;> rfl
    rw [ended, told, body]
    simp [noticesOf, Deed.notices]

end Does

/-! ### Every run has a ledger -/

/-- A run is **accounted for** under a hearing: from every world it has a ledger, and a mute run has
one with nothing but tasks. -/
def Accounted (n : Nat) (m : Hearing) {α : Type} (x : Run α) : Prop :=
  ∀ w, ∃ L, Does n x w L ∧ (m = .mute → ∀ d ∈ L, d.isTask = true)

namespace Accounted

variable {n : Nat} {m : Hearing} {α β : Type}

/-- A run without deeds is accounted for. -/
theorem of_does {x : Run α} (h : ∀ w, Does n x w []) : Accounted n m x :=
  fun w => ⟨[], h w, fun _ _ hd => nomatch hd⟩

/-- Runs in a row are accounted for if both are. -/
theorem bind {x : Run α} {f : α → Run β} (hx : Accounted n m x)
    (hf : ∀ a, x.CanGive a → Accounted n m (f a)) : Accounted n m (x >>= f) := by
  intro w
  obtain ⟨L, done, tasks⟩ := hx w
  rcases h : x.outcome w with ⟨e | a, w₁⟩
  · exact ⟨L, done.bind_error h, tasks⟩
  · obtain ⟨L', done', tasks'⟩ := hf a ⟨w, w₁, h⟩ w₁
    exact ⟨L ++ L', done.bind h done', fun hm d hd =>
      (List.mem_append.1 hd).elim (tasks hm d) (tasks' hm d)⟩

/-- A run and its handler are accounted for if both are. -/
theorem tryCatch {x : Run α} {f : Fault → Run α} (hx : Accounted n m x)
    (hf : ∀ e, Accounted n m (f e)) : Accounted n m (tryCatch x f) := by
  intro w
  obtain ⟨L, done, tasks⟩ := hx w
  rcases h : x.outcome w with ⟨e | a, w₁⟩
  · obtain ⟨L', done', tasks'⟩ := hf e w₁
    exact ⟨L ++ L', done.tryCatch h done', fun hm d hd =>
      (List.mem_append.1 hd).elim (tasks hm d) (tasks' hm d)⟩
  · exact ⟨L, done.tryCatch_ok h, tasks⟩

/-- What follows when an observer is told an event is accounted for **if its reaction is**: a
failure is put into words by a task at most. -/
theorem aftermath {o : Observer} {e : Event} (react : Accounted n m (o.react (runner n)))
    (task : ∀ t, Accounted n m (runner n t)) : Accounted n m (o.aftermath (runner n) e) := by
  have words (x : Error) : Accounted n m (x.text (runner n)) := by
    cases x with
    | noItem key => exact (task _).bind fun text _ => of_does fun w => .reading _ w
    | _ => exact of_does (.pure _)
  refine react.tryCatch fun f => ?_
  cases f with
  | exhausted => exact of_does (.throw _)
  | raised x =>
    simp only
    split
    · exact (words x).bind fun _ _ => of_does fun w => .log _ _ w
    · exact of_does (.throw _)

/-- What a resolver does with a question before it tells how it ends is accounted for if its asking
is. -/
theorem probing {r : Resolver} {name : String} {ask : Value → Run (Option α)}
    (asks : ∀ context, Accounted n m (ask context))
    (names : ∀ g i context, Accounted n m (Resolver.announcing (runner n) name g i context)) :
    Accounted n m (r.probing (runner n) name ask) := by
  refine (Resolver.firstAnswer_closed (P := fun x _ => Accounted n m x) (b := ask)
    (fun a => of_does (.pure a)) (fun hx hf => hx.bind fun a _ => hf a) asks
    r.numbered).bind fun found _ => ?_
  cases found with
  | none => exact of_does (.pure ())
  | some entry => exact names _ _ _

end Accounted

/-- What is told is told to **the observer** of the resolver. -/
theorem Resolver.observer_of_telling {r : Resolver} {e? : Option Event} {o : Observer} {e : Event}
    (h : r.telling e? = some (o, e)) : r.observer = some o := by
  obtain ⟨o', same, told⟩ := Option.bind_eq_some_iff.1 h
  obtain ⟨_, -, ⟨⟩⟩ := Option.map_eq_some_iff.1 told
  exact same

/-- What follows when the observer of a resolver is told something, if it is told anything. -/
theorem exists_after {n : Nat} {P : List Deed → Prop} (r : Resolver) (e? : Option Event) (w : World)
    (nothing : P [])
    (reacts : ∀ o e, r.observer = some o → ∀ w, ∃ L, Does n (o.aftermath (runner n) e) w L ∧ P L) :
    ∃ after, P after ∧ (∀ o e, r.telling e? = some (o, e) →
        Does n (o.aftermath (runner n) e) { w with observed := e :: w.observed } after) ∧
      (r.telling e? = none → after = []) := by
  rcases told : r.telling e? with _ | ⟨o, e⟩
  · exact ⟨[], nothing, nofun, fun _ => rfl⟩
  · obtain ⟨after, done, quiet⟩ := reacts o e (Resolver.observer_of_telling told)
      { w with observed := e :: w.observed }
    refine ⟨after, quiet, ?_, nofun⟩
    rintro _ _ ⟨⟩
    exact done

/-- Runs that take **steps** are accounted for if tasks are. -/
theorem Twin.accounted {n : Nat} {m : Hearing} {α : Type} {x y : Run α}
    (h : Twin m (runner n) x y) (hm : m ≠ .deaf)
    (tasks : ∀ t w, ∃ L, Does n (runner n t) w [.task t L]) : Accounted n m x := by
  have hears (o : Observer) : m.heeds o := by
    cases m with
    | deaf => exact absurd rfl hm
    | _ => rfl
  have loud {L : List Deed} (tells : m.Tells) (mute : m = .mute) : ∀ d ∈ L, d.isTask = true :=
    absurd mute tells.not_mute
  have any {x : Run Unit} (hx : Accounted n m x) (w : World) : ∃ L, Does n x w L :=
    (hx w).imp fun _ h => h.1
  have task (t : Task) : Accounted n m (runner n t) := by
    intro w
    obtain ⟨L, done⟩ := tasks t w
    exact ⟨_, done, fun _ d hd => by rw [List.mem_singleton.1 hd]; rfl⟩
  induction h with
  | pure a => exact .of_does (.pure a)
  | throw f => exact .of_does (.throw f)
  | tell level text => exact .of_does (.tell level text)
  | get_bind _ ih =>
    intro w
    obtain ⟨L, done, quiet⟩ := ih w w ⟨rfl, fun h => absurd h hm⟩ w
    exact ⟨L, done.get_bind, quiet⟩
  | change hf => exact .of_does fun w => .change w hf
  | take all =>
    subst all
    exact fun w => ⟨[.taking], .take w, nofun⟩
  | task t => exact task t
  | bind _ _ ih ihf => exact ih.bind ihf
  | tryCatch _ _ ih ihf => exact ih.tryCatch ihf
  | @event o _ e tells _ _ ih =>
    intro w
    cases o with
    | none => exact ⟨[], .unheard e w, loud tells⟩
    | some o =>
      obtain ⟨after, done⟩ := any (.aftermath (ih o (hears o)) task)
        { w with observed := e :: w.observed }
      exact ⟨_, .event o e done, loud tells⟩
  | @question _ r _ name ask _ tells _ _ _ _ iha ihn ihr =>
    intro w
    obtain ⟨within, probed, -⟩ := Accounted.probing (r := r) iha ihn w
    obtain ⟨v, w₁, ends⟩ := r.exists_ends (runner n) name ask w
    obtain ⟨after, -, reacts, silent⟩ := exists_after (P := fun _ => True) r (v.event? r name) w₁
      trivial fun o _ _ w => (any (.aftermath (ihr o (hears o)) task) w).imp fun _ h =>
        ⟨h, trivial⟩
    exact ⟨_, .question probed ends reacts silent, loud tells⟩
  | @evaluation r _ id tells _ _ ih =>
    intro w
    obtain ⟨L, body⟩ := tasks (w.bodyTask r.fn) (w.entered id)
    obtain ⟨after, -, reacts, silent⟩ := exists_after (P := fun _ => True) r _
      (w.evaluated (runner n) id r.fn) trivial fun o _ _ w =>
        (any (.aftermath (ih o (hears o)) task) w).imp fun _ h => ⟨h, trivial⟩
    exact ⟨_, .evaluation body rfl reacts silent, loud tells⟩

/-- A **task** has a ledger, within any budget. -/
theorem runner_does (n : Nat) (t : Task) (w : World) : ∃ L, Does n (runner n t) w [.task t L] := by
  induction n generalizing t w with
  | zero => exact ⟨[], .exhausted t w⟩
  | succ n ih =>
    obtain ⟨L, done, -⟩ := (follows_perform (m := .all) t).twin.accounted (by decide) ih w
    exact ⟨L, .task t done⟩

/-- Every run that follows the interpreter **has a ledger**. -/
theorem Follows.does {n : Nat} {α : Type} {x : Run α} (h : Follows .all (runner n) x) (w : World) :
    ∃ L, Does n x w L :=
  (h.twin.accounted (by decide) (runner_does n) w).imp fun _ h => h.1

/-- The ledger of a mute run has **nothing but tasks**: what is told is told by the code that the
run calls. -/
theorem Follows.does_tasks {n : Nat} {α : Type} {x : Run α} (h : Follows .mute (runner n) x)
    (w : World) : ∃ L, Does n x w L ∧ ∀ d ∈ L, d.isTask = true :=
  (h.twin.accounted (by decide) (runner_does n) w).imp fun _ h => ⟨h.1, h.2 rfl⟩

end OrderedScope
