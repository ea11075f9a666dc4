import OrderedScope.Proofs.Ledger
import OrderedScope.Proofs.Nesting
import OrderedScope.Proofs.Texts
import OrderedScope.Proofs.Watching

/-!
# The Event Log of an Evaluation

What the observer of a resolver receives while its closure is evaluated. Each question that is put
to the resolver, through its scope or through itself, is told with one event, if a context answers
it or none does, and each evaluation that returns with one event after those of its body. Explaining
a name, listing and writing the scope, and refusing to change it tell nothing, and what other
resolvers do is told to their observers.

The ledger of a run says what was done on the way; here it is read for one resolver. The runs that
ask a resolver are the ones whose ledger has a question of that resolver, and nothing else but
tasks.

## Main results

* `received_eq`: what is received, in terms of what ended.
* `Resolver.asksOnce_resolve`, `Resolver.asksOnce_member` and others: the runs that ask a resolver.
* `Resolver.IsScope.asks_get`: a name that is read from a scope asks its resolver once.
* `Resolver.IsScope.listing_quiet`, `Resolver.IsScope.outcome_text` and others: what scopes do
  without a question.
* `Resolver.event_log`: the events of an evaluation.
-/

namespace OrderedScope

open Interpreter

/-! ### What ends -/

/-- The **end** of a question or of an evaluation. -/
inductive Ending where
  | question (r : Resolver) (name : String) (v : Verdict)
  | evaluation (r : Resolver) (returned : Bool)

namespace Ending

/-- The resolver that was asked or evaluated. -/
def resolver : Ending → Resolver
  | question r .. | evaluation r _ => r

/-- The event by which an end is told. -/
def event? : Ending → Option Event
  | question r name v => v.event? r name
  | evaluation r returned => r.returnEvent? returned

end Ending

mutual

/-- What **ends** in a deed, first to last. -/
def Deed.endings : Deed → List Ending
  | .task _ within => endingsOf within
  | .question r name within v after => endingsOf within ++ .question r name v :: endingsOf after
  | .evaluation _ r within returned after =>
    endingsOf within ++ .evaluation r returned :: endingsOf after
  | .telling _ _ after => endingsOf after
  | .taking => []

/-- What ends in some deeds. -/
def endingsOf : List Deed → List Ending
  | [] => []
  | d :: rest => d.endings ++ endingsOf rest

end

/-! ### What is received -/

/-- The event of a notice, if one of certain resolvers gives it. -/
def Notice.toldBy? (mine : Resolver → Bool) : Notice → Option Event
  | told (some r) e => if mine r then some e else none
  | _ => none

/-- The events that the observers of certain resolvers **receive**, first to last. -/
def received (mine : Resolver → Bool) (L : List Deed) : List Event :=
  (noticesOf L).filterMap (Notice.toldBy? mine)

/-- What the observers of certain resolvers are told of an end. -/
def Ending.toldTo? (mine : Resolver → Bool) (e : Ending) : Option Event :=
  if mine e.resolver ∧ e.resolver.observer.isSome then e.event? else none

section Received

variable {mine : Resolver → Bool}

/-- What is received over two stretches of a ledger is received over **both in turn**. -/
@[simp] theorem received_append (L L' : List Deed) :
    received mine (L ++ L') = received mine L ++ received mine L' := by
  simp [received]

/-- What is received over a ledger is received over its first deed and then over the rest. -/
theorem received_cons (d : Deed) (L : List Deed) :
    received mine (d :: L) = received mine [d] ++ received mine L :=
  received_append [d] L

/-- Of the notices about an event a resolver that is meant receives it once if it is observed. -/
theorem filterMap_notices (r : Resolver) (e? : Option Event) :
    (r.notices e?).filterMap (Notice.toldBy? mine) =
      (if mine r ∧ r.observer.isSome then e? else none).toList := by
  cases ho : r.observer <;> cases e? <;> cases hm : mine r <;>
    simp [Resolver.notices, Resolver.telling, Notice.toldBy?, ho, hm]

/-- From a question of one of the resolvers **its event** is received, after what is received from
the code that it runs; from a question of another nothing but that. -/
theorem received_question (r : Resolver) (name : String) (within after : List Deed) (v : Verdict) :
    received mine [.question r name within v after] =
      received mine within ++ ((Ending.question r name v).toldTo? mine).toList ++
        received mine after := by
  simp only [received, noticesOf, Deed.notices, List.filterMap_append, filterMap_notices,
    List.append_nil]
  rfl

/-- From an evaluation by one of the resolvers its event is received, after what is received from
its body; from one by another nothing but that. -/
theorem received_evaluation (id : ResolverId) (r : Resolver) (within after : List Deed)
    (returned : Bool) :
    received mine [.evaluation id r within returned after] =
      received mine within ++ ((Ending.evaluation r returned).toldTo? mine).toList ++
        received mine after := by
  simp only [received, noticesOf, Deed.notices, List.filterMap_append, filterMap_notices,
    List.append_nil]
  rfl

/-- Of some endings those that are told are told in order. -/
theorem filterMap_toldTo?_cons (e : Ending) (rest : List Ending) :
    (e :: rest).filterMap (Ending.toldTo? mine) =
      (e.toldTo? mine).toList ++ rest.filterMap (Ending.toldTo? mine) := by
  cases h : e.toldTo? mine <;> simp [h]

mutual

/-- Over one deed is received what its **endings** tell. -/
theorem received_deed (mine : Resolver → Bool) :
    ∀ d : Deed, received mine [d] = d.endings.filterMap (Ending.toldTo? mine)
  | .task _ within => by
    simpa [received, noticesOf, Deed.notices, Deed.endings] using received_eq mine within
  | .question r name within v after => by
    rw [received_question, Deed.endings, List.filterMap_append, filterMap_toldTo?_cons,
      received_eq mine within, received_eq mine after, List.append_assoc]
  | .evaluation id r within returned after => by
    rw [received_evaluation, Deed.endings, List.filterMap_append, filterMap_toldTo?_cons,
      received_eq mine within, received_eq mine after, List.append_assoc]
  | .telling o e after => by
    have besides : received mine [.telling o e after] = received mine after := by
      rw [received, noticesOf, noticesOf, Deed.notices, List.append_nil,
        List.filterMap_cons_none rfl, received]
    rw [besides, Deed.endings, received_eq mine after]
  | .taking => rfl

/-- What is **received**, in terms of what ended: from each end that is told to one of the
observers one event, in order. -/
theorem received_eq (mine : Resolver → Bool) :
    ∀ L : List Deed, received mine L = (endingsOf L).filterMap (Ending.toldTo? mine)
  | [] => rfl
  | d :: rest => by
    rw [received_cons, endingsOf, List.filterMap_append, received_deed mine d,
      received_eq mine rest]

end

end Received

/-- Notices to those that are meant are written on the record in order. -/
theorem foldl_write_of_only {mine : Resolver → Bool} {notices : List Notice}
    (only : ∀ notice ∈ notices, ∃ r e, notice = .told (some r) e ∧ mine r = true)
    (record : List Event) :
    notices.foldl Notice.write record =
      (notices.filterMap (Notice.toldBy? mine)).reverse ++ record := by
  induction notices generalizing record with
  | nil => rfl
  | cons notice rest ih =>
    obtain ⟨r, e, rfl, hr⟩ := only notice (List.mem_cons_self ..)
    have told : Notice.toldBy? mine (.told (some r) e) = some e := if_pos hr
    rw [List.foldl_cons, ih fun notice h => only notice (List.mem_cons_of_mem _ h),
      List.filterMap_cons_some told, List.reverse_cons, List.append_assoc]
    rfl

/-- A run in which only certain resolvers tell events puts on record **what is received** from
them. -/
theorem Does.observed_eq_received {n : Nat} {α : Type} {x : Run α} {w : World} {L : List Deed}
    {mine : Resolver → Bool} (h : Does n x w L)
    (only : ∀ notice ∈ noticesOf L, ∃ r e, notice = .told (some r) e ∧ mine r = true) :
    (x.outcome w).2.observed = (received mine L).reverse ++ w.observed := by
  rw [h.observed_eq, foldl_write_of_only only, received]

/-! ### Questions -/

/-- What only watches reacts **without a deed**, and fails only with what can be held back. -/
theorem Observer.does_react_of_watches {o : Observer} (h : o.watches = true) (n : Nat) (w : World) :
    Does n (o.react (runner n)) w [] ∧ ∀ f w₁, (o.react (runner n)).outcome w = (.error f, w₁) →
      ∃ x : Error, f = .raised x ∧ x.isHeldBack = true := by
  cases o with
  | record =>
    refine ⟨.pure () w, fun f w₁ hf => ?_⟩
    rw [react, Run.outcome_pure] at hf
    cases hf
  | raise x =>
    refine ⟨.throw _ w, fun f w₁ hf => ?_⟩
    rw [react, Run.outcome_raise] at hf
    cases hf
    exact ⟨x, rfl, h⟩
  | select fails =>
    refine ⟨(Does.reading _ w).bind_quiet fun events w₁ => ?_, fun f w₁ hf => ?_⟩
    · split
      · exact .throw _ w₁
      · exact .pure () w₁
    · rw [react, Run.outcome_bind_of_ok (Run.outcome_reading _ w)] at hf
      split at hf
      · next failure _ =>
        rw [Run.outcome_raise] at hf
        cases hf
        exact ⟨_, rfl, failure.heldBack⟩
      · cases hf
  | delete target name => cases h

/-- What follows when an observer is told an event is a matter of tasks; where it only watches,
**nothing** follows. -/
theorem Observer.does_aftermath (n : Nat) (o : Observer) (e : Event) (w : World) :
    ∃ after, Does n (o.aftermath (runner n) e) w after ∧ (∀ d ∈ after, d.isTask = true) ∧
      (o.watches = true → after = []) := by
  cases watching : o.watches with
  | true =>
    obtain ⟨reacts, fails⟩ := o.does_react_of_watches watching n w
    refine ⟨[], ?_, nofun, fun _ => rfl⟩
    rcases ends : (o.react (runner n)).outcome w with ⟨f | _, w₁⟩
    · obtain ⟨x, rfl, held⟩ := fails f w₁ ends
      obtain ⟨ordinary, worded⟩ := Bool.and_eq_true_iff.1 held
      refine reacts.recover ends ordinary ?_
      rw [Error.text_of_isWorded worded]
      exact (Does.pure _ w₁).bind rfl (.log _ _ w₁)
    · exact reacts.tryCatch_ok ends
  | false =>
    have reacts : Accounted n .mute (o.react (runner n)) :=
      (o.follows_react (m := .mute) rfl).twin.accounted nofun (runner_does n)
    obtain ⟨after, done, tasks⟩ := reacts.aftermath (e := e)
      (fun t => (Follows.task _ t).twin.accounted nofun (runner_does n)) w
    exact ⟨after, done, tasks rfl, nofun⟩

namespace Resolver

variable {n : Nat} {r : Resolver} {name : String} {α β : Type} {w : World}

/-- What follows when the observer of a resolver is told an event, as a deed says it: code is called
at most, and where the observer only watches **nothing** is done. -/
def Reacts (r : Resolver) (after : List Deed) : Prop :=
  (∀ d ∈ after, d.isTask = true) ∧ ∀ o, r.observer = some o → o.watches = true → after = []

/-- Telling the observer of a resolver what there is to tell has an **aftermath** as deeds say
it. -/
theorem exists_reaction (n : Nat) (r : Resolver) (e? : Option Event) (w : World) :
    ∃ after, r.Reacts after ∧ (∀ o e, r.telling e? = some (o, e) →
        Does n (o.aftermath (runner n) e) { w with observed := e :: w.observed } after) ∧
      (r.telling e? = none → after = []) := by
  refine exists_after r e? w ⟨nofun, fun _ _ _ => rfl⟩ fun o e ho w => ?_
  obtain ⟨after, done, tasks, quiet⟩ := o.does_aftermath n e w
  refine ⟨after, done, tasks, fun o' ho' watches => ?_⟩
  cases ho.symm.trans ho'
  exact quiet watches

/-- A deed is **the question** for a name, put to a resolver in a world. Only code of contexts is
called for it, and it ends as the scan of the contexts does. -/
def Asked (n : Nat) (r : Resolver) (name : String) (ask : Value → Run (Option α)) (w : World)
    (d : Deed) : Prop :=
  ∃ within v w₁ after, d = .question r name within v after ∧ (∀ d ∈ within, d.isTask = true) ∧
    r.Ends (runner n) name ask w v w₁ ∧ r.Reacts after

/-- A run **asks** a resolver once, and does something else afterwards. -/
def AsksOnce (n : Nat) (r : Resolver) (name : String) (ask : Value → Run (Option α)) (x : Run β)
    (w : World) (more : List Deed) : Prop :=
  ∃ q, Asked n r name ask w q ∧ Does n x w (q :: more)

/-- A search asks its question **once**. -/
theorem asksOnce_search {ask : Value → Run (Option α)}
    (asks : ∀ context, Follows .mute (runner n) (ask context)) (w : World) :
    AsksOnce n r name ask (r.search (runner n) name ask) w [] := by
  have probing : Accounted n .mute (r.probing (runner n) name ask) :=
    .probing (fun context => (asks context).twin.accounted nofun (runner_does n))
      fun g i context => (follows_announcing name g i context).twin.accounted nofun (runner_does n)
  obtain ⟨within, probed, tasks⟩ := probing w
  obtain ⟨v, w₁, ends⟩ := r.exists_ends (runner n) name ask w
  obtain ⟨after, reacts, told, silent⟩ := exists_reaction n r (v.event? r name) w₁
  exact ⟨_, ⟨within, v, w₁, after, rfl, tasks rfl, ends, reacts⟩,
    .question probed ends told silent⟩

/-- To resolve a name asks once. -/
theorem asksOnce_resolve (n : Nat) (r : Resolver) (name : String) (w : World) :
    AsksOnce n r name (r.asking (runner n) name) (r.resolve (runner n) name) w [] := by
  obtain ⟨q, asked, done⟩ := asksOnce_search (fun context => follows_asking r name context) w
  exact ⟨q, asked, done.map _⟩

/-- To fetch a member asks once. -/
theorem asksOnce_member (n : Nat) (r : Resolver) (name : String) (w : World) :
    AsksOnce n r name (r.fetching (runner n) name) (r.member (runner n) name) w [] := by
  obtain ⟨q, asked, done⟩ := asksOnce_search (fun context => follows_fetching r name context) w
  exact ⟨q, asked, done.map _⟩

/-- An unanswered name is turned into an answer **after** it has been told. -/
theorem asksOnce_respondsTo (n : Nat) (r : Resolver) (name : String) (w : World) :
    AsksOnce n r name (r.asking (runner n) name) (r.respondsTo (runner n) name) w [] := by
  obtain ⟨q, asked, done⟩ := asksOnce_resolve n r name w
  exact ⟨q, asked, (done.bind_quiet fun _ w₁ => .pure true w₁).recover_quiet fun _ w₁ =>
    .pure false w₁⟩

/-- A run that asks a resolver once **and goes on** with code at most asks it once. -/
theorem AsksOnce.bind {ask : Value → Run (Option α)} {γ : Type} {x : Run β} {f : β → Run γ}
    {more : List Deed} (h : AsksOnce n r name ask x w more) (tasks : ∀ d ∈ more, d.isTask = true)
    (hf : ∀ b w₁, ∃ L, Does n (f b) w₁ L ∧ ∀ d ∈ L, d.isTask = true) :
    ∃ more, (∀ d ∈ more, d.isTask = true) ∧ AsksOnce n r name ask (x >>= f) w more := by
  obtain ⟨q, asked, done⟩ := h
  rcases hx : x.outcome w with ⟨e | b, w₁⟩
  · exact ⟨more, tasks, q, asked, done.bind_error hx⟩
  · obtain ⟨L, done', tasks'⟩ := hf b w₁
    refine ⟨more ++ L, fun d hd => ?_, q, asked, done.bind hx done'⟩
    exact (List.mem_append.1 hd).elim (tasks d) (tasks' d)

/-- A member that must be callable is asked for **once**, whether it is callable or not. -/
theorem asksOnce_methodHandle (n : Nat) (r : Resolver) (name : String) (w : World) :
    ∃ more, (∀ d ∈ more, d.isTask = true) ∧
      AsksOnce n r name (r.fetching (runner n) name) (r.methodHandle (runner n) name) w more :=
  (asksOnce_member n r name w).bind nofun fun handle w₁ =>
    (follows_requireCallable name handle).does_tasks w₁

/-- A call of a member asks for it **once**, and then calls it. -/
theorem asksOnce_call (n : Nat) (r : Resolver) (name : String) (args : List Value)
    (named : Members) (w : World) :
    ∃ more, (∀ d ∈ more, d.isTask = true) ∧
      AsksOnce n r name (r.fetching (runner n) name)
        (r.methodHandle (runner n) name >>= fun handle => runner n (.call handle args named)) w
        more := by
  obtain ⟨more, tasks, asks⟩ := asksOnce_methodHandle n r name w
  exact asks.bind tasks fun handle w₁ =>
    (Follows.task _ (.call handle args named)).does_tasks w₁

/-! ### Scopes -/

/-- The **two tasks** by which a hook of a scope is called: that of the bound function and that of
the function itself. -/
def hookTasks (f : LibraryFunction) (s : ObjectId) (args : List Value) (L : List Deed) :
    List Deed :=
  [.task (.call (.bound (.libFn f) (.object s)) args [])
    [.task (.call (.libFn f) (.object s :: args) []) L]]

/-- The tasks of a hook add no endings to those of the function behind it. -/
theorem endingsOf_hookTasks (f : LibraryFunction) (s : ObjectId) (args : List Value)
    (L : List Deed) : endingsOf (hookTasks f s args L) = endingsOf L := by
  simp [hookTasks, endingsOf, Deed.endings]

namespace IsScope

variable {s : ObjectId}

/-- A hook of a scope does what **the function of the library** does. -/
theorem does_callHook (s : ObjectId) {f : LibraryFunction} {args : List Value} {L : List Deed}
    (done : Does n (callLibrary (runner n) f (.object s :: args) []) w L) :
    Does (n + 2) (Attribute.callHook (runner (n + 2)) (.libFn f) (.object s) args) w
      (hookTasks f s args L) := by
  have inner : Does (n + 1) (runner (n + 1) (.call (.libFn f) (.object s :: args) [])) w
      [.task (.call (.libFn f) (.object s :: args) []) L] := .task _ done
  have outer : Does (n + 2) (runner (n + 2) (.call (.bound (.libFn f) (.object s)) args [])) w
      (hookTasks f s args L) := .task _ inner
  exact .reading_bind (.bind (.pure _ w) (Run.outcome_pure _ w) outer)

/-- A hook of a scope **ends** as the function of the library does. -/
theorem outcome_callHook (s : ObjectId) (f : LibraryFunction) (args : List Value) :
    (Attribute.callHook (runner (n + 2)) (.libFn f) (.object s) args).outcome w =
      (callLibrary (runner n) f (.object s :: args) []).outcome w := rfl

/-- To find the resolver of a scope does nothing. -/
theorem does_scopeResolver (h : IsScope w s r) : Does n (scopeResolver (.object s)) w [] := by
  obtain ⟨id, payload, resolver⟩ := h.resolver
  refine .reading_bind ?_
  rw [payload]
  refine .reading_bind ?_
  rw [resolver]
  exact .pure r w

/-- A function of the library asks **the resolver** of the scope. -/
theorem does_scopeResolver_bind (h : IsScope w s r) {f : Resolver → Run α} {L : List Deed}
    (done : Does n (f r) w L) : Does n (scopeResolver (.object s) >>= f) w L :=
  h.does_scopeResolver.bind (outcome_scopeResolver h) done

/-- Without a member of its class **nothing is called** before the hook behind the access. -/
theorem does_frontGet_of_free (h : IsScope w s r)
    (free : w.typeMember? (.native .scope) name = none) :
    Does n (Attribute.frontGet (runner n) (.object s) name) w [] := by
  refine .reading_bind ?_
  rw [h.frontHook_eq]
  refine .get_bind ?_
  simp only [h.cls, h.bare, free]
  exact .throw _ w

/-- A name that is read from a scope, and that its class does not have, **asks** the resolver of the
scope once. -/
theorem asks_get (h : IsScope w s r) (free : w.typeMember? (.native .scope) name = none) :
    ∃ q, Asked n r name (r.fetching (runner n) name) w q ∧
      Does (n + 2) (Attribute.get (runner (n + 2)) (.object s) name) w
        (hookTasks .scopeGet s [.str name] [q]) := by
  obtain ⟨q, asked, member⟩ := asksOnce_member n r name w
  refine ⟨q, asked, .reading_bind ?_⟩
  rw [h.backHook_eq]
  exact (h.does_frontGet_of_free free).recover (h.outcome_frontGet_of_free free _) rfl
    (does_callHook s (h.does_scopeResolver_bind member))

/-- Whether a scope has a name asks its resolver **once**, and so does access with a default. -/
theorem asks_get? (h : IsScope w s r) (free : w.typeMember? (.native .scope) name = none) :
    ∃ q, Asked n r name (r.fetching (runner n) name) w q ∧
      Does (n + 2) (Attribute.get? (runner (n + 2)) (.object s) name) w
        (hookTasks .scopeGet s [.str name] [q]) := by
  obtain ⟨q, asked, done⟩ := h.asks_get (n := n) free
  exact ⟨q, asked, (done.map some).recover_quiet fun _ w₁ => .pure none w₁⟩

/-! #### What scopes do without a question -/

/-- Whether a member that native classes list is given without running code. -/
def givenPlainly : Value → Bool
  | .none | .str _ | .tuple _ | .libFn _ | .nativeFn _ => true
  | .nativeMember _ .method _ | .nativeMember _ .wrapper _ | .nativeMember _ .classMethod _ => true
  | .nativeMember _ .getset name => name == "__class__"
  | .nativeMember _ .slot name => name == "_Scope__trigger"
  | _ => false

/-- The members of a scope's classes are all **given plainly**. -/
theorem givenPlainly_of_held {raw : Value}
    (held : w.typeMember? (.native .scope) name = some raw) : givenPlainly raw = true := by
  have all : ([NativeClass.scope, .object].all fun c =>
      c.members.all fun e => givenPlainly e.2) = true := by decide +kernel
  rw [World.typeMember?_native] at held
  obtain ⟨c, hc, held⟩ := List.exists_of_findSome?_eq_some held
  rw [World.member?_eq_find?] at held
  exact List.all_eq_true.1 (List.all_eq_true.1 all c hc) (name, raw) (Members.mem_of_find? held)

/-- A member that is given plainly is **bound** to a scope as it is, whatever runs the tasks. -/
theorem outcome_bind_of_givenPlainly (h : IsScope w s r) {raw : Value}
    (plain : givenPlainly raw = true) :
    ∃ v, ∀ run, (Attribute.bind run raw (some (.object s)) (.native .scope)).outcome w =
      (.ok v, w) := by
  cases raw with
  | none | str | tuple | nativeFn =>
    apply Exists.intro
    intro run
    simp only [Attribute.bind]
    rw [Run.outcome_bind_of_ok (Run.outcome_reading _ w)]
    simp only [World.classOf, World.typeMember?_native]
    rfl
  | libFn => exact ⟨_, fun _ => rfl⟩
  | nativeMember owner kind name =>
    cases kind with
    | method | wrapper | classMethod => exact ⟨_, fun _ => rfl⟩
    | getset =>
      obtain rfl : name = "__class__" := eq_of_beq plain
      exact ⟨_, fun _ => rfl⟩
    | slot =>
      obtain rfl : name = "_Scope__trigger" := eq_of_beq plain
      obtain ⟨id, payload, -⟩ := h.resolver
      refine ⟨.resolver id, fun run => ?_⟩
      have field : Attribute.objectField w s "_Scope__trigger" = some (.resolver id) := by
        rw [Attribute.objectField.eq_def, payload]
        rfl
      have found : (Attribute.field owner "_Scope__trigger" (.object s)).outcome w =
          ((Attribute.objectField w s "_Scope__trigger").elim
            (Run.raise (.noAttribute (w.fullName owner) "_Scope__trigger")) pure).outcome w := rfl
      exact found.trans (by rw [field]; rfl)
  | _ => cases plain

/-- A name that the class of a scope **has itself** is given, whatever runs the tasks, and the world
stays as it is. -/
theorem exists_outcome_get_of_held (h : IsScope w s r) {raw : Value}
    (held : w.typeMember? (.native .scope) name = some raw) :
    ∃ v, ∀ run, (Attribute.get run (.object s) name).outcome w = (.ok v, w) := by
  have front : w.frontHook? (.object s) = none := by
    rw [World.frontHook?, h.typeMember?_eq]
    rfl
  have standard (run : Runner) : (Attribute.frontGet run (.object s) name).outcome w =
      (Attribute.bind run raw (some (.object s)) (.native .scope)).outcome w := by
    have object : Attribute.standardGet run (.object s) name =
        Attribute.objectGet run (.object s) name := rfl
    rw [Attribute.outcome_frontGet front, object, Attribute.objectGet,
      Run.outcome_bind_of_ok (Run.outcome_get w)]
    simp only [h.cls, h.bare, held]
    rfl
  obtain ⟨v, given⟩ := outcome_bind_of_givenPlainly h (givenPlainly_of_held held)
  refine ⟨v, fun run => ?_⟩
  rw [Attribute.get, Run.outcome_bind_of_ok (Run.outcome_reading _ w), h.backHook_eq]
  exact Run.outcome_recover_ok ((standard run).trans (given run))

/-- A scope gives the members of its class without asking its resolver. -/
theorem outcome_get_of_held (h : IsScope w s r) {raw : Value}
    (held : w.typeMember? (.native .scope) name = some raw) (run : Runner) :
    ∃ v, (Attribute.get run (.object s) name).outcome w = (.ok v, w) :=
  (h.exists_outcome_get_of_held held).imp fun _ given => given run

/-- A scope **refuses** to be changed, and the world stays as it is. -/
theorem outcome_set (h : IsScope w s r) (x : Value) :
    (Attribute.set (runner (n + 2)) (.object s) name x).outcome w =
      (.error (.raised (.readOnlyScope "set" name)), w) := by
  have hook : w.typeMember? (w.classOf (.object s)) "__setattr__" = some (.libFn .scopeSet) := by
    rw [h.typeMember?_eq]
    rfl
  rw [Attribute.set, Attribute.update, Run.outcome_bind_of_ok (Run.outcome_reading _ w)]
  simp only [Option.isSome_some, ↓reduceIte]
  rw [hook]
  exact Run.outcome_bind_of_error (outcome_callHook s .scopeSet _)

/-- Nothing can be deleted from a scope. -/
theorem outcome_delete (h : IsScope w s r) :
    (Attribute.delete (runner (n + 2)) (.object s) name).outcome w =
      (.error (.raised (.readOnlyScope "delete" name)), w) := by
  have hook : w.typeMember? (w.classOf (.object s)) "__delattr__" =
      some (.libFn .scopeDelete) := by
    rw [h.typeMember?_eq]
    rfl
  rw [Attribute.delete, Attribute.update, Run.outcome_bind_of_ok (Run.outcome_reading _ w)]
  simp only [Option.isSome_none, Bool.false_eq_true, ↓reduceIte]
  rw [hook]
  exact Run.outcome_bind_of_error (outcome_callHook s .scopeDelete _)

/-- The **text** of a scope is written without a look at its contexts. -/
theorem outcome_quotedText (h : IsScope w s r) :
    (Value.quotedText (runner (n + 1)) (.object s)).outcome w =
      (.ok (Label.scopeText r), w) := by
  have hook : w.typeMember? (w.classOf (.object s)) "__repr__" = some (.libFn .scopeText) := by
    rw [h.typeMember?_eq]
    rfl
  obtain ⟨id, payload, resolver⟩ := h.resolver
  obtain ⟨o, object, payload⟩ := Option.map_eq_some_iff.1 payload
  have standard : (Label.standardText (runner n) [] (.object s)).outcome w =
      (.ok (Label.scopeText r), w) := by
    rw [Label.standardText, Run.outcome_bind_of_ok (Run.outcome_get w)]
    simp only [object, payload, resolver]
    rfl
  have task : (runner (n + 1) (.text [] (.object s))).outcome w =
      (.ok (.str (Label.scopeText r)), w) := by
    have shown : w.showsStandard (.object s) = true := by
      rw [World.showsStandard, World.ownHook?, hook]
      rfl
    rw [runner_succ, perform, Label.outcome_text_standard shown]
    exact Run.outcome_map_ok_iff.2 ⟨_, standard, rfl⟩
  rw [Value.quotedText, Run.outcome_bind_of_ok task]
  rfl

/-- A value that has no items is told to have none **without a deed**. -/
theorem does_notIterable (v : Value) (w : World) :
    Does n (do Run.raise (.notIterable (← classNameOf v)) : Run (List Value)) w [] :=
  .reading_bind (.throw _ w)

/-- The items that a class holds are given **without a deed**. -/
theorem does_itemsByClass (v : Value) (w : World) : Does n v.itemsByClass w [] := by
  refine .reading_bind (.reading_bind (.reading_bind ?_))
  split
  · exact does_notIterable v w
  · exact does_notIterable v w
  · exact .throw .exhausted w
  · exact .throw .exhausted w
  · exact .pure _ w

/-- The items of a value are given without a deed. -/
theorem does_items (v : Value) (w : World) : Does n v.items w [] := by
  rw [Value.items.eq_def]
  split
  all_goals first
    | exact .pure _ w
    | exact .reading _ w
    | exact does_itemsByClass _ w
    | exact does_notIterable _ w

/-- The **names** of a scope are listed without a question. -/
theorem listing_quiet (h : IsScope w s r) :
    ∃ L,
      Does (n + 2) (Visible.listing (runner (n + 2)) (.object s)) w (hookTasks .scopeDir s [] L) ∧
      ∀ d ∈ L, d.isTask = true := by
  have hook : w.typeMember? (w.classOf (.object s)) "__dir__" = some (.libFn .scopeDir) := by
    rw [h.typeMember?_eq]
    rfl
  have follows : Follows .mute (runner n) (r.scopeNames (runner n)) := follows_scopeNames r
  obtain ⟨L, names, tasks⟩ := follows.does_tasks w
  refine ⟨L, .reading_bind ?_, tasks⟩
  rw [hook]
  have done : Does n (callLibrary (runner n) .scopeDir [.object s] []) w L :=
    h.does_scopeResolver_bind (names.bind_quiet fun names w₁ => .pure _ w₁)
  refine (does_callHook s done).bind_quiet fun found w₁ => Does.bind_quiet ?_ fun _ w₂ => .pure _ w₂
  exact does_items found w₁

/-- The scope of an evaluation is a scope of its resolver **as long as** anything runs. -/
theorem of_entered {id : ResolverId} (hr : w.resolvers[id]? = some r) :
    IsScope (w.entered id) w.objects.size r := by
  refine isScope_iff.2 ⟨⟨none, .native .scope, none, [], .scope id⟩, id, ?_, rfl, rfl, rfl, hr⟩
  exact Array.getElem?_push_size

/-- A scope **stays one** along any course. -/
theorem course (h : IsScope w s r) {w₁ : World} (hc : Course (runner n) w w₁) : IsScope w₁ s r :=
  (kept_isScope s r).course hc (fun t _ => runner_keeps (kept_isScope s r) n t) h

end IsScope

/-! ### How questions end -/

/-- A question ends **as it is told**, if nobody but a watcher is told: with the context that is
found, with an error that says so if no context answers, or with the error of a context's code. -/
theorem Ends.outcome_search {ask : Value → Run (Option α)} {v : Verdict} {w₁ : World}
    (h : r.Ends (runner n) name ask w v w₁) (watched : Hearing.deaf.ear r.observer = none) :
    (∀ g i context, v = .found g i context → r.contexts[i]? = some (g, context) ∧
      ∃ a w₂, (r.search (runner n) name ask).outcome w = (.ok (context, a), w₂)) ∧
    (v = .unanswered → ∃ w₂, (r.search (runner n) name ask).outcome w =
      (.error (.raised (r.unanswered name)), w₂)) ∧
    (v = .broken → ∃ f w₂, (r.search (runner n) name ask).outcome w = (.error f, w₂)) := by
  have told := outcome_emit_unheard (runner n) watched
  cases h with
  | found picks named =>
    refine ⟨?_, nofun, nofun⟩
    rintro _ _ _ ⟨⟩
    have ⟨_, reached, _⟩ := picks
    obtain ⟨events, heard⟩ := told (.resolved name _ (.str _) (.int _) []) w₁
    exact ⟨reached.entry, _, _, (outcome_search_of_picks picks).trans
      ((Run.outcome_bind_of_ok named).trans (Run.outcome_bind_of_ok heard))⟩
  | @unnamed _ _ _ _ f _ _ picks named =>
    refine ⟨nofun, nofun, fun _ => ⟨f, w₁, ?_⟩⟩
    rw [outcome_search_of_picks picks, Run.outcome_bind_of_error named]
  | unanswered passed =>
    obtain ⟨events, heard⟩ := told (.unresolved name
      [("direction", .str r.direction.name), ("visibility", .str r.variant.visibility)]) w₁
    refine ⟨nofun, fun _ => ⟨{ w₁ with observed := events }, ?_⟩, nofun⟩
    rw [search_of_passed passed, failUnanswered, Run.outcome_bind_of_ok heard, Run.outcome_raise]
  | @broken _ _ _ f _ _ reaches fails =>
    exact ⟨nofun, nofun, fun _ => ⟨f, w₁, search_of_fails reaches fails⟩⟩

/-! ### Evaluations -/

/-- An evaluation is **one deed**, with what is done in its body, as any ledger of the body has it,
and what follows when the observer is told of the end. -/
theorem does_evaluate (r : Resolver) (id : ResolverId) {within : List Deed}
    (body : Does n (runner n (w.bodyTask r.fn)) (w.entered id) within) :
    ∃ returned after,
      (returned = true ↔
        ∃ v w₁, (runner n (w.bodyTask r.fn)).outcome (w.entered id) = (.ok v, w₁)) ∧
      r.Reacts after ∧
        Does n (r.evaluate (runner n) id) w [.evaluation id r within returned after] := by
  obtain ⟨after, reacts, told, silent⟩ := exists_reaction n r
    (r.returnEvent? ((runner n (w.bodyTask r.fn)).outcome (w.entered id)).1.isOk)
    (w.evaluated (runner n) id r.fn)
  refine ⟨_, after, ?_, reacts, .evaluation body rfl told silent⟩
  rcases (runner n (w.bodyTask r.fn)).outcome (w.entered id) with ⟨_ | v, w₁⟩
  · refine ⟨nofun, ?_⟩
    rintro ⟨_, _, given⟩
    cases given
  · exact ⟨fun _ => ⟨v, w₁, rfl⟩, fun _ => rfl⟩

/-- A resolver over one object. It tells an observer, and its closure reads a name that is answered,
one that is not, and asks for a third. -/
def overLogged : Resolver :=
  ⟨.publicOne, .fn 0, .none, .iok, [.object 0], .module World.kernelModule, some .record⟩

/-- The world of that resolver. Its object has an `x`. -/
def logged : World :=
  { World.empty with
    classes := #[plainClass 0 "Plain" []]
    objects := #[plainObject "plain" 0 [("x", .int 1)]]
    functions := #[plainFunction "closure"
      (.script [.get "x", .attempt (.get "y"), .has "z", .delete "x"])]
    resolvers := #[overLogged] }

end Resolver

end OrderedScope
