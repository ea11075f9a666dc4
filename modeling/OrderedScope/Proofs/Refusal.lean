import OrderedScope.Proofs.Evaluation
import OrderedScope.Proofs.Sample
import OrderedScope.Proofs.Walk

/-!
# Contexts that Refuse

The hooks of a context can refuse a name, by an error that says that the attribute protocol cannot
be used for look-ups. The private variant looks the name up once more then, by a walk through the
tables that asks no hook of the context, if the hooks of the context are to blame for the error. For
that it looks into the tables of the class of the context: a plain function must stand there in
front of every access, or behind it if the name is not seen.

Not every hook is noticed so. A module holds its hook itself, a hook need not be a plain function,
and one behind the access can also be asked for a name that is seen, when a getter says that an
attribute is missing. And the tables of a class are read through the hooks of its metaclass. In all
these cases the error leaves.

## Main results

* `Attribute.HookRefuses.outcome_get`: the error of the hook is that of the access.
* `Resolver.explain_go_ok_iff`, `Resolver.explain_of_fails`: how an explanation ends, by the
  contexts that it asks.
* `Resolver.survives_refusal`: how the questions to a private resolver go on behind a refusal.
* `Resolver.refusal_leaves`: refusals that leave.
-/

namespace OrderedScope

/-- An error by which contexts refuse is no missing attribute, and not that of a name that nobody
answers. -/
theorem Kind.apart_of_refusal {k : Kind} (h : k.isAny refusals = true) :
    k.isA .attr = false ∧ k.isA .unresolved = false := by
  cases k <;> first | exact ⟨rfl, rfl⟩ | cases h

/-! ### Hooks that refuse -/

namespace Attribute

variable {run : Runner} {v : Value} {name : String} {e : Error} {w w₁ : World}

/-- A hook in front is asked **in the place** of standard access. -/
theorem outcome_frontGet_of_hook (run : Runner) {hook : Value} (name : String)
    (h : w.frontHook? v = some hook) :
    (frontGet run v name).outcome w = (callHook run hook v [.str name]).outcome w := by
  rw [frontGet, Run.outcome_bind_of_ok (Run.outcome_reading _ w)]
  rw [World.frontHook?] at h
  rcases hm : w.typeMember? (w.classOf v) "__getattribute__" with _ | raw
  · rw [hm] at h
    cases h
  · rw [hm] at h
    cases raw with
    | nativeMember o k field => cases h
    | _ =>
        cases h
        rfl

/-- The own hook of a value **refuses** a name: the one in front of every access, the one behind the
access to a missing attribute, or the hook of a module. The second world is the one in which it
raises its error. -/
inductive HookRefuses (run : Runner) (v : Value) (name : String) (w : World) (e : Error)
    (w' : World) : Prop
  | front (hook : Value) : w.frontHook? v = some hook →
      (callHook run hook v [.str name]).outcome w = (.error (.raised e), w') →
      HookRefuses run v name w e w'
  | back (hook : Value) (missing : Error) (w₁ : World) : w.backHook? v = some hook →
      (frontGet run v name).outcome w = (.error (.raised missing), w₁) →
      missing.isA .attr = true →
      (callHook run hook v [.str name]).outcome w₁ = (.error (.raised e), w') →
      HookRefuses run v name w e w'
  | module (i : ModuleId) (hook : Value) (missing : Error) (w₁ : World) : v = .module i →
      (objectGet run v name).outcome w = (.error (.raised missing), w₁) →
      missing.isA .attr = true → (w₁.ownAttrs? v).bind (·.find? "__getattr__") = some hook →
      (run (.call hook [.str name] [])).outcome w₁ = (.error (.raised e), w') →
      HookRefuses run v name w e w'

/-- Access to a name that a hook refuses **fails with its error**. -/
theorem HookRefuses.outcome_get (h : HookRefuses run v name w e w₁)
    (he : e.kind.isAny Kind.refusals = true) :
    (get run v name).outcome w = (.error (.raised e), w₁) := by
  have present : e.isA .attr = false := (Kind.apart_of_refusal he).1
  rw [get, Run.outcome_bind_of_ok (Run.outcome_reading _ w)]
  cases h with
  | front hook hf raised =>
      have refused := (outcome_frontGet_of_hook run name hf).trans raised
      rcases w.typeMember? (w.classOf v) "__getattr__" with _ | back
      · exact refused
      · simp only
        rw [Run.outcome_recover, refused]
        simp [present]
  | back hook missing w₂ hb failed attr raised =>
      have hb : w.typeMember? (w.classOf v) "__getattr__" = some hook := hb
      rw [hb]
      simp only
      rw [Run.outcome_recover, failed]
      exact (if_pos attr).trans raised
  | module i hook missing w₂ hv failed attr own raised =>
      subst hv
      have behind : w.typeMember? (w.classOf (.module i)) "__getattr__" = none :=
        backHook?_module w i
      rw [behind]
      simp only
      rw [outcome_frontGet (frontHook?_module w i), standardGet, moduleGet, Run.outcome_recover,
        failed]
      simp only [attr, ↓reduceIte]
      rw [Run.outcome_bind_of_ok (Run.outcome_reading _ w₂)]
      have hook : ((w₂.ownAttrs? (.module i)).getD []).find? "__getattr__" = some hook := by
        rw [World.find?_getD, own]
      rw [hook]
      exact raised

end Attribute

/-! ### What a refusal leads to -/

namespace Lookup

open Attribute

variable {α : Type} {run : Runner} {secondary : Strategy} {operation : String} {context : Value}
  {name : String} {first second : Run α} {e : Error} {w w₁ w₂ : World}

/-- A name that is looked up and refused by a hook is **refused by the strategy** as a whole. -/
theorem dynamicLookup_of_get {s : Standing} (he : e.kind.isAny Kind.refusals = true)
    (hs : (standing run true context name).outcome w = (.ok s, w₁)) (visible : s ≠ .hidden)
    (refused : (Attribute.get run context name).outcome w₁ = (.error (.raised e), w₂)) :
    (dynamicLookup run true context name).outcome w = (.error (.raised e), w₂) := by
  have present : e.isA .attr = false := (Kind.apart_of_refusal he).1
  rw [dynamicLookup_eq]
  refine Run.outcome_map_error_iff.2 ?_
  rw [dynamicFetch, Run.outcome_bind_of_ok hs]
  cases s with
  | hidden => exact absurd rfl visible
  | unheld => simp [fetchedOf, get?, Run.outcome_optional, refused, present]
  | shown => exact Run.outcome_map_error_iff.2 refused

/-- Where the tables cannot be looked up, the strategy fails as that does. -/
theorem dynamicLookup_of_standing
    (hs : (standing run true context name).outcome w = (.error (.raised e), w₁)) :
    (dynamicLookup run true context name).outcome w = (.error (.raised e), w₁) := by
  rw [dynamicLookup_eq]
  refine Run.outcome_map_error_iff.2 ?_
  rw [dynamicFetch, Run.outcome_bind_of_error hs]

/-- A context that refuses to give **shows** the name, or refuses alike when it is asked. -/
theorem shown_or_refused
    (h : (dynamicLookup run true context name).outcome w = (.error (.raised e), w₁)) :
    (∃ w₂, (standing run true context name).outcome w = (.ok .shown, w₂)) ∨
      (dynamicRespondsTo run true context name).outcome w = (.error (.raised e), w₁) := by
  have failed : (dynamicFetch run true context name).outcome w = (.error (.raised e), w₁) := by
    rw [dynamicLookup_eq] at h
    exact Run.outcome_map_error_iff.1 h
  rcases hask : (dynamicRespondsTo run true context name).outcome w with ⟨f | _ | _, w₂⟩
  · rw [(Strategy.agrees_dynamic run true context name w w₂).2 f hask] at failed
    cases failed
    exact Or.inr rfl
  · cases ((Strategy.agrees_dynamic run true context name w w₂).1 hask).symm.trans failed
  · rcases Strategy.dynamic_answers hask with ⟨hs, -⟩ | ⟨m, hm⟩
    · exact Or.inl ⟨w₂, hs⟩
    · cases hm.symm.trans failed

section Fallback

variable (he : e.kind.isAny Kind.refusals = true)
  (refused : first.outcome w = (.error (.raised e), w₁))
include he refused

/-- After a refusal for which the hooks are to blame, the refusal is told, and the **second
strategy** is asked. -/
theorem withFallback_of_overrides
    (blamed : (overridesProtocol run context name).outcome w₁ = (.ok true, w₂))
    (plain : w₂.ReadsPlainly (w₂.classOf context)) :
    (withFallback run secondary operation context name first second).outcome w =
      (noting run e >>= fun _ => second).outcome w₂ := by
  rw [outcome_withFallback, refused]
  refine (if_pos he).trans ?_
  rw [Run.outcome_bind, outcome_handOver_of_overrides plain blamed, Run.outcome_bind]

/-- A refusal for which no hook is to blame **stands**. -/
theorem withFallback_of_not_overrides
    (blameless : (overridesProtocol run context name).outcome w₁ = (.ok false, w₂)) :
    (withFallback run secondary operation context name first second).outcome w =
      (.error (.raised e), w₂) := by
  rw [outcome_withFallback, refused]
  exact (if_pos he).trans (Run.outcome_bind_of_error (handOver_of_not_overrides blameless))

end Fallback

/-! ### The static strategy -/

/-- What the tables give under a name: nothing, or what the entry that a walk finds is settled to,
unless that tells that there is nothing. -/
theorem outcome_staticLookup (h : w.Walkable name context)
    (filled : ∀ raw loose, w.walked? context name = some (raw, loose) → w.NoSlot raw) :
    (staticLookup run true context name).outcome w =
      match w.walked? context name with
      | none => (.ok none, w)
      | some entry =>
        (Value.known? <$> settle run context entry : Run (Option Value)).outcome w := by
  rw [staticLookup, Run.outcome_bind_of_ok (outcome_staticFound? h filled)]
  rcases w.walked? context name with _ | entry <;> rfl

/-- The tables of a class are read **through the hooks** of its metaclass: where these refuse to
show its line, the static strategy fails with their error. -/
theorem staticFound?_of_line (name : String) {c : ClassRef} {f : Fault}
    (isClass : w.isClass (.cls c) = true)
    (h : (Attribute.get run (.cls c) "__mro__").outcome w = (.error f, w₁)) :
    (staticFound? run true (.cls c) name).outcome w = (.error f, w₁) := by
  have chain : (typeChain run (.cls c)).outcome w = (.error f, w₁) := by
    rw [typeChain, Run.outcome_bind_of_ok (Run.outcome_get w)]
    simp only [isClass, ↓reduceIte]
    exact Run.outcome_bind_of_error h
  have walk : (walk? run (.cls c) name).outcome w = (.error f, w₁) := by
    rw [walk?, Run.outcome_bind_of_error chain]
  rw [staticFound?]
  simp only [Strategy.refuses, Bool.not_true, Bool.false_and, Bool.false_eq_true, ↓reduceIte]
  exact Run.outcome_bind_of_error walk

end Lookup

namespace World

/-- The hooks of a module are in sight, and they are **not to blame** for anything: the hook that a
module holds itself is none of its class. -/
theorem blames_module (w : World) (i : ModuleId) (name : String) :
    w.ShowsHooks (.module i) name ∧ w.blames (.module i) name = false := by
  have front : w.typeMember? (w.classOf (.module i)) "__getattribute__" =
      some (.nativeMember (.native .module) .wrapper "__getattribute__") := by
    rw [classOf, typeMember?_native]
    rfl
  have back : w.typeMember? (w.classOf (.module i)) "__getattr__" = none := by
    rw [classOf, typeMember?_native]
    rfl
  have plain : w.ClassesPlain (.module i) :=
    classesPlain_of_metaclasses (metaclasses_of_native (c := .module) rfl (by decide))
  refine ⟨⟨plain, fun hook hh f hf => ?_, fun _ hooked => ?_⟩, ?_⟩
  · simp only [List.mem_cons, List.not_mem_nil, or_false] at hh
    rcases hh with rfl | rfl
    · rw [front] at hf
      cases hf
      exact Attribute.tellsClass_nativeMember w _ _ _
    · rw [back] at hf
      cases hf
  · rw [plainHook, back] at hooked
    cases hooked
  · rw [blames, plainHook, plainHook, front, back]
    rfl

end World

namespace Resolver

open Lookup

variable {run : Runner} {r : Resolver} {name : String} {w w₁ w₂ : World} {i : Nat} {g : Group}
  {context : Value} {e : Error} {f : Fault}

/-! ### Surveying -/

/-- Asks a context as an **explanation** does: whatever it answers, the next one is
asked as well. -/
def surveying (run : Runner) (r : Resolver) (name : String) (context : Value) :
    Run (Option Unit) :=
  (fun _ => none) <$> r.variant.strategy.respondsTo run context name

/-- A survey passes every context that **can be asked**. -/
theorem surveying_none_iff : (r.surveying run name context).outcome w = (.ok none, w₁) ↔
    ∃ b, (r.variant.strategy.respondsTo run context name).outcome w = (.ok b, w₁) := by
  rw [surveying, Run.outcome_map_ok_iff]
  exact exists_congr fun b => and_iff_left rfl

/-- An explanation comes to an end **exactly if** every context can be asked. -/
theorem explain_go_ok_iff {l : List (Group × Value)} {found : Bool} {n : Nat} :
    (∃ steps, (explain.go run r name found (l.zipIdx n)).outcome w = (.ok steps, w₂)) ↔
      Passed (r.surveying run name) l w w₂ := by
  induction l generalizing found n w with
  | nil =>
      constructor
      · rintro ⟨steps, h⟩
        cases h
        exact .nil _
      · intro h
        cases h
        exact ⟨[], rfl⟩
  | cons entry rest ih =>
      obtain ⟨g, context⟩ := entry
      rw [List.zipIdx_cons]
      constructor
      · rintro ⟨steps, h⟩
        obtain ⟨b, w₁, steps', hb, hs, -⟩ := explain_go_ok_cons h
        exact .cons (surveying_none_iff.2 ⟨b, hb⟩) (ih.1 ⟨steps', hs⟩)
      · intro h
        cases h with
        | cons hask hrest =>
            obtain ⟨b, hb⟩ := surveying_none_iff.1 hask
            obtain ⟨steps, hs⟩ := ih.2 hrest
            rw [explain_go_cons, Run.outcome_bind_of_ok hb, Run.outcome_bind_of_ok hs]
            exact ⟨_, rfl⟩

/-- Behind contexts that could be asked, an explanation **fails as the rest** of it does. -/
theorem explain_go_of_fails {l m : List (Group × Value)} (h : Passed (r.surveying run name) l w w₁)
    (hm : ∀ found n, (explain.go run r name found (m.zipIdx n)).outcome w₁ = (.error f, w₂))
    (found : Bool) (n : Nat) :
    (explain.go run r name found ((l ++ m).zipIdx n)).outcome w = (.error f, w₂) := by
  induction h generalizing found n with
  | nil w => exact hm found n
  | cons hask _ ih =>
      obtain ⟨b, hb⟩ := surveying_none_iff.1 hask
      rw [List.cons_append, List.zipIdx_cons, explain_go_cons, Run.outcome_bind_of_ok hb,
        Run.outcome_bind_of_error (ih hm _ _)]

/-- An explanation that comes to a context which fails **fails alike**. -/
theorem explain_of_fails (h : r.Reaches (r.surveying run name) w i g context w₁)
    (hf : (r.variant.strategy.respondsTo run context name).outcome w₁ = (.error f, w₂)) :
    (r.explain run name).outcome w = (.error f, w₂) := by
  rw [explain, numbered, h.contexts_eq]
  refine explain_go_of_fails h.passed (fun found n => ?_) false 0
  rw [List.zipIdx_cons, explain_go_cons, Run.outcome_bind_of_error hf]

/-! ### How the questions go on -/

/-- The question for a member that comes to a context **goes on** as the context ends: behind it if
it gives nothing, and with what it gives or the error that it raises otherwise. -/
def Fetches (run : Runner) (r : Resolver) (name : String) (context : Value) (w₁ : World)
    (o : Except Fault (Option Value) × World) : Prop :=
  ∀ w i g, r.Reaches (r.fetching run name) w i g context w₁ →
    match o with
    | (.ok none, w₂) => Passed (r.fetching run name) (r.contexts.take (i + 1)) w w₂
    | (.ok (some m), w₂) => GivesFrom run r name w i g context m w₂
    | (.error f, w₂) => FailsWith run r name w f w₂

/-- The questions that ask a context **go on** as the context ends: to resolve a name and to tell
whether it is answered, behind it if it does not answer, and with the context or the error that it
raises otherwise; to explain a name, behind it unless it raises an error. -/
def Asks (run : Runner) (r : Resolver) (name : String) (context : Value) (w₁ : World)
    (o : Except Fault Bool × World) : Prop :=
  ∀ w i g,
    (r.Reaches (r.asking run name) w i g context w₁ →
      match o with
      | (.ok false, w₂) => Passed (r.asking run name) (r.contexts.take (i + 1)) w w₂
      | (.ok true, w₂) =>
        (r.resolve run name).outcome w = (announce run r name g i context context).outcome w₂
      | (.error f, w₂) => (r.resolve run name).outcome w = (.error f, w₂) ∧
          ((∀ e, f = .raised e → e.isA .unresolved = false) →
            (r.respondsTo run name).outcome w = (.error f, w₂))) ∧
    (r.Reaches (r.surveying run name) w i g context w₁ →
      match o with
      | (.ok _, w₂) => Passed (r.surveying run name) (r.contexts.take (i + 1)) w w₂
      | (.error f, w₂) => (r.explain run name).outcome w = (.error f, w₂))

/-- A context fetches in the way that was found out. -/
theorem fetches_of_outcome {o : Except Fault (Option Value) × World}
    (h : (r.fetching run name context).outcome w₁ = o) : Fetches run r name context w₁ o := by
  intro w i g reached
  rcases o with ⟨f | _ | m, w₂⟩
  · exact failsWith_of_fetching reached h
  · exact reached.passes h
  · exact givesFrom_of_fetching reached h

/-- A context is asked in the way that was found out. -/
theorem asks_of_outcome {o : Except Fault Bool × World}
    (h : (r.variant.strategy.respondsTo run context name).outcome w₁ = o) :
    Asks run r name context w₁ o := by
  intro w i g
  rcases o with ⟨f | _ | _, w₂⟩
  · refine ⟨fun reached => ?_, fun reached => explain_of_fails reached h⟩
    have failed : (r.resolve run name).outcome w = (.error f, w₂) :=
      map_search_of_fails Prod.fst reached (asking_error_iff.2 h)
    refine ⟨failed, fun answered => ?_⟩
    rw [respondsTo, Run.outcome_recover, Run.outcome_bind_of_error failed]
    rcases f with e | _
    · simp [answered e rfl]
    · rfl
  · exact ⟨fun reached => reached.passes (asking_none_iff.2 h),
      fun reached => reached.passes (surveying_none_iff.2 ⟨false, h⟩)⟩
  · exact ⟨fun reached => resolve_of_picks ⟨w₁, reached, asking_some_iff.2 h⟩,
      fun reached => reached.passes (surveying_none_iff.2 ⟨true, h⟩)⟩

/-! ### Refusals -/

/-- A context **refuses** a name to the private variant: it is looked up by the attribute protocol,
and that ends with an error by which contexts refuse. -/
structure Refuses (run : Runner) (context : Value) (name : String) (w : World) (e : Error)
    (w' : World) : Prop where
  refusal : e.kind.isAny Kind.refusals = true
  refused : (dynamicLookup run true context name).outcome w = (.error (.raised e), w')

/-- A refusal is **taken as** if the context ended otherwise: in the question for a member, and in
those that ask it where it refuses to be asked as well. -/
def TakenAs (run : Runner) (r : Resolver) (name : String) (context : Value) (w₁ : World) (e : Error)
    (w₂ : World) (given : Except Fault (Option Value) × World)
    (answered : Except Fault Bool × World) : Prop :=
  Fetches run r name context w₁ given ∧
    ((dynamicRespondsTo run true context name).outcome w₁ = (.error (.raised e), w₂) →
      Asks run r name context w₁ answered)

section Refused

variable {w₃ : World} (hv : r.variant = .privateOne) (h : Refuses run context name w₁ e w₂)
include hv h

/-- A refusal for which the hooks are to blame is told, and then taken as if the context were asked
by the **static strategy** alone. -/
theorem takenAs_of_overrides
    (blamed : (Attribute.overridesProtocol run context name).outcome w₂ = (.ok true, w₃))
    (plain : w₃.ReadsPlainly (w₃.classOf context)) :
    TakenAs run r name context w₁ e w₂
      ((noting run e >>= fun _ => staticLookup run true context name).outcome w₃)
      ((noting run e >>= fun _ =>
        (Strategy.static true).respondsTo run context name).outcome w₃) := by
  refine ⟨fetches_of_outcome ?_, fun asked => asks_of_outcome ?_⟩
  · rw [fetching, hv]
    exact withFallback_of_overrides h.refusal h.refused blamed plain
  · rw [hv]
    exact withFallback_of_overrides h.refusal asked blamed plain

/-- A refusal for which no hook is to blame **leaves** every question. -/
theorem takenAs_of_not_overrides
    (blameless : (Attribute.overridesProtocol run context name).outcome w₂ = (.ok false, w₃)) :
    TakenAs run r name context w₁ e w₂ (.error (.raised e), w₃) (.error (.raised e), w₃) := by
  refine ⟨fetches_of_outcome ?_, fun asked => asks_of_outcome ?_⟩
  · rw [fetching, hv]
    exact withFallback_of_not_overrides h.refusal h.refused blameless
  · rw [hv]
    exact withFallback_of_not_overrides h.refusal asked blameless

/-- A refusal for which hooks in sight are to blame is taken as what a **walk through the tables**
finds where it has been told. -/
theorem takenAs_of_blames (shows : w₂.ShowsHooks context name)
    (blamed : w₂.blames context name = true) (told : (noting run e).outcome w₂ = (.ok (), w₃))
    (walkable : w₃.Walkable name context)
    (filled : ∀ raw loose, w₃.walked? context name = some (raw, loose) → w₃.NoSlot raw) :
    TakenAs run r name context w₁ e w₂
      (match w₃.walked? context name with
        | none => (.ok none, w₃)
        | some entry => (Value.known? <$> settle run context entry : Run (Option Value)).outcome w₃)
      (.ok (w₃.walked? context name).isSome, w₃) := by
  have overrides := Attribute.outcome_overridesProtocol run shows
  rw [blamed] at overrides
  have taken := takenAs_of_overrides hv h overrides shows.plain.1
  rwa [Run.outcome_bind_of_ok told, Run.outcome_bind_of_ok told,
    outcome_staticLookup walkable filled, Strategy.respondsTo, Run.outcome_map,
    outcome_staticFound? walkable filled] at taken

/-- A refusal of a class whose tables the hooks of its metaclass refuse as well **leaves** every
question, as that second error. -/
theorem takenAs_of_line {c : ClassRef} {w₄ w₅ : World} (hc : context = .cls c)
    (blamed : (Attribute.overridesProtocol run context name).outcome w₂ = (.ok true, w₃))
    (plain : w₃.ReadsPlainly (w₃.classOf context))
    (told : (noting run e).outcome w₃ = (.ok (), w₄)) (isClass : w₄.isClass context = true)
    (again : (Attribute.get run context "__mro__").outcome w₄ = (.error f, w₅)) :
    TakenAs run r name context w₁ e w₂ (.error f, w₅) (.error f, w₅) := by
  have taken := takenAs_of_overrides hv h blamed plain
  subst hc
  have entry := staticFound?_of_line name isClass again
  rwa [Run.outcome_bind_of_ok told, Run.outcome_bind_of_ok told, staticLookup,
    Run.outcome_bind_of_error entry, Strategy.respondsTo, Run.outcome_map, entry] at taken

/-- A refusal of a module **leaves** every question. -/
theorem takenAs_of_module {j : ModuleId} (hm : context = .module j) :
    TakenAs run r name context w₁ e w₂ (.error (.raised e), w₂) (.error (.raised e), w₂) := by
  obtain ⟨shows, blameless⟩ := w₂.blames_module j name
  apply takenAs_of_not_overrides hv h
  rw [hm, Attribute.outcome_overridesProtocol run shows, blameless]

end Refused

/-- A world of contexts whose hooks refuse every name. `Hooked` and `Lacking` have one behind the
access, and the `x` of `Lacking` says that an attribute is missing; `Guarded` has one in front of
it; the metaclass `Meta` has one in front of the access to its class `Thing`; that of `Wrapped` is a
static method; and so does the module `m`. -/
def refusing : World :=
  { World.empty with
    classes := #[plainClass 0 "Hooked" [("__getattr__", .fn 0)],
      plainClass 1 "Guarded" [("__getattribute__", .fn 1)],
      { plainClass 2 "Meta" [("__getattribute__", .fn 0)] with
        line := [.world 2, .native .type, .native .object]
        bases := [.native .type] },
      { plainClass 3 "Thing" [] with metaclass := .world 2 },
      plainClass 4 "Wrapped" [("__getattr__", .staticMethod 0)],
      plainClass 5 "Lacking" [("x", .property (some 2) none (some "x")), ("__getattr__", .fn 0)]]
    objects := #[plainObject "hooked" 0 [], plainObject "guarded" 1 [("x", .int 5)],
      plainObject "wrapped" 4 [], plainObject "lacking" 5 []]
    modules := #[⟨"builtins", kernelMembers⟩, ⟨"m", [("__getattr__", .fn 0)]⟩]
    functions := #[plainFunction "refuse" (.silent (.raise .type "refused")),
      plainFunction "Guarded.__getattribute__" (.silent (.raise .key "refused")),
      plainFunction "Lacking.x" (.silent (.raise .attr "x")),
      plainFunction "closure" (.script [])] }
where
  /-- A private resolver over one value. -/
  privateOver (context : Value) : Resolver :=
    ⟨.privateOne, .fn 3, .none, .iok, [context], .module World.kernelModule, none⟩

open refusing (privateOver)

/-- The refusing objects have plain classes. -/
theorem refusing.plain {i : ObjectId} (h : i = 0 ∨ i = 1) : refusing.ClassesPlain (.object i) := by
  apply World.classesPlain_of_metaclasses
  rcases h with rfl | rfl <;> decide +kernel

/-- `Hooked` and `Guarded` show their hooks, which are to blame. -/
theorem refusing.shows {i : ObjectId} (h : i = 0 ∨ i = 1) :
    refusing.ShowsHooks (.object i) "x" ∧ refusing.blames (.object i) "x" = true := by
  refine ⟨⟨refusing.plain h, fun hook hh f hf => ?_, fun front _ => ?_⟩, ?_⟩
  · simp only [List.mem_cons, List.not_mem_nil, or_false] at hh
    rcases h with rfl | rfl <;> rcases hh with rfl | rfl <;> cases hf
    · exact Attribute.tellsClass_nativeMember _ _ _ _
    · exact Attribute.tellsClass_of_native rfl (by decide)
    · exact Attribute.tellsClass_of_native rfl (by decide)
  · rcases h with rfl | rfl
    · refine .instance_ _ (by simp) (.field (.world 0) [] rfl rfl rfl) (fun d hd => ?_) ?_
      · refine World.legible_of_metaclass ?_
        revert d
        decide +kernel
      · intro raw member
        cases member
    · cases front
  · rcases h with rfl | rfl <;> rfl

/-- Their tables can be walked through. -/
theorem refusing.walkable {i : ObjectId} (h : i = 0 ∨ i = 1) :
    refusing.Walkable "x" (.object i) := by
  have accessible := (refusing.plain h).accessible
  rcases h with rfl | rfl
  · refine .instance_ _ rfl (by simp) (.field (.world 0) [] rfl rfl rfl)
      accessible.1 accessible.2 ?_
    rintro raw ⟨⟩
  · refine .instance_ _ rfl (by simp) (.field (.world 1) _ rfl rfl rfl) accessible.1 accessible.2 ?_
    rintro raw ⟨⟩

end Resolver

end OrderedScope
