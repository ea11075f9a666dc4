import OrderedScope.Proofs.Access
import OrderedScope.Proofs.Agreement

/-!
# The Member is Computed Once

A resolver gives the member of the first context that answers. If the tables of that context show
the name, the member is fetched by one access, and if the member is computed the access runs its
getter. This module says when the getter runs exactly once and its errors leave the question as they
are, and what happens otherwise.

Four things take the question out of the getter's hands. A hook behind the access is asked when the
getter says that an attribute is missing. A hook in front of the access stands in the getter's
place. Under the private variant an error by which contexts refuse the attribute protocol is
taken for such a refusal wherever a function stands in front of the access, even if the getter
raised it: then the member is looked up, and computed, **a second time**. And a getter that gives
the object that tells that there is nothing gives nothing: the contexts behind are looked up.

## Main results

* `Resolver.outcome_fetching_of_shown`: fetching from a context that shows the name, whatever its
  hooks.
* `Resolver.evaluates_once`: when a getter runs once and its errors are its own, and what happens
  otherwise.
* `Resolver.evaluated_twice`: a getter that runs twice.
-/

namespace OrderedScope

namespace Lookup

open Attribute

variable {run : Runner} {secondary : Strategy} {operation : String} {context : Value}
  {name : String} {e : Error} {w w₁ : World}

/-! ### Handing over -/

/-- If no hook of the context is to blame, the refusal **stands**. -/
theorem handOver_of_not_overrides
    (h : (overridesProtocol run context name).outcome w = (.ok false, w₁)) :
    (handOver run secondary operation context name e).outcome w = (.error (.raised e), w₁) := by
  rw [handOver, Run.outcome_bind_of_ok h]
  rfl

/-- An error can be **told** of without running code: its message is fixed, or a message that tells
of it is not logged. -/
def ToldFreely (e : Error) (w : World) : Prop := e.isWorded = true ∨ w.logLevel ≠ some .debug

/-- What is done to **tell** of an error: it is put into words, if such messages are logged. -/
def noting (run : Runner) (e : Error) : Run Unit := Run.logText .debug fun _ => e.text run

/-- Where an error can be told of freely, telling of it **does nothing** else. -/
theorem outcome_noting_of_toldFreely (told : ToldFreely e w) :
    (noting run e).outcome w = (.ok (), w) := by
  rcases told with worded | silent
  · rw [noting, Error.text_of_isWorded worded]
    exact Run.outcome_log .debug e.message w
  · have unlogged : (Run.logs .debug).outcome w = (.ok false, w) := by
      rw [Run.logs, Run.outcome_reading]
      rcases level : w.logLevel with _ | _ | _
      · rfl
      · exact absurd level silent
      · rfl
    rw [noting, Run.logText, Run.outcome_bind_of_ok unlogged]
    rfl

/-- Telling of an error fails only if it **spends the budget**. -/
theorem noting_error {f : Fault} (h : (noting run e).outcome w = (.error f, w₁)) :
    f = .exhausted := (Run.logText_error h).1

/-- If the hooks of the context are to blame, it is given over, and **nothing else** is done but to
tell so. -/
theorem outcome_handOver_of_overrides (plain : w₁.ReadsPlainly (w₁.classOf context))
    (h : (overridesProtocol run context name).outcome w = (.ok true, w₁)) :
    (handOver run secondary operation context name e).outcome w = (noting run e).outcome w₁ := by
  rw [handOver, Run.outcome_bind_of_ok h]
  simp only [↓reduceIte]
  rw [Run.outcome_bind_of_ok (Run.outcome_reading _ w₁),
    Run.outcome_bind_of_ok (outcome_get_name plain), Value.plainText]
  simp only [pure_bind]
  exact Run.outcome_logText_wording .debug
    (fun w => by simp only [bind_pure_comp, Functor.map_map]) w₁

/-- If the hooks of the context are to blame for an error that can be told of freely, it is **given
over**. -/
theorem handOver_of_overrides (plain : w₁.ReadsPlainly (w₁.classOf context))
    (h : (overridesProtocol run context name).outcome w = (.ok true, w₁))
    (told : ToldFreely e w₁) :
    (handOver run secondary operation context name e).outcome w = (.ok (), w₁) :=
  (outcome_handOver_of_overrides plain h).trans (outcome_noting_of_toldFreely told)

/-- A context with a plain function in front of every access is **given over** after any refusal. -/
theorem handOver_of_front {i : FunctionId} (plain : w.ClassesPlain context)
    (front : w.frontHook? context = some (.fn i)) (told : ToldFreely e w) :
    (handOver run secondary operation context name e).outcome w = (.ok (), w) :=
  handOver_of_overrides plain.1 (overridesProtocol_of_front plain front) told

end Lookup

namespace Resolver

open Lookup

variable {run : Runner} {r : Resolver} {name : String} {w w₁ w₂ w₃ : World} {i : Nat} {g : Group}
  {context : Value}

/-! ### Fetching what is shown -/

/-- The scan of a resolver reaches a context that **shows** the name to it. The second world is the
one after the tables were looked up. -/
structure ReachesShown (run : Runner) (r : Resolver) (name : String) (w : World) (i : Nat)
    (g : Group) (context : Value) (w₁ w₂ : World) : Prop where
  reached : r.Reaches (r.asking run name) w i g context w₁
  shown : (standing run r.variant.strategy.includesRestricted context name).outcome w₁ =
    (.ok .shown, w₂)

/-- A public or private resolver fetches what is shown by **one access**. What it gives may tell
that there is nothing. Under the private variant a refusal gives the context over, and the tables
are looked up again. -/
theorem outcome_fetching_of_shown (hv : r.variant = .publicOne ∨ r.variant = .privateOne)
    (h : (standing run r.variant.strategy.includesRestricted context name).outcome w₁ =
      (.ok .shown, w₂)) :
    (r.fetching run name context).outcome w₁ =
      match (Attribute.get run context name).outcome w₂ with
      | (.ok m, w₃) => (.ok m.known?, w₃)
      | (.error (.raised e), w₃) =>
        if r.variant = .privateOne ∧ e.kind.isAny Kind.refusals = true then
          (handOver run (.static true) "lookup" context name e >>= fun _ =>
            staticLookup run true context name).outcome w₃
        else (.error (.raised e), w₃)
      | (.error .exhausted, w₃) => (.error .exhausted, w₃) := by
  rw [fetching]
  rcases hv with hv | hv <;> rw [hv] at h ⊢
  · have first : (dynamicLookup run false context name).outcome w₁ =
        (Value.known? <$> Attribute.get run context name : Run (Option Value)).outcome w₂ :=
      lookup_of_shown h
    have apart : Variant.publicOne ≠ Variant.privateOne := by decide
    refine first.trans ?_
    rw [Run.outcome_map]
    rcases (Attribute.get run context name).outcome w₂ with ⟨(e | _) | m, w₃⟩ <;> simp [apart]
  · have first : (dynamicLookup run true context name).outcome w₁ =
        (Value.known? <$> Attribute.get run context name : Run (Option Value)).outcome w₂ :=
      lookup_of_shown h
    refine (outcome_withFallback run (.static true) "lookup" context name _ _ w₁).trans ?_
    rw [Strategy.lookup, first, Run.outcome_map]
    rcases (Attribute.get run context name).outcome w₂ with ⟨(e | _) | m, w₃⟩ <;>
      simp [Strategy.lookup]

/-- A context that shows the name **answers** when it is asked. -/
theorem asking_of_shown (hv : r.variant = .publicOne ∨ r.variant = .privateOne)
    (h : (standing run r.variant.strategy.includesRestricted context name).outcome w₁ =
      (.ok .shown, w₂)) :
    (r.asking run name context).outcome w₁ = (.ok (some ()), w₂) := by
  rw [asking_some_iff]
  rcases hv with hv | hv <;> rw [hv] at h ⊢
  · exact respondsTo_of_shown h
  · have first : (dynamicRespondsTo run true context name).outcome w₁ = (.ok true, w₂) :=
      respondsTo_of_shown h
    exact Run.outcome_recover_ok first

/-- A context that is reached before another one does **not show** the name. -/
theorem not_shown_before (hv : r.variant = .publicOne ∨ r.variant = .privateOne)
    (h : r.Reaches (r.asking run name) w i g context w₁) {j : Nat} (hj : j < i) {g' : Group}
    {c : Value} (h' : r.Reaches (r.asking run name) w j g' c w₂) :
    (standing run r.variant.strategy.includesRestricted c name).outcome w₂ ≠ (.ok .shown, w₃) := by
  intro shown
  obtain ⟨_, _, _, w₄, hbefore, silent⟩ := h.before hj
  obtain ⟨-, rfl, rfl⟩ := hbefore.unique h'
  cases silent.symm.trans (asking_of_shown hv shown)

/-! ### How the question for a member ends -/

/-- The question for a member, and the one for a callable member, **fail** with an error. -/
def FailsWith (run : Runner) (r : Resolver) (name : String) (w : World) (f : Fault)
    (w' : World) : Prop :=
  (r.member run name).outcome w = (.error f, w') ∧
    (r.methodHandle run name).outcome w = (.error f, w')

/-- The question for a member **gives** one: from a world on, the context is announced, and nothing
else is done but to require of a callable member that it is one. -/
def GivesFrom (run : Runner) (r : Resolver) (name : String) (w : World) (i : Nat) (g : Group)
    (context m : Value) (w' : World) : Prop :=
  (r.member run name).outcome w = (announce run r name g i context m).outcome w' ∧
    (r.methodHandle run name).outcome w =
      (announce run r name g i context m >>= requireCallable run name).outcome w'

/-- A member that a context reached in one world gave in another is **given on**, unless it tells
that there is nothing: then the context gave nothing, and those behind it are looked up. -/
structure GivenOn (run : Runner) (r : Resolver) (name : String) (w : World) (i : Nat) (g : Group)
    (context : Value) (w₁ : World) (m : Value) (w' : World) : Prop where
  known : m ≠ .missing → GivesFrom run r name w i g context m w'
  nothing : m = .missing → (r.fetching run name context).outcome w₁ = (.ok none, w')

/-- An error of fetching from the context that is reached **leaves both questions**. -/
theorem failsWith_of_fetching {f : Fault} {w' : World}
    (h : r.Reaches (r.fetching run name) w i g context w₁)
    (hf : (r.fetching run name context).outcome w₁ = (.error f, w')) :
    FailsWith run r name w f w' := by
  have failed := member_of_fails h hf
  exact ⟨failed, Run.outcome_bind_of_error failed⟩

/-- What is fetched from the context that is reached is **given** by both questions. -/
theorem givesFrom_of_fetching {m : Value} {w' : World}
    (h : r.Reaches (r.fetching run name) w i g context w₁)
    (hm : (r.fetching run name context).outcome w₁ = (.ok (some m), w')) :
    GivesFrom run r name w i g context m w' := by
  have given := member_of_picks ⟨w₁, h, hm⟩
  refine ⟨given, ?_⟩
  rw [methodHandle, Run.outcome_bind, given, ← Run.outcome_bind]

/-! ### One access -/

section OneAccess

variable (hv : r.variant = .publicOne ∨ r.variant = .privateOne)
  (h : ReachesShown run r name w i g context w₁ w₂)
include hv h

/-- A member that the access gives is given on. -/
theorem givenOn_of_get {m : Value}
    (hget : (Attribute.get run context name).outcome w₂ = (.ok m, w₃)) :
    GivenOn run r name w i g context w₁ m w₃ := by
  have fetched : (r.fetching run name context).outcome w₁ = (.ok m.known?, w₃) := by
    rw [outcome_fetching_of_shown hv h.shown, hget]
  refine ⟨fun known => ?_, ?_⟩
  · rw [Value.known?_eq_some.2 ⟨rfl, known⟩] at fetched
    exact givesFrom_of_fetching (h.reached.imp fetching_of_silent) fetched
  · rintro rfl
    exact fetched

/-- An error of the access that is not taken for a refusal **leaves the question**. -/
theorem failsWith_of_get {e : Error}
    (hget : (Attribute.get run context name).outcome w₂ = (.error (.raised e), w₃))
    (own : ¬ (r.variant = .privateOne ∧ e.kind.isAny Kind.refusals = true)) :
    FailsWith run r name w (.raised e) w₃ := by
  apply failsWith_of_fetching (h.reached.imp fetching_of_silent)
  rw [outcome_fetching_of_shown hv h.shown, hget]
  exact if_neg own

/-- An error that is taken for a refusal leaves the question if **no hook** is to blame for it. -/
theorem failsWith_of_not_overrides {e : Error} {w₄ : World}
    (hget : (Attribute.get run context name).outcome w₂ = (.error (.raised e), w₃))
    (blameless : (Attribute.overridesProtocol run context name).outcome w₃ = (.ok false, w₄))
    (refused : r.variant = .privateOne ∧ e.kind.isAny Kind.refusals = true) :
    FailsWith run r name w (.raised e) w₄ := by
  apply failsWith_of_fetching (h.reached.imp fetching_of_silent)
  rw [outcome_fetching_of_shown hv h.shown, hget]
  exact (if_pos refused).trans
    (Run.outcome_bind_of_error (handOver_of_not_overrides blameless))

/-- An error that is taken for a refusal, and for which the context is given over, leads to a
**second attempt**: the tables are looked up, and what they hold is computed, once more. -/
theorem second_attempt {e : Error} {w₄ : World}
    (hget : (Attribute.get run context name).outcome w₂ = (.error (.raised e), w₃))
    (handed : (handOver run (.static true) "lookup" context name e).outcome w₃ = (.ok (), w₄))
    (refused : r.variant = .privateOne ∧ e.kind.isAny Kind.refusals = true) :
    (r.fetching run name context).outcome w₁ =
      (staticLookup run true context name).outcome w₄ := by
  rw [outcome_fetching_of_shown hv h.shown, hget]
  exact (if_pos refused).trans (Run.outcome_bind_of_ok handed)

end OneAccess

/-! ### Scopes -/

/-- An object is the **scope** of a resolver. -/
structure IsScope (w : World) (s : ObjectId) (r : Resolver) : Prop where
  cls : w.classOf (.object s) = .native .scope
  bare : w.ownAttrs? (.object s) = none
  resolver : ∃ id, w.payload? s = some (.scope id) ∧ w.resolvers[id]? = some r

section Scope

variable {s : ObjectId} (h : IsScope w s r)
include h

/-- The resolver of a scope is found and nothing is logged. -/
theorem IsScope.scopeResolver_apply :
    Interpreter.scopeResolver (.object s) w = ⟨(.ok r, w), []⟩ := by
  obtain ⟨id, hpayload, hresolver⟩ := h.resolver
  rw [Interpreter.scopeResolver, Run.reading_bind_apply, hpayload]
  simp only [resolverAt]
  rw [Run.reading_bind_apply, hresolver]
  rfl

/-- The resolver of a scope **is found**. -/
theorem outcome_scopeResolver : (Interpreter.scopeResolver (.object s)).outcome w = (.ok r, w) :=
  congrArg Logging.value h.scopeResolver_apply

/-- What a scope holds under a name it has **from its class**. -/
theorem IsScope.typeMember?_eq (name : String) :
    w.typeMember? (w.classOf (.object s)) name =
      [NativeClass.scope, .object].findSome? (·.member? name) := by
  rw [h.cls, World.typeMember?_native]
  rfl

/-- The hook in front of every access to a scope is that of **plain objects**. -/
theorem IsScope.frontHook_eq : w.typeMember? (w.classOf (.object s)) "__getattribute__" =
    some (.nativeMember (.native .object) .wrapper "__getattribute__") := by
  rw [h.typeMember?_eq]
  rfl

/-- The hook **behind** every access to a scope is the function of the library that asks its
resolver. -/
theorem IsScope.backHook_eq :
    w.typeMember? (w.classOf (.object s)) "__getattr__" = some (.libFn .scopeGet) := by
  rw [h.typeMember?_eq]
  rfl

/-- The standard access to a scope does **not find** a name that its class does not have, and says
so at once. -/
theorem IsScope.frontGet_apply_of_free (free : w.typeMember? (.native .scope) name = none)
    (run : Runner) : Attribute.frontGet run (.object s) name w =
      ⟨(.error (.raised (.noAttribute (w.fullName (.native .scope)) name)), w), []⟩ := by
  have standard : Attribute.frontGet run (.object s) name w =
      Attribute.objectGet run (.object s) name w := by
    rw [Attribute.frontGet, Run.reading_bind_apply, h.frontHook_eq]
    rfl
  rw [standard, Attribute.objectGet, Run.get_bind_apply]
  simp only [h.cls, h.bare, free]
  rfl

/-- A scope has no attribute of a free name of its own. -/
theorem IsScope.outcome_frontGet_of_free (free : w.typeMember? (.native .scope) name = none)
    (run : Runner) : (Attribute.frontGet run (.object s) name).outcome w =
      (.error (.raised (.noAttribute (w.fullName (.native .scope)) name)), w) :=
  congrArg Logging.value (h.frontGet_apply_of_free free run)

/-- The run that reads a name from a scope is the run that asks its resolver for **the member**, for
every name that the scope itself does not have. The hook that is called for it takes two tasks. -/
theorem IsScope.get_apply (budget : Nat) (free : w.typeMember? (.native .scope) name = none) :
    Attribute.get (Interpreter.runner (budget + 2)) (.object s) name w =
      r.member (Interpreter.runner budget) name w := by
  have hook : Attribute.callHook (Interpreter.runner (budget + 2)) (.libFn .scopeGet) (.object s)
      [.str name] w = Interpreter.callLibrary (Interpreter.runner budget) .scopeGet
        [.object s, .str name] [] w := rfl
  rw [Attribute.get, Run.reading_bind_apply, h.backHook_eq]
  simp only
  rw [Run.recover_apply_of_raised (h.frontGet_apply_of_free free _) rfl, hook,
    Interpreter.callLibrary, Run.bind_apply_of_ok h.scopeResolver_apply]

end Scope

/-- Access to a free name of a scope asks **its resolver**. -/
theorem outcome_get_scope {s : ObjectId} (budget : Nat) (h : IsScope w s r)
    (free : w.typeMember? (.native .scope) name = none) :
    (Attribute.get (Interpreter.runner (budget + 2)) (.object s) name).outcome w =
      (r.member (Interpreter.runner budget) name).outcome w :=
  congrArg Logging.value (h.get_apply budget free)

/-! ### The getter -/

/-- The member of the first context that shows a name is computed **once**, and its errors are its
own, exactly where no hook comes between.

* The contexts before it do not show the name and are passed as they are by asking; those behind it
  do not matter.
* Whatever hooks the context has, it is accessed once. What the access gives is given on, unless it
  tells that there is nothing: then the context is passed, and those behind it are looked up. An
  error that is not taken for a refusal leaves the question.
* Let a getter compute the member, and no hook stand in front of the access. What the getter gives
  is given on, with the same exception. An error that it raises leaves the question in the world in
  which it was raised: if it is no missing attribute or no hook stands behind the access, and if it
  is no refusal, or the variant is the public one, or the context has no hooks then. Where the
  context has hooks it leaves the question if they are not to blame.
* Otherwise a hook behind the access gives the member in the place of the error, or a context that
  is given over is looked up a second time.
* A context with a plain function in front of every access is looked up a second time after every
  refusal, whoever raised it. That it can be told of freely only says in which world.
* Access to a name of a scope of the resolver is the question for the member. -/
theorem evaluates_once (run : Runner) (r : Resolver) (name : String) (w w₁ w₂ : World) (i : Nat)
    (g : Group) (context : Value) (hv : r.variant = .publicOne ∨ r.variant = .privateOne)
    (h : ReachesShown run r name w i g context w₁ w₂) :
    (r.Reaches (r.fetching run name) w i g context w₁ ∧
        ∀ j < i, ∀ g' c w₃, r.Reaches (r.asking run name) w j g' c w₃ → ∀ w₄,
          (standing run r.variant.strategy.includesRestricted c name).outcome w₃ ≠
            (.ok .shown, w₄)) ∧
    (∀ s : Resolver, (∀ w₃, (r.fetching run name context).outcome w₁ ≠ (.ok none, w₃)) →
      s.contexts.take (i + 1) = r.contexts.take (i + 1) → s.variant = r.variant →
      s.observer = r.observer → s.member run name w = r.member run name w) ∧
    ((∀ m w₃, (Attribute.get run context name).outcome w₂ = (.ok m, w₃) →
        GivenOn run r name w i g context w₁ m w₃) ∧
      ∀ e w₃, (Attribute.get run context name).outcome w₂ = (.error (.raised e), w₃) →
        ¬ (r.variant = .privateOne ∧ e.kind.isAny Kind.refusals = true) →
          FailsWith run r name w (.raised e) w₃) ∧
    (∀ t, w₂.accessTask? context name = some t → w₂.frontHook? context = none →
      (∀ m w₃, (run t).outcome w₂ = (.ok m, w₃) →
        GivenOn run r name w i g context w₁ m w₃) ∧
      (∀ e w₃, (run t).outcome w₂ = (.error (.raised e), w₃) →
        (e.isA .attr = false ∨ w₂.backHook? context = none) →
          ((r.variant = .publicOne ∨ e.kind.isAny Kind.refusals = false ∨ w₃.Hookless context) →
            FailsWith run r name w (.raised e) w₃) ∧
          (r.variant = .privateOne ∧ e.kind.isAny Kind.refusals = true →
            (∀ w₄, (Attribute.overridesProtocol run context name).outcome w₃ = (.ok false, w₄) →
              FailsWith run r name w (.raised e) w₄) ∧
            ∀ w₄, (handOver run (.static true) "lookup" context name e).outcome w₃ =
                (.ok (), w₄) →
              (r.fetching run name context).outcome w₁ =
                (staticLookup run true context name).outcome w₄)) ∧
      ∀ e w₃ hook, (run t).outcome w₂ = (.error (.raised e), w₃) → e.isA .attr = true →
        w₂.backHook? context = some hook → ∀ m w₄,
          (Attribute.callHook run hook context [.str name]).outcome w₃ = (.ok m, w₄) →
            GivenOn run r name w i g context w₁ m w₄) ∧
    (∀ k e w₃, (Attribute.get run context name).outcome w₂ = (.error (.raised e), w₃) →
      w₃.ClassesPlain context → w₃.frontHook? context = some (.fn k) → ToldFreely e w₃ →
        r.variant = .privateOne ∧ e.kind.isAny Kind.refusals = true →
          (r.fetching run name context).outcome w₁ =
            (staticLookup run true context name).outcome w₃) ∧
    (∀ budget s, run = Interpreter.runner budget → IsScope w s r →
      w.typeMember? (.native .scope) name = none →
        (Attribute.get (Interpreter.runner (budget + 2)) (.object s) name).outcome w =
          (r.member run name).outcome w) := by
  have reached := h.reached.imp fetching_of_silent
  refine ⟨⟨reached, ?_⟩, ?_,
    ⟨fun m w₃ => givenOn_of_get hv h, fun e w₃ => failsWith_of_get hv h⟩, ?_, ?_, ?_⟩
  · intro j hj g' c w₃ hr w₄
    exact not_shown_before hv h.reached hj hr
  · intro s stops same variant observer
    have hfetching : s.fetching run name = r.fetching run name := by
      funext context
      simp only [fetching, variant]
    have key : search run s name (r.fetching run name) w =
        search run r name (r.fetching run name) w := search_congr reached stops same observer
    rw [member, member, hfetching, ← bind_pure_comp, ← bind_pure_comp]
    exact Run.bind_congr key fun _ _ _ => rfl
  · intro t ht front
    refine ⟨?_, ?_, ?_⟩
    · intro m w₃ hm
      exact givenOn_of_get hv h (Attribute.get_of_task_gives front ht hm)
    · intro e w₃ he own
      have hget := Attribute.get_of_task_fails front ht he own
      refine ⟨?_, fun refused => ⟨?_, ?_⟩⟩
      · rintro (isPublic | ordinary | hookless)
        · refine failsWith_of_get hv h hget (fun refused => ?_)
          exact absurd (isPublic.symm.trans refused.1) (by decide)
        · refine failsWith_of_get hv h hget (fun refused => ?_)
          cases ordinary.symm.trans refused.2
        · by_cases refused : r.variant = .privateOne ∧ e.kind.isAny Kind.refusals = true
          · exact failsWith_of_not_overrides hv h hget
              (Attribute.overridesProtocol_of_hookless hookless) refused
          · exact failsWith_of_get hv h hget refused
      · intro w₄ blameless
        exact failsWith_of_not_overrides hv h hget blameless refused
      · intro w₄ handed
        exact second_attempt hv h hget handed refused
    · intro e w₃ hook he missing back m w₄ hm
      exact givenOn_of_get hv h
        ((Attribute.get_of_task_misses front ht he missing back).trans hm)
  · intro k e w₃ hget plain front told refused
    exact second_attempt hv h hget (handOver_of_front plain front told) refused
  · intro budget s hrun hs free
    rw [hrun]
    exact outcome_get_scope budget hs free

/-- A world with objects of four classes whose `x` is computed: `Plain` and `Lacking` have no hooks,
`Front` has one in front of every access that passes `x` on, and `Back` has one behind the access.
The getter of `Lacking` raises the error of a missing key, as that of `Front` does. -/
def computing : World :=
  { World.empty with
    classes := #[plainClass 0 "Plain" [("x", .property (some 0) none (some "x"))],
      plainClass 1 "Front" [("x", .property (some 1) none (some "x")),
        ("__getattribute__", .fn 2)],
      plainClass 2 "Back" [("x", .property (some 3) none (some "x")), ("__getattr__", .fn 4)],
      plainClass 3 "Lacking" [("x", .property (some 6) none (some "x"))]]
    objects := #[plainObject "plain" 0 [], plainObject "front" 1 [], plainObject "back" 2 [],
      plainObject "lacking" 3 []]
    functions := #[plainFunction "Plain.x" (.body "Plain.x" (.ret (.int 1))),
      plainFunction "Front.x" (.body "Front.x" (.raise .key "x")),
      plainFunction "Front.__getattribute__"
        (.hook "Front.__getattribute__" ⟨[], ["x"], .raise .attr "none"⟩),
      plainFunction "Back.x" (.body "Back.x" (.raise .attr "x")),
      plainFunction "Back.__getattr__"
        (.hook "Back.__getattr__" ⟨[("x", .int 7)], [], .raise .attr "none"⟩),
      plainFunction "closure" (.script []),
      plainFunction "Lacking.x" (.body "Lacking.x" (.raise .key "x"))] }

/-- A resolver over one of the objects of that world. -/
def overComputing (variant : Variant) (i : ObjectId) : Resolver :=
  ⟨variant, .fn 5, .none, .iok, [.object i], .module World.kernelModule, none⟩

/-- Whether a task calls a function with an object and nothing else. -/
def isCallWith (f : FunctionId) (i : ObjectId) : Option Task → Bool
  | some (.call (.fn g) [.object j] []) => f == g && i == j
  | _ => false

/-- A task that was evaluated to a call is that call. -/
theorem eq_of_isCallWith {f : FunctionId} {i : ObjectId} {t : Option Task}
    (h : isCallWith f i t = true) : t = some (.call (.fn f) [.object i] []) := by
  rw [isCallWith.eq_def] at h
  split at h
  · obtain ⟨hf, hi⟩ := Bool.and_eq_true_iff.1 h
    rw [eq_of_beq hf, eq_of_beq hi]
  · cases h

/-- That world after its tables were looked up for the `x` of one of the objects. -/
def lookedUp (i : ObjectId) : World :=
  ((standing (Interpreter.runner 10) true (.object i) "x").outcome computing).2

/-- A context that is shown to stand is reached. -/
theorem reachesShown_overComputing {i : ObjectId}
    (h : ((standing (Interpreter.runner 10) true (.object i) "x").outcome computing).1.toOption =
      some .shown) :
    ReachesShown (Interpreter.runner 10) (overComputing .privateOne i) "x" computing 0 .inner
      (.object i) computing (lookedUp i) :=
  ⟨⟨rfl, Passed.nil _⟩, Run.eq_of_toOption h⟩

/-- A getter of a context without hooks runs once, whether it gives a value or raises an error that
could be taken for a refusal. -/
theorem evaluates_once_plain :
    (∃ w₂ w₃, ReachesShown (Interpreter.runner 10) (overComputing .privateOne 0) "x" computing 0
          .inner (.object 0) computing w₂ ∧
        (Interpreter.runner 10 (.call (.fn 0) [.object 0] [])).outcome w₂ = (.ok (.int 1), w₃) ∧
        w₃.trace = ["Plain.x"] ∧
        GivesFrom (Interpreter.runner 10) (overComputing .privateOne 0) "x" computing 0 .inner
          (.object 0) (.int 1) w₃) ∧
      ∃ w₂ w₃, ReachesShown (Interpreter.runner 10) (overComputing .privateOne 3) "x" computing 0
          .inner (.object 3) computing w₂ ∧
        (Interpreter.runner 10 (.call (.fn 6) [.object 3] [])).outcome w₂ =
          (.error (.raised (.raised .key "x")), w₃) ∧
        w₃.trace = ["Lacking.x"] ∧ w₃.Hookless (.object 3) ∧
        FailsWith (Interpreter.runner 10) (overComputing .privateOne 3) "x" computing
          (.raised (.raised .key "x")) w₃ := by
  constructor
  · have h := reachesShown_overComputing (i := 0) (by decide +kernel)
    have getter : (Interpreter.runner 10 (.call (.fn 0) [.object 0] [])).outcome (lookedUp 0) =
        (.ok (.int 1), _) := Run.eq_of_gave (by decide +kernel)
    have task : (lookedUp 0).accessTask? (.object 0) "x" =
        some (.call (.fn 0) [.object 0] []) := eq_of_isCallWith (by decide +kernel)
    have front : (lookedUp 0).frontHook? (.object 0) = none :=
      Option.isNone_iff_eq_none.1 (by decide +kernel)
    have once := (evaluates_once _ _ _ _ _ _ 0 _ _ (Or.inr rfl) h).2.2.2.1 _ task front
    exact ⟨_, _, h, getter, by decide +kernel, (once.1 _ _ getter).known nofun⟩
  · have h := reachesShown_overComputing (i := 3) (by decide +kernel)
    have getter : (Interpreter.runner 10 (.call (.fn 6) [.object 3] [])).outcome (lookedUp 3) =
        (.error (.raised (.raised .key "x")), _) := Run.eq_of_failed (by decide +kernel)
    have task : (lookedUp 3).accessTask? (.object 3) "x" =
        some (.call (.fn 6) [.object 3] []) := eq_of_isCallWith (by decide +kernel)
    have front : (lookedUp 3).frontHook? (.object 3) = none :=
      Option.isNone_iff_eq_none.1 (by decide +kernel)
    have back : (lookedUp 3).backHook? (.object 3) = none :=
      Option.isNone_iff_eq_none.1 (by decide +kernel)
    have hookless : ((Interpreter.runner 10 (.call (.fn 6) [.object 3] [])).outcome
        (lookedUp 3)).2.Hookless (.object 3) :=
      ⟨World.classesPlain_of_metaclasses (by decide +kernel),
        Option.isNone_iff_eq_none.1 (by decide +kernel),
        Option.isNone_iff_eq_none.1 (by decide +kernel)⟩
    have once := (evaluates_once _ _ _ _ _ _ 0 _ _ (Or.inr rfl) h).2.2.2.1 _ task front
    exact ⟨_, _, h, getter, by decide +kernel, hookless,
      (once.2.1 _ _ getter (Or.inr back)).1 (Or.inr (Or.inr hookless))⟩

/-- A getter that raises the error of a missing key behind a hook that passes its name on is run
**twice** by the private variant; and one that says that an attribute is missing is answered for by
the hook behind the access. -/
theorem evaluated_twice :
    (∃ w', ((overComputing .privateOne 1).member (Interpreter.runner 10) "x").outcome computing =
        (.error (.raised (.raised .key "x")), w') ∧
      w'.trace = ["Front.x", "Front.x", "Front.__getattribute__:x"]) ∧
      ∃ w', ((overComputing .publicOne 2).member (Interpreter.runner 10) "x").outcome computing =
        (.ok (.int 7), w') ∧ w'.trace = ["Back.__getattr__:x", "Back.x"] :=
  ⟨⟨_, Run.eq_of_failed (by decide +kernel), by decide +kernel⟩,
    ⟨_, Run.eq_of_gave (by decide +kernel), by decide +kernel⟩⟩

end Resolver

end OrderedScope
