import OrderedScope.Proofs.Sample
import OrderedScope.Proofs.Scan

/-!
# The First Match

The contexts of a resolver stand in the order of its direction. It asks them from the first on,
stops at the first that answers or fails, and does not touch those behind. A context that answers is
announced, to the log and to the observer; so is that nobody answers.

An observer is called within the question. Its ordinary failures are put into words and held back;
any other error, and one of putting a failure into words, leaves the question in the place of the
answer.

## Main results

* `emit_error_iff`: what leaves the call of an observer.
* `Resolver.contexts_layout`: how the contexts of a resolver are laid out.
* `Resolver.resolve_ok_iff`: a context is resolved exactly if the contexts before it do not answer,
  it answers, and it is announced.
* `Resolver.resolve_congr`: contexts behind the one at which a scan ends do not matter.
* `Resolver.resolves_first_match`: all ends of a resolution.
-/

namespace OrderedScope

/-- What **escapes** an observer that is told an event, and the world it leaves: an error that is no
ordinary failure, a spent budget, or what putting an ordinary failure into words fails with. -/
inductive Observer.Escapes (run : Runner) (o : Observer) (e : Event) (w : World) :
    Fault → World → Prop
  | unheld {x : Error} {w₁ : World} (hears : (o.hear run e).outcome w = (.error (.raised x), w₁))
      (unheld : x.isA .failure = false) : Escapes run o e w (.raised x) w₁
  | exhausted {w₁ : World} (hears : (o.hear run e).outcome w = (.error .exhausted, w₁)) :
      Escapes run o e w .exhausted w₁
  | wording {x : Error} {f : Fault} {w₁ w₂ : World}
      (hears : (o.hear run e).outcome w = (.error (.raised x), w₁)) (held : x.isA .failure = true)
      (words : (x.text run).outcome w₁ = (.error f, w₂)) : Escapes run o e w f w₂

/-- Telling an observer fails **exactly** with what escapes it. -/
theorem emit_error_iff {run : Runner} {observer : Option Observer} {e : Event} {f : Fault}
    {w w₁ : World} : (emit run observer e).outcome w = (.error f, w₁) ↔
      ∃ o, observer = some o ∧ o.Escapes run e w f w₁ := by
  cases observer with
  | none => exact ⟨nofun, by rintro ⟨_, ⟨⟩, _⟩⟩
  | some o =>
    simp only [Option.some.injEq, exists_eq_left']
    rw [emit, Run.outcome_recover]
    constructor
    · intro h
      split at h
      · rename_i x w₂ hears
        split at h
        · rename_i held
          rcases Run.outcome_bind_error_iff.1 h with words | ⟨words, w₃, -, logged⟩
          · exact .wording hears held words
          · rw [Run.outcome_log] at logged
            cases logged
        · rename_i unheld
          cases h
          exact .unheld hears (Bool.eq_false_iff.2 unheld)
      · rename_i other
        cases f with
        | raised x => exact absurd h (other x w₁)
        | exhausted => exact .exhausted h
    · rintro (⟨hears, unheld⟩ | hears | ⟨hears, held, words⟩)
      · simp [hears, unheld]
      · simp [hears]
      · simp only [hears, held, ↓reduceIte]
        exact Run.outcome_bind_error_iff.2 (.inl words)

namespace Resolver

variable {run : Runner} {r : Resolver} {name : String} {w w₁ w₂ : World} {i : Nat} {g : Group}
  {context : Value}

/-! ### Layout -/

/-- The contexts of a resolver are its inner ones, **in one piece** and in the order in which they
were supplied, one outer and one kernel context, ordered by the rank of their groups. -/
theorem contexts_layout (r : Resolver) :
    (∃ before after, r.contexts = before ++ r.inner.map (Group.inner, ·) ++ after ∧
        ∀ e ∈ before ++ after, e.1 ≠ Group.inner) ∧
      r.contexts.filter (·.1 = Group.outer) = [(.outer, r.outer)] ∧
      r.contexts.filter (·.1 = Group.kernel) = [(.kernel, r.kernel)] ∧
      r.contexts.Pairwise fun a b =>
        r.direction.groups.idxOf a.1 ≤ r.direction.groups.idxOf b.1 := by
  refine ⟨?_, filter_arrange r.inner r.outer r.kernel r.direction .outer,
    filter_arrange r.inner r.outer r.kernel r.direction .kernel, ?_⟩
  · rw [contexts]
    cases r.direction
    · exact ⟨[], [(.outer, r.outer), (.kernel, r.kernel)], rfl, by simp⟩
    · exact ⟨[(.outer, r.outer)], [(.kernel, r.kernel)], by simp [arrange, Direction.groups],
        by simp⟩
    · exact ⟨[(.outer, r.outer), (.kernel, r.kernel)], [], by simp [arrange, Direction.groups],
        by simp⟩
    · exact ⟨[], [(.kernel, r.kernel), (.outer, r.outer)], rfl, by simp⟩
    · exact ⟨[(.kernel, r.kernel), (.outer, r.outer)], [], by simp [arrange, Direction.groups],
        by simp⟩
    · exact ⟨[(.kernel, r.kernel)], [(.outer, r.outer)], by simp [arrange, Direction.groups],
        by simp⟩
  · have alike : r.inner.Pairwise fun _ _ => True := List.pairwise_of_forall fun _ _ => trivial
    rw [contexts]
    cases r.direction <;>
      simp +decide [arrange, Direction.groups, List.pairwise_append, List.pairwise_map, alike]

/-! ### Asking -/

/-- A context is asked by asking its strategy. -/
theorem outcome_asking (run : Runner) (r : Resolver) (name : String) (context : Value) (w : World) :
    (r.asking run name context).outcome w =
      match (r.variant.strategy.respondsTo run context name).outcome w with
      | (.ok b, w₁) => (.ok (if b then some () else none), w₁)
      | (.error f, w₁) => (.error f, w₁) := by
  rw [asking, Run.outcome_bind]
  rcases (r.variant.strategy.respondsTo run context name).outcome w with ⟨_ | _, _⟩ <;> rfl

/-- A context passes exactly if its strategy says **no**. -/
theorem asking_none_iff : (r.asking run name context).outcome w = (.ok none, w₁) ↔
    (r.variant.strategy.respondsTo run context name).outcome w = (.ok false, w₁) := by
  rw [outcome_asking]
  rcases (r.variant.strategy.respondsTo run context name).outcome w with ⟨f | _ | _, w₂⟩ <;> simp

/-- A context is picked exactly if its strategy says **yes**. -/
theorem asking_some_iff : (r.asking run name context).outcome w = (.ok (some ()), w₁) ↔
    (r.variant.strategy.respondsTo run context name).outcome w = (.ok true, w₁) := by
  rw [outcome_asking]
  rcases (r.variant.strategy.respondsTo run context name).outcome w with ⟨f | _ | _, w₂⟩ <;> simp

/-- Asking a context fails exactly as asking its strategy. -/
theorem asking_error_iff {f : Fault} :
    (r.asking run name context).outcome w = (.error f, w₁) ↔
      (r.variant.strategy.respondsTo run context name).outcome w = (.error f, w₁) := by
  rw [outcome_asking]
  rcases (r.variant.strategy.respondsTo run context name).outcome w with ⟨f | _ | _, w₂⟩ <;> simp

/-! ### How the questions end -/

/-- What a scan that picks a position leads to: the context there is **announced**, and the question
ends with a value. -/
def announce (run : Runner) (r : Resolver) (name : String) (g : Group) (i : Nat)
    (context v : Value) : Run Value := do
  matched run r name g i context
  pure v

/-- No question ends with a value because nobody answers. -/
theorem failUnanswered_not_ok {α : Type} {a : α} :
    (failUnanswered run r name : Run α).outcome w ≠ (.ok a, w₁) := by
  intro h
  obtain ⟨_, _, -, hraise⟩ := Run.outcome_bind_ok_iff.1 h
  cases hraise

/-- What is announced is given on **unchanged**. -/
theorem announce_ok {v m : Value}
    (h : (announce run r name g i context v).outcome w = (.ok m, w₁)) : m = v := by
  obtain ⟨_, _, -, hv⟩ := Run.outcome_bind_ok_iff.1 h
  cases hv
  rfl

section Search

variable {α : Type} {ask : Value → Run (Option α)} (p : Value × α → Value)

/-- A search that picks a context announces what is made of it. -/
theorem map_search_of_picks {a : α} (h : r.Picks ask w i g context a w₂) :
    (p <$> search run r name ask).outcome w =
      (announce run r name g i context (p (context, a))).outcome w₂ := by
  rw [Run.outcome_map, search_of_picks h, announce, Run.outcome_bind, Run.outcome_bind]
  rcases (matched run r name g i context).outcome w₂ with ⟨_ | _, _⟩ <;> rfl

/-- A search fails as asking the context that it reaches. -/
theorem map_search_of_fails {f : Fault} (h : r.Reaches ask w i g context w₁)
    (hask : (ask context).outcome w₁ = (.error f, w₂)) :
    (p <$> search run r name ask).outcome w = (.error f, w₂) :=
  Run.outcome_map_error_iff.2 (search_of_fails h hask)

/-- A search that every context passes fails as unanswered. -/
theorem map_search_of_passed (h : Passed ask r.contexts w w₁) :
    (p <$> search run r name ask).outcome w =
      (failUnanswered run r name : Run Value).outcome w₁ := by
  rw [Run.outcome_map, search_of_passed h, failUnanswered, failUnanswered, Run.outcome_bind,
    Run.outcome_bind]
  rcases (emit run r.observer _).outcome w₁ with ⟨_ | _, _⟩ <;> rfl

/-- A question that ends with a value **picked** a context. -/
theorem picks_of_map_search {v : Value}
    (h : (p <$> search run r name ask).outcome w = (.ok v, w₂)) :
    ∃ i g context a w₁, r.Picks ask w i g context a w₁ ∧ v = p (context, a) := by
  rcases scan_cases r ask w with
    ⟨i, g, context, a, w₁, hp⟩ | ⟨i, g, context, w₀, f, w₁, hr, hf⟩ | ⟨w₁, hp⟩
  · exact ⟨i, g, context, a, w₁, hp, announce_ok ((map_search_of_picks p hp).symm.trans h)⟩
  · cases (map_search_of_fails p hr hf).symm.trans h
  · exact absurd ((map_search_of_passed p hp).symm.trans h) failUnanswered_not_ok

end Search

/-- A name is resolved to the context that is **picked**. -/
theorem resolve_of_picks (h : r.Picks (r.asking run name) w i g context () w₂) :
    (r.resolve run name).outcome w = (announce run r name g i context context).outcome w₂ :=
  map_search_of_picks Prod.fst h

/-- The member of a name is what the picked context gives. -/
theorem member_of_picks {m : Value} (h : r.Picks (r.fetching run name) w i g context m w₂) :
    (r.member run name).outcome w = (announce run r name g i context m).outcome w₂ :=
  map_search_of_picks Prod.snd h

/-- Fetching a member fails as fetching it from the context reached. -/
theorem member_of_fails {f : Fault} (h : r.Reaches (r.fetching run name) w i g context w₁)
    (hask : (r.fetching run name context).outcome w₁ = (.error f, w₂)) :
    (r.member run name).outcome w = (.error f, w₂) :=
  map_search_of_fails Prod.snd h hask

/-- A name that every context passes is resolved to nothing. -/
theorem resolve_of_passed (h : Passed (r.asking run name) r.contexts w w₁) :
    (r.resolve run name).outcome w = (failUnanswered run r name : Run Value).outcome w₁ :=
  map_search_of_passed Prod.fst h

/-- A name that every context passes has no member. -/
theorem member_of_passed (h : Passed (r.fetching run name) r.contexts w w₁) :
    (r.member run name).outcome w = (failUnanswered run r name : Run Value).outcome w₁ :=
  map_search_of_passed Prod.snd h

/-- A resolver that gives a context **picked** it. -/
theorem picks_of_resolve {v : Value} (h : (r.resolve run name).outcome w = (.ok v, w₂)) :
    ∃ i g w₁, r.Picks (r.asking run name) w i g v () w₁ := by
  obtain ⟨i, g, context, ⟨⟩, w₁, hp, rfl⟩ := picks_of_map_search Prod.fst h
  exact ⟨i, g, w₁, hp⟩

/-- A resolver that gives a member **picked** a context that gives it. -/
theorem picks_of_member {m : Value} (h : (r.member run name).outcome w = (.ok m, w₂)) :
    ∃ i g context w₁, r.Picks (r.fetching run name) w i g context m w₁ := by
  obtain ⟨i, g, context, a, w₁, hp, rfl⟩ := picks_of_map_search Prod.snd h
  exact ⟨i, g, context, w₁, hp⟩

/-! ### All ends of a resolution -/

/-- A context is resolved **exactly if** the contexts before it do not answer, it answers, and it is
announced. -/
theorem resolve_ok_iff {v : Value} : (r.resolve run name).outcome w = (.ok v, w₂) ↔
    ∃ i g w₁, r.Picks (r.asking run name) w i g v () w₁ ∧
      (matched run r name g i v).outcome w₁ = (.ok (), w₂) := by
  constructor
  · intro h
    obtain ⟨i, g, w₁, hp⟩ := picks_of_resolve h
    rw [resolve_of_picks hp, announce, Run.outcome_bind_ok_iff] at h
    obtain ⟨⟨⟩, w', hm, hv⟩ := h
    cases hv
    exact ⟨i, g, w₁, hp, hm⟩
  · rintro ⟨i, g, w₁, hp, hm⟩
    rw [resolve_of_picks hp, announce, Run.outcome_bind_of_ok hm]
    rfl

/-- Contexts behind the one at which a scan ends **do not matter**: a resolver with other contexts
there is asked with the same end, the same events and the same messages. -/
theorem resolve_congr {s : Resolver} (h : r.Reaches (r.asking run name) w i g context w₁)
    (stops : ∀ w', (r.asking run name context).outcome w₁ ≠ (.ok none, w'))
    (same : s.contexts.take (i + 1) = r.contexts.take (i + 1)) (variant : s.variant = r.variant)
    (observer : s.observer = r.observer) : s.resolve run name w = r.resolve run name w := by
  have hasking : s.asking run name = r.asking run name := by
    funext context
    simp only [asking, variant]
  have key : search run s name (r.asking run name) w = search run r name (r.asking run name) w :=
    search_congr h stops same observer
  rw [resolve, resolve, hasking, ← bind_pure_comp, ← bind_pure_comp]
  exact Run.bind_congr key fun _ _ _ => rfl

/-- A name that nobody answers ends with its error, **unless** something escapes the observer. -/
theorem resolve_of_passed_cases (h : Passed (r.asking run name) r.contexts w w₁) :
    (∃ w₂, (r.resolve run name).outcome w = (.error (.raised (.unresolved name
        (some r.direction.name) (some r.variant.visibility))), w₂)) ∨
      ∃ o f w₂, r.observer = some o ∧
        o.Escapes run (.unresolved name [("direction", .str r.direction.name),
          ("visibility", .str r.variant.visibility)]) w₁ f w₂ ∧
        (r.resolve run name).outcome w = (.error f, w₂) := by
  rw [resolve_of_passed h, failUnanswered, Run.outcome_bind]
  rcases told : (emit run r.observer (.unresolved name [("direction", .str r.direction.name),
    ("visibility", .str r.variant.visibility)])).outcome w₁ with ⟨f | _, w₂⟩
  · obtain ⟨o, observer, escapes⟩ := emit_error_iff.1 told
    exact Or.inr ⟨o, f, w₂, observer, escapes, rfl⟩
  · exact Or.inl ⟨w₂, rfl⟩

/-- A resolver resolves a name to the **first match**, and touches nothing behind it.

* Its contexts are the inner ones in one piece, one outer and one kernel context, ordered by the
  rank of their groups.
* A context is resolved exactly if the contexts before it do not answer, it answers, and it is
  announced.
* A context that fails when it is asked ends the resolution with its error, in the world in which it
  failed.
* A name that no context answers ends with the error of the name, the direction and the visibility,
  unless something escapes the observer: an error that is no ordinary failure, or one of putting an
  ordinary failure into words.
* Other contexts behind the one at which the resolution stops change neither its end nor what it
  does. -/
theorem resolves_first_match (run : Runner) (r : Resolver) (name : String) (w : World) :
    ((∃ before after, r.contexts = before ++ r.inner.map (Group.inner, ·) ++ after ∧
          ∀ e ∈ before ++ after, e.1 ≠ Group.inner) ∧
        r.contexts.filter (·.1 = Group.outer) = [(.outer, r.outer)] ∧
        r.contexts.filter (·.1 = Group.kernel) = [(.kernel, r.kernel)] ∧
        r.contexts.Pairwise fun a b =>
          r.direction.groups.idxOf a.1 ≤ r.direction.groups.idxOf b.1) ∧
    (∀ v w', (r.resolve run name).outcome w = (.ok v, w') ↔
      ∃ i g w₁, r.Picks (r.asking run name) w i g v () w₁ ∧
        (matched run r name g i v).outcome w₁ = (.ok (), w')) ∧
    (∀ i g context w₁ f w₂, r.Reaches (r.asking run name) w i g context w₁ →
      (r.variant.strategy.respondsTo run context name).outcome w₁ = (.error f, w₂) →
        (r.resolve run name).outcome w = (.error f, w₂)) ∧
    (∀ w₁, Passed (r.asking run name) r.contexts w w₁ →
      (∃ w₂, (r.resolve run name).outcome w = (.error (.raised (.unresolved name
          (some r.direction.name) (some r.variant.visibility))), w₂)) ∨
        ∃ o f w₂, r.observer = some o ∧
          o.Escapes run (.unresolved name [("direction", .str r.direction.name),
            ("visibility", .str r.variant.visibility)]) w₁ f w₂ ∧
          (r.resolve run name).outcome w = (.error f, w₂)) ∧
    (∀ (s : Resolver) i g context w₁, r.Reaches (r.asking run name) w i g context w₁ →
      (∀ w₂, (r.variant.strategy.respondsTo run context name).outcome w₁ ≠ (.ok false, w₂)) →
      s.contexts.take (i + 1) = r.contexts.take (i + 1) → s.variant = r.variant →
      s.observer = r.observer → s.resolve run name w = r.resolve run name w) := by
  refine ⟨contexts_layout r, fun v w' => resolve_ok_iff, ?_, fun w₁ => resolve_of_passed_cases, ?_⟩
  · intro i g context w₁ f w₂ hr hf
    exact map_search_of_fails Prod.fst hr (asking_error_iff.2 hf)
  · intro s i g context w₁ hr stops same variant observer
    refine resolve_congr hr (fun w₂ hask => ?_) same variant observer
    exact stops w₂ (asking_none_iff.1 hask)

/-- A resolver over nothing but the kernel, whose observer **fails** with an error. -/
def overKernel (e : Error) : Resolver :=
  ⟨.publicOne, .none, .none, .iok, [], .module World.kernelModule, some (.raise e)⟩

/-- The kernel does not answer `nope`, in a world without objects and in one whose object has no
text. -/
theorem overKernel_passed (e : Error) {w : World} (h : w = .empty ∨ w = .mute) :
    ∃ w₁, Passed ((overKernel e).asking (Interpreter.runner 10) "nope") (overKernel e).contexts w
      w₁ := by
  -- What a resolver asks does not depend on its observer.
  have asking : (overKernel e).asking (Interpreter.runner 10) "nope" =
      (overKernel .wordless).asking (Interpreter.runner 10) "nope" := rfl
  rw [asking]
  have silent : ((overKernel .wordless).asking (Interpreter.runner 10) "nope" .none).outcome w =
      (.ok none, _) := Run.eq_of_toOption (by rcases h with rfl | rfl <;> decide +kernel)
  have silent' : ((overKernel .wordless).asking (Interpreter.runner 10) "nope"
      (.module World.kernelModule)).outcome
        (((overKernel .wordless).asking (Interpreter.runner 10) "nope" .none).outcome w).2 =
      (.ok none, _) := Run.eq_of_toOption (by rcases h with rfl | rfl <;> decide +kernel)
  exact ⟨_, Passed.cons silent (Passed.cons silent' (Passed.nil _))⟩

/-- What escapes an observer takes the place of the end. Where the observer interrupts, a name that
the kernel is the first to answer is not resolved, and a name that nobody answers does not end with
its error; nor does it where the observer fails in the ordinary way, but cannot say how. -/
theorem first_match_interrupted :
    let interrupted := overKernel (.raised .interrupt "stop")
    let wordless := overKernel .wordless
    ((∃ w₁, interrupted.Picks (interrupted.asking (Interpreter.runner 10) "len") World.empty 1
          .kernel (.module World.kernelModule) () w₁) ∧
        ∃ w', (interrupted.resolve (Interpreter.runner 10) "len").outcome World.empty =
          (.error (.raised (.raised .interrupt "stop")), w')) ∧
      ((∃ w₁, Passed (interrupted.asking (Interpreter.runner 10) "nope") interrupted.contexts
          World.empty w₁) ∧
        ∃ w', (interrupted.resolve (Interpreter.runner 10) "nope").outcome World.empty =
          (.error (.raised (.raised .interrupt "stop")), w')) ∧
      Error.wordless.isA .failure = true ∧
      (∃ w₁, Passed (wordless.asking (Interpreter.runner 10) "nope") wordless.contexts
          World.mute w₁) ∧
        ∃ w', (wordless.resolve (Interpreter.runner 10) "nope").outcome World.mute =
          (.error (.raised (.raised .runtime "no text")), w') := by
  refine ⟨⟨?_, ⟨_, Run.eq_of_failed (by decide +kernel)⟩⟩,
    ⟨overKernel_passed _ (.inl rfl), ⟨_, Run.eq_of_failed (by decide +kernel)⟩⟩, by decide,
    overKernel_passed _ (.inr rfl), ⟨_, Run.eq_of_failed (by decide +kernel)⟩⟩
  have silent : ((overKernel (.raised .interrupt "stop")).asking (Interpreter.runner 10) "len"
      .none).outcome World.empty = (.ok none, _) := Run.eq_of_toOption (by decide +kernel)
  have answers : ((overKernel (.raised .interrupt "stop")).asking (Interpreter.runner 10) "len"
      (.module World.kernelModule)).outcome
        (((overKernel (.raised .interrupt "stop")).asking (Interpreter.runner 10) "len"
          .none).outcome World.empty).2 =
      (.ok (some ()), _) := Run.eq_of_toOption (by decide +kernel)
  exact ⟨_, _, ⟨rfl, Passed.cons silent (Passed.nil _)⟩, answers⟩

end Resolver

end OrderedScope
