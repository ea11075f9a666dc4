import OrderedScope.Proofs.FirstMatch
import OrderedScope.Proofs.Standing

/-!
# Asking, Fetching and Explaining Agree

A resolver is asked for a name in three ways: which context answers it, what the answer is, and how
the answer is found. The first two stop at a context, the third asks all of them, and the second
runs code that the other two do not. This module says how far the three agree.

They agree on the contexts that are passed, on the worlds in which the next ones are reached, and
on the winner. One thing only can part them: a context can **withdraw** a name, when what is fetched
of it tells that there is nothing, or, under the private variant, when its hooks change the member
tables while they refuse an access. Then the scan for the answer goes on behind it.

## Main results

* `Resolver.passed_asking_or_withdraws`: contexts that give nothing do not answer, up to one that
  withdraws the name.
* `Resolver.surfaces_agree`: how the three questions to a resolver end, each in terms of the others.
-/

namespace OrderedScope.Resolver

variable {run : Runner} {r : Resolver} {name : String} {w w₁ w₂ : World} {i : Nat} {g : Group}
  {context : Value}

/-! ### Fetching what was asked for -/

/-- A context that does not answer has **nothing to give**, and is left in the same world. -/
theorem fetching_of_silent (context : Value) (w w₁ : World)
    (h : (r.asking run name context).outcome w = (.ok none, w₁)) :
    (r.fetching run name context).outcome w = (.ok none, w₁) :=
  (Strategy.agrees run r.variant.strategy context name w w₁).1 (asking_none_iff.1 h)

/-- A context that fails when it is asked **fails alike** when it is to give. -/
theorem fetching_of_fails {f : Fault} (h : (r.asking run name context).outcome w = (.error f, w₁)) :
    (r.fetching run name context).outcome w = (.error f, w₁) :=
  (Strategy.agrees run r.variant.strategy context name w w₁).2 f (asking_error_iff.1 h)

/-! ### Withdrawing -/

/-- The scan of a resolver meets a context that **withdraws** the name: it is reached, answers when
it is asked, and has nothing to give. -/
def MeetsWithdrawal (run : Runner) (r : Resolver) (name : String) (w : World) (i : Nat) : Prop :=
  ∃ g context w₁, r.Reaches (r.asking run name) w i g context w₁ ∧
    r.variant.strategy.Withdraws run context name w₁

/-- A context that gives nothing **does not answer**, or withdraws the name. -/
theorem silent_or_withdraws (context : Value) (w w₁ : World)
    (h : (r.fetching run name context).outcome w = (.ok none, w₁)) :
    (r.asking run name context).outcome w = (.ok none, w₁) ∨
      r.variant.strategy.Withdraws run context name w := by
  rcases hask : (r.asking run name context).outcome w with ⟨f | _ | ⟨⟩, w₂⟩
  · cases (fetching_of_fails hask).symm.trans h
  · cases (fetching_of_silent context w w₂ hask).symm.trans h
    exact Or.inl rfl
  · exact Or.inr ⟨w₂, w₁, asking_some_iff.1 hask, h⟩

/-- Contexts that give nothing do not answer, **up to one that withdraws** the name. -/
theorem passed_asking_or_withdraws (h : Passed (r.fetching run name) r.contexts w w₁) :
    Passed (r.asking run name) r.contexts w w₁ ∨ ∃ j, r.MeetsWithdrawal run name w j := by
  rcases h.part silent_or_withdraws with hp | ⟨j, g, context, w₂, hj, -, hp, hw⟩
  · exact Or.inl hp
  · exact Or.inr ⟨j, g, context, w₂, ⟨hj, hp⟩, hw⟩

/-- A position that the scan for the answer reaches is **reached by asking** in the same world,
unless a context before it withdraws the name. -/
theorem reaches_asking_or_withdraws
    (h : r.Reaches (r.fetching run name) w i g context w₁) :
    r.Reaches (r.asking run name) w i g context w₁ ∨ ∃ j < i, r.MeetsWithdrawal run name w j := by
  rcases h.part rfl silent_or_withdraws with hr | ⟨j, hj, g', c, w₂, -, hr, hw⟩
  · exact Or.inl hr
  · exact Or.inr ⟨j, hj, g', c, w₂, hr, hw⟩

/-! ### Explaining -/

/-- A first context is asked, and those behind it are told whether one was found. -/
theorem explain_go_cons (found : Bool) (g : Group) (context : Value) (i : Nat)
    (rest : List ((Group × Value) × Nat)) :
    explain.go run r name found (((g, context), i) :: rest) = (do
      let matched ← r.variant.strategy.respondsTo run context name
      let steps ← explain.go run r name (found || matched) rest
      pure (⟨i, g, context, matched, matched && !found⟩ :: steps)) := rfl

/-- The steps of an explanation are those of a first context and those of the contexts behind. -/
theorem explain_go_ok_cons {found : Bool} {rest : List ((Group × Value) × Nat)}
    {steps : List TraceStep}
    (h : (explain.go run r name found (((g, context), i) :: rest)).outcome w = (.ok steps, w₂)) :
    ∃ b w₁ steps', (r.variant.strategy.respondsTo run context name).outcome w = (.ok b, w₁) ∧
      (explain.go run r name (found || b) rest).outcome w₁ = (.ok steps', w₂) ∧
      steps = ⟨i, g, context, b, b && !found⟩ :: steps' := by
  rw [explain_go_cons] at h
  obtain ⟨b, w₁, hb, h⟩ := Run.outcome_bind_ok_iff.1 h
  obtain ⟨steps', w₂', hs, h⟩ := Run.outcome_bind_ok_iff.1 h
  cases h
  exact ⟨b, w₁, steps', hb, hs, rfl⟩

/-- An explanation has one step for **each context**, at its position. -/
theorem explain_go_entries {found : Bool} {l : List ((Group × Value) × Nat)}
    {steps : List TraceStep}
    (h : (explain.go run r name found l).outcome w = (.ok steps, w₂)) :
    steps.map (fun s => ((s.group, s.context), s.position)) = l := by
  induction l generalizing found w steps with
  | nil =>
      cases h
      rfl
  | cons e rest ih =>
      obtain ⟨b, w₁, steps', -, hs, rfl⟩ := explain_go_ok_cons h
      rw [List.map_cons, ih hs]

/-- Behind a winner there is **no other**. -/
theorem explain_go_found {l : List ((Group × Value) × Nat)} {steps : List TraceStep}
    (h : (explain.go run r name true l).outcome w = (.ok steps, w₂)) :
    ∀ s ∈ steps, s.winner = false := by
  induction l generalizing w steps with
  | nil =>
      cases h
      exact List.forall_mem_nil _
  | cons e rest ih =>
      obtain ⟨b, w₁, steps', -, hs, rfl⟩ := explain_go_ok_cons h
      rw [List.forall_mem_cons]
      exact ⟨Bool.and_false b, ih hs⟩

/-- An explanation has a winner where asking **stops**, and none if asking passes all contexts. -/
theorem explain_go_winner {l : List (Group × Value)} {n : Nat} {steps : List TraceStep}
    (h : (explain.go run r name false (l.zipIdx n)).outcome w = (.ok steps, w₂)) :
    (∃ i g context w₁ w₃, l[i]? = some (g, context) ∧
        Passed (r.asking run name) (l.take i) w w₁ ∧
        (r.asking run name context).outcome w₁ = (.ok (some ()), w₃) ∧
        ∀ j s, steps[j]? = some s → (s.winner = true ↔ j = i)) ∨
      (∃ w₁, Passed (r.asking run name) l w w₁) ∧ ∀ s ∈ steps, s.winner = false := by
  induction l generalizing n w steps with
  | nil =>
      cases h
      exact Or.inr ⟨⟨_, Passed.nil _⟩, List.forall_mem_nil _⟩
  | cons e rest ih =>
      obtain ⟨g, context⟩ := e
      rw [List.zipIdx_cons] at h
      obtain ⟨b, w₁, steps', hb, hs, rfl⟩ := explain_go_ok_cons h
      cases b with
      | true =>
          refine Or.inl ⟨0, g, context, w, w₁, rfl, Passed.nil w, asking_some_iff.2 hb, ?_⟩
          intro j s hj
          cases j with
          | zero =>
              cases hj
              exact ⟨fun _ => rfl, fun _ => rfl⟩
          | succ j =>
              have := explain_go_found hs s (List.mem_of_getElem? hj)
              simp [this]
      | false =>
          have silent := asking_none_iff.2 hb
          rcases ih hs with ⟨i, g', c, w₃, w₄, hi, hp, hask, hw⟩ | ⟨⟨w₃, hp⟩, hw⟩
          · refine Or.inl ⟨i + 1, g', c, w₃, w₄, hi, Passed.cons silent hp, hask, ?_⟩
            intro j s hj
            cases j with
            | zero =>
                cases hj
                simp
            | succ j => simp [hw j s hj]
          · refine Or.inr ⟨⟨w₃, Passed.cons silent hp⟩, ?_⟩
            rw [List.forall_mem_cons]
            exact ⟨rfl, hw⟩

/-- An explanation that comes to its end names every context in order, and its **winner** is the
context that asking picks. -/
theorem explain_spec {steps : List TraceStep}
    (h : (r.explain run name).outcome w = (.ok steps, w₂)) :
    steps.map (fun s => (s.group, s.context)) = r.contexts ∧
      steps.map (·.position) = List.range r.contexts.length ∧
      ((∃ i g context w₁, r.Picks (r.asking run name) w i g context () w₁ ∧
          ∀ j s, steps[j]? = some s → (s.winner = true ↔ j = i)) ∨
        (∃ w₁, Passed (r.asking run name) r.contexts w w₁) ∧ ∀ s ∈ steps, s.winner = false) := by
  have entries := explain_go_entries h
  refine ⟨?_, ?_, ?_⟩
  · have key := congrArg (List.map Prod.fst) entries
    rw [List.map_map, numbered, List.zipIdx_map_fst] at key
    exact key
  · have key := congrArg (List.map Prod.snd) entries
    rw [List.map_map, numbered, List.zipIdx_map_snd] at key
    rw [List.range_eq_range']
    exact key
  · rcases explain_go_winner h with ⟨i, g, context, w₁, w₃, hi, hp, hask, hw⟩ | hw
    · exact Or.inl ⟨i, g, context, w₃, ⟨w₁, ⟨hi, hp⟩, hask⟩, hw⟩
    · exact Or.inr hw

/-! ### Agreement -/

/-- What a fetch from the context that asking picks leads to: its member is **announced**, or its
error leaves the question, or the context withdraws the name. -/
theorem member_of_resolve {v : Value} (h : (r.resolve run name).outcome w = (.ok v, w₂)) :
    ∃ i g w₁, r.Reaches (r.asking run name) w i g v w₁ ∧
      r.Reaches (r.fetching run name) w i g v w₁ ∧
      ((∃ m w₃, (r.fetching run name v).outcome w₁ = (.ok (some m), w₃) ∧
          (r.member run name).outcome w = (announce run r name g i v m).outcome w₃) ∨
        (∃ f w₃, (r.fetching run name v).outcome w₁ = (.error f, w₃) ∧
          (r.member run name).outcome w = (.error f, w₃)) ∨
        r.variant.strategy.Withdraws run v name w₁) := by
  obtain ⟨i, g, w₀, w₁, hr, hask⟩ := picks_of_resolve h
  have hr' := hr.imp fetching_of_silent
  refine ⟨i, g, w₁, hr, hr', ?_⟩
  rcases hfetch : (r.fetching run name v).outcome w₁ with ⟨f | _ | m, w₃⟩
  · exact Or.inr (Or.inl ⟨f, w₃, rfl, member_of_fails hr' hfetch⟩)
  · exact Or.inr (Or.inr ⟨w₀, w₃, asking_some_iff.1 hask, hfetch⟩)
  · exact Or.inl ⟨m, w₃, rfl, member_of_picks ⟨w₁, hr', hfetch⟩⟩

/-- A context that gives a member **answers** when it is asked, unless a context before it withdraws
the name. -/
theorem resolve_of_member {m : Value} (h : (r.member run name).outcome w = (.ok m, w₂)) :
    ∃ i g context w₁, r.Picks (r.fetching run name) w i g context m w₁ ∧
      ((∃ w₃, r.Picks (r.asking run name) w i g context () w₃ ∧
          (r.resolve run name).outcome w = (announce run r name g i context context).outcome w₃) ∨
        ∃ j < i, r.MeetsWithdrawal run name w j) := by
  obtain ⟨i, g, context, w₁, w₀, hr, hfetch⟩ := picks_of_member h
  refine ⟨i, g, context, w₁, ⟨w₀, hr, hfetch⟩, ?_⟩
  rcases reaches_asking_or_withdraws hr with hr' | hw
  · left
    rcases hask : (r.asking run name context).outcome w₀ with ⟨f | _ | ⟨⟩, w₃⟩
    · cases (fetching_of_fails hask).symm.trans hfetch
    · cases (fetching_of_silent context w₀ w₃ hask).symm.trans hfetch
    · exact ⟨w₃, ⟨w₀, hr', hask⟩, resolve_of_picks ⟨w₀, hr', hask⟩⟩
  · exact Or.inr hw

/-- How far the three questions to a resolver **agree**, whatever its contexts do.

* The context that is resolved is reached by the scan for the member in the same world. There its
  member is given, its error is raised, or it withdraws the name.
* The context whose member is given is resolved, unless one before it withdraws the name.
* A name that is not resolved has no member, and both questions fail alike; a name without a member
  is not resolved, unless a context withdraws it.
* An explanation has a step for each context, and its winner is the context that is resolved.
* Under the public variant a name is withdrawn exactly if what is fetched tells that there is
  nothing; under the private one also if the name vanishes. -/
theorem surfaces_agree (run : Runner) (r : Resolver) (name : String) (w : World) :
    (∀ v w', (r.resolve run name).outcome w = (.ok v, w') →
      ∃ i g w₁, r.Reaches (r.asking run name) w i g v w₁ ∧
        r.Reaches (r.fetching run name) w i g v w₁ ∧
        ((∃ m w₂, (r.fetching run name v).outcome w₁ = (.ok (some m), w₂) ∧
            (r.member run name).outcome w = (announce run r name g i v m).outcome w₂) ∨
          (∃ f w₂, (r.fetching run name v).outcome w₁ = (.error f, w₂) ∧
            (r.member run name).outcome w = (.error f, w₂)) ∨
          r.variant.strategy.Withdraws run v name w₁)) ∧
    (∀ m w', (r.member run name).outcome w = (.ok m, w') →
      ∃ i g context w₁, r.Picks (r.fetching run name) w i g context m w₁ ∧
        ((∃ w₂, r.Picks (r.asking run name) w i g context () w₂ ∧
            (r.resolve run name).outcome w =
              (announce run r name g i context context).outcome w₂) ∨
          ∃ j < i, r.MeetsWithdrawal run name w j)) ∧
    (∀ w', Passed (r.asking run name) r.contexts w w' →
      Passed (r.fetching run name) r.contexts w w' ∧
        (r.resolve run name).outcome w = (failUnanswered run r name : Run Value).outcome w' ∧
        (r.member run name).outcome w = (failUnanswered run r name : Run Value).outcome w') ∧
    (∀ w', Passed (r.fetching run name) r.contexts w w' →
      Passed (r.asking run name) r.contexts w w' ∨ ∃ j, r.MeetsWithdrawal run name w j) ∧
    (∀ steps w', (r.explain run name).outcome w = (.ok steps, w') →
      steps.map (fun s => (s.group, s.context)) = r.contexts ∧
        steps.map (·.position) = List.range r.contexts.length ∧
        ((∃ i g context w₁, r.Picks (r.asking run name) w i g context () w₁ ∧
            (r.resolve run name).outcome w =
              (announce run r name g i context context).outcome w₁ ∧
            ∀ j s, steps[j]? = some s → (s.winner = true ↔ j = i)) ∨
          (∃ w₁, Passed (r.asking run name) r.contexts w w₁ ∧
            (r.resolve run name).outcome w = (failUnanswered run r name : Run Value).outcome w₁) ∧
          ∀ s ∈ steps, s.winner = false)) ∧
    (r.variant = .publicOne → ∀ context w₁, r.variant.strategy.Withdraws run context name w₁ ↔
      r.variant.strategy.Hollow run context name w₁) ∧
    (r.variant = .privateOne → ∀ context w₁, r.variant.strategy.Withdraws run context name w₁ ↔
      Strategy.Vanishes run true true context name w₁ ∨
        r.variant.strategy.Hollow run context name w₁) := by
  refine ⟨fun v w' => member_of_resolve, fun m w' => resolve_of_member, ?_, ?_, ?_, ?_, ?_⟩
  · intro w' hp
    have hp' := hp.imp fetching_of_silent
    exact ⟨hp', resolve_of_passed hp, member_of_passed hp'⟩
  · exact fun w' => passed_asking_or_withdraws
  · intro steps w' h
    obtain ⟨entries, positions, winner⟩ := explain_spec h
    refine ⟨entries, positions, ?_⟩
    rcases winner with ⟨i, g, context, w₁, hp, hw⟩ | ⟨⟨w₁, hp⟩, hw⟩
    · exact Or.inl ⟨i, g, context, w₁, hp, resolve_of_picks hp, hw⟩
    · exact Or.inr ⟨⟨w₁, hp, resolve_of_passed hp⟩, hw⟩
  · intro hv context w₁
    rw [hv]
    exact Strategy.withdraws_dynamic_iff
  · intro hv context w₁
    rw [hv]
    exact Strategy.withdraws_fallback_iff

/-- A world with one object, whose class holds a getter `x` that says that an attribute is missing.
The hook behind the access **takes `x` away** from the class and refuses the access. -/
def retreating : World :=
  { World.empty with
    classes := #[plainClass 0 "C" [("x", .property (some 0) none (some "x")),
      ("__getattr__", .fn 1)]]
    objects := #[plainObject "c" 0 []]
    functions := #[plainFunction "C.x" (.body "C.x" (.raise .attr "x")),
      plainFunction "retreat"
        (.script [.perform (.deleteAttr (.cls "C") "x"), .raise .type "refused"]),
      plainFunction "closure" (.script [])] }

/-- A resolver of the private variant over the object of that world. -/
def overRetreating (observer : Option Observer) : Resolver :=
  ⟨.privateOne, .fn 2, .none, .iok, [.object 0], .module World.kernelModule, observer⟩

/-- A resolver of the public variant over a module that holds the object that tells that there is
nothing. -/
def overHollow : Resolver :=
  ⟨.publicOne, .none, .none, .iok, [.module 1], .module World.kernelModule, none⟩

/-- The context that is resolved need not be the one whose member is given: it can withdraw the name
**while it refuses** the access, or hold the object that tells that there is nothing, and then the
name is unresolved. And where there is a winner, nothing is resolved if the observer interrupts. -/
theorem surfaces_part :
    ((∃ w', ((overRetreating none).resolve (Interpreter.runner 10) "x").outcome retreating =
        (.ok (.object 0), w')) ∧
      ∃ w', ((overRetreating none).member (Interpreter.runner 10) "x").outcome retreating =
        (.error (.raised ((overRetreating none).unanswered "x")), w')) ∧
      ((∃ w', (overHollow.resolve (Interpreter.runner 10) "MISSING").outcome .hollow =
          (.ok (.module 1), w')) ∧
        ∃ w', (overHollow.member (Interpreter.runner 10) "MISSING").outcome .hollow =
          (.error (.raised (overHollow.unanswered "MISSING")), w')) ∧
      (∃ steps w', ((overRetreating (some (.raise (.raised .interrupt "stop")))).explain
          (Interpreter.runner 10) "x").outcome retreating = (.ok steps, w') ∧
        steps.map (·.winner) = [true, false, false]) ∧
      ∃ w', ((overRetreating (some (.raise (.raised .interrupt "stop")))).resolve
        (Interpreter.runner 10) "x").outcome retreating =
          (.error (.raised (.raised .interrupt "stop")), w') := by
  refine ⟨⟨⟨_, Run.eq_of_gave (by decide +kernel)⟩, ⟨_, Run.eq_of_failed (by decide +kernel)⟩⟩,
    ⟨⟨_, Run.eq_of_gave (by decide +kernel)⟩, ⟨_, Run.eq_of_failed (by decide +kernel)⟩⟩, ?_,
    ⟨_, Run.eq_of_failed (by decide +kernel)⟩⟩
  have winners : (List.map (·.winner) <$> (overRetreating
      (some (.raise (.raised .interrupt "stop")))).explain
        (Interpreter.runner 10) "x" : Run (List Bool)).outcome retreating =
      (.ok [true, false, false], _) := Run.eq_of_toOption (by decide +kernel)
  obtain ⟨steps, hsteps, hw⟩ := Run.outcome_map_ok_iff.1 winners
  exact ⟨steps, _, hsteps, hw⟩

end OrderedScope.Resolver
