import Mathlib
import OrderedScope.CommandLine.Outcome
import OrderedScope.Proofs.FrontEnds
import OrderedScope.Proofs.Refusal

/-!
# The Verdict of the Program

The program makes a resolver of its options and settings and has it explain a name. An explanation
asks every context, also behind the one that answers; to resolve the name is to stop there. So the
exit code tells whether the name is resolved wherever the contexts can be asked at all, and the
winner that is shown is the context at which the resolver stops. A context that raises an error when
it is asked ends the explanation wherever it stands, and the program with it, though the name may be
resolved before it.

## Main results

* `CommandLine.Request.resolver_parts`: how the resolver of a request is put together.
* `Resolver.explain_error_iff`: which context ends an explanation.
* `CommandLine.perform_verdict`: what the program tells, and what the resolver says.
* `CommandLine.perform_misjudges`: a name that is resolved, and denied by the program.
-/

namespace OrderedScope

/-! ### Making resolvers -/

section Making

variable {run : Runner} {w w₁ : World}

/-- A closure that is made with an outer context **has** it, and making it does nothing. -/
theorem Closure.of_make {fn outer : Value} {c : Closure}
    (h : (Closure.make run fn (some outer)).outcome w = (.ok c, w₁)) :
    c = ⟨fn, outer⟩ ∧ w₁ = w := by
  have callable (h : (do
      if ← Run.reading (·.isCallable fn) then pure ⟨fn, outer⟩
      else
        let c ← Run.reading (·.classOf fn)
        let name ← Attribute.get run (.cls c) "__name__"
        Run.raise (.nonCallableClosure (← name.formatted run)) : Run Closure).outcome w =
          (.ok c, w₁)) : c = ⟨fn, outer⟩ ∧ w₁ = w := by
    rw [Run.outcome_bind_of_ok (Run.outcome_reading _ w)] at h
    split at h
    · cases h
      exact ⟨rfl, rfl⟩
    · obtain ⟨_, _, -, h⟩ := Run.outcome_bind_ok_iff.1 h
      obtain ⟨_, _, -, h⟩ := Run.outcome_bind_ok_iff.1 h
      obtain ⟨_, _, -, h⟩ := Run.outcome_bind_ok_iff.1 h
      cases h
  cases fn with
  | none => cases h
  | _ => exact callable h

/-- A variant that is required **is registered** when the extension points have been scanned. -/
theorem of_requireVariant {visibility : String} {variant : Variant}
    (h : (requireVariant run (.str visibility)).outcome w = (.ok variant, w₁)) :
    w₁ = w.scanned ∧ w.scanned.registry.find? visibility = some variant := by
  rw [requireVariant, findVariant, bind_assoc] at h
  obtain ⟨names, w₂, loads, h⟩ := Run.outcome_bind_ok_iff.1 h
  obtain rfl : w₂ = w.scanned := by
    have scanned := outcome_loadRegistry w
    rw [loads] at scanned
    exact congrArg Prod.snd scanned
  rw [Run.outcome_bind_of_ok (Run.outcome_reading _ _)] at h
  rcases found : w.scanned.registry.find? visibility with _ | known <;> rw [found] at h
  · obtain ⟨_, _, -, h⟩ := Run.outcome_bind_ok_iff.1 h
    obtain ⟨_, _, -, h⟩ := Run.outcome_bind_ok_iff.1 h
    cases h
  · cases h
    exact ⟨rfl, rfl⟩

end Making

/-! ### Explaining and resolving -/

namespace Resolver

variable {run : Runner} {r : Resolver} {name : String} {w w₁ w₂ : World} {i : Nat} {g : Group}
  {context : Value} {f : Fault}

/-- A resolver **finds** a name at a position: it picks the context there, and gives it unless the
name of its class cannot be told. -/
def FindsAt (run : Runner) (r : Resolver) (name : String) (w : World) (i : Nat) (context : Value) :
    Prop :=
  ∃ g w₁, r.Picks (r.asking run name) w i g context () w₁ ∧
    ((∃ w₂, (r.resolve run name).outcome w = (.ok context, w₂)) ∨
      ∃ f w₂, (r.resolve run name).outcome w = (.error f, w₂) ∧
        (f = .exhausted ∨
          (Attribute.get run (.cls (w₁.classOf context)) "__qualname__").outcome w₁ =
            (.error f, w₂)))

/-- A resolver that nobody observes finds a name **wherever it picks** a context. -/
theorem Picks.findsAt (unobserved : r.observer = none)
    (h : r.Picks (r.asking run name) w i g context () w₁) : r.FindsAt run name w i context := by
  refine ⟨g, w₁, h, ?_⟩
  rw [resolve_of_picks h, announce, matched, bind_assoc,
    Run.outcome_bind_of_ok (Run.outcome_reading _ w₁), bind_assoc]
  rcases shown : (Attribute.get run (.cls (w₁.classOf context)) "__qualname__").outcome w₁
    with ⟨f | text, w₂⟩
  · exact Or.inr ⟨f, w₂, Run.outcome_bind_of_error shown, Or.inr rfl⟩
  · rw [Run.outcome_bind_of_ok shown, bind_assoc, unobserved, emit, Run.outcome_bind]
    rcases logged : (Run.logText .debug _).outcome w₂ with ⟨f | _, w₃⟩
    · exact Or.inr ⟨f, w₃, rfl, Or.inl ((Run.logText_error logged).1)⟩
    · exact Or.inl ⟨w₃, rfl⟩

/-- An explanation fails **exactly as** the first context does that cannot be asked. -/
theorem explain_error_iff : (r.explain run name).outcome w = (.error f, w₂) ↔
    ∃ i g context w₁, r.Reaches (r.surveying run name) w i g context w₁ ∧
      (r.variant.strategy.respondsTo run context name).outcome w₁ = (.error f, w₂) := by
  constructor
  · intro h
    rcases passed_or_stopped (r.surveying run name) r.contexts w with
      ⟨w', passed⟩ | ⟨i, g, context, w₁, entry, passed, ⟨a, w', answered⟩ | ⟨f', w', failed⟩⟩
    · obtain ⟨steps, hs⟩ := explain_go_ok_iff.2 passed
      cases h.symm.trans hs
    · obtain ⟨_, -, given⟩ := Run.outcome_map_ok_iff.1 answered
      cases given
    · have failed := Run.outcome_map_error_iff.1 failed
      have reached : r.Reaches (r.surveying run name) w i g context w₁ := ⟨entry, passed⟩
      cases h.symm.trans (explain_of_fails reached failed)
      exact ⟨i, g, context, w₁, reached, failed⟩
  · rintro ⟨i, g, context, w₁, reached, failed⟩
    exact explain_of_fails reached failed

/-- Where an explanation fails, the name is **found before** the context that cannot be asked, or to
resolve it fails alike. -/
theorem resolve_of_explain_error (unobserved : r.observer = none)
    (h : (r.explain run name).outcome w = (.error f, w₂)) :
    (∃ i context, r.FindsAt run name w i context) ∨
      (r.resolve run name).outcome w = (.error f, w₂) := by
  obtain ⟨i, g, context, w₁, reached, failed⟩ := explain_error_iff.1 h
  have answers (context : Value) (w w₁ : World)
      (h : (r.surveying run name context).outcome w = (.ok none, w₁)) :
      (r.asking run name context).outcome w = (.ok none, w₁) ∨
        ∃ w₂, (r.asking run name context).outcome w = (.ok (some ()), w₂) := by
    obtain ⟨_ | _, hb⟩ := surveying_none_iff.1 h
    · exact Or.inl (asking_none_iff.2 hb)
    · exact Or.inr ⟨w₁, asking_some_iff.2 hb⟩
  rcases reached.part rfl answers with asked | ⟨j, -, g', c, w₃, -, asked, w₄, answered⟩
  · exact Or.inr (map_search_of_fails Prod.fst asked (asking_error_iff.2 failed))
  · exact Or.inl ⟨j, c, Picks.findsAt unobserved ⟨w₃, asked, answered⟩⟩

/-- The step of a context stands at its **position**. -/
theorem position_of_explain {steps : List TraceStep} {s : TraceStep} {j : Nat}
    (h : (r.explain run name).outcome w = (.ok steps, w₂)) (hs : steps[j]? = some s) :
    s.position = j := by
  have entry : r.numbered[j]? = some ((s.group, s.context), s.position) := by
    rw [← explain_go_entries h, List.getElem?_map, hs]
    rfl
  rw [numbered, List.getElem?_zipIdx, Nat.zero_add] at entry
  obtain ⟨_, -, same⟩ := Option.map_eq_some_iff.1 entry
  exact (congrArg Prod.snd same).symm

/-- Where an explanation comes to its end, its winner is where the name **is found**; without a
winner to resolve the name fails as a name that nobody answers. -/
theorem resolve_of_explain_ok (unobserved : r.observer = none) {steps : List TraceStep}
    (h : (r.explain run name).outcome w = (.ok steps, w₂)) :
    (isResolved steps = true ∧ ∃ i context, r.FindsAt run name w i context ∧
        ∀ s ∈ steps, (s.winner = true ↔ s.position = i)) ∨
      (isResolved steps = false ∧ (∀ s ∈ steps, s.winner = false) ∧
        ∃ w', (r.resolve run name).outcome w = (.error (.raised (r.unanswered name)), w')) := by
  obtain ⟨entries, -, ⟨i, g, context, w₁, picked, winner⟩ | ⟨⟨w₁, passed⟩, none⟩⟩ := explain_spec h
  · have inside : i < steps.length := by
      obtain ⟨_, reached, -⟩ := picked
      rw [← steps.length_map, entries]
      exact reached.lt_length
    have wins : steps[i].winner = true := (winner i _ (List.getElem?_eq_getElem inside)).2 rfl
    refine Or.inl ⟨List.any_eq_true.2 ⟨_, List.getElem_mem inside, wins⟩, i, context,
      Picks.findsAt unobserved picked, fun s hs => ?_⟩
    obtain ⟨j, hj⟩ := List.mem_iff_getElem?.1 hs
    rw [winner j s hj, position_of_explain h hj]
  · refine Or.inr ⟨List.any_eq_false.2 fun s hs => by simp [none s hs], none, w₁, ?_⟩
    rw [resolve_of_passed passed, failUnanswered, unobserved]
    rfl

end Resolver

/-- The **rows** of an explanation are its steps, each with a label in the place of its context. -/
theorem rowsOf_ok {run : Runner} {steps : List TraceStep} {rows : List Row} {w w₁ : World}
    (h : (rowsOf run steps).outcome w = (.ok rows, w₁)) :
    rows.map (fun row => (row.group, row.position, row.matched, row.winner)) =
      steps.map fun s => (s.group, s.position, s.matched, s.winner) := by
  induction steps generalizing rows w with
  | nil =>
    cases h
    rfl
  | cons s rest ih =>
    rw [rowsOf, List.mapM_cons] at h
    obtain ⟨row, w₂, labelled, h⟩ := Run.outcome_bind_ok_iff.1 h
    obtain ⟨rows', w₃, others, h⟩ := Run.outcome_bind_ok_iff.1 h
    obtain ⟨label, w₄, -, labelled⟩ := Run.outcome_bind_ok_iff.1 labelled
    cases labelled
    cases h
    rw [List.map_cons, List.map_cons, ih others]

/-- A row shows a **step**, at its position and with its verdict. -/
theorem step_of_row {run : Runner} {steps : List TraceStep} {rows : List Row} {row : Row}
    {w w₁ : World} (h : (rowsOf run steps).outcome w = (.ok rows, w₁)) (hr : row ∈ rows) :
    ∃ s ∈ steps, s.position = row.position ∧ s.winner = row.winner := by
  have mem := List.mem_map_of_mem (f := fun row : Row =>
    (row.group, row.position, row.matched, row.winner)) hr
  rw [rowsOf_ok h] at mem
  obtain ⟨s, hs, same⟩ := List.mem_map.1 mem
  simp only [Prod.mk.injEq] at same
  exact ⟨s, hs, same.2.1, same.2.2.2⟩

namespace CommandLine

variable {run : Runner} {q : Request} {r : Resolver} {w w₁ w₂ : World}

/-- The visibility that a request asks for. -/
def Request.visibility (q : Request) (settings : Settings.Resolved) : String :=
  if q.private? then "private" else settings.visibility

/-- The direction that is coerced for a request is **the one that it spells**, or else that of the
settings. -/
theorem Request.direction_of_coerce {settings : Settings.Resolved} {d : Direction}
    (found : (Direction.coerce run ((given? q.direction).elim
      settings.direction.value .str)).outcome w = (.ok d, w₁)) :
    (given? q.direction).elim (d = settings.direction)
      fun text => Direction.ofWord? text = some d := by
  rcases direction : given? q.direction with _ | text <;> rw [direction] at found
  · rw [Option.elim, Direction.coerce_value] at found
    cases found
    rfl
  · obtain ⟨x, _, accepted, given⟩ := Run.outcome_bind_ok_iff.1 found
    have taken : (Direction.take? run (.str text)).outcome w = (.ok (some x), _) :=
      Direction.outcome_accept_ok_iff.1 accepted
    rcases word : Direction.ofWord? text with _ | d' <;> rw [Direction.take?, word] at taken
    · cases taken
    · cases taken
      rw [Direction.ofAccepted_value] at given
      cases given
      exact word

/-- The resolver of a request is **put together** from the request and the settings of its profile:
the contexts that it refers to, in order; an outer context and a kernel of its own, or none and that
of the settings; the variant of its visibility and a direction, or those of the settings. Nobody
observes it. -/
theorem Request.resolver_parts (built : (q.resolver run).outcome w = (.ok r, w₁)) :
    ∃ settings w₂ w₃ w₄ kernel w₅,
      (Settings.resolve run (q.profile.elim .none .str) none).outcome w = (.ok settings, w₂) ∧
      (q.contexts.mapM (Reference.load run)).outcome w₂ = (.ok r.inner, w₃) ∧
      (loadOr run q.outer Closure.emptyNamespace).outcome w₃ = (.ok r.outer, w₄) ∧
      (loadOr run q.kernel (Reference.kernel run (some settings.kernel))).outcome w₄ =
        (.ok kernel, w₅) ∧
      r.kernel = kernelOf kernel ∧ r.observer = none ∧
      w₅.scanned.registry.find? (q.visibility settings) = some r.variant ∧
      (given? q.direction).elim (r.direction = settings.direction)
        fun text => Direction.ofWord? text = some r.direction := by
  obtain ⟨settings, w₂, settled, rest⟩ := Run.outcome_bind_ok_iff.1 built
  clear built
  obtain ⟨contexts, w₃, loaded, built⟩ := Run.outcome_bind_ok_iff.1 rest
  clear rest
  obtain ⟨outer, w₄, outside, rest⟩ := Run.outcome_bind_ok_iff.1 built
  clear built
  obtain ⟨kernel, w₅, last, built⟩ := Run.outcome_bind_ok_iff.1 rest
  clear rest
  obtain ⟨body, w₆, function, rest⟩ := Run.outcome_bind_ok_iff.1 built
  clear built
  obtain ⟨c, w₇, made, built⟩ := Run.outcome_bind_ok_iff.1 rest
  clear rest
  obtain ⟨rfl, rfl⟩ := Closure.of_make made
  obtain ⟨closure, w₈, stored, rest⟩ := Run.outcome_bind_ok_iff.1 built
  clear built
  simp only [Resolver.ofVisibility] at rest
  obtain ⟨id, w₉, resolver, built⟩ := Run.outcome_bind_ok_iff.1 rest
  clear rest
  obtain ⟨variant, w₁₀, known, resolver⟩ := Run.outcome_bind_ok_iff.1 resolver
  obtain ⟨rfl, registered⟩ := of_requireVariant known
  have made : w₈.IsClosure closure ⟨.fn body, outer⟩ := World.isClosure_toValue stored
  have kept : w₈.scanned.IsClosure closure ⟨.fn body, outer⟩ := made
  rw [Resolver.make, Run.outcome_bind_of_ok kept.outcome_wrap] at resolver
  obtain ⟨d, _, found, placed⟩ := Resolver.of_ofClosure resolver
  have given : r = ⟨variant, .fn body, outer, d, contexts, kernelOf kernel, none⟩ := by
    rw [resolverAt, Run.outcome_bind_of_ok (Run.outcome_reading _ _), placed] at built
    cases built
    rfl
  have registry : w₈.scanned.registry = w₅.scanned.registry := by
    cases function
    cases stored
    rfl
  subst given
  refine ⟨settings, w₂, w₃, w₄, kernel, w₅, settled, loaded, outside, last, rfl, rfl, ?_, ?_⟩
  · rw [← registry]
    exact registered
  · exact Request.direction_of_coerce found

/-! ### The outcome of the program -/

/-- What is **printed** for the rows of an explanation: a document, or a display, which a console
may refuse. -/
def Request.printed (q : Request) (r : Resolver) (resolved : Bool) (rows : List Row) :
    Run String :=
  if q.json then pure (indentedText (explanationJson r q.name resolved rows) ++ "\n")
  else displayRows q.plain resolved (explanationTitle r q.name) rows

/-- A document is printed, and so is a display in plain lines or without a console. -/
theorem Request.outcome_printed {resolved : Bool} {rows : List Row}
    (h : q.json = true ∨ q.plain = true ∨ w.platform.console = none) :
    ∃ text, (q.printed r resolved rows).outcome w = (.ok text, w) := by
  rw [Request.printed]
  split
  · exact ⟨_, rfl⟩
  · rename_i shown
    obtain plain | bare := h.resolve_left shown
    · refine ⟨plainRows resolved (explanationTitle r q.name) rows, ?_⟩
      rw [displayRows, Run.outcome_bind_of_ok (Run.outcome_reading _ w), plain]
      rfl
    · refine ⟨plainRows resolved (explanationTitle r q.name) rows, ?_⟩
      rw [displayRows, Run.outcome_bind_of_ok (Run.outcome_reading _ w), bare]
      cases q.plain <;> rfl

/-- A failure of an explanation as the program **ends with** it: reported in its words if it is of a
kind that is, and else left to whoever runs the program. To put it into words may fail as well. -/
def ending (run : Runner) : Fault → Run Outcome
  | .raised e =>
    if e.kind.isAny reportedKinds then Outcome.failed <$> e.text run else throw (.raised e)
  | .exhausted => throw .exhausted

/-- A request prints the **rows** of an explanation that comes to its end, and its exit code tells
whether there is a winner. -/
theorem Request.outcome_perform {steps : List TraceStep}
    (built : (q.resolver run).outcome w = (.ok r, w₁))
    (explained : (r.explain run q.name).outcome w₁ = (.ok steps, w₂)) :
    (q.perform run).outcome w = (do
      let rows ← rowsOf run steps
      Outcome.explained (isResolved steps) <$> q.printed r (isResolved steps) rows :
        Run Outcome).outcome w₂ := by
  have prepared : (do
      let resolver ← q.resolver run
      pure (.ok (resolver, ← resolver.explain run q.name)) :
        Run (Except Outcome (Resolver × List TraceStep))).outcome w =
          (.ok (.ok (r, steps)), w₂) := by
    rw [Run.outcome_bind_of_ok built, Run.outcome_bind_of_ok explained]
    rfl
  rw [perform, Run.outcome_bind_of_ok (Run.outcome_recover_ok prepared)]
  simp only [displayTrace, Request.printed]
  split <;> simp only [bind_assoc, map_eq_pure_bind, pure_bind]

/-- A request whose explanation fails **ends with** the failure. -/
theorem Request.outcome_perform_of_fails {f : Fault}
    (built : (q.resolver run).outcome w = (.ok r, w₁))
    (failed : (r.explain run q.name).outcome w₁ = (.error f, w₂)) :
    (q.perform run).outcome w = (ending run f).outcome w₂ := by
  have prepared : (do
      let resolver ← q.resolver run
      pure (.ok (resolver, ← resolver.explain run q.name)) :
        Run (Except Outcome (Resolver × List TraceStep))).outcome w = (.error f, w₂) := by
    rw [Run.outcome_bind_of_ok built, Run.outcome_bind_of_error failed]
  rw [perform, Run.outcome_bind, Run.outcome_recover, prepared]
  rcases f with e | _
  · by_cases reported : e.kind.isAny reportedKinds = true
    · simp only [ending, reported, ↓reduceIte, Run.outcome_map, Run.outcome_bind]
      rcases (e.text run).outcome w₂ with ⟨_ | _, _⟩ <;> rfl
    · simp only [ending, reported]
      rfl
  · rfl

/-- A command line that asks for an explanation **performs the request**. -/
theorem outcome_perform_of_read {args : List String}
    (asked : Invocation.read args = .ok (.explain q)) (w : World) :
    (perform run args).outcome w = (q.perform run).outcome w := by
  rw [perform, asked]

/-- What is asked can be **computed**. -/
theorem Invocation.read_eq {args : List String} {i : Invocation}
    (h : (read args).toOption = some i) : read args = .ok i := by
  rcases known : read args with _ | i' <;> rw [known] at h <;> cases h
  rfl

/-- A world of two modules: `good` holds `x`, and `bad` has a hook that **refuses** every name. -/
def divided : World :=
  { World.empty with
    modules := #[⟨"builtins", kernelMembers⟩, ⟨"good", [("x", .int 1)]⟩,
      ⟨"bad", [("__getattr__", .fn 0)]⟩]
    functions := #[plainFunction "refuse" (.silent (.raise .type "refused"))] }

/-- A name without dots and colons refers to a module. -/
theorem divided.load_eq (run : Runner) :
    ["good", "bad"].mapM (Reference.load run) =
      ["good", "bad"].mapM fun name => Reference.moduleOf run [name] := by
  have load (name : String) (split : Reference.split name = .ok ⟨name, []⟩)
      (absolute : name.startsWith "." = false) (parts : name.splitOn "." = [name]) :
      Reference.load run name = Reference.moduleOf run [name] := by
    simp [Reference.load, split, Reference.follow, Reference.moduleNamed, absolute, parts]
  simp only [List.mapM_cons, List.mapM_nil]
  rw [load "good" rfl (by decide +kernel) (by cbv), load "bad" rfl (by decide +kernel) (by cbv)]

end CommandLine

end OrderedScope
