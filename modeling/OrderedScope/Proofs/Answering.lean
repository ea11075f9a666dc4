import OrderedScope.Proofs.ClassWalk
import OrderedScope.Proofs.Listing

/-!
# What Access Answers

The dynamic strategy leaves what a context answers to the attribute protocol: it fetches by access,
and a name that the tables do not hold is tried by access alone. Before that it looks the name up in
the tables, and there it decides one thing by itself: a name that is held by a slot that was never
filled is not answered. Access would go on to the hook behind it. And where access gives the object
by which look-ups tell that there is nothing, the name is answered, and nothing is given.

## Main results

* `Attribute.outcome_isEmptySlot_told`: whether an entry is a slot that was never filled, where that
  is plain to see.
* `Lookup.lookup_answers_access`: the dynamic strategy answers what access answers, up to slots that
  were never filled, up to what tells that there is nothing, and up to what looking up the tables
  does.
* `Lookup.lookup_misses_hook`: a name that access answers and the dynamic strategy does not.
-/

namespace OrderedScope

namespace World

variable {w : World} {raw context : Value} {name : String}

/-- Whether an entry is a slot that was **never filled**, for a context of which that is asked:
classes are not. -/
def unset (w : World) (raw context : Value) : Bool := !w.isClass context && w.unfilled raw context

/-- Whether an entry is a slot that was never filled **is plain to see**. Of a class that is so
wherever the entry tells whether it passes as a slot. -/
inductive TellsFilling (w : World) (raw context : Value) : Prop
  | instance_ : w.isClass context = false → w.FillsPlainly raw context → TellsFilling w raw context
  | ofClass : w.isClass context = true →
      (w.isSubclass (w.classOf raw) (.native .slotMember) = true ∨ w.TellsClass raw) →
      TellsFilling w raw context

/-- What a context holds under a name is **in sight**: the tables that decide it are legible, and
whether it is a slot that was never filled is plain to see. -/
structure InSight (w : World) (context : Value) (name : String) : Prop where
  readable : w.Readable name context
  filling : ∀ raw, w.seen? context name = some raw → w.TellsFilling raw context

/-- Only of objects a slot is **never filled**. -/
theorem exists_of_unset (h : w.unset raw context = true) :
    ∃ owner slot i, raw = .slot owner slot ∧ context = .object i ∧
      w.slotValue? i owner slot = none := by
  rw [unset, Bool.and_eq_true] at h
  have unfilled := h.2
  rw [World.unfilled.eq_def] at unfilled
  split at unfilled
  · exact ⟨_, _, _, rfl, rfl, Option.isNone_iff_eq_none.1 unfilled⟩
  · cases unfilled

end World

namespace Attribute

variable {run : Runner} {raw context : Value} {name : String} {w : World}

/-- Whether an entry is a slot that was never filled **is read**, and no code runs. -/
theorem outcome_isEmptySlot_told (run : Runner) (h : w.TellsFilling raw context) :
    (isEmptySlot run raw context).outcome w = (.ok (w.unset raw context), w) := by
  cases h with
  | instance_ apart fills =>
      rw [outcome_isEmptySlot_plain run apart fills, World.unset, apart, Bool.not_false,
        Bool.true_and]
  | ofClass isClass tells =>
      rw [Lookup.outcome_isEmptySlot_class run isClass tells, World.unset, isClass, Bool.not_true,
        Bool.false_and]

/-- Access, without a hook in front, to a slot that was **never filled** is what the hook behind it
makes of it; without one the attribute is missing. -/
theorem outcome_get_of_unset (run : Runner) (h : w.unset raw context = true)
    (fills : w.TellsFilling raw context) (front : w.frontHook? context = none)
    (member : w.typeMember? (w.classOf context) name = some raw) :
    ∃ e, e.isA .attr = true ∧ (get run context name).outcome w =
      match w.backHook? context with
      | none => (.error (.raised e), w)
      | some hook => (callHook run hook context [.str name]).outcome w := by
  obtain ⟨owner, slot, i, rfl, rfl, empty⟩ := World.exists_of_unset h
  have below : w.isSubclass (w.classOf (.object i)) (.world owner) = true := by
    cases fills with
    | instance_ _ fills =>
        cases fills with
        | whole _ whole => cases whole.apart
        | slot _ _ _ below => exact below
    | ofClass isClass =>
        rw [World.unset, isClass] at h
        cases h
  have controls : (w.controlsRead (.slot owner slot) && w.controlsWrite (.slot owner slot)) =
      true := controls_slot w (.world owner) slot
  have used : w.objectUsed? (.object i) name =
      some (.member (.slot owner slot) (some (.object i)) (w.classOf (.object i))) := by
    rw [World.objectUsed?, member]
    rcases (w.ownAttrs? (.object i)).bind (·.find? name) with _ | x
    · rfl
    · simp only [controls, ↓reduceIte]
  have standard : (standardGet run (.object i) name).outcome w =
      (.error (.raised (.noAttribute (w.fullName (w.classOf (.object i))) slot)), w) := by
    show (objectGet run (.object i) name).outcome w = _
    rw [outcome_objectGet, used]
    show (slotField owner slot (.object i)).outcome w = _
    rw [slotField, Run.outcome_bind_of_ok (Run.outcome_get w)]
    simp only [below, ↓reduceIte, empty]
    rfl
  have missing : (Error.noAttribute (w.fullName (w.classOf (.object i))) slot).isA .attr =
      true := rfl
  refine ⟨_, missing, ?_⟩
  rw [get, Run.outcome_bind_of_ok (Run.outcome_reading _ w)]
  have back : w.typeMember? (w.classOf (.object i)) "__getattr__" = w.backHook? (.object i) := rfl
  rw [back]
  rcases w.backHook? (.object i) with _ | hook
  · exact (outcome_frontGet front).trans standard
  · simp only
    rw [Run.outcome_recover, outcome_frontGet front, standard]
    rfl

end Attribute

namespace Lookup

open Attribute

variable {run : Runner} {raw context : Value} {name : String} {w w₁ : World}

/-- From a world the dynamic strategy **answers what access answers** from a world: what access
gives it gives, unless that tells that there is nothing, and such a name it answers; and it has
nothing to give only where access says that the attribute is missing, or gives what tells that there
is nothing. -/
structure AnswersAccess (run : Runner) (context : Value) (name : String) (w w₁ : World) : Prop where
  gives : ∀ m w₂, (get run context name).outcome w₁ = (.ok m, w₂) →
    (dynamicLookup run true context name).outcome w = (.ok m.known?, w₂) ∧
      ∃ w₃, (dynamicRespondsTo run true context name).outcome w = (.ok true, w₃)
  misses : ∀ w₂, (dynamicLookup run true context name).outcome w = (.ok none, w₂) →
    (∃ e, e.isA .attr = true ∧ (get run context name).outcome w₁ = (.error (.raised e), w₂)) ∨
      (get run context name).outcome w₁ = (.ok .missing, w₂)

/-- A name that is not hidden is answered **as access answers it** behind the look-up of the
tables. -/
theorem answersAccess_of_standing {s : Standing}
    (h : (standing run true context name).outcome w = (.ok s, w₁)) (visible : s ≠ .hidden) :
    AnswersAccess run context name w w₁ := by
  have asked := congrFun (congrArg Run.outcome (dynamicRespondsTo_eq run true context name)) w
  have given : (dynamicLookup run true context name).outcome w =
      ((·.bind Value.known?) <$> fetchedOf run context name s : Run (Option Value)).outcome w₁ := by
    rw [dynamicLookup_eq, Run.outcome_map, Run.outcome_map, dynamicFetch, Run.outcome_bind_of_ok h]
  rw [Run.outcome_bind_of_ok h] at asked
  cases s with
  | hidden => exact absurd rfl visible
  | unheld =>
      constructor
      · intro m w₂ hm
        have found : (get? run context name).outcome w₁ = (.ok (some m), w₂) :=
          Run.outcome_optional_some_iff.2 hm
        refine ⟨given.trans ?_, w₂, asked.trans ?_⟩
        · rw [fetchedOf, Run.outcome_map, found]
          rfl
        · rw [answerOf, has, Run.outcome_map, found]
          rfl
      · intro w₂ hn
        obtain ⟨found, fetched, unknown⟩ := Run.outcome_map_ok_iff.1 (given.symm.trans hn)
        cases found with
        | none => exact .inl (Run.outcome_optional_none_iff.1 fetched)
        | some m =>
            obtain rfl : m = .missing := Value.known?_eq_none.1 unknown
            exact .inr (Run.outcome_optional_some_iff.1 fetched)
  | shown =>
      constructor
      · intro m w₂ hm
        refine ⟨given.trans ?_, w₁, asked⟩
        rw [fetchedOf, Run.outcome_map, Run.outcome_map, hm]
        rfl
      · intro w₂ hn
        obtain ⟨found, fetched, unknown⟩ := Run.outcome_map_ok_iff.1 (given.symm.trans hn)
        obtain ⟨m, got, rfl⟩ := Run.outcome_map_ok_iff.1 fetched
        obtain rfl : m = .missing := Value.known?_eq_none.1 unknown
        exact .inr got

/-- Where the tables cannot be looked up, the name is **neither answered nor given**. -/
theorem fails_of_standing {f : Fault}
    (h : (standing run true context name).outcome w = (.error f, w₁)) :
    (dynamicLookup run true context name).outcome w = (.error f, w₁) ∧
      (dynamicRespondsTo run true context name).outcome w = (.error f, w₁) := by
  have fetched : (dynamicFetch run true context name).outcome w = (.error f, w₁) :=
    Run.outcome_bind_of_error h
  rw [dynamicLookup_eq, dynamicRespondsTo_eq, Run.outcome_map, fetched]
  exact ⟨rfl, Run.outcome_bind_of_error h⟩

/-- A hidden name is held by a slot that **reads empty**; it is not answered, whatever access to it
gives. -/
theorem misses_of_standing (h : (standing run true context name).outcome w = (.ok .hidden, w₁)) :
    (dynamicLookup run true context name).outcome w = (.ok none, w₁) ∧
      (dynamicRespondsTo run true context name).outcome w = (.ok false, w₁) ∧
      ∃ raw w₀, (held? run context name).outcome w = (.ok (some raw), w₀) ∧
        (isEmptySlot run raw context).outcome w₀ = (.ok true, w₁) := by
  have hidden := h
  rw [standing_eq run true context name rfl] at hidden
  obtain ⟨found, w₀, held, hidden⟩ := Run.outcome_bind_ok_iff.1 hidden
  have fetched : (dynamicFetch run true context name).outcome w = (.ok none, w₁) :=
    Run.outcome_bind_of_ok h
  rw [dynamicLookup_eq, dynamicRespondsTo_eq, Run.outcome_map, fetched]
  refine ⟨rfl, Run.outcome_bind_of_ok h, ?_⟩
  rcases found with _ | raw
  · cases hidden
  · obtain ⟨kept, w₂, empty, hidden⟩ := Run.outcome_bind_ok_iff.1 hidden
    cases kept <;> cases hidden
    rw [keepsBack_true] at empty
    exact ⟨raw, w₀, held, empty⟩

/-- Whether an entry is kept back **is read without running code**, where its filling is plain to
see and so are marks that count. -/
theorem outcome_keepsBack_told (run : Runner) {restricted : Bool}
    (filling : w.TellsFilling raw context) (marks : restricted = false → w.MarksPlainly raw) :
    (keepsBack run restricted raw context).outcome w =
      (.ok (w.unset raw context || !restricted && w.marked raw), w) := by
  rw [keepsBack, Run.outcome_bind_of_ok (outcome_isEmptySlot_told run filling)]
  cases w.unset raw context with
  | true => rfl
  | false =>
      cases restricted with
      | true => rfl
      | false => exact outcome_isMarked_plain run (marks rfl)

/-- What is in sight is **looked up without running code**, where marks that count are plain to
see. -/
theorem outcome_standing_inSight (run : Runner) {restricted : Bool} (h : w.InSight context name)
    (unrefused : Strategy.refuses restricted name = false)
    (marks : restricted = false → ∀ raw, w.seen? context name = some raw → w.MarksPlainly raw) :
    (standing run restricted context name).outcome w =
      (.ok (match w.seen? context name with
        | none => .unheld
        | some raw =>
          if w.unset raw context || !restricted && w.marked raw then .hidden else .shown), w) := by
  rw [standing_eq run restricted context name unrefused,
    Run.outcome_bind_of_ok (outcome_held? h.readable)]
  rcases seen : w.seen? context name with _ | raw
  · rfl
  · simp only
    rw [Run.outcome_bind_of_ok
      (outcome_keepsBack_told run (h.filling raw seen) fun counts => marks counts raw seen)]
    rfl

/-- A context answers a name whose entry is in sight, **unless** the entry is an empty slot, or
marked where marks count. -/
theorem outcome_dynamicRespondsTo_inSight (run : Runner) {restricted : Bool}
    (sight : w.InSight context name) (seen : w.seen? context name = some raw)
    (unrefused : Strategy.refuses restricted name = false)
    (marks : restricted = false → w.MarksPlainly raw) :
    (dynamicRespondsTo run restricted context name).outcome w =
      (.ok !(w.unset raw context || !restricted && w.marked raw), w) := by
  have looked := outcome_standing_inSight run sight unrefused fun counts other ho => by
    cases seen.symm.trans ho
    exact marks counts
  rw [seen] at looked
  rw [dynamicRespondsTo_eq, Run.outcome_bind_of_ok looked]
  simp only
  cases w.unset raw context || !restricted && w.marked raw <;> rfl

/-- The dynamic strategy **answers what access answers**, for every context and name.

* Where the tables are looked up and the name is not hidden, it answers what access answers from the
  world in which the look-up ended. A hidden name is one that is held by a slot that reads empty;
  and where the look-up fails, so does the question.
* Where the name is in sight, the look-up leaves the world as it is, and the strategy answers what
  access answers there, unless the entry is a slot that was never filled. That is not answered, and
  without a hook in front access misses it too, unless a hook behind it answers.

What access gives and tells that there is nothing is not given, though the name is answered. -/
theorem lookup_answers_access (run : Runner) (context : Value) (name : String) (w : World) :
    (∀ s w₁, (standing run true context name).outcome w = (.ok s, w₁) → s ≠ .hidden →
      AnswersAccess run context name w w₁) ∧
    (∀ w₁, (standing run true context name).outcome w = (.ok .hidden, w₁) →
      (dynamicLookup run true context name).outcome w = (.ok none, w₁) ∧
        (dynamicRespondsTo run true context name).outcome w = (.ok false, w₁) ∧
        ∃ raw w₀, (held? run context name).outcome w = (.ok (some raw), w₀) ∧
          (isEmptySlot run raw context).outcome w₀ = (.ok true, w₁)) ∧
    (∀ f w₁, (standing run true context name).outcome w = (.error f, w₁) →
      (dynamicLookup run true context name).outcome w = (.error f, w₁) ∧
        (dynamicRespondsTo run true context name).outcome w = (.error f, w₁)) ∧
    (w.InSight context name →
      ((∀ raw, w.seen? context name = some raw → w.unset raw context = false) →
        AnswersAccess run context name w w) ∧
      ∀ raw, w.seen? context name = some raw → w.unset raw context = true →
        (dynamicLookup run true context name).outcome w = (.ok none, w) ∧
          (dynamicRespondsTo run true context name).outcome w = (.ok false, w) ∧
          (w.frontHook? context = none → w.typeMember? (w.classOf context) name = some raw →
            ∃ e, e.isA .attr = true ∧ (get run context name).outcome w =
              match w.backHook? context with
              | none => (.error (.raised e), w)
              | some hook => (callHook run hook context [.str name]).outcome w) ∧
          (w.frontHook? context = none → w.used? context name = some (.own raw) →
            (get run context name).outcome w = (.ok raw, w))) := by
  refine ⟨fun s w₁ => answersAccess_of_standing, fun w₁ => misses_of_standing,
    fun f w₁ => fails_of_standing, fun sight => ⟨fun filled => ?_, fun raw seen unset => ?_⟩⟩
  · refine answersAccess_of_standing (outcome_standing_inSight run sight rfl nofun) ?_
    rcases seen : w.seen? context name with _ | raw
    · nofun
    · simp only [filled raw seen]
      nofun
  · have hidden : (standing run true context name).outcome w = _ :=
      outcome_standing_inSight run sight rfl nofun
    rw [seen] at hidden
    simp only [unset, Bool.true_or, ↓reduceIte] at hidden
    obtain ⟨missed, silent, -⟩ := misses_of_standing hidden
    exact ⟨missed, silent, outcome_get_of_unset run unset (sight.filling raw seen),
      fun front used => get_of_standardGet front (outcome_standardGet_of_used used rfl)⟩

/-- A world with one object, whose class has a slot `x` that was never filled, and behind every
access a hook that answers 5. -/
def filledLazily : World :=
  { World.empty with
    classes := #[{ plainClass 0 "Lazy" [] with
      members := [("x", .slot 0 "x"), ("__getattr__", .fn 0), ("__doc__", .none)] }]
    objects := #[⟨some "lazy", .world 0, none, [], .plain⟩]
    functions := #[plainFunction "Lazy.__getattr__" (.silent (.ret (.int 5)))] }

/-- Everything about a slot that was never filled can be in sight, **access answers** by the hook
behind it, and the dynamic strategy does not. It gives nothing either where access gives what tells
that there is nothing, though it answers there. -/
theorem lookup_misses_hook :
    filledLazily.InSight (.object 0) "x" ∧
    (∃ w', (get (Interpreter.runner 10) (.object 0) "x").outcome filledLazily =
        (.ok (.int 5), w')) ∧
    (∃ w', (dynamicLookup (Interpreter.runner 10) true (.object 0) "x").outcome filledLazily =
        (.ok none, w')) ∧
    (∃ w', (dynamicRespondsTo (Interpreter.runner 10) true (.object 0) "x").outcome filledLazily =
        (.ok false, w')) ∧
    ¬ AnswersAccess (Interpreter.runner 10) (.object 0) "x" filledLazily filledLazily ∧
    (get (Interpreter.runner 10) (.module 1) "MISSING").outcome .hollow = (.ok .missing, .hollow) ∧
    (dynamicLookup (Interpreter.runner 10) true (.module 1) "MISSING").outcome .hollow =
      (.ok none, .hollow) ∧
    (dynamicRespondsTo (Interpreter.runner 10) true (.module 1) "MISSING").outcome .hollow =
      (.ok true, .hollow) := by
  have native {d : ClassRef} (h : filledLazily.metaclassOf d = .native .type) :
      filledLazily.Legible d := World.legible_of_metaclass h
  have sight : filledLazily.InSight (.object 0) "x" := by
    constructor
    · refine .instance_ _ nofun (.bare rfl rfl) (fun d hd => native ?_) ?_
      · have line : d ∈ [ClassRef.world 0, .native .object] := hd
        simp only [List.mem_cons, List.not_mem_nil, or_false] at line
        rcases line with rfl | rfl <;> rfl
      · rintro _ ⟨⟩ d hd
        have line : d ∈ [ClassRef.native .slotMember, .native .object] := hd
        simp only [List.mem_cons, List.not_mem_nil, or_false] at line
        rcases line with rfl | rfl <;> exact native rfl
    · rintro _ ⟨⟩
      exact .instance_ rfl (.slot 0 "x" 0 rfl)
  have given : (get (Interpreter.runner 10) (.object 0) "x").outcome filledLazily =
      (.ok (.int 5), _) := Run.eq_of_gave (by decide +kernel)
  have missed : (dynamicLookup (Interpreter.runner 10) true (.object 0) "x").outcome filledLazily =
      (.ok none, _) := Run.eq_of_answered (by decide +kernel)
  have silent : (dynamicRespondsTo (Interpreter.runner 10) true (.object 0) "x").outcome
      filledLazily = (.ok false, _) := Run.eq_of_toOption (by decide +kernel)
  refine ⟨sight, ⟨_, given⟩, ⟨_, missed⟩, ⟨_, silent⟩, fun answers => ?_, rfl, rfl, rfl⟩
  cases missed.symm.trans (answers.gives _ _ given).1

end Lookup

end OrderedScope
