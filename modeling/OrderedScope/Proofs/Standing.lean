import OrderedScope.Proofs.Scan

/-!
# Answering and Giving

A context is asked in two ways: whether it answers a name, and what it answers. Both begin by
looking at what the member tables say, its **standing**: the name is not held, or held but kept
from the asker, or held and shown. Only after that they part: a shown member is an answer for the
first question, and is fetched for the second.

What is fetched can be the object that tells that there is nothing. A context that has this object
for a name answers the name and is **hollow**: it gives nothing.

## Main results

* `Lookup.dynamicRespondsTo_eq`, `Lookup.dynamicFetch`: both questions of the dynamic strategy as
  one look at the standing and what follows from it.
* `Strategy.lookup_eq_fetch`: what is given is what is fetched, unless that tells that there is
  nothing.
* `Strategy.agrees`: for every strategy, a context that does not answer has nothing to give and one
  that fails when it is asked fails alike when it is to give, in the same world.
* `Strategy.withdraws_dynamic_iff`, `Strategy.withdraws_fallback_iff`: by one strategy alone a
  context that answers gives a member or fails, or is hollow; with a fallback it can also
  **withdraw** the name in another way, and when it does is said exactly.
-/

namespace OrderedScope

namespace Lookup

open Attribute

/-! ### Standing -/

/-- What the tables of a context say about a name. -/
inductive Standing where
  /-- The tables do not hold the name. -/
  | unheld
  /-- The name is refused, or held in an empty slot or by a marked member. -/
  | hidden
  /-- The name is held and may be seen. -/
  | shown
deriving DecidableEq

/-- The **standing** of a name with a context, for those who see restricted members or for those who
do not. -/
def standing (run : Runner) (restricted : Bool) (context : Value) (name : String) :
    Run Standing := do
  if Strategy.refuses restricted name then pure .hidden
  else
    match ← held? run context name with
    | none => pure .unheld
    | some raw =>
      if ← isEmptySlot run raw context then pure .hidden
      else if restricted then pure .shown
      else do pure (if ← isMarked run raw then .hidden else .shown)

/-- Whether a context answers a name of a standing: it is asked further only for a name that it does
not hold. -/
def answerOf (run : Runner) (context : Value) (name : String) : Standing → Run Bool
  | .unheld => has run context name
  | .hidden => pure false
  | .shown => pure true

/-- What is fetched of a context for a name of a standing: one access fetches what is shown. -/
def fetchedOf (run : Runner) (context : Value) (name : String) : Standing → Run (Option Value)
  | .unheld => get? run context name
  | .hidden => pure none
  | .shown => some <$> get run context name

/-- What follows a standing **follows each way** in which the tables are read. -/
theorem standing_bind {α : Type} (run : Runner) (restricted : Bool) (context : Value)
    (name : String) (next : Standing → Run α) :
    standing run restricted context name >>= next = (do
      if Strategy.refuses restricted name then next .hidden
      else
        match ← held? run context name with
        | none => next .unheld
        | some raw =>
          if ← isEmptySlot run raw context then next .hidden
          else if restricted then next .shown
          else if ← isMarked run raw then next .hidden else next .shown) := by
  rw [standing]
  by_cases refused : Strategy.refuses restricted name
  · simp only [refused, ↓reduceIte, pure_bind]
  · simp only [refused, Bool.false_eq_true, ↓reduceIte, bind_assoc]
    congr
    funext found
    rcases found with _ | raw
    · simp only [pure_bind]
    · simp only [bind_assoc]
      congr
      funext empty
      cases empty <;> cases restricted <;> simp only [Bool.false_eq_true, ↓reduceIte, pure_bind,
        bind_assoc]
      congr
      funext marked
      cases marked <;> rfl

/-- The dynamic strategy answers by **one look** at the standing. -/
theorem dynamicRespondsTo_eq (run : Runner) (restricted : Bool) (context : Value)
    (name : String) :
    dynamicRespondsTo run restricted context name =
      standing run restricted context name >>= answerOf run context name := by
  rw [dynamicRespondsTo, standing_bind]
  refine ite_congr rfl (fun _ => rfl) fun _ => bind_congr fun found => ?_
  rcases found with _ | raw
  · rfl
  · refine bind_congr fun empty => ite_congr rfl (fun _ => rfl) fun _ =>
      ite_congr rfl (fun _ => rfl) fun _ => ?_
    rw [← bind_pure_comp]
    refine bind_congr fun marked => ?_
    cases marked <;> rfl

/-- What the dynamic strategy **fetches**: one look at the standing and what follows from it. What
is fetched may tell that there is nothing. -/
def dynamicFetch (run : Runner) (restricted : Bool) (context : Value) (name : String) :
    Run (Option Value) :=
  standing run restricted context name >>= fetchedOf run context name

/-- What the static strategy **fetches**: the entry that it sees, settled. -/
def staticFetch (run : Runner) (restricted : Bool) (context : Value) (name : String) :
    Run (Option Value) := do
  match ← staticFound? run restricted context name with
  | none => pure none
  | some entry => some <$> settle run context entry

/-- The dynamic strategy gives what it fetches, unless that tells that there is nothing. -/
theorem dynamicLookup_eq (run : Runner) (restricted : Bool) (context : Value) (name : String) :
    dynamicLookup run restricted context name =
      (·.bind Value.known?) <$> dynamicFetch run restricted context name := by
  rw [dynamicFetch, ← bind_pure_comp, bind_assoc, standing_bind, dynamicLookup]
  refine ite_congr rfl (fun _ => rfl) fun _ => bind_congr fun found => ?_
  rcases found with _ | raw
  · exact (bind_pure_comp (·.bind Value.known?) (get? run context name)).symm
  · refine bind_congr fun empty => ite_congr rfl (fun _ => rfl) fun _ => ?_
    have given : Value.known? <$> get run context name = (do
        let m ← fetchedOf run context name .shown
        pure (m.bind Value.known?)) := by
      rw [fetchedOf, bind_pure_comp, Functor.map_map]
      rfl
    cases restricted
    · simp only [Bool.false_eq_true, ↓reduceIte]
      refine bind_congr fun marked => ?_
      cases marked
      · exact given
      · rfl
    · simpa using given

/-- The static strategy gives what it fetches, unless that tells that there is nothing. -/
theorem staticLookup_eq (run : Runner) (restricted : Bool) (context : Value) (name : String) :
    staticLookup run restricted context name =
      (·.bind Value.known?) <$> staticFetch run restricted context name := by
  rw [staticLookup, staticFetch, map_bind]
  refine bind_congr fun found => ?_
  rcases found with _ | entry
  · rfl
  · rw [Functor.map_map]
    rfl

/-- A name that is **shown** is answered. -/
theorem respondsTo_of_shown {run : Runner} {restricted : Bool} {context : Value} {name : String}
    {w w₁ : World} (h : (standing run restricted context name).outcome w = (.ok .shown, w₁)) :
    (dynamicRespondsTo run restricted context name).outcome w = (.ok true, w₁) := by
  rw [dynamicRespondsTo_eq, Run.outcome_bind_of_ok h]
  rfl

/-- A name that is shown is fetched **by one access**. -/
theorem fetch_of_shown {run : Runner} {restricted : Bool} {context : Value} {name : String}
    {w w₁ : World} (h : (standing run restricted context name).outcome w = (.ok .shown, w₁)) :
    (dynamicFetch run restricted context name).outcome w =
      (some <$> get run context name : Run (Option Value)).outcome w₁ := by
  rw [dynamicFetch, Run.outcome_bind_of_ok h]
  rfl

/-- What is given of a name that is shown is what the access gives, unless that tells that there is
nothing. -/
theorem lookup_of_shown {run : Runner} {restricted : Bool} {context : Value} {name : String}
    {w w₁ : World} (h : (standing run restricted context name).outcome w = (.ok .shown, w₁)) :
    (dynamicLookup run restricted context name).outcome w =
      (Value.known? <$> get run context name : Run (Option Value)).outcome w₁ := by
  rw [dynamicLookup_eq, Run.outcome_map, fetch_of_shown h, Run.outcome_map, Run.outcome_map]
  rcases (get run context name).outcome w₁ with ⟨_ | _, _⟩ <;> rfl

/-! ### Handing over -/

/-- Which operation a context is given over for is told in a message, and **nowhere else**. -/
theorem outcome_handOver (run : Runner) (secondary : Strategy) (operation operation' : String)
    (context : Value) (name : String) (e : Error) (w : World) :
    (handOver run secondary operation context name e).outcome w =
      (handOver run secondary operation' context name e).outcome w := by
  rw [handOver, handOver]
  rcases h : (overridesProtocol run context name).outcome w with ⟨f | hooked, w₁⟩
  · rw [Run.outcome_bind_of_error h, Run.outcome_bind_of_error h]
  rw [Run.outcome_bind_of_ok h, Run.outcome_bind_of_ok h]
  cases hooked with
  | false => simp only [Bool.false_eq_true, ↓reduceIte]
  | true =>
      simp only [↓reduceIte, Run.outcome_bind, Run.outcome_reading]
      rcases (Attribute.get run (.cls (w₁.classOf context)) "__qualname__").outcome w₁
        with ⟨f | shown, w₂⟩
      · simp only
      · refine Run.outcome_logText_wording .debug (fun w => ?_) w₂
        simp only [Run.outcome_map, Run.outcome_bind, Run.outcome_pure]
        rcases (shown.plainText run).outcome w with ⟨_ | _, w₃⟩
        · rfl
        · simp only
          rcases (e.text run).outcome w₃ with ⟨_ | _, _⟩ <;> rfl

/-- A fallback ends as its first strategy does, or, after a refusal that is handed over, as the
second. -/
theorem outcome_withFallback {α : Type} (run : Runner) (secondary : Strategy) (operation : String)
    (context : Value) (name : String) (first second : Run α) (w : World) :
    (withFallback run secondary operation context name first second).outcome w =
      match first.outcome w with
      | (.error (.raised e), w₁) =>
        if e.kind.isAny Kind.refusals then
          (handOver run secondary operation context name e >>= fun _ => second).outcome w₁
        else (.error (.raised e), w₁)
      | other => other :=
  Run.outcome_recover _ _ _ _

end Lookup

namespace Strategy

open Lookup

/-! ### Silence and failure -/

/-- What a context gives **agrees** with whether it answers: a context that does not answer has
nothing to give, and one that fails when it is asked fails in the same way when it is to give. -/
def Agrees (asked : Run Bool) (given : Run (Option Value)) : Prop :=
  ∀ w w', (asked.outcome w = (.ok false, w') → given.outcome w = (.ok none, w')) ∧
    ∀ f, asked.outcome w = (.error f, w') → given.outcome w = (.error f, w')

/-- What is given agrees if what is fetched does. -/
theorem Agrees.known {asked : Run Bool} {fetched : Run (Option Value)} (h : Agrees asked fetched) :
    Agrees asked ((·.bind Value.known?) <$> fetched) := by
  refine fun w w' => ⟨fun silent => ?_, fun f failed => ?_⟩
  · rw [Run.outcome_map, (h w w').1 silent]
    rfl
  · exact Run.outcome_map_error_iff.2 ((h w w').2 f failed)

/-- What the dynamic strategy fetches agrees with whether it answers. -/
theorem agrees_dynamic (run : Runner) (restricted : Bool) (context : Value) (name : String) :
    Agrees (dynamicRespondsTo run restricted context name)
      (dynamicFetch run restricted context name) := by
  intro w w'
  rw [dynamicRespondsTo_eq, dynamicFetch, Run.outcome_bind, Run.outcome_bind]
  rcases (standing run restricted context name).outcome w with ⟨f | _ | _ | _, w₁⟩
  · simp
  · simp only [answerOf, fetchedOf, Attribute.has, Run.outcome_map]
    rcases (Attribute.get? run context name).outcome w₁ with ⟨f | _ | _, w₂⟩ <;> simp
  · simp [answerOf, fetchedOf]
  · simp [answerOf]

/-- What the static strategy fetches agrees with whether it answers. -/
theorem agrees_static (run : Runner) (restricted : Bool) (context : Value) (name : String) :
    Agrees (Option.isSome <$> staticFound? run restricted context name)
      (staticFetch run restricted context name) := by
  intro w w'
  rw [staticFetch, Run.outcome_bind, Run.outcome_map]
  rcases (staticFound? run restricted context name).outcome w with ⟨f | _ | _, w₁⟩ <;> simp

/-- A fallback agrees if both its strategies do. -/
theorem Agrees.withFallback {run : Runner} {secondary : Strategy} {context : Value} {name : String}
    {asked asked' : Run Bool} {given given' : Run (Option Value)} (first : Agrees asked given)
    (second : Agrees asked' given') :
    Agrees (withFallback run secondary "responds_to" context name asked asked')
      (withFallback run secondary "lookup" context name given given') := by
  intro w w'
  rw [outcome_withFallback, outcome_withFallback]
  rcases h : asked.outcome w with ⟨(e | _) | _ | _, w₁⟩
  · rw [(first w w₁).2 _ h]
    simp only
    split
    · rw [Run.outcome_bind, Run.outcome_bind,
        outcome_handOver run secondary "lookup" "responds_to" context name e w₁]
      rcases (handOver run secondary "responds_to" context name e).outcome w₁ with ⟨f | _, w₂⟩
      · simp
      · exact second w₂ w'
    · simp
  · rw [(first w w₁).2 _ h]
    simp
  · rw [(first w w₁).1 h]
    simp
  · simp

/-- What a strategy **fetches** of a context, which may be the object that tells that there is
nothing. -/
def fetch (run : Runner) : Strategy → Value → String → Run (Option Value)
  | dynamic r, context, name => dynamicFetch run r context name
  | static r, context, name => staticFetch run r context name
  | fallback p s, context, name =>
    withFallback run s "lookup" context name (p.fetch run context name) (s.fetch run context name)

/-- A fallback gives on what its strategies give, each **changed** in the same way. -/
theorem outcome_map_withFallback {α β : Type} (f : α → β) (run : Runner) (secondary : Strategy)
    (operation : String) (context : Value) (name : String) {first second : Run α}
    {first' second' : Run β} (same : ∀ w, first'.outcome w = (f <$> first : Run β).outcome w)
    (same' : ∀ w, second'.outcome w = (f <$> second : Run β).outcome w) (w : World) :
    (withFallback run secondary operation context name first' second').outcome w =
      (f <$> withFallback run secondary operation context name first second : Run β).outcome w := by
  rw [Run.outcome_map, outcome_withFallback, outcome_withFallback, same, Run.outcome_map]
  rcases first.outcome w with ⟨(e | _) | a, w₁⟩
  · by_cases refused : e.kind.isAny Kind.refusals
    · simp only [refused, ↓reduceIte, Run.outcome_bind]
      rcases (handOver run secondary operation context name e).outcome w₁ with ⟨_ | _, w₂⟩
      · rfl
      · simp only
        rw [same', Run.outcome_map]
    · simp only [refused, Bool.false_eq_true, ↓reduceIte]
  · rfl
  · rfl

/-- A context gives **what is fetched** of it, unless that tells that there is nothing. -/
theorem lookup_eq_fetch (run : Runner) (s : Strategy) (context : Value) (name : String)
    (w : World) :
    (s.lookup run context name).outcome w =
      ((·.bind Value.known?) <$> s.fetch run context name : Run (Option Value)).outcome w := by
  induction s generalizing w with
  | dynamic restricted =>
    exact congrArg (·.outcome w) (dynamicLookup_eq run restricted context name)
  | static restricted => exact congrArg (·.outcome w) (staticLookup_eq run restricted context name)
  | fallback primary secondary ihp ihs =>
    exact outcome_map_withFallback _ run secondary "lookup" context name ihp ihs w

/-- What a context gives is **never** what tells that there is nothing. -/
theorem known_of_lookup {run : Runner} {s : Strategy} {context : Value} {name : String} {m : Value}
    {w w₁ : World} (h : (s.lookup run context name).outcome w = (.ok (some m), w₁)) :
    m.known? = some m := by
  rw [lookup_eq_fetch, Run.outcome_map] at h
  rcases fetched : (s.fetch run context name).outcome w with ⟨f | found, w₂⟩ <;> rw [fetched] at h
  · cases h
  · obtain ⟨v, -, known⟩ := Option.bind_eq_some_iff.1 (Except.ok.inj (congrArg Prod.fst h))
    obtain ⟨rfl, -⟩ := Value.known?_eq_some.1 known
    exact known

/-- For every strategy, what is fetched of a context agrees with whether it answers. -/
theorem agrees_fetch (run : Runner) (s : Strategy) (context : Value) (name : String) :
    Agrees (s.respondsTo run context name) (s.fetch run context name) := by
  induction s with
  | dynamic restricted => exact agrees_dynamic run restricted context name
  | static restricted => exact agrees_static run restricted context name
  | fallback primary secondary ihp ihs => exact ihp.withFallback ihs

/-- For every strategy, what a context gives agrees with whether it answers. -/
theorem agrees (run : Runner) (s : Strategy) (context : Value) (name : String) :
    Agrees (s.respondsTo run context name) (s.lookup run context name) := by
  intro w w'
  rw [lookup_eq_fetch]
  exact (agrees_fetch run s context name).known w w'

/-! ### Withdrawing -/

/-- A context **withdraws** a name: it answers when it is asked, and has nothing to give when it is
to give instead, in the same world. -/
def Withdraws (run : Runner) (s : Strategy) (context : Value) (name : String) (w : World) : Prop :=
  ∃ w₁ w₂, (s.respondsTo run context name).outcome w = (.ok true, w₁) ∧
    (s.lookup run context name).outcome w = (.ok none, w₂)

/-- A context is **hollow** under a name: what is fetched tells that there is nothing. -/
def Hollow (run : Runner) (s : Strategy) (context : Value) (name : String) (w : World) : Prop :=
  ∃ w₁, (s.fetch run context name).outcome w = (.ok (some .missing), w₁)

/-- A context that answers by the dynamic strategy either **shows** the name and fetches it by one
access, or does not hold it and what its hooks gave when it was asked is fetched. -/
theorem dynamic_answers {run : Runner} {restricted : Bool} {context : Value} {name : String}
    {w w₁ : World}
    (h : (respondsTo run (dynamic restricted) context name).outcome w = (.ok true, w₁)) :
    ((standing run restricted context name).outcome w = (.ok .shown, w₁) ∧
        (dynamicFetch run restricted context name).outcome w =
          (some <$> Attribute.get run context name : Run (Option Value)).outcome w₁) ∨
      ∃ m, (dynamicFetch run restricted context name).outcome w = (.ok (some m), w₁) := by
  rw [respondsTo, dynamicRespondsTo_eq, Run.outcome_bind_ok_iff] at h
  obtain ⟨found, w₀, hs, h⟩ := h
  rw [dynamicFetch, Run.outcome_bind_of_ok hs]
  cases found with
  | unheld =>
      obtain ⟨m, hm, given⟩ := Run.outcome_map_ok_iff.1 h
      obtain ⟨m, rfl⟩ := Option.isSome_iff_exists.1 given
      exact Or.inr ⟨m, hm⟩
  | hidden => cases h
  | shown =>
      cases h
      exact Or.inl ⟨hs, rfl⟩

/-- A context that gives nothing fetched nothing, or is **hollow**. -/
theorem fetch_of_lookup_none {run : Runner} {s : Strategy} {context : Value} {name : String}
    {w w₁ : World} (h : (s.lookup run context name).outcome w = (.ok none, w₁)) :
    (s.fetch run context name).outcome w = (.ok none, w₁) ∨
      (s.fetch run context name).outcome w = (.ok (some .missing), w₁) := by
  rw [lookup_eq_fetch] at h
  obtain ⟨m, fetched, unknown⟩ := Run.outcome_map_ok_iff.1 h
  rcases m with _ | m
  · exact .inl fetched
  · obtain rfl : m = .missing := Value.known?_eq_none.1 unknown
    exact .inr fetched

/-- A hollow context gives nothing. -/
theorem lookup_of_fetch_missing {run : Runner} {s : Strategy} {context : Value} {name : String}
    {w w₁ : World} (h : (s.fetch run context name).outcome w = (.ok (some .missing), w₁)) :
    (s.lookup run context name).outcome w = (.ok none, w₁) := by
  rw [lookup_eq_fetch, Run.outcome_map, h]
  rfl

/-- By the dynamic strategy, of a context that answers **something is fetched**. -/
theorem dynamicFetch_ne_none {run : Runner} {restricted : Bool} {context : Value} {name : String}
    {w w₁ w₂ : World}
    (asked : (respondsTo run (dynamic restricted) context name).outcome w = (.ok true, w₁)) :
    (dynamicFetch run restricted context name).outcome w ≠ (.ok none, w₂) := by
  intro h
  rcases dynamic_answers asked with ⟨-, given⟩ | ⟨m, given⟩
  · obtain ⟨_, _, hm⟩ := Run.outcome_map_ok_iff.1 (given.symm.trans h)
    cases hm
  · cases given.symm.trans h

/-- By the static strategy, of a context that answers something is fetched: the entry that was seen
is settled. -/
theorem staticFetch_ne_none {run : Runner} {restricted : Bool} {context : Value} {name : String}
    {w w₁ w₂ : World}
    (asked : (respondsTo run (static restricted) context name).outcome w = (.ok true, w₁)) :
    (staticFetch run restricted context name).outcome w ≠ (.ok none, w₂) := by
  intro h
  obtain ⟨entry, found, seen⟩ := Run.outcome_map_ok_iff.1 asked
  rw [staticFetch, Run.outcome_bind_of_ok found] at h
  cases entry with
  | none => cases seen
  | some entry =>
      obtain ⟨_, _, h⟩ := Run.outcome_map_ok_iff.1 h
      cases h

/-- A context of which something was fetched **answers**, unless asking it fails. -/
theorem answers_of_fetch {run : Runner} {s : Strategy} {context : Value} {name : String}
    {m : Value} {w w₁ : World} (h : (s.fetch run context name).outcome w = (.ok (some m), w₁)) :
    ∃ w₂, (s.respondsTo run context name).outcome w = (.ok true, w₂) := by
  rcases asked : (s.respondsTo run context name).outcome w with ⟨f | _ | _, w₂⟩
  · cases h.symm.trans (((agrees_fetch run s context name) w w₂).2 f asked)
  · cases h.symm.trans (((agrees_fetch run s context name) w w₂).1 asked)
  · exact ⟨w₂, rfl⟩

/-- By the dynamic strategy a name is withdrawn **exactly if** the context is hollow. -/
theorem withdraws_dynamic_iff {run : Runner} {restricted : Bool} {context : Value} {name : String}
    {w : World} :
    Withdraws run (dynamic restricted) context name w ↔
      Hollow run (dynamic restricted) context name w := by
  constructor
  · rintro ⟨w₁, w₂, asked, given⟩
    exact ⟨w₂, (fetch_of_lookup_none given).resolve_left (dynamicFetch_ne_none asked)⟩
  · rintro ⟨w₂, fetched⟩
    obtain ⟨w₁, asked⟩ := answers_of_fetch fetched
    exact ⟨w₁, w₂, asked, lookup_of_fetch_missing fetched⟩

/-- By the static strategy a name is withdrawn exactly if the context is hollow. -/
theorem withdraws_static_iff {run : Runner} {restricted : Bool} {context : Value} {name : String}
    {w : World} :
    Withdraws run (static restricted) context name w ↔
      Hollow run (static restricted) context name w := by
  constructor
  · rintro ⟨w₁, w₂, asked, given⟩
    exact ⟨w₂, (fetch_of_lookup_none given).resolve_left (staticFetch_ne_none asked)⟩
  · rintro ⟨w₂, fetched⟩
    obtain ⟨w₁, asked⟩ := answers_of_fetch fetched
    exact ⟨w₁, w₂, asked, lookup_of_fetch_missing fetched⟩

/-- A name **vanishes** from a context: the tables show it, access to it is refused, the context is
given over for that, and then the tables no longer show the name. -/
def Vanishes (run : Runner) (restricted restricted' : Bool) (context : Value) (name : String)
    (w : World) : Prop :=
  ∃ e w₁ w₂ w₃ w₄, (standing run restricted context name).outcome w = (.ok .shown, w₁) ∧
    (Attribute.get run context name).outcome w₁ = (.error (.raised e), w₂) ∧
    e.kind.isAny Kind.refusals = true ∧
    (handOver run (static restricted') "lookup" context name e).outcome w₂ = (.ok (), w₃) ∧
    (staticFound? run restricted' context name).outcome w₃ = (.ok none, w₄)

/-- A fallback of which nothing is fetched though it answers was **answered by its first strategy**:
had asking been refused, fetching would have been refused alike, and both would have come to the
static strategy, by which something is fetched. -/
theorem answers_of_fetch_none {run : Runner} {restricted restricted' : Bool} {context : Value}
    {name : String} {w w₁ w₂ : World}
    (asked : (respondsTo run (fallback (dynamic restricted) (static restricted')) context
      name).outcome w = (.ok true, w₁))
    (fetched : (fetch run (fallback (dynamic restricted) (static restricted')) context
      name).outcome w = (.ok none, w₂)) :
    (respondsTo run (dynamic restricted) context name).outcome w = (.ok true, w₁) := by
  rw [respondsTo, outcome_withFallback] at asked
  rw [fetch, outcome_withFallback] at fetched
  rcases first : (respondsTo run (dynamic restricted) context name).outcome w
    with ⟨(e | _) | answer, w₀⟩ <;> rw [first] at asked
  · rw [(agrees_fetch run (dynamic restricted) context name w w₀).2 _ first] at fetched
    simp only at asked fetched
    split at asked
    · rename_i refused
      rw [if_pos refused] at fetched
      obtain ⟨_, w₃, handed, asked⟩ := Run.outcome_bind_ok_iff.1 asked
      rw [outcome_handOver run _ "responds_to" "lookup"] at handed
      rw [Run.outcome_bind_of_ok handed] at fetched
      exact absurd fetched (staticFetch_ne_none asked)
    · cases asked
  · cases asked
  · exact asked

section Fallback

variable {run : Runner} {restricted restricted' : Bool} {context : Value} {name : String}
  {w w₁ w₄ : World}

/-- By a fallback a name that is answered **vanishes** if it is then not found. -/
theorem vanishes_of_fetch_none
    (asked : (respondsTo run (fallback (dynamic restricted) (static restricted')) context
      name).outcome w = (.ok true, w₁))
    (fetched : (fetch run (fallback (dynamic restricted) (static restricted')) context
      name).outcome w = (.ok none, w₄)) :
    Vanishes run restricted restricted' context name w := by
  have answered := answers_of_fetch_none asked fetched
  rw [fetch, outcome_withFallback, fetch] at fetched
  rcases dynamic_answers answered with ⟨shown, hgiven⟩ | ⟨m, hgiven⟩ <;> rw [hgiven] at fetched
  · rw [Run.outcome_map] at fetched
    rcases failed : (Attribute.get run context name).outcome w₁ with ⟨(e | _) | m, w₂⟩ <;>
      rw [failed] at fetched
    · simp only at fetched
      split at fetched
      · rename_i refused
        obtain ⟨_, w₃, handed, fetched⟩ := Run.outcome_bind_ok_iff.1 fetched
        refine ⟨e, w₁, w₂, w₃, w₄, shown, failed, refused, handed, ?_⟩
        obtain ⟨found, w₅, seen, settled⟩ := Run.outcome_bind_ok_iff.1 fetched
        rcases found with _ | entry
        · cases settled
          exact seen
        · obtain ⟨_, _, settled⟩ := Run.outcome_map_ok_iff.1 settled
          cases settled
      · cases fetched
    · cases fetched
    · cases fetched
  · cases fetched

/-- A name that vanishes **is withdrawn**. -/
theorem withdraws_of_vanishes (h : Vanishes run restricted restricted' context name w) :
    Withdraws run (fallback (dynamic restricted) (static restricted')) context name w := by
  obtain ⟨e, w₁, w₂, w₃, w₄, shown, failed, refused, handed, unseen⟩ := h
  have asked : (respondsTo run (fallback (dynamic restricted) (static restricted')) context
      name).outcome w = (.ok true, w₁) := by
    rw [respondsTo, outcome_withFallback, respondsTo, respondsTo_of_shown shown]
  refine ⟨w₁, w₄, asked, ?_⟩
  have first : (dynamicFetch run restricted context name).outcome w = (.error (.raised e), w₂) := by
    rw [fetch_of_shown shown]
    exact Run.outcome_map_error_iff.2 failed
  have fetched : (fetch run (fallback (dynamic restricted) (static restricted')) context
      name).outcome w = (.ok none, w₄) := by
    rw [fetch, outcome_withFallback, fetch, first]
    simp only [refused, ↓reduceIte]
    rw [Run.outcome_bind_of_ok handed, fetch, staticFetch, Run.outcome_bind_of_ok unseen]
    rfl
  rw [lookup_eq_fetch, Run.outcome_map, fetched]
  rfl

/-- By a fallback a name is withdrawn **exactly if** it vanishes or the context is hollow. -/
theorem withdraws_fallback_iff :
    Withdraws run (fallback (dynamic restricted) (static restricted')) context name w ↔
      Vanishes run restricted restricted' context name w ∨
        Hollow run (fallback (dynamic restricted) (static restricted')) context name w := by
  constructor
  · rintro ⟨w₁, w₄, asked, given⟩
    exact (fetch_of_lookup_none given).imp (vanishes_of_fetch_none asked) fun fetched =>
      ⟨w₄, fetched⟩
  · rintro (vanishes | ⟨w₂, fetched⟩)
    · exact withdraws_of_vanishes vanishes
    · obtain ⟨w₁, asked⟩ := answers_of_fetch fetched
      exact ⟨w₁, w₂, asked, lookup_of_fetch_missing fetched⟩

end Fallback

end Strategy

end OrderedScope
