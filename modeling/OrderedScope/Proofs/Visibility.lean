import OrderedScope.Proofs.Agreement

/-!
# Public and Private Resolution

The private variant sees what the public one sees, and more: names with a leading underscore and
members that are marked. So it finds a context wherever the public one does. But it stops at the
**first** context that answers it, and a context with a marked member answers it alone. Where such a
context stands before the one that the public variant resolves, the private variant resolves that
context; otherwise both resolve the same one.

Whether a member is marked is read from the member itself, which can run its hooks. Only the public
variant does so, and what the hooks change is changed for it alone.

## Main results

* `Lookup.standing_cases`: how a name that the public variant does not refuse stands with a context,
  for both variants.
* `Resolver.reaches_privately`: what the public variant picks, the private one picks as well, unless
  it picks a context before it that holds the name marked.
* `Resolver.private_extends_public`: what follows for the context and for its member.
-/

namespace OrderedScope

namespace Lookup

open Attribute

variable {run : Runner} {context : Value} {name : String} {w w₁ w₂ : World}

/-! ### Marked members -/

/-- A context **holds** something under a name, and not as an empty slot. The second world is the
one after both was looked up. -/
def Holds (run : Runner) (context : Value) (name : String) (w : World) (raw : Value)
    (w₂ : World) : Prop :=
  ∃ w₁, (held? run context name).outcome w = (.ok (some raw), w₁) ∧
    (isEmptySlot run raw context).outcome w₁ = (.ok false, w₂)

/-- A context holds a **marked** member under a name. -/
def HoldsMarked (run : Runner) (context : Value) (name : String) (w : World) : Prop :=
  ∃ raw w₁ w₂, Holds run context name w raw w₁ ∧
    (isMarked run raw).outcome w₁ = (.ok true, w₂)

/-- Reading the mark of what a context holds under a name **leaves the world** as it is. -/
def MarkIsQuiet (run : Runner) (context : Value) (name : String) (w : World) : Prop :=
  ∀ raw w₁ b w₂, Holds run context name w raw w₁ →
    (isMarked run raw).outcome w₁ = (.ok b, w₂) → w₂ = w₁

/-- A name with a leading underscore is refused. -/
theorem standing_of_restricted (h : isRestrictedName name = true) :
    (standing run false context name).outcome w = (.ok .hidden, w) := by
  rw [standing, Strategy.refuses, h]
  rfl

/-- What is held is **shown** to the private variant. -/
theorem Holds.standing {raw : Value} (h : Holds run context name w raw w₁) :
    (standing run true context name).outcome w = (.ok .shown, w₁) := by
  obtain ⟨w₀, hheld, hempty⟩ := h
  simp only [Lookup.standing, Strategy.refuses, Bool.not_true, Bool.false_and, Bool.false_eq_true,
    ↓reduceIte]
  rw [Run.outcome_bind_of_ok hheld, Run.outcome_bind_of_ok hempty]
  rfl

/-- A name that is not refused **stands alike** with a context for both variants, except that a
member which it holds is shown to the private one before its mark is read. -/
theorem standing_cases {s : Standing} (unrestricted : isRestrictedName name = false)
    (h : (standing run false context name).outcome w = (.ok s, w₂)) :
    (standing run true context name).outcome w = (.ok s, w₂) ∨
      ∃ raw w₁ b, Holds run context name w raw w₁ ∧
        (isMarked run raw).outcome w₁ = (.ok b, w₂) ∧ s = (if b then .hidden else .shown) := by
  simp only [standing, Strategy.refuses, unrestricted, Bool.not_false, Bool.not_true,
    Bool.and_false, Bool.false_eq_true, ↓reduceIte] at h ⊢
  obtain ⟨found, w₀, hheld, h⟩ := Run.outcome_bind_ok_iff.1 h
  rw [Run.outcome_bind_of_ok hheld]
  cases found with
  | none =>
      cases h
      exact Or.inl rfl
  | some raw =>
      simp only at h ⊢
      obtain ⟨empty, w₁, hempty, h⟩ := Run.outcome_bind_ok_iff.1 h
      rw [Run.outcome_bind_of_ok hempty]
      cases empty with
      | true =>
          cases h
          exact Or.inl rfl
      | false =>
          obtain ⟨b, w₃, hmark, h⟩ := Run.outcome_bind_ok_iff.1 h
          cases h
          exact Or.inr ⟨raw, w₁, b, ⟨w₀, hheld, hempty⟩, hmark, rfl⟩

end Lookup

namespace Resolver

open Lookup

variable {run : Runner} {r : Resolver} {name : String} {w w₁ w₂ : World} {i : Nat} {g : Group}
  {context : Value}

/-! ### One context for both variants -/

/-- The resolver as one of the **public** variant. -/
def publicly (r : Resolver) : Resolver := { r with variant := .publicOne }

/-- The resolver as one of the **private** variant. -/
def privately (r : Resolver) : Resolver := { r with variant := .privateOne }

/-- The private variant asks first by the dynamic strategy, and goes no further if that comes to an
end. -/
theorem asking_privately {s : Standing} {b : Bool}
    (hs : (standing run true context name).outcome w = (.ok s, w₁))
    (h : (answerOf run context name s).outcome w₁ = (.ok b, w₂)) :
    (r.privately.asking run name context).outcome w =
      (.ok (if b then some () else none), w₂) := by
  have first : ((Strategy.dynamic true).respondsTo run context name).outcome w = (.ok b, w₂) := by
    rw [Strategy.respondsTo, dynamicRespondsTo_eq, Run.outcome_bind_of_ok hs]
    exact h
  have whole : (r.privately.variant.strategy.respondsTo run context name).outcome w =
      (.ok b, w₂) := Run.outcome_recover_ok first
  rw [outcome_asking, whole]

/-- The private variant fetches first by the dynamic strategy. -/
theorem fetching_privately {s : Standing} {m : Option Value}
    (hs : (standing run true context name).outcome w = (.ok s, w₁))
    (h : (fetchedOf run context name s).outcome w₁ = (.ok m, w₂)) :
    (r.privately.fetching run name context).outcome w = (.ok (m.bind Value.known?), w₂) := by
  have first : ((Strategy.dynamic true).lookup run context name).outcome w =
      (.ok (m.bind Value.known?), w₂) := by
    rw [Strategy.lookup, dynamicLookup_eq, Run.outcome_map, dynamicFetch,
      Run.outcome_bind_of_ok hs, h]
  exact Run.outcome_recover_ok first

/-- The public variant asks by **one look** at the standing. -/
theorem asking_publicly {a : Option Unit}
    (h : (r.publicly.asking run name context).outcome w = (.ok a, w₂)) :
    ∃ s b w₁, (standing run false context name).outcome w = (.ok s, w₁) ∧
      (answerOf run context name s).outcome w₁ = (.ok b, w₂) ∧
      a = if b then some () else none := by
  have whole := outcome_asking run r.publicly name context w
  rw [h] at whole
  rcases hb : (r.publicly.variant.strategy.respondsTo run context name).outcome w
    with ⟨f | b, w'⟩
  · rw [hb] at whole
    cases whole
  · rw [hb] at whole
    cases whole
    have first : (dynamicRespondsTo run false context name).outcome w = (.ok b, w₂) := hb
    rw [dynamicRespondsTo_eq] at first
    obtain ⟨s, w₁, hs, hanswer⟩ := Run.outcome_bind_ok_iff.1 first
    exact ⟨s, b, w₁, hs, hanswer, rfl⟩

/-- A context that holds a name **answers** the private variant. -/
theorem asking_privately_of_holds {raw : Value} (h : Holds run context name w raw w₁) :
    (r.privately.asking run name context).outcome w = (.ok (some ()), w₁) :=
  asking_privately h.standing rfl

/-- A context that does not answer the public variant does not answer the private one, **unless** it
holds the name marked. -/
theorem silent_or_marked (unrestricted : isRestrictedName name = false) (context : Value)
    (w w₂ : World) (h : (r.publicly.asking run name context).outcome w = (.ok none, w₂)) :
    (r.privately.asking run name context).outcome w = (.ok none, w₂) ∨
      HoldsMarked run context name w := by
  obtain ⟨s, b, w₁, hs, hanswer, ha⟩ := asking_publicly h
  cases b with
  | true => cases ha
  | false =>
      rcases standing_cases unrestricted hs with hs' | ⟨raw, w₃, mark, hholds, hmark, rfl⟩
      · exact Or.inl (asking_privately hs' hanswer)
      · cases mark with
        | true => exact Or.inr ⟨raw, w₃, w₁, hholds, hmark⟩
        | false => cases hanswer

/-- A context that answers the public variant answers the private one, and in the same world if
reading its mark is quiet. -/
theorem answers_privately (unrestricted : isRestrictedName name = false)
    (h : (r.publicly.asking run name context).outcome w = (.ok (some ()), w₂)) :
    ∃ w₁, (r.privately.asking run name context).outcome w = (.ok (some ()), w₁) ∧
      (MarkIsQuiet run context name w → w₁ = w₂) := by
  obtain ⟨s, b, w₁, hs, hanswer, ha⟩ := asking_publicly h
  cases b with
  | false => cases ha
  | true =>
      rcases standing_cases unrestricted hs with hs' | ⟨raw, w₃, mark, hholds, hmark, rfl⟩
      · exact ⟨w₂, asking_privately hs' hanswer, fun _ => rfl⟩
      · cases mark with
        | true => cases hanswer
        | false =>
            cases hanswer
            exact ⟨w₃, asking_privately_of_holds hholds,
              fun quiet => (quiet raw w₃ false w₂ hholds hmark).symm⟩

/-- What a context gives to the public variant it gives to the private one, if reading its mark is
**quiet**. -/
theorem gives_privately {m : Value} (unrestricted : isRestrictedName name = false)
    (quiet : MarkIsQuiet run context name w)
    (h : (r.publicly.fetching run name context).outcome w = (.ok (some m), w₂)) :
    (r.privately.fetching run name context).outcome w = (.ok (some m), w₂) := by
  have first : (dynamicLookup run false context name).outcome w = (.ok (some m), w₂) := h
  rw [dynamicLookup_eq] at first
  obtain ⟨m', fetched, known⟩ := Run.outcome_map_ok_iff.1 first
  obtain ⟨s, w₁, hs, hgiven⟩ := Run.outcome_bind_ok_iff.1 fetched
  rw [← known]
  rcases standing_cases unrestricted hs with hs' | ⟨raw, w₃, mark, hholds, hmark, rfl⟩
  · exact fetching_privately hs' hgiven
  · cases mark with
    | true =>
        cases hgiven
        cases known
    | false =>
        obtain rfl := quiet raw w₃ false w₁ hholds hmark
        exact fetching_privately hholds.standing hgiven

/-! ### The scans of both variants -/

/-- The public variant resolves no name with a leading underscore. -/
theorem unrestricted_of_answer
    (h : (r.publicly.asking run name context).outcome w = (.ok (some ()), w₂)) :
    isRestrictedName name = false := by
  obtain ⟨s, b, w₁, hs, hanswer, ha⟩ := asking_publicly h
  by_cases restricted : isRestrictedName name = true
  · rw [standing_of_restricted restricted] at hs
    cases hs
    cases hanswer
    cases ha
  · exact Bool.eq_false_iff.2 restricted

/-- A position that the public variant reaches is reached by the private one in the same world,
unless a context before it holds the name marked. -/
theorem reaches_privately (unrestricted : isRestrictedName name = false)
    (h : r.publicly.Reaches (r.publicly.asking run name) w i g context w₁) :
    r.privately.Reaches (r.privately.asking run name) w i g context w₁ ∨
      ∃ j < i, ∃ g' c w₂, r.publicly.Reaches (r.publicly.asking run name) w j g' c w₂ ∧
        r.privately.Reaches (r.privately.asking run name) w j g' c w₂ ∧
        HoldsMarked run c name w₂ :=
  Reaches.part (r := r.publicly) (s := r.privately) rfl (silent_or_marked unrestricted) h

/-- A position that the private variant reaches has **no marked member** before it. -/
theorem not_marked_before {j : Nat} {g' : Group} {c : Value}
    (unrestricted : isRestrictedName name = false)
    (h : r.privately.Reaches (r.privately.asking run name) w i g context w₁) (hj : j < i)
    (h' : r.publicly.Reaches (r.publicly.asking run name) w j g' c w₂) :
    ¬ HoldsMarked run c name w₂ := by
  -- A marked member answers the private variant, which passed the context.
  have passed {k : Nat} {g' : Group} {c : Value} {w₂ : World} (hk : k < i)
      (h' : r.privately.Reaches (r.privately.asking run name) w k g' c w₂) :
      ¬ HoldsMarked run c name w₂ := by
    rintro ⟨raw, w₃, w₄, hholds, -⟩
    obtain ⟨_, _, _, w₅, hbefore, silent⟩ := h.before hk
    obtain ⟨-, rfl, rfl⟩ := hbefore.unique h'
    cases silent.symm.trans (asking_privately_of_holds hholds)
  rcases reaches_privately unrestricted h' with h' | ⟨k, hk, g'', c', w₃, -, h', hmarked⟩
  · exact passed hj h'
  · exact absurd hmarked (passed (Nat.lt_trans hk hj) h')

/-- A member that the public variant gives is the one that the private variant gives, if both reach
the context in one world, it is not hollow, and reading its mark is quiet. -/
theorem member_privately {m : Value} {w' : World}
    (hr : r.publicly.Reaches (r.publicly.asking run name) w i g context w₁)
    (hr' : r.privately.Reaches (r.privately.asking run name) w i g context w₁)
    (hask : (r.publicly.asking run name context).outcome w₁ = (.ok (some ()), w₂))
    (quiet : MarkIsQuiet run context name w₁)
    (full : ¬ (Strategy.dynamic false).Hollow run context name w₁)
    (h : (r.publicly.member run name).outcome w = (.ok m, w')) :
    (r.privately.member run name).outcome w = (.ok m, w') := by
  have reached := hr.imp fetching_of_silent
  rcases hfetch : (r.publicly.fetching run name context).outcome w₁ with ⟨f | _ | m', w₃⟩
  · cases (member_of_fails reached hfetch).symm.trans h
  · exact absurd (Strategy.withdraws_dynamic_iff.1 ⟨w₂, w₃, asking_some_iff.1 hask, hfetch⟩) full
  · have given := gives_privately (r := r) (unrestricted_of_answer hask) quiet hfetch
    rw [member_of_picks ⟨w₁, reached, hfetch⟩] at h
    rw [member_of_picks ⟨w₁, hr'.imp fetching_of_silent, given⟩]
    exact h

/-- The private variant resolves what the public one resolves, **or more**: where the public variant
resolves a context, the private one picks a context at its position or before it.

* No context that is reached before that position holds the name marked.
* If the position is an earlier one, the context there holds the name marked.
* Otherwise it is the same context. If reading the mark of what it holds is quiet, it is resolved to
  the same end, and unless what is fetched of it tells that there is nothing, a member that is given
  under the public variant is given under the private one. -/
theorem private_extends_public (run : Runner) (r : Resolver) (name : String) (w w' : World)
    (v : Value) (h : (r.publicly.resolve run name).outcome w = (.ok v, w')) :
    ∃ i g w₁, r.publicly.Reaches (r.publicly.asking run name) w i g v w₁ ∧
      (∃ w₂, (r.publicly.asking run name v).outcome w₁ = (.ok (some ()), w₂)) ∧
      ∃ j ≤ i, ∃ g' c w₃, r.publicly.Reaches (r.publicly.asking run name) w j g' c w₃ ∧
        r.privately.Reaches (r.privately.asking run name) w j g' c w₃ ∧
        (∃ w₄, (r.privately.asking run name c).outcome w₃ = (.ok (some ()), w₄)) ∧
        (∀ k < j, ∀ g c w₄, r.publicly.Reaches (r.publicly.asking run name) w k g c w₄ →
          ¬ HoldsMarked run c name w₄) ∧
        (j < i → HoldsMarked run c name w₃) ∧
        (j = i → c = v ∧ (MarkIsQuiet run v name w₁ →
          (r.privately.resolve run name).outcome w = (.ok v, w') ∧
          (¬ (Strategy.dynamic false).Hollow run v name w₁ → ∀ m w₄,
            (r.publicly.member run name).outcome w = (.ok m, w₄) →
            (r.privately.member run name).outcome w = (.ok m, w₄)))) := by
  obtain ⟨i, g, w₂, w₁, hr, hask⟩ := picks_of_resolve h
  have unrestricted := unrestricted_of_answer hask
  refine ⟨i, g, w₁, hr, ⟨w₂, hask⟩, ?_⟩
  rcases reaches_privately unrestricted hr with hr' | ⟨j, hji, g', c, w₃, hj, hj', hmarked⟩
  · obtain ⟨w₄, hask', quiet⟩ := answers_privately (r := r) unrestricted hask
    refine ⟨i, Nat.le_refl i, g, v, w₁, hr, hr', ⟨w₄, hask'⟩,
      fun k hk _ _ _ => not_marked_before unrestricted hr' hk,
      fun hlt => absurd hlt (Nat.lt_irrefl i), fun _ => ⟨rfl, fun hq => ⟨?_, ?_⟩⟩⟩
    · obtain rfl := quiet hq
      rw [resolve_of_picks ⟨w₁, hr, hask⟩] at h
      rw [resolve_of_picks ⟨w₁, hr', hask'⟩]
      exact h
    · exact fun full m w₅ => member_privately hr hr' hask hq full
  · obtain ⟨raw, w₄, w₅, hholds, hmark⟩ := hmarked
    exact ⟨j, Nat.le_of_lt hji, g', c, w₃, hj, hj', ⟨w₄, asking_privately_of_holds hholds⟩,
      fun k hk _ _ _ => not_marked_before unrestricted hj' hk,
      fun _ => ⟨raw, w₄, w₅, hholds, hmark⟩, fun he => absurd he (Nat.ne_of_lt hji)⟩

/-! ### Where the variants part -/

/-- A world with a class `A` that holds `x` **marked**, an object `b` that holds it open, a class
`C` that holds an object under `x` whose hook puts 5 in its place when its mark is read, and an
object `e` that holds the object that tells that there is nothing. -/
def withMarks : World :=
  { World.empty with
    classes := #[plainClass 0 "A" [("x", .fn 0)], plainClass 1 "B" [],
      plainClass 2 "D" [("__getattr__", .fn 1)], plainClass 3 "C" [("x", .object 2)]]
    objects := #[plainObject "a" 0 [], plainObject "b" 1 [("x", .int 1)], plainObject "d" 2 [],
      plainObject "c" 3 [], plainObject "e" 1 [("x", .missing)]]
    functions := #[⟨"A.x", some worldHome, .body "A.x" .echo, [], [(restrictedMark, .bool true)]⟩,
      plainFunction "D.__getattr__"
        (.script [.perform (.setAttr (.cls "C") "x" (.int 5)), .raise .attr "unmarked"]),
      plainFunction "closure" (.script [])] }

/-- A resolver over some of the objects of that world. -/
def overMarks (inner : List Value) : Resolver :=
  ⟨.publicOne, .fn 2, .none, .iok, inner, .module World.kernelModule, none⟩

/-- Where nothing is marked, both variants reach the object. -/
theorem private_extends_public_open :
    ∃ i g w₁ j, j ≤ i ∧
      (overMarks [.object 1]).publicly.Reaches
        ((overMarks [.object 1]).publicly.asking (Interpreter.runner 10) "x") withMarks i g
        (.object 1) w₁ ∧
      ∃ g' c w₂ w₃, (overMarks [.object 1]).privately.Reaches
          ((overMarks [.object 1]).privately.asking (Interpreter.runner 10) "x") withMarks j g' c
          w₂ ∧
        ((overMarks [.object 1]).privately.asking (Interpreter.runner 10) "x" c).outcome w₂ =
          (.ok (some ()), w₃) := by
  obtain ⟨i, g, w₁, hr, -, j, hj, g', c, w₂, -, hr', ⟨w₃, hask⟩, -⟩ :=
    private_extends_public (Interpreter.runner 10) (overMarks [.object 1]) "x" withMarks _
      (.object 1) (Run.eq_of_gave (by decide +kernel))
  exact ⟨i, g, w₁, j, hj, hr, g', c, w₂, w₃, hr', hask⟩

/-- The private variant need not resolve the context that the public one resolves: an earlier one
can hold the name marked. And where both resolve one context they need not give one member: reading
the mark can **change** what the context holds, and behind a context that tells that there is
nothing the private variant finds what is marked. -/
theorem variants_part :
    ((∃ w', ((overMarks [.object 0, .object 1]).publicly.resolve
          (Interpreter.runner 10) "x").outcome withMarks = (.ok (.object 1), w')) ∧
        ∃ w', ((overMarks [.object 0, .object 1]).privately.resolve
          (Interpreter.runner 10) "x").outcome withMarks = (.ok (.object 0), w')) ∧
      ((∃ w', ((overMarks [.object 3]).publicly.member (Interpreter.runner 10) "x").outcome
          withMarks = (.ok (.int 5), w')) ∧
        ∃ w', ((overMarks [.object 3]).privately.member (Interpreter.runner 10) "x").outcome
          withMarks = (.ok (.object 2), w')) ∧
      (∀ r ∈ [(overMarks [.object 4, .object 0, .object 1]).publicly,
          (overMarks [.object 4, .object 0, .object 1]).privately],
        ∃ w', (r.resolve (Interpreter.runner 10) "x").outcome withMarks = (.ok (.object 4), w')) ∧
      (∃ w', ((overMarks [.object 4, .object 0, .object 1]).publicly.member
          (Interpreter.runner 10) "x").outcome withMarks = (.ok (.int 1), w')) ∧
        ∃ m w', ((overMarks [.object 4, .object 0, .object 1]).privately.member
          (Interpreter.runner 10) "x").outcome withMarks = (.ok m, w') ∧ m ≠ .int 1 := by
  refine ⟨⟨⟨_, Run.eq_of_gave (by decide +kernel)⟩, ⟨_, Run.eq_of_gave (by decide +kernel)⟩⟩,
    ⟨⟨_, Run.eq_of_gave (by decide +kernel)⟩, ⟨_, Run.eq_of_gave (by decide +kernel)⟩⟩, ?_,
    ⟨_, Run.eq_of_gave (by decide +kernel)⟩, ?_⟩
  · simp only [List.forall_mem_cons, List.not_mem_nil, false_imp_iff, implies_true, and_true]
    exact ⟨⟨_, Run.eq_of_gave (by decide +kernel)⟩, ⟨_, Run.eq_of_gave (by decide +kernel)⟩⟩
  · obtain ⟨m, given⟩ := Run.eq_of_toOption_isSome (o :=
      ((overMarks [.object 4, .object 0, .object 1]).privately.member
        (Interpreter.runner 10) "x").outcome withMarks) (by decide +kernel)
    have other : Run.gave (.int 1) (((overMarks [.object 4, .object 0, .object 1]).privately.member
        (Interpreter.runner 10) "x").outcome withMarks) = false := by decide +kernel
    refine ⟨m, _, given, ?_⟩
    rintro rfl
    rw [given] at other
    cases other

end Resolver

end OrderedScope
